import ChartDialogue.Proofs.Text.Reading

/-!
Expressions that a backtracking search reads at the beginning of a text. A part of an expression is
the list of its ways, in the order in which the search tries them: a repetition goes on as long as
it can before it stops, and of two alternatives the first comes first. Where nothing that follows
can begin inside a repetition, only its longest way counts, and a reader that does not backtrack
finds it.
-/
namespace ChartDialogue.Text

/-- The ways to read a part of an expression: what each of them reads, and what it leaves. -/
def Ways (α : Type) : Type :=
  Text → List (α × Text)

namespace Ways

variable {α β : Type}

instance : Monad Ways where
  pure a := fun s => [(a, s)]
  bind w f := fun s => (w s).flatMap fun r => f r.1 r.2

instance : LawfulMonad Ways :=
  LawfulMonad.mk' Ways
    (fun w => funext fun s => List.flatMap_singleton' (w s))
    (fun a f => funext fun s => List.flatMap_singleton (fun r : _ × Text => f r.1 r.2) (a, s))
    (fun _ _ _ => funext fun _ => List.flatMap_assoc)

def literal (lead : Text) : Ways Unit := fun s =>
  ((expect? lead s).map fun r => ((), r)).toList

def one (p : Char → Bool) : Ways Char
  | [] => []
  | c :: s => if p c then [(c, s)] else []

/-- Any number of characters of a class, as many as possible first. -/
def many (p : Char → Bool) : Ways Text
  | [] => [([], [])]
  | c :: s =>
    (if p c then (many p s).map fun r => (c :: r.1, r.2) else []) ++ [([], c :: s)]

def plus (p : Char → Bool) : Ways Text := do
  let c ← one p
  let rest ← many p
  return c :: rest

def either (a b : Ways α) : Ways α := fun s =>
  a s ++ b s

/-- The one way of a reader that does not backtrack. -/
def once (read? : Text → Option (α × Text)) : Ways α := fun s =>
  (read? s).toList

/-- What the first way reads that leaves nothing. -/
def whole? (w : Ways α) (s : Text) : Option α :=
  ((w s).find? fun r => r.2.isEmpty).map Prod.fst

section Parts

variable {p : Char → Bool} {lead s : Text} {c d : Char}

theorem bind_apply (w : Ways α) (f : α → Ways β) (s : Text) :
    (w >>= f) s = (w s).flatMap fun r => f r.1 r.2 := rfl

theorem bind_pure_apply (w : Ways α) (f : α → β) (s : Text) :
    (w >>= fun a => pure (f a)) s = (w s).map fun r => (f r.1, r.2) :=
  List.map_eq_flatMap.symm

theorem either_bind (a b : Ways α) (f : α → Ways β) :
    either a b >>= f = either (a >>= f) (b >>= f) :=
  funext fun _ => List.flatMap_append

theorem literal_bind_of_ne (hc : c ≠ d) (f : Unit → Ways β) (s : Text) :
    (literal (d :: lead) >>= f) (c :: s) = [] := by
  rw [bind_apply, literal, expect?, if_neg hc.symm]
  rfl

/-- If what follows cannot begin with a character of the class, a repetition of it has one way. -/
theorem many_bind {f : Text → Ways β} (h : ∀ t c s, p c = true → f t (c :: s) = []) (s : Text) :
    (many p >>= f) s = f (s.takeWhile p) (s.dropWhile p) := by
  induction s generalizing f with
  | nil => exact List.append_nil _
  | cons c s ih =>
    rw [bind_apply, many, List.flatMap_append, List.flatMap_singleton]
    by_cases hc : p c = true
    · have hlonger := ih (f := fun t => f (c :: t)) fun t => h (c :: t)
      rw [if_pos hc, List.flatMap_map, h [] c s hc, List.append_nil, List.takeWhile_cons_of_pos hc,
        List.dropWhile_cons_of_pos hc]
      exact hlonger
    · rw [if_neg hc, List.takeWhile_cons_of_neg hc, List.dropWhile_cons_of_neg hc]
      rfl

/-- A repetition of a class ends before the first character that is not in it. -/
theorem many_literal (hd : p d = false) (f : Text → Ways β) (s : Text) :
    (many p >>= fun t => literal (d :: lead) >>= fun _ => f t) s =
      (literal (d :: lead) >>= fun _ => f (s.takeWhile p)) (s.dropWhile p) := by
  refine many_bind (fun t c r hc => literal_bind_of_ne ?_ _ r) s
  rintro rfl
  rw [hd] at hc
  exact Bool.false_ne_true hc

/-- What stands before a character is read up to its first occurrence. -/
theorem many_until (stop : Char) (f : Text → Ways β) :
    (many (· ≠ stop) >>= fun t => literal [stop] >>= fun _ => f t) =
      once (upTo? stop) >>= f := by
  funext s
  rw [many_literal (by simp)]
  induction s generalizing f with
  | nil => rfl
  | cons c s ih =>
    by_cases hc : c = stop
    · subst hc
      simp [bind_apply, once, literal, expect?, upTo?]
    · have hrest := ih fun t => f (c :: t)
      rw [List.takeWhile_cons_of_pos (by simpa using hc),
        List.dropWhile_cons_of_pos (by simpa using hc), hrest, bind_apply, bind_apply, once, once,
        upTo?, if_neg hc]
      cases upTo? stop s <;> rfl

end Parts

/-- If a way leaves nothing only where the first way leaves nothing, the first way decides. -/
theorem whole?_eq_some_iff {w : Ways α} {s : Text} {a : α}
    (h : ∀ r ∈ w s, r.2 = [] → ∀ first ∈ (w s).head?, first.2 = []) :
    whole? w s = some a ↔ (w s).head? = some (a, []) := by
  unfold whole?
  cases hways : w s with
  | nil => simp
  | cons first later =>
    rw [hways] at h
    obtain ⟨b, rest⟩ := first
    cases rest with
    | nil => simp
    | cons c rest =>
      have hlater : later.find? (fun r => r.2.isEmpty) = none := by
        refine List.find?_eq_none.mpr fun r hr hempty => ?_
        have hfirst := h r (List.mem_cons_of_mem _ hr) (List.isEmpty_iff.mp hempty) _ rfl
        exact absurd hfirst (List.cons_ne_nil c rest)
      rw [List.find?_cons_of_neg (by simp), hlater]
      simp

end Ways

end ChartDialogue.Text
