import ChartDialogue.Matching.Program
import Mathlib.Data.List.Basic

/-!
Patterns as regular expressions, matched by a backtracking search. An expression is given by the
ways in which it matches a beginning of a text, in the order in which the search tries them: a
repetition goes on as long as it can before it stops. A whole match is the first way that leaves
nothing; it is found by handing what is left to whatever comes next.
-/
namespace ChartDialogue.Matching

open Text

inductive Expr where
  | empty
  /-- One character of a class. -/
  | one (p : Char → Bool)
  | seq (a b : Expr)
  /-- Any number of times, as many as possible first. -/
  | many (a : Expr)
  /-- A group whose text is kept. -/
  | group (a : Expr)

/-- One way to match a beginning of a text: the texts of the groups, and what is left over. -/
structure Way where
  groups : List Text
  rest : Text

/-- A repetition of at most `budget` times, each of which takes something. -/
def manyWays (ways : Text → List Way) : (budget : Nat) → Text → List Way
  | 0, s => [⟨[], s⟩]
  | budget + 1, s =>
    ((ways s).filter fun w => w.rest.length < s.length).flatMap (fun w =>
      (manyWays ways budget w.rest).map fun v => ⟨w.groups ++ v.groups, v.rest⟩) ++ [⟨[], s⟩]

namespace Expr

/-- The ways to match a beginning of a text, the first to try first. -/
def ways : Expr → Text → List Way
  | empty, s => [⟨[], s⟩]
  | one _, [] => []
  | one p, c :: s => if p c then [⟨[], s⟩] else []
  | seq a b, s =>
    (a.ways s).flatMap fun w => (b.ways w.rest).map fun v => ⟨w.groups ++ v.groups, v.rest⟩
  | many a, s => manyWays a.ways s.length s
  | group a, s =>
    (a.ways s).map fun w => ⟨s.take (s.length - w.rest.length) :: w.groups, w.rest⟩

/-- The groups of the first way to match the whole text. -/
def wholeMatch? (e : Expr) (s : Text) : Option (List Text) :=
  ((e.ways s).find? fun w => w.rest.isEmpty).map Way.groups

def plus (a : Expr) : Expr :=
  seq a (many a)

/-- The characters of a word, one after another, up to case if it does not count. -/
def word (folding : Folding) : Text → Expr
  | [] => empty
  | c :: s => seq (one fun d => folding.same [c] [d]) (word folding s)

def blanks : Expr :=
  plus (one isBlank)

def solid : Expr :=
  plus (one fun c => !isBlank c)

def line : Expr :=
  plus (one (· ≠ '\n'))

def ofToken : Use → Token → Expr
  | use, .literal l => word use.folding l
  | .test _, _ => seq solid (many (seq blanks solid))
  | .capture, .star => group line
  | .capture, .gap => line

/-- Tokens with blanks between them. -/
def ofTokens (use : Use) : List Token → Expr
  | [] => empty
  | [token] => ofToken use token
  | token :: next :: rest => seq (ofToken use token) (seq blanks (ofTokens use (next :: rest)))

/-- The groups of the first way after which `next` accepts what is left. -/
def run (e : Expr) (next : Text → Option (List Text)) (s : Text) : Option (List Text) :=
  (e.ways s).findSome? fun w => (next w.rest).map (w.groups ++ ·)

def atEnd (s : Text) : Option (List Text) :=
  if s.isEmpty then some [] else none

/-- To match the whole text is to accept its end. -/
theorem wholeMatch?_eq_run (e : Expr) (s : Text) : e.wholeMatch? s = e.run atEnd s := by
  unfold wholeMatch? run
  induction e.ways s with
  | nil => rfl
  | cons w ws ih =>
    rw [List.find?_cons, List.findSome?_cons]
    cases hrest : w.rest.isEmpty with
    | true => simp [atEnd, hrest]
    | false => simpa [atEnd, hrest] using ih

variable {next : Text → Option (List Text)}

theorem run_empty (s : Text) : empty.run next s = next s := by
  unfold run ways
  rw [List.findSome?_cons, List.findSome?_nil]
  cases next s <;> rfl

theorem run_one_nil (p : Char → Bool) : (one p).run next [] = none := rfl

theorem run_one_cons (p : Char → Bool) (c : Char) (s : Text) :
    (one p).run next (c :: s) = if p c then next s else none := by
  unfold run ways
  split
  · rw [List.findSome?_cons, List.findSome?_nil]
    cases next s <;> rfl
  · rfl

theorem findSome?_flatMap {α β γ : Type} (f : β → Option γ) (g : α → List β) (l : List α) :
    (l.flatMap g).findSome? f = l.findSome? fun x => (g x).findSome? f := by
  induction l with
  | nil => rfl
  | cons x l ih =>
    rw [List.flatMap_cons, List.findSome?_append, List.findSome?_cons, ih]
    cases (g x).findSome? f <;> rfl

/-- What comes after a first part is handed the second part to do. -/
theorem findSome?_flatMap_ways (before : List Way) (after : Text → List Way) :
    (before.flatMap fun w => (after w.rest).map fun v =>
        (⟨w.groups ++ v.groups, v.rest⟩ : Way)).findSome?
      (fun w => (next w.rest).map (w.groups ++ ·)) =
    before.findSome? fun w =>
      ((after w.rest).findSome? fun v => (next v.rest).map (v.groups ++ ·)).map (w.groups ++ ·) := by
  rw [findSome?_flatMap]
  congr 1
  funext w
  rw [List.findSome?_map, List.map_findSome?]
  congr 1
  funext v
  simp only [Function.comp_apply, Option.map_map]
  congr 1
  funext gs
  simp only [Function.comp_apply, List.append_assoc]

/-- The second part of a sequence is what has to accept after the first. -/
theorem run_seq (a b : Expr) (s : Text) : (seq a b).run next s = a.run (b.run next) s := by
  unfold run
  rw [ways, findSome?_flatMap_ways]

/-- Every way takes at least one character. -/
def Advances (a : Expr) : Prop :=
  ∀ s, ∀ w ∈ a.ways s, w.rest.length < s.length

theorem advances_one (p : Char → Bool) : (one p).Advances := by
  intro s w hw
  cases s with
  | nil => simp [ways] at hw
  | cons c s =>
    unfold ways at hw
    split at hw
    · obtain rfl := List.mem_singleton.mp hw
      exact Nat.lt_succ_self _
    · simp at hw

theorem rest_le_of_mem_manyWays {f : Text → List Way} {budget : Nat} {s : Text} {w : Way}
    (hw : w ∈ manyWays f budget s) : w.rest.length ≤ s.length := by
  induction budget generalizing s w with
  | zero =>
    obtain rfl := List.mem_singleton.mp hw
    exact Nat.le_refl _
  | succ budget ih =>
    rcases List.mem_append.mp hw with hw | hw
    · obtain ⟨u, hu, hw⟩ := List.mem_flatMap.mp hw
      obtain ⟨v, hv, rfl⟩ := List.mem_map.mp hw
      have hshort := of_decide_eq_true (List.mem_filter.mp hu).2
      have hrest := ih hv
      exact Nat.le_trans hrest (Nat.le_of_lt hshort)
    · obtain rfl := List.mem_singleton.mp hw
      exact Nat.le_refl _

theorem advances_seq_many {a : Expr} (ha : a.Advances) (b : Expr) : (seq a (many b)).Advances := by
  intro s w hw
  unfold ways at hw
  obtain ⟨u, hu, hw⟩ := List.mem_flatMap.mp hw
  obtain ⟨v, hv, rfl⟩ := List.mem_map.mp hw
  unfold ways at hv
  have hrest := rest_le_of_mem_manyWays hv
  exact Nat.lt_of_le_of_lt hrest (ha s u hu)

theorem advances_seq {a b : Expr} (ha : a.Advances) (hb : b.Advances) : (seq a b).Advances := by
  intro s w hw
  unfold ways at hw
  obtain ⟨u, hu, hw⟩ := List.mem_flatMap.mp hw
  obtain ⟨v, hv, rfl⟩ := List.mem_map.mp hw
  exact Nat.lt_trans (hb u.rest v hv) (ha s u hu)

/-- A text has room for no more repetitions than it has characters. -/
theorem manyWays_budget {f : Text → List Way} {m n : Nat} {s : Text} (hm : s.length ≤ m)
    (hn : s.length ≤ n) : manyWays f m s = manyWays f n s := by
  induction m generalizing n s with
  | zero =>
    obtain rfl := List.length_eq_zero_iff.mp (Nat.le_zero.mp hm)
    cases n with
    | zero => rfl
    | succ n => simp [manyWays]
  | succ m ih =>
    cases n with
    | zero =>
      obtain rfl := List.length_eq_zero_iff.mp (Nat.le_zero.mp hn)
      simp [manyWays]
    | succ n =>
      unfold manyWays
      congr 1
      refine List.flatMap_congr fun w hw => ?_
      have hshort := of_decide_eq_true (List.mem_filter.mp hw).2
      rw [ih (n := n) (by omega) (by omega)]

/-- A repetition goes on if it can, and else stops. -/
theorem run_many {a : Expr} (ha : a.Advances) (s : Text) :
    (many a).run next s = (a.run ((many a).run next) s).or (next s) := by
  have hways : (many a).ways s =
      ((a.ways s).flatMap fun w => ((many a).ways w.rest).map fun v =>
        ⟨w.groups ++ v.groups, v.rest⟩) ++ [⟨[], s⟩] := by
    have hfilter : (a.ways s).filter (fun w => w.rest.length < s.length) = a.ways s :=
      List.filter_eq_self.mpr fun w hw => decide_eq_true (ha s w hw)
    rw [ways, manyWays_budget (Nat.le_refl _) (Nat.le_succ _), manyWays, hfilter]
    congr 1
    refine List.flatMap_congr fun w hw => ?_
    rw [ways, manyWays_budget (Nat.le_of_lt (ha s w hw)) (Nat.le_refl _)]
  unfold run
  rw [hways, List.findSome?_append, findSome?_flatMap_ways]
  congr 1
  rw [List.findSome?_cons, List.findSome?_nil]
  cases next s <;> rfl

end Expr
end ChartDialogue.Matching
