import ChartDialogue.Proofs.Matching.Expression
import ChartDialogue.Proofs.Text.Lowercase

/-!
How a backtracking search walks over words with single spaces. What comes after a token of a
pattern never begins inside a word. So of all choices of the search only those count that end the
token where a word ends: a literal takes one word, and a wildcard tries the words from the last
one back to the first.
-/
namespace ChartDialogue.Matching

open Text

/-- Words with a space before each of them. -/
def spaced (ws : List Text) : Text :=
  ws.flatMap (' ' :: ·)

theorem spaced_cons (w : Text) (ws : List Text) : spaced (w :: ws) = ' ' :: (w ++ spaced ws) := rfl

theorem join_cons (w : Text) (ws : List Text) : join [' '] (w :: ws) = w ++ spaced ws := by
  induction ws generalizing w with
  | nil => simp [join, spaced]
  | cons v ws ih =>
    rw [join, ih, spaced_cons, List.append_assoc, List.singleton_append]

theorem head_spaced {ws : List Text} : ∀ c ∈ (spaced ws).head?, c = ' ' := by
  intro c hc
  cases ws with
  | nil => simp [spaced] at hc
  | cons w ws =>
    rw [spaced_cons, List.head?_cons] at hc
    exact (Option.some.inj hc).symm

theorem head_append_of_unbroken {w : Text} (hw : Unbroken w) (rest : Text) :
    ∀ c ∈ (w ++ rest).head?, isBlank c = false := by
  intro c hc
  obtain ⟨d, w, rfl⟩ := List.exists_cons_of_ne_nil hw.1
  rw [List.cons_append, List.head?_cons] at hc
  obtain rfl := Option.some.inj hc
  exact hw.2 d List.mem_cons_self

theorem not_newline_of_not_isBlank {c : Char} (hc : isBlank c = false) :
    decide (c ≠ '\n') = true := by
  refine decide_eq_true ?_
  rintro rfl
  exact absurd hc (by decide)

namespace Folding

theorem same_cons (folding : Folding) (c d : Char) (l w : Text) :
    folding.same (c :: l) (d :: w) = (folding.same [c] [d] && folding.same l w) := by
  cases folding <;> simp [same, caseFold]

theorem same_nil_cons (folding : Folding) (d : Char) (w : Text) :
    folding.same [] (d :: w) = false := by
  cases folding <;> rfl

theorem same_cons_nil (folding : Folding) (c : Char) (l : Text) :
    folding.same (c :: l) [] = false := by
  cases folding <;> rfl

theorem same_nil_nil (folding : Folding) : folding.same [] [] = true := by
  cases folding <;> rfl

theorem space_checked : misses caseFoldRuns ' '.toNat = true := by
  decide +kernel

/-- Only a space folds to a space. -/
theorem foldChar_ne_space {c : Char} (hc : c ≠ ' ') : foldChar c ≠ ' ' := by
  intro h
  unfold foldChar at h
  split at h
  · by_cases hlower : c.toLower = c
    · exact hc (hlower ▸ h)
    · have hcase := isLower_toLower_of_ne hlower
      rw [h] at hcase
      exact absurd hcase (by decide)
  · cases himage : imageIn? caseFoldRuns c with
    | none =>
      rw [himage] at h
      exact hc h
    | some d =>
      rw [himage] at h
      obtain rfl : d = ' ' := h
      exact imageIn?_ne (by decide) space_checked c himage

theorem same_space {folding : Folding} {c : Char} (hc : isBlank c = false) :
    folding.same [c] [' '] = false := by
  have hne : c ≠ ' ' := by
    rintro rfl
    exact absurd hc (by decide)
  cases folding with
  | insensitive => simpa [same] using hne
  | preserve =>
    have hfold := foldChar_ne_space hne
    have hspace : foldChar ' ' = ' ' := by decide
    simpa [same, caseFold, hspace] using hfold

end Folding

/-- What comes next cannot begin inside a word. -/
def StopsInWords (next : Text → Option (List Text)) : Prop :=
  ∀ c s, isBlank c = false → next (c :: s) = none

namespace Expr

variable {next : Text → Option (List Text)} {p : Char → Bool}

/-- A repetition of a class stops at once where no member of the class follows. -/
theorem run_many_one_stop {s : Text} (hs : ∀ c ∈ s.head?, p c = false) :
    (many (one p)).run next s = next s := by
  rw [run_many (advances_one p)]
  cases s with
  | nil => rw [run_one_nil, Option.none_or]
  | cons c s =>
    have hc : p c = false := hs c rfl
    rw [run_one_cons, hc, if_neg Bool.false_ne_true, Option.none_or]

/-- A repetition of a class passes over all its members where `next` cannot begin with one. -/
theorem run_many_one_pass {x rest : Text} (hx : ∀ c ∈ x, p c = true)
    (hnext : ∀ c ∈ x, ∀ s, next (c :: s) = none) :
    (many (one p)).run next (x ++ rest) = (many (one p)).run next rest := by
  induction x with
  | nil => rfl
  | cons c x ih =>
    have hrest := ih (fun d hd => hx d (List.mem_cons_of_mem c hd))
      (fun d hd => hnext d (List.mem_cons_of_mem c hd))
    rw [List.cons_append, run_many (advances_one p), run_one_cons, if_pos (hx c List.mem_cons_self),
      hrest, hnext c List.mem_cons_self, Option.or_none]

theorem run_plus_one_none {s : Text} (hs : ∀ c ∈ s.head?, p c = false) :
    (plus (one p)).run next s = none := by
  rw [plus, run_seq]
  cases s with
  | nil => rfl
  | cons c s =>
    have hc : p c = false := hs c rfl
    rw [run_one_cons, hc, if_neg Bool.false_ne_true]

theorem run_plus_one_pass {x rest : Text} (hne : x ≠ []) (hx : ∀ c ∈ x, p c = true)
    (hnext : ∀ c ∈ x, ∀ s, next (c :: s) = none) :
    (plus (one p)).run next (x ++ rest) = (many (one p)).run next rest := by
  obtain ⟨c, x, rfl⟩ := List.exists_cons_of_ne_nil hne
  rw [plus, run_seq, List.cons_append, run_one_cons, if_pos (hx c List.mem_cons_self)]
  exact run_many_one_pass (fun d hd => hx d (List.mem_cons_of_mem c hd))
    (fun d hd => hnext d (List.mem_cons_of_mem c hd))

/-- The blanks between two words are one space. -/
theorem run_blanks {w : Text} (hw : Unbroken w) (rest : Text) :
    blanks.run next (' ' :: (w ++ rest)) = next (w ++ rest) := by
  rw [blanks, plus, run_seq, run_one_cons, if_pos (by decide)]
  exact run_many_one_stop (head_append_of_unbroken hw rest)

theorem run_blanks_none {s : Text} (hs : ∀ c ∈ s.head?, isBlank c = false) :
    blanks.run next s = none :=
  run_plus_one_none hs

/-- A run of characters that are not blank ends where the word ends. -/
theorem run_solid (hnext : StopsInWords next) {w : Text} (hw : Unbroken w) (ws : List Text) :
    solid.run next (w ++ spaced ws) = next (spaced ws) := by
  have hword : ∀ c ∈ w, (!isBlank c) = true := fun c hc => by rw [hw.2 c hc]; rfl
  rw [solid, run_plus_one_pass hw.1 hword fun c hc s => hnext c s (hw.2 c hc)]
  refine run_many_one_stop fun c hc => ?_
  rw [head_spaced c hc]
  decide

/-- A literal takes the word that is the same. -/
theorem run_word {folding : Folding} (hnext : StopsInWords next) {l w : Text} {ws : List Text}
    (hl : ∀ c ∈ l, isBlank c = false) (hw : ∀ c ∈ w, isBlank c = false) :
    (word folding l).run next (w ++ spaced ws) =
      if folding.same l w then next (spaced ws) else none := by
  induction l generalizing w with
  | nil =>
    rw [word, run_empty]
    cases w with
    | nil => rw [folding.same_nil_nil, if_pos rfl, List.nil_append]
    | cons d w =>
      rw [folding.same_nil_cons, if_neg Bool.false_ne_true, List.cons_append]
      exact hnext d _ (hw d List.mem_cons_self)
  | cons c l ih =>
    have hc := hl c List.mem_cons_self
    rw [word, run_seq]
    cases w with
    | nil =>
      rw [folding.same_cons_nil, if_neg Bool.false_ne_true, List.nil_append]
      cases ws with
      | nil => rfl
      | cons v ws =>
        rw [spaced_cons, run_one_cons, Folding.same_space hc, if_neg Bool.false_ne_true]
    | cons d w =>
      have hrest := ih (fun e he => hl e (List.mem_cons_of_mem c he))
        (fun e he => hw e (List.mem_cons_of_mem d he))
      rw [List.cons_append, run_one_cons, hrest, folding.same_cons c d l w]
      cases folding.same [c] [d] <;> rfl

/-- Hand what follows the words to `next`, from the last of them on. -/
def furthest (next : Text → Option (List Text)) : List Text → Option (List Text)
  | [] => next []
  | w :: ws => (furthest next ws).or (next (spaced (w :: ws)))

/-- A run of characters of a line can only end behind a word. -/
theorem run_many_line (hnext : StopsInWords next) {ws : List Text} (hws : ∀ w ∈ ws, Unbroken w) :
    (many (one (· ≠ '\n'))).run next (spaced ws) = furthest next ws := by
  induction ws with
  | nil => exact run_many_one_stop (by simp [spaced])
  | cons w ws ih =>
    have hw := hws w List.mem_cons_self
    rw [spaced_cons, run_many (advances_one _), run_one_cons, if_pos (by decide),
      run_many_one_pass (fun c hc => not_newline_of_not_isBlank (hw.2 c hc))
        (fun c hc s => hnext c s (hw.2 c hc)),
      ih fun v hv => hws v (List.mem_cons_of_mem w hv)]
    rfl

/-- Characters of a line are tried from the last word on, and end where a word ends. -/
theorem run_line (hnext : StopsInWords next) {w : Text} {ws : List Text} (hw : Unbroken w)
    (hws : ∀ v ∈ ws, Unbroken v) : line.run next (w ++ spaced ws) = furthest next ws := by
  rw [line, run_plus_one_pass hw.1 (fun c hc => not_newline_of_not_isBlank (hw.2 c hc))
    (fun c hc s => hnext c s (hw.2 c hc))]
  exact run_many_line hnext hws

theorem advances_blanks_solid : (seq blanks solid).Advances :=
  advances_seq (advances_seq_many (advances_one _) _) (advances_seq_many (advances_one _) _)

/-- What cannot begin inside a word cannot after some more words either. -/
theorem stopsInWords_many (hnext : StopsInWords next) :
    StopsInWords ((many (seq blanks solid)).run next) := by
  intro c s hc
  have hblanks : (seq blanks solid).run ((many (seq blanks solid)).run next) (c :: s) = none := by
    rw [run_seq]
    refine run_blanks_none fun d hd => ?_
    obtain rfl := Option.some.inj hd
    exact hc
  rw [run_many advances_blanks_solid, hblanks, hnext c s hc, Option.or_none]

/-- A run of words with blanks before them can only end behind a word. -/
theorem run_many_words (hnext : StopsInWords next) {ws : List Text} (hws : ∀ w ∈ ws, Unbroken w) :
    (many (seq blanks solid)).run next (spaced ws) = furthest next ws := by
  induction ws with
  | nil =>
    rw [run_many advances_blanks_solid, run_seq]
    rfl
  | cons w ws ih =>
    have hw := hws w List.mem_cons_self
    rw [run_many advances_blanks_solid, run_seq, spaced_cons, run_blanks hw,
      run_solid (stopsInWords_many hnext) hw, ih fun v hv => hws v (List.mem_cons_of_mem w hv)]
    rfl

/-- Words are tried from the last one on. -/
theorem run_words (hnext : StopsInWords next) {w : Text} {ws : List Text} (hw : Unbroken w)
    (hws : ∀ v ∈ ws, Unbroken v) :
    (seq solid (many (seq blanks solid))).run next (w ++ spaced ws) = furthest next ws := by
  rw [run_seq, run_solid (stopsInWords_many hnext) hw]
  exact run_many_words hnext hws

end Expr
end ChartDialogue.Matching
