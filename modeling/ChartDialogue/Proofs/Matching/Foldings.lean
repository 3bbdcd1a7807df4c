import ChartDialogue.Proofs.Matching.Agreement
import ChartDialogue.Proofs.Text.LowercaseAgain

/-!
The two foldings of a test. Without wildcards both compare words in lower case, so they give the same
answer. With wildcards one compares lower-case forms and the other what the words fold to. Their
answers differ only where the input or the pattern has one of the few characters whose lower-case
form and folded form are at odds.
-/
namespace ChartDialogue.Matching

open Text

variable {input pattern : Text} {cut : Cut}

/-- A search for words lower-cases them, so it does not matter whether that was done before. -/
theorem containsWords_apply (folding : Folding) (input pattern : Text) :
    containsWords (folding.apply (normalize input)) (folding.apply (normalize pattern)) =
      containsWords input pattern := by
  have hwords : ∀ s, (words (folding.apply (normalize s))).map lowercase =
      (words s).map lowercase := by
    intro s
    rw [folding.words_apply, words_normalize, List.map_map]
    cases folding with
    | insensitive => exact List.map_congr_left fun w _ => lowercase_lowercase w
    | preserve => rfl
  unfold containsWords
  rw [hwords, hwords]

/-- The words of the pattern are found where a block of the words of the input has their forms. -/
theorem containsWords_iff :
    containsWords input pattern = true ↔
      ∃ before block after, words input = before ++ block ++ after ∧
        block.map lowercase = (words pattern).map lowercase := by
  rw [containsWords, occursIn_iff_infix]
  constructor
  · intro h
    obtain ⟨front, back, hsplit⟩ := h
    obtain ⟨start, after, hinput, hstart, -⟩ := List.map_eq_append_iff.mp hsplit.symm
    obtain ⟨before, block, rfl, -, hblock⟩ := List.map_eq_append_iff.mp hstart
    exact ⟨before, block, after, hinput, hblock⟩
  · intro h
    obtain ⟨before, block, after, hinput, hblock⟩ := h
    refine ⟨before.map lowercase, after.map lowercase, ?_⟩
    rw [hinput, ← hblock, List.map_append, List.map_append]

theorem Folding.isEmpty_apply (folding : Folding) (s : Text) :
    (folding.apply s).isEmpty = s.isEmpty := by
  cases folding with
  | insensitive => exact isEmpty_lowercase s
  | preserve => rfl

/-- A cut by what words fold to is a cut by their lower-case forms if every character of the two
texts is stable and none is a capital sigma. -/
theorem Folding.isCut_insensitive_of_stable (hinput : ∀ c ∈ input, c ≠ 'Σ' ∧ c.toNat ∉ unstable)
    (hpattern : ∀ c ∈ pattern, c ≠ 'Σ' ∧ c.toNat ∉ unstable)
    (h : IsCut preserve.SameWord (Matching.tokens (normalize pattern)) (words (normalize input))
      cut) :
    IsCut insensitive.SameWord (Matching.tokens (normalize pattern)) (words (normalize input))
      cut :=
  isCut_of_sameWord (f := preserve) (fun _ _ hl hw => lowercase_eq_of_caseFold_eq
    (fun c hc => hpattern c (hl c hc)) fun c hc => hinput c (hw c hc)) h

namespace Matcher

/-- Without wildcards the words of the pattern are looked for among those of the input. -/
theorem test_of_not_hasWildcard (m : Matcher) (folding : Folding) (input : Text)
    (hwild : hasWildcard pattern = false) :
    (m.test folding input pattern).1 =
      if (normalize pattern).isEmpty then (normalize input).isEmpty
      else containsWords input pattern := by
  rw [test_fst, folding.hasWildcard_apply, hwild, folding.isEmpty_apply, folding.isEmpty_apply,
    containsWords_apply]
  simp only [Bool.false_eq_true, if_false]

/-- Without wildcards an input matches a pattern with words if some of its words, one after another,
have the lower-case forms of the words of the pattern, and it matches a pattern without words if it has
none itself. Neither the folding nor what the matcher has cached makes a difference. -/
theorem test_iff_block (m : Matcher) (folding : Folding) (input : Text)
    (hstar : ['*'] ∉ words pattern) (hgap : ['_'] ∉ words pattern) :
    ((m.test folding input pattern).1 = true ↔
      (words pattern = [] ∧ words input = []) ∨
        (words pattern ≠ [] ∧ ∃ before block after, words input = before ++ block ++ after ∧
          block.map lowercase = (words pattern).map lowercase)) ∧
    (m.test .insensitive input pattern).1 = (m.test .preserve input pattern).1 := by
  have hwild : hasWildcard pattern = false := by
    rw [Bool.eq_false_iff]
    intro hwild
    rcases (hasWildcard_iff pattern).mp hwild with hmem | hmem
    · exact hstar hmem
    · exact hgap hmem
  constructor
  · rw [test_of_not_hasWildcard m folding input hwild]
    by_cases hwords : words pattern = []
    · rw [if_pos (isEmpty_normalize_iff.mpr hwords), isEmpty_normalize_iff]
      constructor
      · intro hinput
        exact Or.inl ⟨hwords, hinput⟩
      · rintro (⟨-, hinput⟩ | ⟨hne, -⟩)
        · exact hinput
        · exact absurd hwords hne
    · rw [if_neg (mt isEmpty_normalize_iff.mp hwords), containsWords_iff]
      constructor
      · intro hblock
        exact Or.inr ⟨hwords, hblock⟩
      · rintro (⟨hnil, -⟩ | ⟨-, hblock⟩)
        · exact absurd hnil hwords
        · exact hblock
  · rw [test_of_not_hasWildcard m _ input hwild, test_of_not_hasWildcard m _ input hwild]

theorem test_iff_block_hello :
    ['*'] ∉ words "Hello  there".toList ∧ ['_'] ∉ words "Hello  there".toList ∧
    (empty.test .preserve "well hello\tTHERE friend".toList "Hello  there".toList).1 = true := by
  have hstar : ['*'] ∉ words "Hello  there".toList := by decide
  have hgap : ['_'] ∉ words "Hello  there".toList := by decide
  have hblock := (test_iff_block empty .preserve "well hello\tTHERE friend".toList hstar hgap).1
  have hfound : words "Hello  there".toList ≠ [] ∧ ∃ before block after,
      words "well hello\tTHERE friend".toList = before ++ block ++ after ∧
        block.map lowercase = (words "Hello  there".toList).map lowercase :=
    ⟨by decide, ["well".toList], ["hello".toList, "THERE".toList], ["friend".toList], by decide,
      by decide +kernel⟩
  exact ⟨hstar, hgap, hblock.mpr (Or.inr hfound)⟩

/-- The two foldings give the same answer without wildcards. With wildcards, if only lower-case forms
match then there is an unsteady character, and if only folded words match then there is an unstable
character or a capital sigma, whose lower-case form depends on where it stands. -/
theorem test_foldings (requests : List Request) (input pattern : Text)
    (hcompiles : hasWildcard pattern = true → ∀ folding : Folding,
      (Program.compile? ⟨folding.apply (normalize pattern), .test folding⟩).isSome = true) :
    (hasWildcard pattern = false →
      ((after requests).test .insensitive input pattern).1 =
        ((after requests).test .preserve input pattern).1) ∧
    (((after requests).test .insensitive input pattern).1 = true →
      ((after requests).test .preserve input pattern).1 = false →
        ∃ c, (c ∈ input ∨ c ∈ pattern) ∧ c.toNat ∈ unsteady) ∧
    (((after requests).test .insensitive input pattern).1 = false →
      ((after requests).test .preserve input pattern).1 = true →
        ∃ c, (c ∈ input ∨ c ∈ pattern) ∧ (c = 'Σ' ∨ c.toNat ∈ unstable)) := by
  have hsame : hasWildcard pattern = false → ((after requests).test .insensitive input pattern).1 =
      ((after requests).test .preserve input pattern).1 := by
    intro hwild
    rw [test_of_not_hasWildcard _ _ _ hwild, test_of_not_hasWildcard _ _ _ hwild]
  refine ⟨hsame, ?_, ?_⟩
  · intro hinsensitive hpreserve
    cases hwild : hasWildcard pattern with
    | false => simp [hsame hwild, hpreserve] at hinsensitive
    | true =>
      rw [← Bool.not_eq_true, test_iff_exists_isCut hwild (hcompiles hwild .preserve)] at hpreserve
      rw [test_iff_exists_isCut hwild (hcompiles hwild .insensitive)] at hinsensitive
      obtain ⟨cut, hcut⟩ := hinsensitive
      by_contra hsteady
      refine hpreserve ⟨cut, Folding.isCut_preserve_of_steady ?_ ?_ hcut⟩
      · exact fun c hc hodd => hsteady ⟨c, Or.inl hc, hodd⟩
      · exact fun c hc hodd => hsteady ⟨c, Or.inr hc, hodd⟩
  · intro hinsensitive hpreserve
    cases hwild : hasWildcard pattern with
    | false => simp [hsame hwild, hpreserve] at hinsensitive
    | true =>
      rw [test_iff_exists_isCut hwild (hcompiles hwild .preserve)] at hpreserve
      rw [← Bool.not_eq_true, test_iff_exists_isCut hwild (hcompiles hwild .insensitive)]
        at hinsensitive
      obtain ⟨cut, hcut⟩ := hpreserve
      by_contra hstable
      have hclear : ∀ c, c ∈ input ∨ c ∈ pattern → c ≠ 'Σ' ∧ c.toNat ∉ unstable :=
        fun c hc => not_or.mp fun hodd => hstable ⟨c, hc, hodd⟩
      exact hinsensitive ⟨cut, Folding.isCut_insensitive_of_stable
        (fun c hc => hclear c (Or.inl hc)) (fun c hc => hclear c (Or.inr hc)) hcut⟩

theorem test_foldings_name :
    (hasWildcard "i am *".toList = true → ∀ folding : Folding, (Program.compile?
      ⟨folding.apply (normalize "i am *".toList), .test folding⟩).isSome = true) ∧
    ((after []).test .insensitive "I AM Bob".toList "i am *".toList).1 =
      ((after []).test .preserve "I AM Bob".toList "i am *".toList).1 := by
  have hcompiles : hasWildcard "i am *".toList = true → ∀ folding : Folding, (Program.compile?
      ⟨folding.apply (normalize "i am *".toList), .test folding⟩).isSome = true := by
    intro _ folding
    cases folding <;> decide +kernel
  have hall : ("I AM Bob".toList ++ "i am *".toList).all (fun c =>
      decide (c.toNat ∉ unsteady ∧ ¬(c = 'Σ' ∨ c.toNat ∈ unstable))) = true := by
    decide +kernel
  have hclear : ∀ c, c ∈ "I AM Bob".toList ∨ c ∈ "i am *".toList →
      c.toNat ∉ unsteady ∧ ¬(c = 'Σ' ∨ c.toNat ∈ unstable) := fun c hc =>
    of_decide_eq_true (List.all_eq_true.mp hall c (List.mem_append.mpr hc))
  obtain ⟨-, hlower, hfolded⟩ := test_foldings [] "I AM Bob".toList "i am *".toList hcompiles
  refine ⟨hcompiles, ?_⟩
  cases hinsensitive : ((after []).test .insensitive "I AM Bob".toList "i am *".toList).1 <;>
    cases hpreserve : ((after []).test .preserve "I AM Bob".toList "i am *".toList).1
  case false.false | true.true => rfl
  case true.false =>
    obtain ⟨c, hc, hodd⟩ := hlower hinsensitive hpreserve
    exact absurd hodd (hclear c hc).1
  case false.true =>
    obtain ⟨c, hc, hodd⟩ := hfolded hinsensitive hpreserve
    exact absurd hodd (hclear c hc).2

/-- The long s folds to s but is its own lower-case form. -/
theorem test_long_s :
    (∀ folding : Folding, (Program.compile?
      ⟨folding.apply (normalize "s *".toList), .test folding⟩).isSome = true) ∧
    ((after []).test .insensitive "ſ x".toList "s *".toList).1 = false ∧
    ((after []).test .preserve "ſ x".toList "s *".toList).1 = true := by
  have hcompiles : ∀ folding : Folding, (Program.compile?
      ⟨folding.apply (normalize "s *".toList), .test folding⟩).isSome = true := by
    intro folding
    cases folding <;> decide +kernel
  refine ⟨hcompiles, ?_, ?_⟩
  · rw [test_eq_isSome (by decide) (hcompiles .insensitive)]
    decide +kernel
  · rw [test_eq_isSome (by decide) (hcompiles .preserve)]
    decide +kernel

end Matcher
end ChartDialogue.Matching
