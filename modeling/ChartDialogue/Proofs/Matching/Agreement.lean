import ChartDialogue.Proofs.Matching.Segmentation
import ChartDialogue.Proofs.Text.CaseFold

/-!
Tests and captures of the same pattern. A test compares words in lower case, a capture compares
them by what they fold to. Of texts whose characters are all steady, words that are the same for a
test are the same for a capture, so a cut for one is a cut for the other. When there is a cut, the
names of the captures are those of all stars.
-/
namespace ChartDialogue.Matching

open Text

variable {R S : Text → Text → Prop} {tokens : List Token} {ws : List Text} {cut : Cut}

/-- By induction over the tokens: each takes what it took. -/
theorem forall₂_takes_mono (h : List.Forall₂ (Token.Takes R) tokens cut)
    (hsame : ∀ l w, .literal l ∈ tokens → w ∈ cut.flatten → R l w → S l w) :
    List.Forall₂ (Token.Takes S) tokens cut := by
  induction h with
  | nil => exact .nil
  | @cons token segment tokens cut htakes _ ih =>
    have hlater : List.Forall₂ (Token.Takes S) tokens cut := by
      refine ih fun l w hl hw => hsame l w (List.mem_cons_of_mem token hl) ?_
      exact List.mem_append_right segment hw
    refine .cons ?_ hlater
    cases token with
    | literal l =>
      obtain ⟨w, rfl, hw⟩ := htakes
      exact ⟨w, rfl, hsame l w List.mem_cons_self List.mem_cons_self hw⟩
    | star => exact htakes
    | gap => exact htakes

/-- A cut stays one if more words are the same. -/
theorem IsCut.mono (h : IsCut R tokens ws cut)
    (hsame : ∀ l w, .literal l ∈ tokens → w ∈ ws → R l w → S l w) : IsCut S tokens ws cut :=
  ⟨h.covers, forall₂_takes_mono h.takes (h.covers ▸ hsame)⟩

def starNames (n : Nat) : List Text :=
  starKey :: (List.range n).map fun i => starName (i + 1)

theorem map_fst_nameCaptures {texts : List Text} (h : texts ≠ []) :
    (nameCaptures texts).map Prod.fst = starNames texts.length := by
  obtain ⟨first, rest, rfl⟩ := List.exists_cons_of_ne_nil h
  rw [nameCaptures, starNames, List.map_cons]
  congr 1
  refine List.ext_getElem (by simp) fun i hi hi' => ?_
  simp only [List.getElem_map, List.getElem_mapIdx, List.getElem_range]

namespace Folding

theorem isSome_greedyCut?_apply_iff (folding : Folding) (input pattern : Text) :
    (greedyCut? folding.same (Matching.tokens (folding.apply (normalize pattern)))
      (words (folding.apply (normalize input)))).isSome = true ↔
    ∃ cut, IsCut folding.SameWord (Matching.tokens (normalize pattern)) (words (normalize input))
      cut := by
  have hsame : (fun l w => folding.same (folding.apply l) (folding.apply w) = true) =
      folding.SameWord := by
    funext l w
    exact propext (folding.same_apply_iff l w)
  rw [folding.tokens_apply, folding.words_apply, greedyCut?_map, Option.isSome_map,
    isSome_greedyCut?_iff, hsame]

/-- A cut by one folding is a cut by another if the words of the two texts that are the same by the
one are the same by the other. -/
theorem isCut_of_sameWord {f g : Folding} {input pattern : Text}
    (hsame : ∀ l w, (∀ c ∈ l, c ∈ pattern) → (∀ c ∈ w, c ∈ input) → f.SameWord l w → g.SameWord l w)
    (h : IsCut f.SameWord (Matching.tokens (normalize pattern)) (words (normalize input)) cut) :
    IsCut g.SameWord (Matching.tokens (normalize pattern)) (words (normalize input)) cut := by
  refine h.mono fun l w hl hw => ?_
  have hl' := mem_words_of_literal_mem_tokens hl
  rw [words_normalize] at hl' hw
  exact hsame l w (mem_of_mem_words hl') (mem_of_mem_words hw)

/-- A cut for a test is a cut for a capture if no character of the two texts is unsteady. -/
theorem isCut_preserve_of_steady {input pattern : Text}
    (hinput : ∀ c ∈ input, c.toNat ∉ unsteady) (hpattern : ∀ c ∈ pattern, c.toNat ∉ unsteady)
    (h : IsCut insensitive.SameWord (Matching.tokens (normalize pattern)) (words (normalize input))
      cut) :
    IsCut preserve.SameWord (Matching.tokens (normalize pattern)) (words (normalize input)) cut :=
  isCut_of_sameWord (f := insensitive) (fun _ _ hl hw => caseFold_eq_of_lowercase_eq
    (fun c hc => hpattern c (hl c hc)) fun c hc => hinput c (hw c hc)) h

end Folding

namespace Matcher

variable {requests : List Request} {input pattern : Text}

theorem hasWildcard_of_count (h : (Matching.tokens (normalize pattern)).count .star ≠ 0) :
    hasWildcard pattern = true := by
  have hstar : Token.star ∈ Matching.tokens (normalize pattern) :=
    List.count_pos_iff.mp (Nat.pos_of_ne_zero h)
  unfold Matching.tokens at hstar
  rw [words_normalize] at hstar
  exact List.any_eq_true.mpr ⟨.star, hstar, rfl⟩

/-- With wildcards a test asks for a cut. -/
theorem test_iff_exists_isCut {folding : Folding} (hwild : hasWildcard pattern = true)
    (hcompiles :
      (Program.compile? ⟨folding.apply (normalize pattern), .test folding⟩).isSome = true) :
    ((after requests).test folding input pattern).1 = true ↔
      ∃ cut, IsCut folding.SameWord (Matching.tokens (normalize pattern))
        (words (normalize input)) cut := by
  rw [test_eq_isSome hwild hcompiles, folding.isSome_greedyCut?_apply_iff]

/-- Without a cut nothing is captured. -/
theorem capture_eq_nil
    (hcompiles : (Program.compile? ⟨normalize pattern, .capture⟩).isSome = true)
    (h : ¬∃ cut, IsCut Folding.preserve.SameWord (Matching.tokens (normalize pattern))
      (words (normalize input)) cut) : ((after requests).capture input pattern).1 = [] := by
  rw [← isSome_greedyCut?_preserve_iff, Option.not_isSome_iff_eq_none] at h
  rw [capture_eq_nameCaptures hcompiles, h]
  rfl

/-- With a cut every star is captured. -/
theorem map_fst_capture (hstar : (Matching.tokens (normalize pattern)).count .star ≠ 0)
    (hcompiles : (Program.compile? ⟨normalize pattern, .capture⟩).isSome = true)
    (h : ∃ cut, IsCut Folding.preserve.SameWord (Matching.tokens (normalize pattern))
      (words (normalize input)) cut) :
    ((after requests).capture input pattern).1.map Prod.fst =
      starNames ((Matching.tokens (normalize pattern)).count .star) := by
  obtain ⟨cut, hcut⟩ := Option.isSome_iff_exists.mp (isSome_greedyCut?_preserve_iff.mpr h)
  have hlength : (captured (Matching.tokens (normalize pattern)) cut).length =
      (Matching.tokens (normalize pattern)).count .star := by
    rw [captured_eq_starSegments, List.length_map,
      length_starSegments (isCut_of_greedyCut? hcut).takes]
  have hne : captured (Matching.tokens (normalize pattern)) cut ≠ [] := by
    intro hnil
    rw [hnil, List.length_nil] at hlength
    exact hstar hlength.symm
  rw [capture_eq_nameCaptures hcompiles, hcut, Option.map_some, Option.getD_some,
    map_fst_nameCaptures hne, hlength]

/-- After a test that succeeds, a capture finds a cut as well, if no character of the input and of
the pattern is unsteady. -/
theorem exists_isCut_of_test (hstar : (Matching.tokens (normalize pattern)).count .star ≠ 0)
    (hcompiles : (Program.compile? ⟨Folding.insensitive.apply (normalize pattern),
      .test .insensitive⟩).isSome = true)
    (htest : ((after requests).test .insensitive input pattern).1 = true)
    (hinput : ∀ c ∈ input, c.toNat ∉ unsteady) (hpattern : ∀ c ∈ pattern, c.toNat ∉ unsteady) :
    ∃ cut, IsCut Folding.preserve.SameWord (Matching.tokens (normalize pattern))
      (words (normalize input)) cut := by
  rw [test_iff_exists_isCut (hasWildcard_of_count hstar) hcompiles] at htest
  obtain ⟨cut, hcut⟩ := htest
  exact ⟨cut, Folding.isCut_preserve_of_steady hinput hpattern hcut⟩

end Matcher
end ChartDialogue.Matching
