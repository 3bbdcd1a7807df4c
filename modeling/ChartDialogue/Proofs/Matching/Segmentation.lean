import ChartDialogue.Proofs.Matching.Cache
import ChartDialogue.Proofs.Matching.WholeMatch
import ChartDialogue.Proofs.Text.Lowercase
import ChartDialogue.Proofs.Text.Reading

/-!
A test against a pattern with wildcards succeeds exactly if the words of the input can be cut into
segments, one for each token of the pattern. A capture names the words of the stars in the greatest
of all cuts. Both are what a search for the pattern's expression finds.
-/
namespace ChartDialogue.Matching

open Text

/-- When a word of an input is the same as a literal of a pattern. -/
def Folding.SameWord : Folding → Text → Text → Prop
  | insensitive, l, w => lowercase l = lowercase w
  | preserve, l, w => caseFold l = caseFold w

/-- A token whose literal has been changed. -/
def Token.mapWord (f : Text → Text) : Token → Token
  | literal l => literal (f l)
  | star => star
  | gap => gap

theorem Token.isWildcard_mapWord (f : Text → Text) (token : Token) :
    (token.mapWord f).isWildcard = token.isWildcard := by
  cases token <;> rfl

theorem Token.ofWord_lowercase (w : Text) :
    ofWord (lowercase w) = (ofWord w).mapWord lowercase := by
  unfold ofWord
  simp only [lowercase_eq_singleton_iff (Or.inl rfl), lowercase_eq_singleton_iff (Or.inr rfl)]
  split_ifs <;> rfl

/-- To change the literals and the words changes the cut alike. -/
theorem greedyCut?_map (same : Text → Text → Bool) (f : Text → Text) (tokens : List Token)
    (ws : List Text) :
    greedyCut? same (tokens.map (Token.mapWord f)) (ws.map f) =
      (greedyCut? (fun l w => same (f l) (f w)) tokens ws).map fun cut =>
        cut.map fun segment => segment.map f := by
  induction ws generalizing tokens with
  | nil => cases tokens <;> rfl
  | cons w ws ih =>
    cases tokens with
    | nil => rfl
    | cons token tokens =>
      have hlater := ih tokens
      have hlonger := ih (token :: tokens)
      rw [List.map_cons] at hlonger
      rw [List.map_cons, List.map_cons, greedyCut?_cons_cons, greedyCut?_cons_cons, hlater, hlonger]
      by_cases hw : token.isWildcard = true
      · have hw' := (token.isWildcard_mapWord f).trans hw
        cases hcut : greedyCut? (fun l w => same (f l) (f w)) (token :: tokens) ws with
        | none =>
          rw [Option.map_none, cutHere_wildcard_none hw, cutHere_wildcard_none hw']
          cases greedyCut? (fun l w => same (f l) (f w)) tokens ws <;> rfl
        | some cut =>
          obtain ⟨segment, rest, -, rfl, -⟩ := isCut_cons_iff.mp (isCut_of_greedyCut? hcut)
          rw [Option.map_some, List.map_cons, cutHere_wildcard_longer hw,
            cutHere_wildcard_longer hw']
          rfl
      · cases token with
        | star => exact absurd rfl hw
        | gap => exact absurd rfl hw
        | literal l =>
          rw [Token.mapWord, cutHere_literal, cutHere_literal]
          split
          · cases greedyCut? (fun l w => same (f l) (f w)) tokens ws <;> rfl
          · rfl

namespace Folding

/-- To lower-case a pattern is to lower-case its literals. -/
theorem tokens_apply (folding : Folding) (pattern : Text) :
    tokens (folding.apply (normalize pattern)) =
      (tokens (normalize pattern)).map (Token.mapWord folding.apply) := by
  unfold tokens
  cases folding with
  | insensitive =>
    rw [apply, words_lowercase_normalize, words_normalize, List.map_map, List.map_map]
    exact List.map_congr_left fun w _ => Token.ofWord_lowercase w
  | preserve =>
    have hid : Token.mapWord (preserve.apply) = id := by
      funext token
      cases token <;> rfl
    rw [hid, List.map_id]
    rfl

theorem words_apply (folding : Folding) (input : Text) :
    words (folding.apply (normalize input)) = (words (normalize input)).map folding.apply := by
  cases folding with
  | insensitive =>
    rw [apply, words_lowercase_normalize, words_normalize]
    rfl
  | preserve => exact (List.map_id _).symm

theorem same_apply_iff (folding : Folding) (l w : Text) :
    folding.same (folding.apply l) (folding.apply w) = true ↔ folding.SameWord l w := by
  cases folding with
  | insensitive => exact beq_iff_eq
  | preserve => exact beq_iff_eq

theorem same_preserve : (fun l w => preserve.same l w = true) = preserve.SameWord := by
  funext l w
  exact propext (preserve.same_apply_iff l w)

theorem hasWildcard_apply (folding : Folding) (pattern : Text) :
    hasWildcard (folding.apply (normalize pattern)) = hasWildcard pattern := by
  unfold hasWildcard
  rw [tokens_apply, List.any_map]
  unfold tokens
  rw [words_normalize]
  congr 1
  funext token
  exact token.isWildcard_mapWord _

theorem apply_normalize (folding : Folding) (input : Text) :
    folding.apply (normalize input) = join [' '] (words (folding.apply (normalize input))) := by
  cases folding with
  | insensitive =>
    rw [apply, words_lowercase_normalize, ← lowercase_join]
    rfl
  | preserve =>
    rw [apply, words_normalize]
    rfl

end Folding

theorem mem_words_of_literal_mem_tokens {pattern l : Text} (h : Token.literal l ∈ tokens pattern) :
    l ∈ words pattern := by
  obtain ⟨w, hw, hl⟩ := List.mem_map.mp h
  unfold Token.ofWord at hl
  split_ifs at hl
  obtain rfl := Token.literal.inj hl
  exact hw

theorem unbroken_of_literal_mem_tokens {pattern l : Text} (h : Token.literal l ∈ tokens pattern) :
    Unbroken l :=
  unbroken_of_mem_words (mem_words_of_literal_mem_tokens h)

/-- A program finds the groups of the first whole match of its expression. -/
theorem wholeMatch?_eq_greedyCut? (use : Use) (pattern input : Text) :
    (Expr.ofTokens use (tokens pattern)).wholeMatch? (use.folding.apply (normalize input)) =
      (greedyCut? use.folding.same (tokens pattern)
        (words (use.folding.apply (normalize input)))).map (use.groups (tokens pattern)) := by
  rw [use.folding.apply_normalize]
  have hliteral : ∀ l, Token.literal l ∈ tokens pattern → Unbroken l :=
    fun l hl => unbroken_of_literal_mem_tokens hl
  have hws : ∀ w ∈ words (use.folding.apply (normalize input)), Unbroken w :=
    fun w hw => unbroken_of_mem_words hw
  rw [Expr.wholeMatch?_ofTokens use hliteral hws, words_join hws]

theorem Program.compile?_eq_some {key : Key} (h : (compile? key).isSome = true) :
    compile? key = some ⟨key.use, Matching.tokens key.pattern⟩ := by
  unfold compile? at h ⊢
  dsimp only at h ⊢
  split_ifs at h ⊢ with hsize
  · rfl
  · exact absurd h Bool.false_ne_true

theorem isSome_greedyCut?_preserve_iff {tokens : List Token} {words : List Text} :
    (greedyCut? Folding.preserve.same tokens words).isSome = true ↔
      ∃ cut, IsCut Folding.preserve.SameWord tokens words cut := by
  rw [isSome_greedyCut?_iff, Folding.same_preserve]

/-- The segments that the stars take, from left to right. -/
def starSegments (tokens : List Token) (cut : Cut) : Cut :=
  ((tokens.zip cut).filter fun taken => taken.1 = .star).map Prod.snd

/-- The captured texts are the segments of the stars, joined by spaces. -/
theorem captured_eq_starSegments (tokens : List Token) (cut : Cut) :
    captured tokens cut = (starSegments tokens cut).map (join [' ']) := by
  induction tokens generalizing cut with
  | nil => rfl
  | cons token tokens ih =>
    cases cut with
    | nil => cases token <;> rfl
    | cons segment cut =>
      have hrest := ih cut
      unfold starSegments at hrest ⊢
      rw [List.zip_cons_cons, List.filter_cons]
      cases token with
      | literal l => exact hrest
      | gap => exact hrest
      | star => exact congrArg (join [' '] segment :: ·) hrest

theorem length_starSegments {R : Text → Text → Prop} {tokens : List Token} {cut : Cut}
    (h : List.Forall₂ (Token.Takes R) tokens cut) :
    (starSegments tokens cut).length = tokens.count .star := by
  unfold starSegments
  rw [List.length_map]
  induction h with
  | nil => rfl
  | @cons token segment tokens cut _ _ ih =>
    rw [List.zip_cons_cons, List.filter_cons, List.count_cons]
    cases token with
    | literal l => exact ih
    | gap => exact ih
    | star => exact congrArg (· + 1) ih

theorem nameCaptures_map (f : List Text → Text) (first : List Text) (rest : Cut) :
    nameCaptures ((first :: rest).map f) =
      (starKey, f first) :: (first :: rest).mapIdx fun i segment => (starName (i + 1), f segment) := by
  rw [List.map_cons, nameCaptures, ← List.map_cons]
  congr 1
  refine List.mapIdx_eq_iff.mpr fun i => ?_
  rw [List.getElem?_mapIdx, List.getElem?_map, Option.map_map]
  rfl

theorem starName_ne_starKey (n : Nat) : starName n ≠ starKey := by
  intro h
  have hdigits := List.append_right_eq_self.mp h
  exact Nat.toDigits_ne_nil hdigits

/-- No name stands for two texts. -/
theorem nodup_nameCaptures (texts : List Text) : ((nameCaptures texts).map Prod.fst).Nodup := by
  cases texts with
  | nil => exact List.nodup_nil
  | cons first rest =>
    rw [nameCaptures, List.map_cons, List.nodup_cons]
    constructor
    · intro h
      obtain ⟨named, hnamed, hname⟩ := List.mem_map.mp h
      obtain ⟨i, hi, rfl⟩ := List.mem_mapIdx.mp hnamed
      exact starName_ne_starKey (i + 1) hname
    · refine List.pairwise_iff_getElem.mpr fun i j hi hj hij heq => ?_
      simp only [List.getElem_map, List.getElem_mapIdx] at heq
      have hsame := append_toDigits_inj.mp heq
      omega

namespace Matcher

variable {requests : List Request}

/-- A test with a compiled program is a search for a cut. -/
theorem test_eq_isSome {folding : Folding} {input pattern : Text}
    (hwild : hasWildcard pattern = true)
    (hcompiles :
      (Program.compile? ⟨folding.apply (normalize pattern), .test folding⟩).isSome = true) :
    ((after requests).test folding input pattern).1 =
      (greedyCut? folding.same (tokens (folding.apply (normalize pattern)))
        (words (folding.apply (normalize input)))).isSome := by
  have hwild' := (folding.hasWildcard_apply pattern).trans hwild
  have hempty : ¬(folding.apply (normalize pattern)).isEmpty = true := by
    intro hempty
    rw [List.isEmpty_iff.mp hempty] at hwild'
    exact absurd hwild' (by decide)
  rw [test_fst, if_neg hempty, if_pos hwild', program_after, Program.compile?_eq_some hcompiles,
    Option.any_some]
  rfl

/-- A capture names what the stars take in the cut that is found. -/
theorem capture_eq_nameCaptures {input pattern : Text}
    (hcompiles : (Program.compile? ⟨normalize pattern, .capture⟩).isSome = true) :
    ((after requests).capture input pattern).1 =
      nameCaptures (((greedyCut? Folding.preserve.same (tokens (normalize pattern))
        (words (normalize input))).map (captured (tokens (normalize pattern)))).getD []) := by
  rw [capture_fst, program_after, Program.compile?_eq_some hcompiles]
  rfl

/-- A test against a pattern with wildcards succeeds exactly if the words of the input can be cut
into one segment for each token: one word that is the same for a literal, one word or more for a
wildcard. The search for the pattern's expression finds a match exactly then. -/
theorem test_iff_isCut (requests : List Request) (folding : Folding) (input pattern : Text)
    (hwild : hasWildcard pattern = true)
    (hcompiles :
      (Program.compile? ⟨folding.apply (normalize pattern), .test folding⟩).isSome = true) :
    (((after requests).test folding input pattern).1 = true ↔
      ∃ cut, IsCut folding.SameWord (tokens (normalize pattern)) (words (normalize input)) cut) ∧
    ((after requests).test folding input pattern).1 =
      ((Expr.ofTokens (.test folding) (tokens (folding.apply (normalize pattern)))).wholeMatch?
        (folding.apply (normalize input))).isSome := by
  rw [test_eq_isSome hwild hcompiles]
  constructor
  · have hsame : (fun l w => folding.same (folding.apply l) (folding.apply w) = true) =
        folding.SameWord := by
      funext l w
      exact propext (folding.same_apply_iff l w)
    rw [folding.tokens_apply, folding.words_apply, greedyCut?_map, Option.isSome_map,
      isSome_greedyCut?_iff, hsame]
  · have hmatch := wholeMatch?_eq_greedyCut? (.test folding) (folding.apply (normalize pattern)) input
    rw [Use.folding] at hmatch
    rw [hmatch, Option.isSome_map]

theorem test_like :
    hasWildcard "LIKE *".toList = true ∧
    (Program.compile? ⟨Folding.insensitive.apply (normalize "LIKE *".toList),
      .test .insensitive⟩).isSome = true ∧
    ∃ cut, IsCut Folding.insensitive.SameWord (tokens (normalize "LIKE *".toList))
      (words (normalize "like cats  and dogs".toList)) cut := by
  have hwild : hasWildcard "LIKE *".toList = true := by decide
  have hcompiles : (Program.compile? ⟨Folding.insensitive.apply (normalize "LIKE *".toList),
      .test .insensitive⟩).isSome = true := by decide +kernel
  have htest := test_iff_isCut [.clear] .insensitive "like cats  and dogs".toList "LIKE *".toList
    hwild hcompiles
  exact ⟨hwild, hcompiles, htest.1.mp (by decide +kernel)⟩

/-- A capture keeps nothing if there is no star or no cut. Otherwise it names the words of the stars
in the greatest cut, and these are the groups that the search for the pattern's expression finds. -/
theorem capture_eq_greatest (requests : List Request) (input pattern : Text)
    (hcompiles : (Program.compile? ⟨normalize pattern, .capture⟩).isSome = true) :
    (((tokens (normalize pattern)).count .star = 0 ∨
        ¬∃ cut, IsCut Folding.preserve.SameWord (tokens (normalize pattern))
          (words (normalize input)) cut) →
      ((after requests).capture input pattern).1 = []) ∧
    ((tokens (normalize pattern)).count .star ≠ 0 →
      (∃ cut, IsCut Folding.preserve.SameWord (tokens (normalize pattern))
          (words (normalize input)) cut) →
      ∃ cut first rest,
        IsGreatestCut Folding.preserve.SameWord (tokens (normalize pattern))
          (words (normalize input)) cut ∧
        starSegments (tokens (normalize pattern)) cut = first :: rest ∧
        rest.length + 1 = (tokens (normalize pattern)).count .star ∧
        ((after requests).capture input pattern).1 =
          (starKey, join [' '] first) ::
            (first :: rest).mapIdx fun i segment => (starName (i + 1), join [' '] segment)) ∧
    (((after requests).capture input pattern).1.map Prod.fst).Nodup ∧
    ((after requests).capture input pattern).1 =
      nameCaptures (((Expr.ofTokens .capture (tokens (normalize pattern))).wholeMatch?
        (normalize input)).getD []) := by
  refine ⟨?_, ?_, ?_, ?_⟩
  · rw [capture_eq_nameCaptures hcompiles]
    rintro (hnone | hnone)
    · cases hcut : greedyCut? Folding.preserve.same (tokens (normalize pattern))
          (words (normalize input)) with
      | none => rfl
      | some cut =>
        have hlength := length_starSegments (isCut_of_greedyCut? hcut).takes
        rw [hnone, List.length_eq_zero_iff] at hlength
        rw [Option.map_some, Option.getD_some, captured_eq_starSegments, hlength]
        rfl
    · rw [← isSome_greedyCut?_preserve_iff, Option.not_isSome_iff_eq_none] at hnone
      rw [hnone]
      rfl
  · intro hstar hcuts
    obtain ⟨cut, hcut⟩ := Option.isSome_iff_exists.mp (isSome_greedyCut?_preserve_iff.mpr hcuts)
    have hlength := length_starSegments (isCut_of_greedyCut? hcut).takes
    have hne : starSegments (tokens (normalize pattern)) cut ≠ [] := by
      intro hnil
      rw [hnil] at hlength
      exact hstar hlength.symm
    obtain ⟨first, rest, hsegments⟩ := List.exists_cons_of_ne_nil hne
    have hgreatest := isGreatestCut_of_greedyCut? hcut
    rw [Folding.same_preserve] at hgreatest
    refine ⟨cut, first, rest, hgreatest, hsegments, ?_, ?_⟩
    · rw [← hlength, hsegments, List.length_cons]
    · rw [capture_eq_nameCaptures hcompiles, hcut, Option.map_some, Option.getD_some,
        captured_eq_starSegments, hsegments, nameCaptures_map]
  · rw [capture_eq_nameCaptures hcompiles]
    exact nodup_nameCaptures _
  · have hmatch := wholeMatch?_eq_greedyCut? .capture (normalize pattern) input
    rw [capture_eq_nameCaptures hcompiles]
    exact congrArg (fun found => nameCaptures (found.getD [])) hmatch.symm

theorem capture_like :
    (Program.compile? ⟨normalize "I like * and *".toList, .capture⟩).isSome = true ∧
    ∃ cut first rest,
      IsGreatestCut Folding.preserve.SameWord (tokens (normalize "I like * and *".toList))
        (words (normalize "i like Cats and dogs and mice".toList)) cut ∧
      starSegments (tokens (normalize "I like * and *".toList)) cut = first :: rest ∧
      ((after []).capture "i like Cats and dogs and mice".toList "I like * and *".toList).1 =
        (starKey, join [' '] first) ::
          (first :: rest).mapIdx fun i segment => (starName (i + 1), join [' '] segment) := by
  have hcompiles : (Program.compile? ⟨normalize "I like * and *".toList, .capture⟩).isSome =
      true := by decide +kernel
  have hcuts : ∃ cut, IsCut Folding.preserve.SameWord (tokens (normalize "I like * and *".toList))
      (words (normalize "i like Cats and dogs and mice".toList)) cut :=
    isSome_greedyCut?_preserve_iff.mp (by decide +kernel)
  obtain ⟨cut, first, rest, hcut, hsegments, -, hfound⟩ :=
    (capture_eq_greatest [] "i like Cats and dogs and mice".toList "I like * and *".toList
      hcompiles).2.1 (by decide) hcuts
  exact ⟨hcompiles, cut, first, rest, hcut, hsegments, hfound⟩

end Matcher
end ChartDialogue.Matching
