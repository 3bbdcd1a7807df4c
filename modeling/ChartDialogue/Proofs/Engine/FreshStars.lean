import ChartDialogue.Proofs.Engine.ConditionalStage
import ChartDialogue.Proofs.Engine.Isolation
import ChartDialogue.Proofs.Matching.Agreement

/-!
The star values after a match. When an engine writes what the stars of a matching pattern captured,
the user's variables of these stars have the texts of this input. The exception is an input or a
pattern with an unsteady character, which a test may take to be the same as another where a capture
does not: then nothing is captured, and the values of an earlier turn stay.
-/
namespace ChartDialogue.Engine

open Matching Text

variable {e : Engine}

section Caches

/-- Somebody else would not notice a reply, so it leaves the programs that the matcher finds. -/
theorem alike_reply (e : Engine) (user input : Text) (draw : Nat) :
    Matcher.Alike (e.reply user input draw).2.matcher e.matcher :=
  (agree_reply (List.cons_ne_self ' ' user) e input draw).matcher

theorem alike_serve (h : Matcher.Alike e.matcher .empty) (r : Request) :
    Matcher.Alike (e.serve r).2.matcher .empty := by
  cases r with
  | say user input draw => exact (alike_reply e user input draw).trans h
  | resolve user c => exact h
  | users user request => exact h
  | corpus request => exact h
  | reload disk =>
    rw [serve_reload]
    cases Corpus.loadFolder disk e.config.corpusPath with
    | error cause => exact h
    | ok corpus => exact fun _ => rfl
  | clearCache => exact fun _ => rfl

def after (config : Config) (corpus : Corpus) (requests : List Request) : Engine :=
  ((new config corpus).run requests).2

/-- Whatever was asked of an engine, its matcher finds what a new one finds. -/
theorem alike_after (config : Config) (corpus : Corpus) (requests : List Request) :
    Matcher.Alike (after config corpus requests).matcher .empty :=
  run_keeps (I := (Matcher.Alike ·.matcher .empty)) (fun _ r h => alike_serve h r) (fun _ => rfl)
    requests

end Caches

/-- The captures of an input have the names of all stars of the pattern and no others, and when they
have been written the user's variables of these names have their texts. -/
structure KeepsStars (e : Engine) (user input pattern : Text) : Prop where
  names : (e.captures input pattern).map Prod.fst =
    starNames ((tokens (normalize pattern)).count .star)
  values : ∀ name text, (name, text) ∈ e.captures input pattern →
    ((e.keepCaptures user input pattern).users.state user).bindings.get? name = some text

variable {user input pattern : Text}

theorem hits_of_alike (h : Matcher.Alike e.matcher .empty) (input pattern : Text) :
    e.hits input pattern = ((Matcher.after []).test .insensitive input pattern).1 :=
  Matcher.test_eq h .insensitive input pattern

theorem captures_of_alike (h : Matcher.Alike e.matcher .empty) (input pattern : Text) :
    e.captures input pattern = ((Matcher.after []).capture input pattern).1 :=
  Matcher.capture_eq h input pattern

theorem users_keepCaptures_of_nil (h : e.captures input pattern = []) :
    (e.keepCaptures user input pattern).users = e.users := by
  unfold captures at h
  unfold keepCaptures
  dsimp only
  rw [h]
  rfl

/-- When captures have been written the variables have their texts. -/
theorem get?_keepCaptures (hnodup : ((e.captures input pattern).map Prod.fst).Nodup)
    {name text : Text} (h : (name, text) ∈ e.captures input pattern) :
    ((e.keepCaptures user input pattern).users.state user).bindings.get? name = some text := by
  rw [((Continues.refl e user).keepCaptures input pattern).state]
  exact Dict.get?_setAll_of_mem _ hnodup h

/-- The stars are kept exactly if the words of the input can be cut by the pattern, where a word is
the same as a literal if both fold to the same. -/
theorem keepsStars_iff (halike : Matcher.Alike e.matcher .empty)
    (hstar : (tokens (normalize pattern)).count .star ≠ 0)
    (hcompiles : (Program.compile? ⟨normalize pattern, .capture⟩).isSome = true) :
    e.KeepsStars user input pattern ↔
      ∃ cut, IsCut Folding.preserve.SameWord (tokens (normalize pattern))
        (words (normalize input)) cut := by
  have hcaptures := captures_of_alike halike input pattern
  constructor
  · intro hkeeps
    by_contra hnone
    have hnames := hkeeps.names
    rw [hcaptures, Matcher.capture_eq_nil hcompiles hnone] at hnames
    exact absurd hnames (List.cons_ne_nil _ _).symm
  · intro hcut
    have hnodup : ((e.captures input pattern).map Prod.fst).Nodup := by
      rw [hcaptures, Matcher.capture_eq_nameCaptures hcompiles]
      exact nodup_nameCaptures _
    refine ⟨?_, fun name text h => get?_keepCaptures hnodup h⟩
    rw [hcaptures]
    exact Matcher.map_fst_capture hstar hcompiles hcut

/-- After a match the stars are kept, whatever the engine was asked before, unless the words of the
input cannot be cut by what they fold to. Then nothing is written, and there is an unsteady character
in the input or in the pattern. -/
theorem keepsStars_of_hits (config : Config) (corpus : Corpus) (requests : List Request)
    (user input pattern : Text) (hstar : (tokens (normalize pattern)).count .star ≠ 0)
    (htest : (Program.compile? ⟨Folding.insensitive.apply (normalize pattern),
      .test .insensitive⟩).isSome = true)
    (hcapture : (Program.compile? ⟨normalize pattern, .capture⟩).isSome = true)
    (hhits : (after config corpus requests).hits input pattern = true) :
    ((after config corpus requests).KeepsStars user input pattern ↔
      ∃ cut, IsCut Folding.preserve.SameWord (tokens (normalize pattern))
        (words (normalize input)) cut) ∧
    ((after config corpus requests).KeepsStars user input pattern ∨
      (after config corpus requests).captures input pattern = [] ∧
      ((after config corpus requests).keepCaptures user input pattern).users =
        (after config corpus requests).users ∧
      ∃ c, (c ∈ input ∨ c ∈ pattern) ∧ c.toNat ∈ unsteady) := by
  have halike := alike_after config corpus requests
  have hiff : (after config corpus requests).KeepsStars user input pattern ↔
      ∃ cut, IsCut Folding.preserve.SameWord (tokens (normalize pattern))
        (words (normalize input)) cut := keepsStars_iff halike hstar hcapture
  have hmatch : ((Matcher.after []).test .insensitive input pattern).1 = true :=
    (hits_of_alike halike input pattern).symm.trans hhits
  refine ⟨hiff, ?_⟩
  by_cases hcut : ∃ cut, IsCut Folding.preserve.SameWord (tokens (normalize pattern))
      (words (normalize input)) cut
  · exact Or.inl (hiff.mpr hcut)
  · have hnone : (after config corpus requests).captures input pattern = [] :=
      (captures_of_alike halike input pattern).trans (Matcher.capture_eq_nil hcapture hcut)
    refine Or.inr ⟨hnone, users_keepCaptures_of_nil hnone, ?_⟩
    by_contra hsteady
    refine hcut (Matcher.exists_isCut_of_test hstar htest hmatch ?_ ?_)
    · exact fun c hc hunsteady => hsteady ⟨c, Or.inl hc, hunsteady⟩
    · exact fun c hc hunsteady => hsteady ⟨c, Or.inr hc, hunsteady⟩

/-- A corpus that greets back, and repeats what follows a dotted i. -/
def dotted : Corpus :=
  ⟨[⟨"hi *".toList, ["hello <star/>".toList], []⟩,
    ⟨"i\u0307 *".toList, ["so <star/>".toList], []⟩], []⟩

theorem keepsStars_name :
    (tokens (normalize "hi *".toList)).count .star ≠ 0 ∧
    (Program.compile? ⟨Folding.insensitive.apply (normalize "hi *".toList),
      .test .insensitive⟩).isSome = true ∧
    (Program.compile? ⟨normalize "hi *".toList, .capture⟩).isSome = true ∧
    (after .default dotted [.say "u".toList "hi Ann".toList 0]).hits "Hi Bob".toList
      "hi *".toList = true ∧
    (after .default dotted [.say "u".toList "hi Ann".toList 0]).KeepsStars "u".toList
      "Hi Bob".toList "hi *".toList := by
  have hstar : (tokens (normalize "hi *".toList)).count .star ≠ 0 := by decide
  have htest : (Program.compile? ⟨Folding.insensitive.apply (normalize "hi *".toList),
      .test .insensitive⟩).isSome = true := by decide +kernel
  have hcapture : (Program.compile? ⟨normalize "hi *".toList, .capture⟩).isSome = true := by
    decide +kernel
  have hhits : (after .default dotted [.say "u".toList "hi Ann".toList 0]).hits "Hi Bob".toList
      "hi *".toList = true := by
    rw [hits_of_alike (alike_after _ _ _), Matcher.test_eq_isSome (by decide) htest]
    decide +kernel
  refine ⟨hstar, htest, hcapture, hhits, ?_⟩
  rcases (keepsStars_of_hits .default dotted [.say "u".toList "hi Ann".toList 0] "u".toList
      "Hi Bob".toList "hi *".toList hstar htest hcapture hhits).2 with hkeeps | ⟨hnone, -⟩
  · exact hkeeps
  · rw [captures_of_alike (alike_after _ _ _), Matcher.capture_eq_nameCaptures hcapture] at hnone
    exact absurd hnone (by decide +kernel)

/-- The dotted capital I matches the two characters of its lower-case form, but it does not fold to
them. So the second input captures nothing, and is answered with the star of the first one. -/
theorem run_dotted :
    (tokens (normalize "i\u0307 *".toList)).count .star = 1 ∧
    (Program.compile? ⟨Folding.insensitive.apply (normalize "i\u0307 *".toList),
      .test .insensitive⟩).isSome = true ∧
    (Program.compile? ⟨normalize "i\u0307 *".toList, .capture⟩).isSome = true ∧
    ((Matcher.after []).test .insensitive "\u0130 x".toList "i\u0307 *".toList).1 = true ∧
    ((Matcher.after []).capture "\u0130 x".toList "i\u0307 *".toList).1 = [] ∧
    ((new { Config.default with selection := .first } dotted).run
      [.say "u".toList "hi Bob".toList 0, .say "u".toList "\u0130 x".toList 0]).1 =
        [.reply "hello Bob".toList, .reply "so Bob".toList] := by
  have htest : (Program.compile? ⟨Folding.insensitive.apply (normalize "i\u0307 *".toList),
      .test .insensitive⟩).isSome = true := by decide +kernel
  have hcapture : (Program.compile? ⟨normalize "i\u0307 *".toList, .capture⟩).isSome = true := by
    decide +kernel
  refine ⟨by decide, htest, hcapture, ?_, ?_, by decide +kernel⟩
  · rw [Matcher.test_eq_isSome (by decide) htest]
    decide +kernel
  · rw [Matcher.capture_eq_nameCaptures hcapture]
    decide +kernel

end ChartDialogue.Engine
