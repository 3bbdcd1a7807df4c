import ChartDialogue.Proofs.Corpus.Compiled
import ChartDialogue.Proofs.Engine.ConditionalStage
import ChartDialogue.Proofs.Matching.Closest

/-!
The stages of a reply after the conditional one. Over a compiled corpus every plain category has a
first template, so the first category that matches answers with it, and the captures of the match
are written. Where none matches nothing is written: the most similar category answers if it is
similar enough, and otherwise the default response does.
-/
namespace ChartDialogue.Engine

open Matching

variable {e e' : Engine} {u : Text} {s : UserState}

namespace Continues

theorem firstMatching (h : Continues e u s e') (input : Text) (cs : List Category) :
    ∃ e₁, firstMatching input cs e' = (cs.find? (e.hits input ·.pattern), e₁) ∧
      Continues e u s e₁ := by
  induction cs generalizing e' with
  | nil => exact ⟨e', rfl, h⟩
  | cons c cs ih =>
    have htest := h.test input c.pattern
    unfold Engine.firstMatching
    dsimp only
    rw [h.test_fst, List.find?_cons]
    split_ifs with hhit
    · rw [hhit]
      exact ⟨_, rfl, htest⟩
    · rw [Bool.eq_false_iff.mpr hhit]
      exact ih htest

/-- With a first template the answer is that template. -/
theorem answerFrom (h : Continues e u s e') (hfirst : e.config.selection = .first) (draw : Nat)
    {c : Category} {t : Text} {ts : List Text} (hc : c.templates = t :: ts) :
    ∃ e₁, e'.answerFrom u draw c = (some (Template.render t s), e₁) ∧ Continues e u s e₁ := by
  have hpick : c.pick e'.config.selection draw = some t := by
    rw [h.config, hfirst, Category.pick, hc]
    rfl
  unfold Engine.answerFrom
  rw [hpick, ← h.render_fst t]
  exact ⟨_, rfl, h.render t⟩

/-- The first category whose pattern matches answers with its first template. -/
theorem answerPattern_some (h : Continues e u s e') (hfirst : e.config.selection = .first)
    {input : Text} (draw : Nat) {c : Category} {t : Text} {ts : List Text}
    (hc : c.templates = t :: ts)
    (hfound : e.corpus.categories.find? (e.hits input ·.pattern) = some c) :
    ∃ e₁, e'.answerPattern u input draw =
        (some (Template.render t (s.setVariables (e.captures input c.pattern))), e₁) ∧
      Continues e u (s.setVariables (e.captures input c.pattern)) e₁ := by
  obtain ⟨e₁, hmatch, hafter⟩ := h.firstMatching input e.corpus.categories
  unfold Engine.answerPattern
  rw [h.corpus, hmatch, hfound]
  exact (hafter.keepCaptures input c.pattern).answerFrom hfirst draw hc

/-- If no pattern matches, this stage has no answer and the user is left as before. -/
theorem answerPattern_none (h : Continues e u s e') {input : Text} (draw : Nat)
    (hnone : e.corpus.categories.find? (e.hits input ·.pattern) = none) :
    ∃ e₁, e'.answerPattern u input draw = (none, e₁) ∧ Continues e u s e₁ := by
  obtain ⟨e₁, hmatch, hafter⟩ := h.firstMatching input e.corpus.categories
  unfold Engine.answerPattern
  rw [h.corpus, hmatch, hnone]
  exact ⟨e₁, rfl, hafter⟩

theorem mostSimilar?_eq (h : Continues e u s e') (input : Text) :
    e'.mostSimilar? input = e.mostSimilar? input := by
  unfold mostSimilar?
  rw [h.config, h.corpus]

/-- The first category that matches answers, and what it captured is written. -/
theorem answerPlain_match (h : Continues e u s e') (hfirst : e.config.selection = .first)
    {input : Text} (draw : Nat) {c : Category} {t : Text} {ts : List Text}
    (hc : c.templates = t :: ts)
    (hfound : e.corpus.categories.find? (e.hits input ·.pattern) = some c) :
    ∃ e₁, e'.answerPlain u input draw =
        (Template.render t (s.setVariables (e.captures input c.pattern)), e₁) ∧
      Continues e u (s.setVariables (e.captures input c.pattern)) e₁ := by
  obtain ⟨e₁, hanswer, hafter⟩ := h.answerPattern_some hfirst draw hc hfound
  unfold answerPlain
  rw [hanswer]
  exact ⟨e₁, rfl, hafter⟩

/-- Where none matches, the most similar category answers if there is one. -/
theorem answerPlain_similar (h : Continues e u s e') (hfirst : e.config.selection = .first)
    {input : Text} (draw : Nat) {c : Category} {t : Text} {ts : List Text}
    (hc : c.templates = t :: ts)
    (hnone : e.corpus.categories.find? (e.hits input ·.pattern) = none)
    (hsimilar : e.mostSimilar? input = some c) :
    ∃ e₁, e'.answerPlain u input draw = (Template.render t s, e₁) ∧ Continues e u s e₁ := by
  obtain ⟨e₁, hanswer, hafter⟩ := h.answerPattern_none draw hnone
  obtain ⟨e₂, hsimilar₂, hafter₂⟩ := hafter.answerFrom hfirst draw hc
  unfold answerPlain answerSimilar
  rw [hanswer]
  dsimp only
  rw [hafter.mostSimilar?_eq, hsimilar]
  dsimp only
  rw [hsimilar₂]
  exact ⟨e₂, rfl, hafter₂⟩

/-- Where none matches and none is similar enough, the default response answers. -/
theorem answerPlain_default (h : Continues e u s e') {input : Text} (draw : Nat)
    (hnone : e.corpus.categories.find? (e.hits input ·.pattern) = none)
    (hsimilar : e.mostSimilar? input = none) :
    ∃ e₁, e'.answerPlain u input draw = (e.config.defaultResponse, e₁) ∧
      Continues e u s e₁ := by
  obtain ⟨e₁, hanswer, hafter⟩ := h.answerPattern_none draw hnone
  unfold answerPlain answerSimilar
  rw [hanswer]
  dsimp only
  rw [hafter.mostSimilar?_eq, hsimilar, ← hafter.config]
  exact ⟨e₁, rfl, hafter⟩

end Continues

/-- The first of the categories that are most similar to an input. -/
def IsClosest (e : Engine) (input : Text) (c : Category) : Prop :=
  IsFirstGreatest (fun d : Category => similarity input d.pattern) e.corpus.categories c

theorem mostSimilar?_of_nil (hnil : e.corpus.categories = []) (input : Text) :
    e.mostSimilar? input = none := by
  unfold mostSimilar?
  rw [hnil]
  rfl

/-- The most similar category exists and answers if it reaches the threshold. -/
theorem exists_isClosest (hne : e.corpus.categories ≠ []) (input : Text) :
    ∃ c, e.IsClosest input c ∧ e.mostSimilar? input =
      if e.config.matchThreshold ≤ similarity input c.pattern then some c else none :=
  closest?_cases input Category.pattern hne e.config.matchThreshold

/-- If no conditional category answers, the plain ones do. -/
theorem reply_of_silent {user input : Text} (draw : Nat)
    (hlength : Text.utf8Length input ≤ e.config.maxInputLength)
    (hsilent : (answerConditional user input e.corpus.conditionals e).1 = none)
    (hs : (answerConditional user input e.corpus.conditionals e).2.users.state user = s) :
    ∃ e₁, e.reply user input draw = e₁.answerPlain user input draw ∧ Continues e user s e₁ := by
  obtain ⟨e₁, hstage, hafter⟩ :=
    (Continues.refl e user).answerConditional input e.corpus.conditionals
  rw [hstage] at hsilent hs
  have hnobody : Option.map (fun w => rendered w.1 w.2)
      (e.speaker? input (e.users.state user) e.corpus.conditionals) = none := hsilent
  refine ⟨e₁, ?_, hafter.config, hafter.corpus, hafter.matcher, hs⟩
  rw [reply_of_length draw hlength, hstage, hnobody]

/-- Over a compiled corpus an input that no conditional category answers is answered by the first
category whose pattern matches, with its first template and its captures written. If none matches,
nothing is written, and the answer is the first template of the first of the most similar categories
or, where that is not similar enough or there is none, the default response. -/
theorem reply_plain {e : Engine} {user input : Text} {s : UserState} (draw : Nat)
    (hfirst : e.config.selection = .first) (hcorpus : Corpus.Compiled e.corpus)
    (hlength : Text.utf8Length input ≤ e.config.maxInputLength)
    (hsilent : (answerConditional user input e.corpus.conditionals e).1 = none)
    (hs : (answerConditional user input e.corpus.conditionals e).2.users.state user = s) :
    (∀ c, e.corpus.categories.find? (e.hits input ·.pattern) = some c →
      ∃ t ts, c.templates = t :: ts ∧
        (e.reply user input draw).1 =
          Template.render t (s.setVariables (e.captures input c.pattern)) ∧
        (e.reply user input draw).2.users.state user =
          s.setVariables (e.captures input c.pattern)) ∧
    (e.corpus.categories.find? (e.hits input ·.pattern) = none →
      (e.reply user input draw).2.users.state user = s ∧
      (e.corpus.categories = [] → (e.reply user input draw).1 = e.config.defaultResponse) ∧
      (e.corpus.categories ≠ [] → ∃ c t ts, e.IsClosest input c ∧ c.templates = t :: ts ∧
        (e.reply user input draw).1 =
          if e.config.matchThreshold ≤ similarity input c.pattern then Template.render t s
          else e.config.defaultResponse)) := by
  have htemplates : ∀ c ∈ e.corpus.categories, ∃ t ts, c.templates = t :: ts :=
    fun c hc => List.exists_cons_of_ne_nil (hcorpus.answers c hc)
  obtain ⟨e₁, hreply, hafter⟩ := reply_of_silent draw hlength hsilent hs
  rw [hreply]
  constructor
  · intro c hfound
    obtain ⟨t, ts, hc⟩ := htemplates c (List.mem_of_find?_eq_some hfound)
    obtain ⟨e₂, hanswer, hlast⟩ := hafter.answerPlain_match hfirst draw hc hfound
    rw [hanswer]
    exact ⟨t, ts, hc, rfl, hlast.state⟩
  · intro hnone
    by_cases hnil : e.corpus.categories = []
    · obtain ⟨e₂, hanswer, hlast⟩ :=
        hafter.answerPlain_default draw hnone (mostSimilar?_of_nil hnil input)
      rw [hanswer]
      exact ⟨hlast.state, fun _ => rfl, fun hne => absurd hnil hne⟩
    · obtain ⟨c, hclosest, hsimilar⟩ := exists_isClosest hnil input
      obtain ⟨t, ts, hc⟩ := htemplates c hclosest.mem
      by_cases hscore : e.config.matchThreshold ≤ similarity input c.pattern
      · rw [if_pos hscore] at hsimilar
        obtain ⟨e₂, hanswer, hlast⟩ := hafter.answerPlain_similar hfirst draw hc hnone hsimilar
        rw [hanswer]
        refine ⟨hlast.state, fun h => absurd h hnil, fun _ => ⟨c, t, ts, hclosest, hc, ?_⟩⟩
        rw [if_pos hscore]
      · rw [if_neg hscore] at hsimilar
        obtain ⟨e₂, hanswer, hlast⟩ := hafter.answerPlain_default draw hnone hsimilar
        rw [hanswer]
        refine ⟨hlast.state, fun h => absurd h hnil, fun _ => ⟨c, t, ts, hclosest, hc, ?_⟩⟩
        rw [if_neg hscore]

/-- An engine that repeats what a user likes. -/
def talker : Engine :=
  new { Config.default with selection := .first }
    (Corpus.ofText "graph\nA[i like *] --> B[so <star/>]".toList [])

theorem reply_plain_cats :
    talker.config.selection = .first ∧ Corpus.Compiled talker.corpus ∧
    Text.utf8Length "I like Cats".toList ≤ talker.config.maxInputLength ∧
    (answerConditional "u".toList "I like Cats".toList talker.corpus.conditionals talker).1 = none ∧
    talker.corpus.categories.find? (talker.hits "I like Cats".toList ·.pattern) =
      some ⟨"i like *".toList, ["so <star/>".toList], []⟩ ∧
    (talker.reply "u".toList "I like Cats".toList 0).1 = "so Cats".toList := by
  have hfirst : talker.config.selection = .first := rfl
  have hcorpus : Corpus.Compiled talker.corpus := .ofText _ _
  have hlength : Text.utf8Length "I like Cats".toList ≤ talker.config.maxInputLength := by decide
  have hsilent : (answerConditional "u".toList "I like Cats".toList talker.corpus.conditionals
      talker).1 = none := by decide +kernel
  have hfound : talker.corpus.categories.find? (talker.hits "I like Cats".toList ·.pattern) =
      some ⟨"i like *".toList, ["so <star/>".toList], []⟩ := by decide +kernel
  obtain ⟨t, ts, hc, hreply, -⟩ := (reply_plain 0 hfirst hcorpus hlength hsilent rfl).1 _ hfound
  obtain ⟨rfl, -⟩ := List.cons.inj hc
  exact ⟨hfirst, hcorpus, hlength, hsilent, hfound, hreply.trans (by decide +kernel)⟩

end ChartDialogue.Engine
