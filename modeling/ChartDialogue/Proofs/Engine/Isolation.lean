import ChartDialogue.Engine.Request
import ChartDialogue.Proofs.Engine.Stages
import ChartDialogue.Proofs.Matching.Cache
import ChartDialogue.Proofs.Users.Separation

/-!
Users do not notice each other. Two engines agree for a user if they differ at most in what they
know about the other users and in what their matchers have cached. Whatever an engine does for
somebody else leaves it in agreement with what it was, and whatever two engines that agree do for
the user they do alike, so that the requests of the others can be taken out of a run.
-/
namespace ChartDialogue.Engine

open Matching

structure Agree (u : Text) (e e' : Engine) : Prop where
  config : e.config = e'.config
  corpus : e.corpus = e'.corpus
  matcher : Matcher.Alike e.matcher e'.matcher
  users : e.users.get? u = e'.users.get? u

/-- The same result, and engines that agree. -/
def AgreeAfter {α : Type} (u : Text) (x x' : α × Engine) : Prop :=
  x.1 = x'.1 ∧ Agree u x.2 x'.2

variable {u v : Text} {e e' e'' : Engine}

namespace Agree

theorem refl (u : Text) (e : Engine) : Agree u e e :=
  ⟨rfl, rfl, fun _ => rfl, rfl⟩

theorem symm (h : Agree u e e') : Agree u e' e :=
  ⟨h.config.symm, h.corpus.symm, h.matcher.symm, h.users.symm⟩

theorem trans (h : Agree u e e') (h' : Agree u e' e'') : Agree u e e'' :=
  ⟨h.config.trans h'.config, h.corpus.trans h'.corpus, h.matcher.trans h'.matcher,
    h.users.trans h'.users⟩

end Agree

section Others

/-- To test changes nothing but the cache. -/
theorem agree_test (u : Text) (e : Engine) (input pattern : Text) :
    Agree u (e.test input pattern).2 e :=
  ⟨rfl, rfl, Matcher.alike_test e.matcher .insensitive input pattern, rfl⟩

theorem agree_keepCaptures (hne : u ≠ v) (e : Engine) (input pattern : Text) :
    Agree u (e.keepCaptures v input pattern) e :=
  ⟨rfl, rfl, Matcher.alike_capture e.matcher input pattern, Users.get?_setVariables_of_ne hne _⟩

theorem agree_render (hne : u ≠ v) (e : Engine) (response : Text) :
    Agree u (e.render v response).2 e :=
  ⟨rfl, rfl, fun _ => rfl, Users.get?_update_of_ne hne id⟩

theorem agree_resolve (hne : u ≠ v) (e : Engine) (c : ConditionalCategory) :
    Agree u (e.resolve v c).2 e :=
  agree_render hne e _

/-- No step of a reply to somebody else does more than one of these. -/
theorem keptBySteps_agree (hne : u ≠ v) (input : Text) (e : Engine) :
    KeptBySteps v input (Agree u · e) where
  test e' pattern h := (agree_test u e' input pattern).trans h
  keepCaptures e' pattern h := (agree_keepCaptures hne e' input pattern).trans h
  render e' response h := (agree_render hne e' response).trans h

/-- A reply to one user leaves another one alone. -/
theorem agree_reply (hne : u ≠ v) (e : Engine) (input : Text) (draw : Nat) :
    Agree u (e.reply v input draw).2 e :=
  (keptBySteps_agree hne input e).reply draw (Agree.refl u e)

end Others

theorem AgreeAfter.cases {α : Type} {x x' : Option α × Engine} (h : AgreeAfter u x x') :
    (∃ a s s', x = (some a, s) ∧ x' = (some a, s') ∧ Agree u s s') ∨
      ∃ s s', x = (none, s) ∧ x' = (none, s') ∧ Agree u s s' := by
  obtain ⟨found, s⟩ := x
  obtain ⟨found', s'⟩ := x'
  obtain ⟨hfound, hs⟩ := h
  obtain rfl : found = found' := hfound
  cases found with
  | some a => exact Or.inl ⟨a, s, s', rfl, rfl, hs⟩
  | none => exact Or.inr ⟨s, s', rfl, rfl, hs⟩

namespace Agree

theorem test (h : Agree u e e') (input pattern : Text) :
    AgreeAfter u (e.test input pattern) (e'.test input pattern) := by
  have hleft := agree_test u e input pattern
  have hright := agree_test u e' input pattern
  exact ⟨Matcher.test_eq h.matcher .insensitive input pattern, (hleft.trans h).trans hright.symm⟩

theorem keepCaptures (h : Agree u e e') (input pattern : Text) :
    Agree u (e.keepCaptures u input pattern) (e'.keepCaptures u input pattern) where
  config := h.config
  corpus := h.corpus
  matcher := by
    have hleft := Matcher.alike_capture e.matcher input pattern
    have hright := Matcher.alike_capture e'.matcher input pattern
    exact (hleft.trans h.matcher).trans hright.symm
  users := by
    have hcaptures := Matcher.capture_eq h.matcher input pattern
    have husers := Users.get?_setVariables_congr h.users (e.matcher.capture input pattern).1
    rw [hcaptures] at husers
    unfold Engine.keepCaptures
    dsimp only
    rw [hcaptures]
    exact husers

theorem render (h : Agree u e e') (response : Text) :
    AgreeAfter u (e.render u response) (e'.render u response) := by
  have hstate := Users.state_congr h.users
  refine ⟨congrArg (Template.render response) hstate, h.config, h.corpus, h.matcher, ?_⟩
  exact Users.get?_update_congr h.users id

theorem resolve (h : Agree u e e') (c : ConditionalCategory) :
    AgreeAfter u (e.resolve u c) (e'.resolve u c) := by
  unfold Engine.resolve
  rw [Users.state_congr h.users]
  exact h.render _

theorem answerConditional (h : Agree u e e') (input : Text) (cs : List ConditionalCategory) :
    AgreeAfter u (Engine.answerConditional u input cs e)
      (Engine.answerConditional u input cs e') := by
  induction cs generalizing e e' with
  | nil => exact ⟨rfl, h⟩
  | cons c cs ih =>
    obtain ⟨hhit, htest⟩ := h.test input c.pattern
    obtain ⟨hreply, hresolve⟩ := (htest.keepCaptures input c.pattern).resolve c
    unfold Engine.answerConditional
    dsimp only
    rw [hhit, hreply]
    split_ifs
    · exact ih hresolve
    · exact ⟨rfl, hresolve⟩
    · exact ih htest

theorem firstMatching (h : Agree u e e') (input : Text) (cs : List Category) :
    AgreeAfter u (Engine.firstMatching input cs e) (Engine.firstMatching input cs e') := by
  induction cs generalizing e e' with
  | nil => exact ⟨rfl, h⟩
  | cons c cs ih =>
    obtain ⟨hhit, htest⟩ := h.test input c.pattern
    unfold Engine.firstMatching
    dsimp only
    rw [hhit]
    split_ifs
    · exact ⟨rfl, htest⟩
    · exact ih htest

theorem answerFrom (h : Agree u e e') (draw : Nat) (c : Category) :
    AgreeAfter u (e.answerFrom u draw c) (e'.answerFrom u draw c) := by
  unfold Engine.answerFrom
  rw [h.config]
  cases c.pick e'.config.selection draw with
  | none => exact ⟨rfl, h⟩
  | some template =>
    obtain ⟨htext, hrender⟩ := h.render template
    exact ⟨congrArg some htext, hrender⟩

theorem answerPattern (h : Agree u e e') (input : Text) (draw : Nat) :
    AgreeAfter u (e.answerPattern u input draw) (e'.answerPattern u input draw) := by
  have hfirst := h.firstMatching input e'.corpus.categories
  unfold Engine.answerPattern
  rw [h.corpus]
  rcases hfirst.cases with ⟨c, s, s', hs, hs', hagree⟩ | ⟨s, s', hs, hs', hagree⟩
  · rw [hs, hs']
    exact (hagree.keepCaptures input c.pattern).answerFrom draw c
  · rw [hs, hs']
    exact ⟨rfl, hagree⟩

theorem answerSimilar (h : Agree u e e') (input : Text) (draw : Nat) :
    AgreeAfter u (e.answerSimilar u input draw) (e'.answerSimilar u input draw) := by
  have hsimilar : e.mostSimilar? input = e'.mostSimilar? input := by
    unfold mostSimilar?
    rw [h.config, h.corpus]
  unfold Engine.answerSimilar
  rw [hsimilar]
  cases e'.mostSimilar? input with
  | none => exact ⟨rfl, h⟩
  | some c => exact h.answerFrom draw c

theorem answerPlain (h : Agree u e e') (input : Text) (draw : Nat) :
    AgreeAfter u (e.answerPlain u input draw) (e'.answerPlain u input draw) := by
  have hpattern := h.answerPattern input draw
  unfold Engine.answerPlain
  rcases hpattern.cases with ⟨reply, s, s', hs, hs', hagree⟩ | ⟨s, s', hs, hs', hagree⟩
  · rw [hs, hs']
    exact ⟨rfl, hagree⟩
  · have hsimilar := hagree.answerSimilar input draw
    rw [hs, hs']
    dsimp only
    rcases hsimilar.cases with ⟨reply, t, t', ht, ht', hlast⟩ | ⟨t, t', ht, ht', hlast⟩
    · rw [ht, ht']
      exact ⟨rfl, hlast⟩
    · rw [ht, ht']
      exact ⟨congrArg Config.defaultResponse hlast.config, hlast⟩

/-- Engines that agree about a user reply alike and agree afterwards. -/
theorem reply (h : Agree u e e') (input : Text) (draw : Nat) :
    AgreeAfter u (e.reply u input draw) (e'.reply u input draw) := by
  have hconditional := h.answerConditional input e'.corpus.conditionals
  unfold Engine.reply
  rw [h.config, h.corpus]
  split_ifs
  · exact ⟨rfl, h⟩
  · rcases hconditional.cases with ⟨reply, s, s', hs, hs', hagree⟩ | ⟨s, s', hs, hs', hagree⟩
    · rw [hs, hs']
      exact ⟨rfl, hagree⟩
    · rw [hs, hs']
      exact hagree.answerPlain input draw

end Agree

/-- Whether a request is made for a user, or for nobody in particular. -/
def concerns (u : Text) : Request → Bool
  | .say v _ _ => v = u
  | .resolve v _ => v = u
  | .users v _ => v = u
  | .corpus _ => true
  | .reload _ => true
  | .clearCache => true

/-- A request that does not concern a user leaves the user alone. -/
theorem agree_serve {r : Request} (hr : concerns u r = false) (e : Engine) :
    Agree u (e.serve r).2 e := by
  cases r with
  | say v input draw => exact agree_reply (Ne.symm (of_decide_eq_false hr)) e input draw
  | resolve v c => exact agree_resolve (Ne.symm (of_decide_eq_false hr)) e c
  | users v request =>
    have hne : u ≠ v := Ne.symm (of_decide_eq_false hr)
    exact ⟨rfl, rfl, fun _ => rfl, Users.get?_serve_of_ne hne request⟩
  | corpus request => exact absurd hr.symm Bool.false_ne_true
  | reload disk => exact absurd hr.symm Bool.false_ne_true
  | clearCache => exact absurd hr.symm Bool.false_ne_true

/-- A reload either fails and leaves everything, or leaves the configuration and the users alone. -/
theorem serve_reload (e : Engine) (disk : Files.Disk) :
    e.serve (.reload disk) =
      match Corpus.loadFolder disk e.config.corpusPath with
      | .error cause => (.failed cause, e)
      | .ok fresh => (.done, ⟨e.config, fresh, Matcher.empty, e.users⟩) := by
  unfold serve reload
  dsimp only
  cases Corpus.loadFolder disk e.config.corpusPath <;> rfl

/-- A request that concerns the user is answered alike by engines that agree about the user. -/
theorem Agree.serve (h : Agree u e e') {r : Request} (hr : concerns u r = true) :
    AgreeAfter u (e.serve r) (e'.serve r) := by
  cases r with
  | say v input draw =>
    obtain rfl : v = u := of_decide_eq_true hr
    obtain ⟨htext, hafter⟩ := h.reply input draw
    exact ⟨congrArg Answer.reply htext, hafter⟩
  | resolve v c =>
    obtain rfl : v = u := of_decide_eq_true hr
    obtain ⟨htext, hafter⟩ := h.resolve c
    exact ⟨congrArg Answer.reply htext, hafter⟩
  | users v request =>
    obtain rfl : v = u := of_decide_eq_true hr
    obtain ⟨hanswer, hafter⟩ := Users.serve_congr h.users request
    exact ⟨congrArg Answer.users hanswer, h.config, h.corpus, h.matcher, hafter⟩
  | corpus request =>
    refine ⟨?_, h.config, ?_, h.matcher, h.users⟩
    · exact congrArg (fun corpus : Corpus => Answer.corpus (corpus.serve request).1) h.corpus
    · exact congrArg (fun corpus : Corpus => (corpus.serve request).2) h.corpus
  | reload disk =>
    rw [serve_reload, serve_reload, h.config]
    cases Corpus.loadFolder disk e'.config.corpusPath with
    | error cause => exact ⟨rfl, h⟩
    | ok corpus => exact ⟨rfl, rfl, rfl, fun _ => rfl, h.users⟩
  | clearCache => exact ⟨rfl, h.config, h.corpus, fun _ => rfl, h.users⟩

theorem run_cons (e : Engine) (r : Request) (requests : List Request) :
    e.run (r :: requests) =
      ((e.serve r).1 :: ((e.serve r).2.run requests).1, ((e.serve r).2.run requests).2) :=
  rfl

/-- What every request keeps is kept by a run. -/
theorem run_keeps {I : Engine → Prop} (hserve : ∀ e r, I e → I (e.serve r).2) (he : I e)
    (requests : List Request) : I (e.run requests).2 := by
  induction requests generalizing e with
  | nil => exact he
  | cons r requests ih => exact ih (hserve e r he)

/-- By induction over the requests: one that does not concern the user leaves the engines in
agreement, one that does is answered alike by both. -/
theorem Agree.run_filter (h : Agree u e e') (requests : List Request) :
    AgreeAfter u (e.run (requests.filter (concerns u)))
      (((requests.zip (e'.run requests).1).filter (concerns u ·.1)).map Prod.snd,
        (e'.run requests).2) := by
  induction requests generalizing e e' with
  | nil => exact ⟨rfl, h⟩
  | cons r requests ih =>
    rw [run_cons, List.filter_cons]
    dsimp only
    rw [List.zip_cons_cons, List.filter_cons]
    cases hr : concerns u r with
    | false =>
      have hothers := h.trans (agree_serve hr e').symm
      exact ih hothers
    | true =>
      obtain ⟨hanswer, hstep⟩ := h.serve hr
      obtain ⟨hanswers, hlast⟩ := ih hstep
      rw [if_pos rfl, if_pos rfl, run_cons, List.map_cons]
      refine ⟨?_, hlast⟩
      dsimp only
      rw [hanswer, hanswers]

/-- To take the requests of all other users out of a run changes neither what a user is told nor
what is known about the user in the end. Random picks belong to the requests, so it does not matter
how templates are picked. -/
theorem run_isolated (e : Engine) (u : Text) (requests : List Request) :
    (e.run (requests.filter (concerns u))).1 =
        ((requests.zip (e.run requests).1).filter (concerns u ·.1)).map Prod.snd ∧
      (e.run (requests.filter (concerns u))).2.users.get? u =
        (e.run requests).2.users.get? u := by
  obtain ⟨hanswers, hlast⟩ := (Agree.refl u e).run_filter requests
  exact ⟨hanswers, hlast.users⟩

end ChartDialogue.Engine
