import ChartDialogue.Engine.Reply
import Mathlib.Tactic.SplitIfs

/-!
What a reply keeps. Its stages change the engine in three ways only: by testing a pattern, by writing
captures and by rendering a response. So what these keep is kept by the whole reply.
-/
namespace ChartDialogue.Engine

/-- A property of engines that no step of a reply to an input of a user ends. -/
structure KeptBySteps (user input : Text) (I : Engine → Prop) : Prop where
  test : ∀ e pattern, I e → I (e.test input pattern).2
  keepCaptures : ∀ e pattern, I e → I (e.keepCaptures user input pattern)
  render : ∀ e response, I e → I (e.render user response).2

namespace KeptBySteps

variable {user input : Text} {I : Engine → Prop} (h : KeptBySteps user input I)
include h

theorem resolve (c : ConditionalCategory) {e : Engine} (he : I e) : I (e.resolve user c).2 :=
  h.render e _ he

/-- What no step ends no stage ends. -/
theorem answerConditional (cs : List ConditionalCategory) {e : Engine} (he : I e) :
    I (Engine.answerConditional user input cs e).2 := by
  induction cs generalizing e with
  | nil => exact he
  | cons c cs ih =>
    have htest := h.test e c.pattern he
    have hresolve := h.resolve c (h.keepCaptures _ c.pattern htest)
    unfold Engine.answerConditional
    dsimp only
    split_ifs
    · exact ih hresolve
    · exact hresolve
    · exact ih htest

theorem firstMatching (cs : List Category) {e : Engine} (he : I e) :
    I (Engine.firstMatching input cs e).2 := by
  induction cs generalizing e with
  | nil => exact he
  | cons c cs ih =>
    have htest := h.test e c.pattern he
    unfold Engine.firstMatching
    dsimp only
    split_ifs
    · exact htest
    · exact ih htest

theorem answerFrom (draw : Nat) (c : Category) {e : Engine} (he : I e) :
    I (e.answerFrom user draw c).2 := by
  unfold Engine.answerFrom
  cases c.pick e.config.selection draw with
  | none => exact he
  | some template => exact h.render e template he

theorem answerPattern (draw : Nat) {e : Engine} (he : I e) :
    I (e.answerPattern user input draw).2 := by
  have hfirst := h.firstMatching e.corpus.categories he
  unfold Engine.answerPattern
  split
  · rename_i e₁ hfound
    rw [hfound] at hfirst
    exact hfirst
  · rename_i c e₁ hfound
    rw [hfound] at hfirst
    exact h.answerFrom draw c (h.keepCaptures e₁ c.pattern hfirst)

theorem answerSimilar (draw : Nat) {e : Engine} (he : I e) :
    I (e.answerSimilar user input draw).2 := by
  unfold Engine.answerSimilar
  split
  · exact he
  · exact h.answerFrom draw _ he

theorem answerPlain (draw : Nat) {e : Engine} (he : I e) :
    I (e.answerPlain user input draw).2 := by
  have hpattern := h.answerPattern draw he
  unfold Engine.answerPlain
  split
  · rename_i reply e₁ hanswer
    rw [hanswer] at hpattern
    exact hpattern
  · rename_i e₁ hanswer
    rw [hanswer] at hpattern
    have hsimilar := h.answerSimilar draw hpattern
    split
    · rename_i reply e₂ hfound
      rw [hfound] at hsimilar
      exact hsimilar
    · rename_i e₂ hfound
      rw [hfound] at hsimilar
      exact hsimilar

/-- A property that the steps keep holds after a reply, whichever stage has answered. -/
theorem reply (draw : Nat) {e : Engine} (he : I e) : I (e.reply user input draw).2 := by
  have hconditional := h.answerConditional e.corpus.conditionals he
  unfold Engine.reply
  split
  · exact he
  · split
    · rename_i reply e₁ hanswer
      rw [hanswer] at hconditional
      exact hconditional
    · rename_i e₁ hanswer
      rw [hanswer] at hconditional
      exact h.answerPlain draw hconditional

end KeptBySteps
end ChartDialogue.Engine
