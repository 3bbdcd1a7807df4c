import ChartDialogue.Engine.Reply
import ChartDialogue.Proofs.Text.Words
import Mathlib.Tactic.SplitIfs

/-!
Inputs with the same words. How the words of an input are spaced does not matter to any stage of a
reply: patterns are tested, captures written and similarities computed from the words alone. So two
such inputs get the same reply and leave the engine in the same state.
-/
namespace ChartDialogue

open Text

variable {x y : Text}

namespace Matching

/-- A test sees only the words of an input. -/
theorem Matcher.test_of_normalize_eq (h : normalize x = normalize y) (m : Matcher)
    (folding : Folding) (pattern : Text) :
    m.test folding x pattern = m.test folding y pattern := by
  unfold test
  rw [h]

/-- So does a capture. -/
theorem Matcher.capture_of_normalize_eq (h : normalize x = normalize y) (m : Matcher)
    (pattern : Text) : m.capture x pattern = m.capture y pattern := by
  unfold capture
  rw [h]

/-- So does the comparison with a candidate. -/
theorem similarity_of_normalize_eq (h : normalize x = normalize y) (candidate : Text) :
    similarity x candidate = similarity y candidate := by
  unfold similarity
  rw [h]

end Matching

namespace Engine

open Matching

/-- Two inputs that no stage of a reply to a user can tell apart. -/
structure AnsweredAlike (user x y : Text) : Prop where
  test : ∀ (e : Engine) (pattern : Text), e.test x pattern = e.test y pattern
  keepCaptures : ∀ (e : Engine) (pattern : Text),
    e.keepCaptures user x pattern = e.keepCaptures user y pattern
  similarity : ∀ candidate, similarity x candidate = similarity y candidate

theorem answeredAlike_of_normalize_eq (h : normalize x = normalize y) (user : Text) :
    AnsweredAlike user x y where
  test e pattern := by
    unfold test
    rw [Matcher.test_of_normalize_eq h]
  keepCaptures e pattern := by
    unfold keepCaptures
    rw [Matcher.capture_of_normalize_eq h]
  similarity := similarity_of_normalize_eq h

namespace AnsweredAlike

variable {user : Text} (h : AnsweredAlike user x y)
include h

theorem answerConditional (cs : List ConditionalCategory) (e : Engine) :
    answerConditional user x cs e = answerConditional user y cs e := by
  induction cs generalizing e with
  | nil => rfl
  | cons c cs ih =>
    unfold Engine.answerConditional
    dsimp only
    rw [h.test, h.keepCaptures, ih, ih]

theorem firstMatching (cs : List Category) (e : Engine) :
    firstMatching x cs e = firstMatching y cs e := by
  induction cs generalizing e with
  | nil => rfl
  | cons c cs ih =>
    unfold Engine.firstMatching
    dsimp only
    rw [h.test, ih]

theorem answerPattern (e : Engine) (draw : Nat) :
    e.answerPattern user x draw = e.answerPattern user y draw := by
  unfold Engine.answerPattern
  simp only [h.firstMatching, h.keepCaptures]

theorem mostSimilar? (e : Engine) : e.mostSimilar? x = e.mostSimilar? y := by
  have hscores : Matching.similarity x = Matching.similarity y := funext h.similarity
  unfold Engine.mostSimilar? closest?
  rw [hscores]

theorem answerSimilar (e : Engine) (draw : Nat) :
    e.answerSimilar user x draw = e.answerSimilar user y draw := by
  unfold Engine.answerSimilar
  rw [h.mostSimilar?]

/-- No stage can tell such inputs apart, so neither can all of them in a row. -/
theorem answerPlain (e : Engine) (draw : Nat) :
    e.answerPlain user x draw = e.answerPlain user y draw := by
  unfold Engine.answerPlain
  simp only [h.answerPattern, h.answerSimilar]

/-- Only the length can still make a difference. -/
theorem reply {e : Engine} (hx : utf8Length x ≤ e.config.maxInputLength)
    (hy : utf8Length y ≤ e.config.maxInputLength) (draw : Nat) :
    e.reply user x draw = e.reply user y draw := by
  unfold Engine.reply
  rw [if_neg (Nat.not_lt.mpr hx), if_neg (Nat.not_lt.mpr hy)]
  simp only [h.answerConditional, h.answerPlain]

end AnsweredAlike

/-- Two inputs that spell the same words and are not too long get the same reply and leave the same
engine, with the same states of all users. Random picks are given, so it does not matter how templates
are picked. -/
theorem reply_of_spells {ws : List Text} (e : Engine) (user : Text) (draw : Nat)
    (hxs : Spells x ws) (hys : Spells y ws)
    (hx : utf8Length x ≤ e.config.maxInputLength) (hy : utf8Length y ≤ e.config.maxInputLength) :
    (e.reply user x draw).1 = (e.reply user y draw).1 ∧
      (e.reply user x draw).2 = (e.reply user y draw).2 := by
  have hwords : words x = words y := (spells_iff.mp hxs).trans (spells_iff.mp hys).symm
  have hnormalize : normalize x = normalize y := congrArg (join [' ']) hwords
  have hreply := (answeredAlike_of_normalize_eq hnormalize user).reply hx hy draw
  exact ⟨congrArg Prod.fst hreply, congrArg Prod.snd hreply⟩

/-- An engine that repeats a name, to which a name is told with single spaces and with others. -/
theorem reply_of_spells_name :
    Spells "i am Ann".toList ["i".toList, "am".toList, "Ann".toList] ∧
    Spells "\ti\u3000am  Ann ".toList ["i".toList, "am".toList, "Ann".toList] ∧
    utf8Length "i am Ann".toList ≤ Config.default.maxInputLength ∧
    utf8Length "\ti\u3000am  Ann ".toList ≤ Config.default.maxInputLength ∧
    ((new .default ⟨[⟨"i am *".toList, ["hi <star/>".toList], []⟩], []⟩).reply "u".toList
      "\ti\u3000am  Ann ".toList 0).1 = "hi Ann".toList := by
  have hxs : Spells "i am Ann".toList ["i".toList, "am".toList, "Ann".toList] :=
    spells_iff.mpr (by decide)
  have hys : Spells "\ti\u3000am  Ann ".toList ["i".toList, "am".toList, "Ann".toList] :=
    spells_iff.mpr (by decide)
  have hx : utf8Length "i am Ann".toList ≤ Config.default.maxInputLength := by decide
  have hy : utf8Length "\ti\u3000am  Ann ".toList ≤ Config.default.maxInputLength := by decide
  have hreply := (reply_of_spells
    (new .default ⟨[⟨"i am *".toList, ["hi <star/>".toList], []⟩], []⟩) "u".toList 0
    hxs hys hx hy).1
  exact ⟨hxs, hys, hx, hy, hreply.symm.trans (by decide +kernel)⟩

end Engine
end ChartDialogue
