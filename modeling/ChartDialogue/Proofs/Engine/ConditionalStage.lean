import ChartDialogue.Engine.Reply
import ChartDialogue.Proofs.Matching.Cache
import ChartDialogue.Proofs.Text.Reading
import ChartDialogue.Proofs.Users.Separation

/-!
The conditional stage of a reply. The conditional categories that match the input are walked in
order, and the captures of each are written before it is resolved. The first one whose response has
a text for the user in that state answers, before any later category, plain category or default. A
branch that is chosen but whose response renders to nothing does not answer.
-/
namespace ChartDialogue.Engine

open Matching

variable {e e' : Engine} {u : Text} {s : UserState}

/-- Whether an input matches a pattern. -/
def hits (e : Engine) (input pattern : Text) : Bool :=
  (e.matcher.test .insensitive input pattern).1

/-- What the stars of a pattern stand for in an input. -/
def captures (e : Engine) (input pattern : Text) : Captures :=
  (e.matcher.capture input pattern).1

/-- An engine that went on for a user and left the user in a state. It has the configuration and
the corpus it had, and finds the same programs. -/
structure Continues (e : Engine) (u : Text) (s : UserState) (e' : Engine) : Prop where
  config : e'.config = e.config
  corpus : e'.corpus = e.corpus
  matcher : Matcher.Alike e'.matcher e.matcher
  state : e'.users.state u = s

namespace Continues

theorem refl (e : Engine) (u : Text) : Continues e u (e.users.state u) e :=
  ⟨rfl, rfl, fun _ => rfl, rfl⟩

theorem test_fst (h : Continues e u s e') (input pattern : Text) :
    (e'.test input pattern).1 = e.hits input pattern :=
  Matcher.test_eq h.matcher .insensitive input pattern

theorem test (h : Continues e u s e') (input pattern : Text) :
    Continues e u s (e'.test input pattern).2 :=
  ⟨h.config, h.corpus, (Matcher.alike_test _ .insensitive input pattern).trans h.matcher, h.state⟩

/-- Captures are written to the variables of the user, and nothing else changes. -/
theorem keepCaptures (h : Continues e u s e') (input pattern : Text) :
    Continues e u (s.setVariables (e.captures input pattern))
      (e'.keepCaptures u input pattern) where
  config := h.config
  corpus := h.corpus
  matcher := (Matcher.alike_capture _ input pattern).trans h.matcher
  state := by
    have hcaptures : (e'.matcher.capture input pattern).1 = e.captures input pattern :=
      Matcher.capture_eq h.matcher input pattern
    have hstate : (e'.users.setVariables u (e.captures input pattern)).state u =
        (e'.users.state u).setVariables (e.captures input pattern) :=
      Users.state_setVariables _
    rw [h.state] at hstate
    unfold Engine.keepCaptures
    dsimp only
    rw [hcaptures]
    exact hstate

theorem render_fst (h : Continues e u s e') (response : Text) :
    (e'.render u response).1 = Template.render response s :=
  congrArg (Template.render response) h.state

theorem render (h : Continues e u s e') (response : Text) :
    Continues e u s (e'.render u response).2 :=
  ⟨h.config, h.corpus, h.matcher, (Users.state_update id).trans h.state⟩

end Continues

/-- What a conditional category says to a user in a state. -/
def rendered (s : UserState) (c : ConditionalCategory) : Text :=
  Template.render ((s.response? c).getD []) s

theorem rendered_eq_nil {c : ConditionalCategory} (h : (s.response? c).getD [] = []) :
    rendered s c = [] := by
  rw [rendered, h, Template.render, Text.replaceAll_nil, Text.replaceAll_nil]

/-- A category says to the user what it says in the state the user is left in. -/
theorem Continues.resolve_fst (h : Continues e u s e') (c : ConditionalCategory) :
    (e'.resolve u c).1 = rendered s c := by
  unfold resolve
  rw [h.state]
  exact h.render_fst _

theorem Continues.resolve (h : Continues e u s e') (c : ConditionalCategory) :
    Continues e u s (e'.resolve u c).2 :=
  h.render _

/-- The categories that match an input, each with the user's state in which it is resolved. -/
def walk (e : Engine) (input : Text) :
    UserState → List ConditionalCategory → List (UserState × ConditionalCategory)
  | _, [] => []
  | s, c :: cs =>
    if e.hits input c.pattern then
      (s.setVariables (e.captures input c.pattern), c) ::
        e.walk input (s.setVariables (e.captures input c.pattern)) cs
    else e.walk input s cs

/-- The first category of a walk that has something to say, with the user's state there. -/
def speaker? (e : Engine) (input : Text) (s : UserState) (cs : List ConditionalCategory) :
    Option (UserState × ConditionalCategory) :=
  (e.walk input s cs).find? fun w => !(rendered w.1 w.2).isEmpty

/-- The user's state at the end of a walk on which nobody speaks. -/
def walked (e : Engine) (input : Text) (s : UserState) (cs : List ConditionalCategory) : UserState :=
  (e.walk input s cs).foldl (fun _ w => w.1) s

/-- By induction over the categories: those that do not match leave the state, those that match
leave their captures in it, and the first that speaks ends the stage. -/
theorem Continues.answerConditional (h : Continues e u s e') (input : Text)
    (cs : List ConditionalCategory) :
    ∃ e₁, answerConditional u input cs e' =
        ((e.speaker? input s cs).map (fun w => rendered w.1 w.2), e₁) ∧
      Continues e u ((e.speaker? input s cs).elim (e.walked input s cs) Prod.fst) e₁ := by
  induction cs generalizing s e' with
  | nil => exact ⟨e', rfl, h⟩
  | cons c cs ih =>
    have htest := h.test input c.pattern
    have hresolve := (htest.keepCaptures input c.pattern).resolve c
    have hreply := (htest.keepCaptures input c.pattern).resolve_fst c
    unfold Engine.answerConditional speaker? walked walk
    dsimp only
    rw [h.test_fst, hreply]
    split_ifs with hhit hempty
    · rw [List.find?_cons, hempty]
      exact ih hresolve
    · rw [List.find?_cons, Bool.eq_false_iff.mpr hempty]
      exact ⟨_, rfl, hresolve⟩
    · exact ih htest

/-- An input that is not too long is answered by the conditional categories, or else by the plain
ones. -/
theorem reply_of_length {user input : Text} (draw : Nat)
    (hlength : Text.utf8Length input ≤ e.config.maxInputLength) :
    e.reply user input draw =
      match answerConditional user input e.corpus.conditionals e with
      | (some reply, e) => (reply, e)
      | (none, e) => e.answerPlain user input draw :=
  if_neg (Nat.not_lt.mpr hlength)

/-- A category that speaks has chosen a branch whose response is not empty. -/
theorem exists_response_of_rendered {c : ConditionalCategory} (h : rendered s c ≠ []) :
    ∃ text, text ≠ [] ∧ s.response? c = some text ∧ rendered s c = Template.render text s := by
  cases hresponse : s.response? c with
  | none => exact absurd (rendered_eq_nil (by rw [hresponse]; rfl)) h
  | some text =>
    refine ⟨text, ?_, rfl, by rw [rendered, hresponse]; rfl⟩
    rintro rfl
    exact h (rendered_eq_nil (by rw [hresponse]; rfl))

/-- The first category of a walk whose response has a text for the user is the one that answers,
and it leaves the user in the state in which it was resolved. If there is none, nobody has answered
when the plain categories have their turn. -/
theorem reply_speaker (e : Engine) (user input : Text) (draw : Nat)
    (hlength : Text.utf8Length input ≤ e.config.maxInputLength) :
    (∀ s c, e.speaker? input (e.users.state user) e.corpus.conditionals = some (s, c) →
      (∃ text, text ≠ [] ∧ s.response? c = some text ∧
        (e.reply user input draw).1 = Template.render text s) ∧
      (e.reply user input draw).2.users.state user = s) ∧
    (e.speaker? input (e.users.state user) e.corpus.conditionals = none →
      ∃ e', Continues e user (e.walked input (e.users.state user) e.corpus.conditionals) e' ∧
        e.reply user input draw = e'.answerPlain user input draw) := by
  obtain ⟨e₁, hanswer, hafter⟩ :=
    (Continues.refl e user).answerConditional input e.corpus.conditionals
  rw [reply_of_length draw hlength, hanswer]
  constructor
  · intro s c hspeaker
    have hspeaks : rendered s c ≠ [] := by
      simpa using List.find?_some hspeaker
    rw [hspeaker] at hafter ⊢
    exact ⟨exists_response_of_rendered hspeaks, hafter.state⟩
  · intro hnobody
    rw [hnobody] at hafter ⊢
    exact ⟨e₁, hafter, rfl⟩

/-- A category that answers a greeting with the same response in any mood. -/
def greeting (response : Text) : ConditionalCategory :=
  ⟨"hi".toList, [⟨.default .predicateValue "mood".toList, response⟩]⟩

theorem reply_speaker_hello :
    Text.utf8Length "hi".toList ≤ Config.default.maxInputLength ∧
    (new .default ⟨[], [greeting "<star/>".toList, greeting "hello".toList]⟩).speaker? "hi".toList
        .empty [greeting "<star/>".toList, greeting "hello".toList] =
      some (.empty, greeting "hello".toList) ∧
    ((new .default ⟨[], [greeting "<star/>".toList, greeting "hello".toList]⟩).reply
      "u".toList "hi".toList 0).1 = "hello".toList := by
  have hlength : Text.utf8Length "hi".toList ≤ Config.default.maxInputLength := by decide
  have hspeaker : (new .default ⟨[], [greeting "<star/>".toList, greeting "hello".toList]⟩).speaker?
        "hi".toList .empty [greeting "<star/>".toList, greeting "hello".toList] =
      some (.empty, greeting "hello".toList) := by decide +kernel
  obtain ⟨⟨text, -, htext, hreply⟩, -⟩ :=
    (reply_speaker (new .default ⟨[], [greeting "<star/>".toList, greeting "hello".toList]⟩)
      "u".toList "hi".toList 0 hlength).1 _ _ hspeaker
  obtain rfl : "hello".toList = text := Option.some.inj htext
  exact ⟨hlength, hspeaker, hreply.trans (by decide +kernel)⟩

/-- A branch that is chosen and has a response does not answer if the response renders to nothing:
the user gets the default response. -/
theorem reply_greeting_default :
    (new .default ⟨[], [greeting "<star/>".toList]⟩).walk "hi".toList .empty
        [greeting "<star/>".toList] = [(.empty, greeting "<star/>".toList)] ∧
    UserState.empty.response? (greeting "<star/>".toList) = some "<star/>".toList ∧
    ((new .default ⟨[], [greeting "<star/>".toList]⟩).reply "u".toList "hi".toList 0).1 =
      Config.default.defaultResponse ∧
    Template.render "<star/>".toList .empty ≠ Config.default.defaultResponse := by
  refine ⟨?_, ?_, ?_, ?_⟩ <;> decide +kernel

end ChartDialogue.Engine
