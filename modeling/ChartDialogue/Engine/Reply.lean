import ChartDialogue.Engine.Basic
import ChartDialogue.Matching.Similarity
import ChartDialogue.Users.Template

/-!
Replies. An input is answered by the first stage that has an answer: conditional categories,
plain categories whose pattern matches, the most similar plain category, and last the default
response. Every stage takes the engine and gives it back as it leaves it.
-/
namespace ChartDialogue.Engine

open Matching

def test (e : Engine) (input pattern : Text) : Bool × Engine :=
  let (hit, matcher) := e.matcher.test .insensitive input pattern
  (hit, { e with matcher := matcher })

def keepCaptures (e : Engine) (user input pattern : Text) : Engine :=
  let (captures, matcher) := e.matcher.capture input pattern
  { e with matcher := matcher, users := e.users.setVariables user captures }

/-- A response for a user, who has a state from then on. -/
def render (e : Engine) (user response : Text) : Text × Engine :=
  (Template.render response (e.users.state user), { e with users := e.users.touch user })

/-- The response of a conditional category for a user, empty when no branch applies. -/
def resolve (e : Engine) (user : Text) (c : ConditionalCategory) : Text × Engine :=
  e.render user (((e.users.state user).response? c).getD [])

/-- The answer of the first matching conditional category that has one. -/
def answerConditional (user input : Text) :
    List ConditionalCategory → Engine → Option Text × Engine
  | [], e => (none, e)
  | c :: rest, e =>
    let (hit, e) := e.test input c.pattern
    if hit then
      let (reply, e) := (e.keepCaptures user input c.pattern).resolve user c
      if reply.isEmpty then answerConditional user input rest e else (some reply, e)
    else answerConditional user input rest e

def firstMatching (input : Text) : List Category → Engine → Option Category × Engine
  | [], e => (none, e)
  | c :: rest, e =>
    let (hit, e) := e.test input c.pattern
    if hit then (some c, e) else firstMatching input rest e

def answerFrom (e : Engine) (user : Text) (draw : Nat) (c : Category) : Option Text × Engine :=
  match c.pick e.config.selection draw with
  | none => (none, e)
  | some template =>
    let (text, e) := e.render user template
    (some text, e)

def answerPattern (e : Engine) (user input : Text) (draw : Nat) : Option Text × Engine :=
  match firstMatching input e.corpus.categories e with
  | (none, e) => (none, e)
  | (some c, e) => (e.keepCaptures user input c.pattern).answerFrom user draw c

def mostSimilar? (e : Engine) (input : Text) : Option Category :=
  (closest? input (e.corpus.categories.map (·.pattern)) e.config.matchThreshold).bind
    fun i => e.corpus.categories[i]?

def answerSimilar (e : Engine) (user input : Text) (draw : Nat) : Option Text × Engine :=
  match e.mostSimilar? input with
  | none => (none, e)
  | some c => e.answerFrom user draw c

def answerPlain (e : Engine) (user input : Text) (draw : Nat) : Text × Engine :=
  match e.answerPattern user input draw with
  | (some reply, e) => (reply, e)
  | (none, e) =>
    match e.answerSimilar user input draw with
    | (some reply, e) => (reply, e)
    | (none, e) => (e.config.defaultResponse, e)

/-- The reply to an input of a user. An input that is too long gets the default response. -/
def reply (e : Engine) (user input : Text) (draw : Nat) : Text × Engine :=
  if e.config.maxInputLength < Text.utf8Length input then (e.config.defaultResponse, e)
  else
    match answerConditional user input e.corpus.conditionals e with
    | (some reply, e) => (reply, e)
    | (none, e) => e.answerPlain user input draw

end ChartDialogue.Engine
