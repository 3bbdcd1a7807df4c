import ChartDialogue.Engine.Reply

/-!
Everything that can be asked of a running engine. A request gives an answer and the engine as
it is afterwards, and a list of requests is served one after another.
-/
namespace ChartDialogue.Engine

inductive Request where
  /-- An input of a user; a random pick of a template falls where `draw` says. -/
  | say (user input : Text) (draw : Nat)
  | resolve (user : Text) (category : ConditionalCategory)
  | users (user : Text) (request : Users.Request)
  | corpus (request : Corpus.Request)
  | reload (disk : Files.Disk)
  | clearCache

inductive Answer where
  | reply (text : Text)
  | users (answer : Users.Answer)
  | corpus (answer : Corpus.Answer)
  | done
  | failed (cause : Corpus.LoadError)
  deriving DecidableEq

/-- Answer a request. A reload that fails leaves the engine as it is. -/
def serve (e : Engine) : Request → Answer × Engine
  | .say user input draw =>
    let (text, e) := e.reply user input draw
    (.reply text, e)
  | .resolve user category =>
    let (text, e) := e.resolve user category
    (.reply text, e)
  | .users user request =>
    let (answer, users) := e.users.serve user request
    (.users answer, { e with users := users })
  | .corpus request =>
    let (answer, corpus) := e.corpus.serve request
    (.corpus answer, { e with corpus := corpus })
  | .reload disk =>
    match e.reload disk with
    | .ok e => (.done, e)
    | .error cause => (.failed cause, e)
  | .clearCache => (.done, e.clearCache)

def run (e : Engine) : List Request → List Answer × Engine
  | [] => ([], e)
  | request :: rest =>
    let (answer, e) := e.serve request
    let (answers, e) := e.run rest
    (answer :: answers, e)

end ChartDialogue.Engine
