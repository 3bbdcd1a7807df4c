import ChartDialogue.Config.Load
import ChartDialogue.Corpus.Load
import ChartDialogue.Matching.Request
import ChartDialogue.Users.State

/-!
The state of a dialogue engine: its configuration, the corpus that it answers from, the matcher
with its cache, and the states of its users. An engine is started over a corpus or over the
corpus folder of a configuration, and can read that folder again.
-/
namespace ChartDialogue

open Matching

structure Engine where
  config : Config
  corpus : Corpus
  matcher : Matcher
  users : Users

namespace Engine

def new (config : Config) (corpus : Corpus) : Engine :=
  ⟨config, corpus, Matcher.empty, Users.empty⟩

inductive StartError where
  | config (cause : Config.LoadError)
  | corpus (cause : Corpus.LoadError)
  deriving DecidableEq

def StartError.message : StartError → Text
  | config cause => "configuration error: ".toList ++ cause.message
  | corpus cause => cause.message

/-- An engine over the corpus folder of a configuration, which must be valid. -/
def start (disk : Files.Disk) (config : Config) : Except StartError Engine :=
  match config.validate with
  | .error cause => .error (.config cause)
  | .ok _ =>
    match Corpus.loadFolder disk config.corpusPath with
    | .error cause => .error (.corpus cause)
    | .ok corpus => .ok (new config corpus)

/-- Read the corpus folder again and forget the cached programs. -/
def reload (e : Engine) (disk : Files.Disk) : Except Corpus.LoadError Engine :=
  (Corpus.loadFolder disk e.config.corpusPath).map fun corpus =>
    { e with corpus := corpus, matcher := Matcher.empty }

def clearCache (e : Engine) : Engine :=
  { e with matcher := Matcher.empty }

end Engine
end ChartDialogue
