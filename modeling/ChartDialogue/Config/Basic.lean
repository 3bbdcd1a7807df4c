import ChartDialogue.Corpus.Category

/-!
The engine's configuration: where the corpus is, when an answer counts as close enough, and
what to answer otherwise. A configuration is valid when three conditions hold, and the first
that fails is reported.
-/
namespace ChartDialogue

structure Config where
  corpusPath : Text
  defaultResponse : Text
  /-- The least similarity that the fallback accepts. -/
  matchThreshold : Nat
  /-- Inputs of more bytes are not looked at. -/
  maxInputLength : Nat
  selection : Selection
  deriving DecidableEq

namespace Config

def default : Config where
  corpusPath := "./corpus".toList
  defaultResponse := "Sorry, I didn't understand that.".toList
  matchThreshold := 70
  maxInputLength := 10000
  selection := .random

inductive Fault where
  | emptyCorpusPath
  | emptyDefaultResponse
  | thresholdTooGreat (threshold : Nat)
  deriving DecidableEq

def Fault.message : Fault → Text
  | emptyCorpusPath => "invalid config: corpus_path must not be empty".toList
  | emptyDefaultResponse => "invalid config: default_response must not be empty".toList
  | thresholdTooGreat threshold =>
    "invalid config: match_threshold must be within 0..=100, got ".toList
      ++ Nat.toDigits 10 threshold

def fault? (c : Config) : Option Fault :=
  if c.corpusPath.isEmpty then some .emptyCorpusPath
  else if c.defaultResponse.isEmpty then some .emptyDefaultResponse
  else if 100 < c.matchThreshold then some (.thresholdTooGreat c.matchThreshold)
  else none

def thresholdBound : Nat := UInt32.size - 1

def lengthBound : Nat := UInt64.size - 1

def fieldNames : List Text :=
  ["corpus_path".toList, "default_response".toList, "match_threshold".toList,
   "max_input_length".toList, "response_selection".toList]

def selection? (name : Text) : Option Selection :=
  if name = "random".toList then some .random
  else if name = "first".toList then some .first
  else none

/-- How the values of a kind of document are read. -/
structure Reader (ν : Type) where
  text? : ν → Option Text
  natural? : (bound : Nat) → ν → Option Nat
  /-- The name of a value without content. -/
  tag? : ν → Option Text

/-- A field that may be missing. A field that is there must be readable. -/
def readOr {ν α : Type} (read : ν → Option α) (otherwise : α) : Option ν → Option α
  | none => some otherwise
  | some v => read v

/-- The configuration with the given fields, in the order of their names. A missing field keeps
its default. -/
def ofFields? {ν : Type} (r : Reader ν) : List (Option ν) → Option Config
  | [path, response, threshold, length, selection] => do
    let path ← readOr r.text? default.corpusPath path
    let response ← readOr r.text? default.defaultResponse response
    let threshold ← readOr (r.natural? thresholdBound) default.matchThreshold threshold
    let length ← readOr (r.natural? lengthBound) default.maxInputLength length
    let selection ← readOr (fun v => (r.tag? v).bind selection?) default.selection selection
    return ⟨path, response, threshold, length, selection⟩
  | _ => none

end Config
end ChartDialogue
