import ChartDialogue.Config.Basic
import ChartDialogue.Files.Disk
import ChartDialogue.Json.Parser
import ChartDialogue.Toml.Parser

/-!
Configurations in JSON and TOML documents, and in files. A file whose name ends in `.json` is
read as JSON and any other as TOML.
-/
namespace ChartDialogue.Config

def jsonReader : Reader Json :=
  ⟨Json.text?, Json.natural?, Json.tag?⟩

def ofJson? (document : Text) : Option Config := do
  let json ← Json.parse? document
  let fields ← json.fields? fieldNames
  ofFields? jsonReader fields

open Toml in
def tomlText? : Value → Option Text
  | .text s => some s
  | _ => none

open Toml in
def tomlNatural? (bound : Nat) : Value → Option Nat
  | .integer n => if 0 ≤ n ∧ n.toNat ≤ bound then some n.toNat else none
  | _ => none

open Toml in
/-- The name of a value without content: a string, or a table with that one name and an empty
table or array. -/
def tomlTag? : Value → Option Text
  | .text s => some s
  | .table _ [(name, .table _ [])] => some name
  | .table _ [(name, .array [])] => some name
  | _ => none

def tomlReader : Reader Toml.Value :=
  ⟨tomlText?, tomlNatural?, tomlTag?⟩

def ofToml? (document : Text) : Option Config := do
  let entries ← Toml.parse? document
  ofFields? tomlReader (fieldNames.map fun name => entries.lookup name)

inductive LoadError where
  | unreadable (path : Text) (cause : Files.ReadError)
  | malformedToml
  | malformedJson
  | invalid (fault : Fault)
  deriving DecidableEq

def LoadError.message : LoadError → Text
  | unreadable path cause =>
    "failed to read config ".toList ++ path ++ ": ".toList ++ cause.message
  | malformedToml => "invalid TOML config".toList
  | malformedJson => "invalid JSON config".toList
  | invalid fault => fault.message

def validate (c : Config) : Except LoadError Config :=
  match c.fault? with
  | some fault => .error (.invalid fault)
  | none => .ok c

/-- The configuration in a document of the kind that the name of its file tells. -/
def ofDocument (name document : Text) : Except LoadError Config :=
  if Files.hasExtension name "json".toList then
    (ofJson? document).elim (.error .malformedJson) .ok
  else (ofToml? document).elim (.error .malformedToml) .ok

def load (disk : Files.Disk) (path : Text) : Except LoadError Config :=
  match disk.readText path with
  | .error cause => .error (.unreadable path cause)
  | .ok document => (ofDocument (Files.fileName path) document).bind validate

end ChartDialogue.Config
