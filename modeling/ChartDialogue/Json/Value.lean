import ChartDialogue.Dict
import ChartDialogue.Text.Basic

/-!
JSON values, and reading the fields of a record from one. A record is an object with its fields
in any order, or an array of the fields in their declared order.
-/
namespace ChartDialogue

/-- A JSON value. A string whose escapes form no text, because of a lone surrogate, is `none`;
a number keeps its literal. -/
inductive Json where
  | null
  | boolean (b : Bool)
  | number (literal : Text)
  | string (text : Option Text)
  | array (items : List Json)
  | object (members : List (Option Text × Json))

namespace Json

def ofText (s : Text) : Json :=
  string (some s)

def record (members : List (Text × Json)) : Json :=
  object (members.map fun m => (some m.1, m.2))

def text? : Json → Option Text
  | string s => s
  | _ => none

def boolean? : Json → Option Bool
  | boolean b => some b
  | _ => none

def list? {α : Type} (f : Json → Option α) : Json → Option (List α)
  | array items => items.mapM f
  | _ => none

/-- A number without sign, fraction and exponent that does not exceed `bound`. -/
def natural? (bound : Nat) : Json → Option Nat
  | number literal =>
    if literal.all Char.isDigit then
      let n := literal.foldl (fun n c => 10 * n + (c.toNat - '0'.toNat)) 0
      if n ≤ bound then some n else none
    else none
  | _ => none

def namedText? (m : Option Text × Json) : Option (Text × Text) :=
  m.1.bind fun name => m.2.text?.map fun s => (name, s)

/-- The texts of an object whose members are all strings; of equal names the last one counts. -/
def texts? : Json → Option (Dict Text Text)
  | object members => (members.mapM namedText?).map Dict.ofList
  | _ => none

def ofTexts (d : Dict Text Text) : Json :=
  record (d.entries.map fun e => (e.1, ofText e.2))

/-- The name of a value without content: a string, or an object with that one name and null. -/
def tag? : Json → Option Text
  | string s => s
  | object [(name, null)] => name
  | _ => none

/-- The value of a member that may be missing but not doubled. -/
def member? (members : List (Option Text × Json)) (name : Text) : Option (Option Json) :=
  match members.filter (·.1 = some name) with
  | [] => some none
  | [m] => some (some m.2)
  | _ => none

/-- The fields of a record, `none` for one that is missing. Members with other names do not
count; an array may leave out fields at its end. -/
def fields? (names : List Text) : Json → Option (List (Option Json))
  | object members =>
    if members.all (·.1.isSome) then names.mapM (member? members) else none
  | array items =>
    if items.length ≤ names.length
    then some (items.map some ++ List.replicate (names.length - items.length) none)
    else none
  | _ => none

end Json
end ChartDialogue
