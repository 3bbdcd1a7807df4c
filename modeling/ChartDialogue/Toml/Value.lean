import ChartDialogue.Dict
import ChartDialogue.Text.Basic

/-!
TOML values, and putting entries into nested tables. How a table came into being decides what
may still be added to it: a header may complete a table that only other headers mentioned, a
dotted key may extend a table that only dotted keys made, and an inline table is closed.
-/
namespace ChartDialogue.Toml

inductive Origin where
  /-- As part of the path of a header. -/
  | mentioned
  /-- As part of a dotted key. -/
  | dotted
  /-- By a header of its own. -/
  | header
  /-- In braces. -/
  | inline
  deriving DecidableEq

/-- A TOML value. Fractional numbers and dates keep their literals. -/
inductive Value where
  | text (s : Text)
  | integer (n : Int)
  | float (literal : Text)
  | boolean (b : Bool)
  | date (literal : Text)
  | array (items : List Value)
  | table (origin : Origin) (entries : List (Text × Value))
  /-- The tables of headers in double brackets. -/
  | tables (members : List (List (Text × Value)))

/-- The entries of a table, each key once. -/
abbrev Entries := List (Text × Value)

def add? (key : Text) (value : Value) (entries : Entries) : Option Entries :=
  if (entries.lookup key).isSome then none else some (entries ++ [(key, value)])

/-- Put a value under a dotted key. The key before the last dot must lead to a table that
dotted keys made, or stand alone, as `isOpen` says of the table at hand. -/
def addDotted? (value : Value) : (isOpen : Bool) → (path : List Text) → Entries → Option Entries
  | _, [], _ => none
  | isOpen, [key], entries => if isOpen then add? key value entries else none
  | _, key :: path, entries =>
    match entries.lookup key with
    | none => do
      let inner ← addDotted? value true path []
      add? key (.table .dotted inner) entries
    | some (.table .dotted inner) => do
      let inner ← addDotted? value true path inner
      return Dict.setIn key (.table .dotted inner) entries
    | some (.table .mentioned inner) => do
      let inner ← addDotted? value false path inner
      return Dict.setIn key (.table .mentioned inner) entries
    | some (.tables members) => do
      let inner ← addDotted? value false path (members.getLast?.getD [])
      return Dict.setIn key (.tables (members.dropLast ++ [inner])) entries
    | some _ => none

def addAll? (pairs : List (List Text × Value)) (entries : Entries) : Option Entries :=
  pairs.foldlM (fun entries p => addDotted? p.2 true p.1 entries) entries

/-- What a header does to the place that it names. -/
def openHeader? (isMember : Bool) (pairs : List (List Text × Value)) :
    Option Value → Option Value
  | none => do
    let inner ← addAll? pairs []
    return if isMember then .tables [inner] else .table .header inner
  | some (.table .mentioned entries) => do
    if isMember then none
    let inner ← addAll? pairs entries
    return .table .header inner
  | some (.tables members) => do
    if !isMember then none
    let inner ← addAll? pairs []
    return .tables (members ++ [inner])
  | some _ => none

def addSection? (isMember : Bool) (pairs : List (List Text × Value)) :
    (path : List Text) → Entries → Option Entries
  | [], _ => none
  | [key], entries => do
    let value ← openHeader? isMember pairs (entries.lookup key)
    return Dict.setIn key value entries
  | key :: path, entries =>
    match entries.lookup key with
    | none => do
      let inner ← addSection? isMember pairs path []
      return Dict.setIn key (.table .mentioned inner) entries
    | some (.table .inline _) => none
    | some (.table origin inner) => do
      let inner ← addSection? isMember pairs path inner
      return Dict.setIn key (.table origin inner) entries
    | some (.tables members) => do
      let inner ← addSection? isMember pairs path (members.getLast?.getD [])
      return Dict.setIn key (.tables (members.dropLast ++ [inner])) entries
    | some _ => none

structure Section where
  path : List Text
  /-- Whether the header is in double brackets. -/
  isMember : Bool
  pairs : List (List Text × Value)

def assemble? (top : List (List Text × Value)) (sections : List Section) : Option Entries := do
  let entries ← addAll? top []
  sections.foldlM (fun entries s => addSection? s.isMember s.pairs s.path entries) entries

end ChartDialogue.Toml
