import ChartDialogue.Chart.Arrow

/-!
Lines of a flowchart. A line is told by how it begins or by what it is as a whole, and the
first of these that applies counts; a line that is nothing but one definition is a node line
even when its text contains an arrow.
-/
namespace ChartDialogue.Chart

open Text

inductive LineKind where
  | comment
  | blank
  | declaration
  | edge
  | patternNode
  | conditionNode
  | unrecognized
  deriving DecidableEq

def startsWith (lead s : Text) : Bool :=
  (expect? lead s).isSome

def isWhole {α : Type} : Option (α × Text) → Bool
  | some (_, []) => true
  | _ => false

def classify (line : Text) : LineKind :=
  if startsWith "%%".toList line then .comment
  else if line.isEmpty then .blank
  else if startsWith "flowchart".toList line || startsWith "graph".toList line then .declaration
  else if isWhole (patternNode? line) then .patternNode
  else if isWhole (conditionNode? line) then .conditionNode
  else if occursIn shaft line then .edge
  else .unrecognized

/-- What an arrow's line does: the nodes it defines come before its edge. -/
def Arrow.edits (a : Arrow) : List Edit :=
  patternEdits a.definitions ++ conditionEdits a.definitions ++ [.edge a.source a.target a.label]

/-- What one line of a flowchart's body does. A line that cannot be read does nothing. -/
def lineEdits (line : Text) : List Edit :=
  match classify line with
  | .edge => ((arrow? line).map Arrow.edits).getD []
  | .patternNode => patternEdits line
  | .conditionNode => conditionEdits line
  | _ => []

/-- The lines of a text, without the blanks around them. -/
def lines (text : Text) : List Text :=
  (split (· == '\n') text).map trim

/-- The lines from the first declaration on. What stands before it is not part of the chart. -/
def body (text : Text) : List Text :=
  (lines text).dropWhile fun line => classify line ≠ .declaration

def edits (text : Text) : List Edit :=
  (body text).flatMap lineEdits

def Graph.ofText (text : Text) : Graph :=
  Graph.ofEdits (edits text)

end ChartDialogue.Chart
