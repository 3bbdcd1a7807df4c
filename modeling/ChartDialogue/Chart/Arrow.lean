import ChartDialogue.Chart.Definition

/-!
Edges inside a line. An arrow is written `a --> b` or `a -->|label| b`; its source may carry a
definition in brackets or braces, which the arrow passes over. The leftmost arrow with a label
counts, and in a line without one the leftmost arrow.
-/
namespace ChartDialogue.Chart

open Text

/-- The edge of a line, and the text in which the line defines nodes. -/
structure Arrow where
  source : Text
  target : Text
  label : Text
  definitions : Text
  deriving DecidableEq

/-- An arrow from its shaft on: the label as written, the target, and what follows the label. -/
structure Ending where
  label : Text
  target : Text
  rest : Text
  deriving DecidableEq

def shaft : Text := "-->".toList

def afterDefinition : Text → List Text
  | '[' :: s => ((quoted? s).map Prod.snd).toList ++ ((unquoted? s).map Prod.snd).toList
  | '{' :: s => ((upTo? '}' s).map Prod.snd).toList
  | s => [s]

def afterShaft? (s : Text) : Option Text :=
  (expect? shaft (dropBlanks s)).map dropBlanks

def labelledEnding? (s : Text) : Option Ending := do
  let s ← afterShaft? s
  let s ← expect? ['|'] s
  let (label, s) ← upTo? '|' s
  let (target, _) ← identifier? (dropBlanks s)
  return ⟨label, target, s⟩

def plainEnding? (s : Text) : Option Ending := do
  let s ← afterShaft? s
  let (target, s) ← identifier? s
  return ⟨[], target, s⟩

/-- The source of an arrow at the beginning of a text, and its ending. -/
def arrowAt? (ending? : Text → Option Ending) (s : Text) : Option (Text × Ending) := do
  let (source, s) ← identifier? s
  let ending ← (afterDefinition s).findSome? ending?
  return (source, ending)

/-- The leftmost arrow with a label. The label and its bars are cut out of the definitions. -/
def labelledArrow? (line : Text) : Option Arrow :=
  (firstMatch? (arrowAt? labelledEnding?) line).map fun (source, e) =>
    let before := line.take (line.length - (e.label.length + e.rest.length + 2))
    ⟨source, e.target, trim e.label, before ++ ' ' :: e.rest⟩

/-- The leftmost arrow that has its target right after the shaft. -/
def plainArrow? (line : Text) : Option Arrow :=
  (firstMatch? (arrowAt? plainEnding?) line).map fun (source, e) => ⟨source, e.target, [], line⟩

def arrow? (line : Text) : Option Arrow :=
  (labelledArrow? line).or (plainArrow? line)

end ChartDialogue.Chart
