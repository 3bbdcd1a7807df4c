import ChartDialogue.Chart.Line
import ChartDialogue.Corpus.Category

/-!
Compiling a flowchart to a corpus. A start node becomes a plain category that answers with the
texts of its direct successors. A pattern node that leads to condition nodes becomes a
conditional category with one branch for each edge that leaves such a node.
-/
namespace ChartDialogue

open Chart

namespace Corpus

def targets (g : Graph) (id : Text) : List Node :=
  (g.outgoing id).filterMap fun e => g.node? e.target

def templates (g : Graph) (id : Text) : List Text :=
  ((targets g id).filter fun n => !n.isCondition && !n.text.isEmpty).map (·.text)

/-- The plain category of a start node, if it has a text and an answer. -/
def category? (g : Graph) (sourceFile : Text) (start : Node) : Option Category :=
  if start.text.isEmpty || (templates g start.id).isEmpty then none
  else some ⟨start.text, templates g start.id, sourceFile⟩

/-- The branch of an edge that leaves a condition node. An unknown keyword asks for a predicate. -/
def branch (g : Graph) (question : Question) (e : Edge) : Branch where
  condition :=
    { kind := (ConditionKind.ofKeyword? question.keyword).getD .predicateValue
      name := question.name
      value := e.label
      isDefault := e.label = defaultLabel }
  response := ((g.node? e.target).map (·.text)).getD []

def nodeBranches (g : Graph) (n : Node) : List Branch :=
  match n.question with
  | none => []
  | some question => (g.outgoing n.id).map (branch g question)

def conditional? (g : Graph) (n : Node) : Option ConditionalCategory :=
  let branches := (targets g n.id).flatMap (nodeBranches g)
  if n.isPattern && !branches.isEmpty then some ⟨n.text, branches⟩ else none

def compile (g : Graph) (sourceFile : Text) : Corpus where
  categories := g.startNodes.filterMap (category? g sourceFile)
  conditionals := g.nodes.filterMap (conditional? g)

def ofText (text sourceFile : Text) : Corpus :=
  compile (Graph.ofText text) sourceFile

end Corpus
end ChartDialogue
