import ChartDialogue.Text.Basic

/-!
The graph of a flowchart. Nodes stand in the order in which they are first mentioned, edges
in the order in which they are first drawn. A graph is built by a list of edits.
-/
namespace ChartDialogue.Chart

/-- What a condition node asks for: the keyword as written, and a key of the user's state. -/
structure Question where
  keyword : Text
  name : Text
  deriving DecidableEq

structure Node where
  id : Text
  /-- The text of a pattern or a response; empty until one is given. -/
  text : Text
  /-- Whether the node was defined in brackets. -/
  isPattern : Bool
  /-- The question of a node that was defined as a condition. -/
  question : Option Question
  deriving DecidableEq

namespace Node

/-- A node that is only mentioned. -/
def placeholder (id : Text) : Node :=
  ⟨id, [], false, none⟩

def isCondition (n : Node) : Bool :=
  n.question.isSome

end Node

/-- An edge without a label is unconditional. -/
structure Edge where
  source : Text
  target : Text
  label : Text
  deriving DecidableEq

/-- One step in building a graph. -/
inductive Edit where
  | mention (id : Text)
  | setText (id text : Text)
  | pattern (id text : Text)
  | condition (id : Text) (question : Question)
  | edge (source target label : Text)
  deriving DecidableEq

structure Graph where
  nodes : List Node
  edges : List Edge
  deriving DecidableEq

namespace Graph

def empty : Graph := ⟨[], []⟩

def isEmpty (g : Graph) : Bool :=
  g.nodes.isEmpty

def nodeCount (g : Graph) : Nat :=
  g.nodes.length

def edgeCount (g : Graph) : Nat :=
  g.edges.length

def node? (g : Graph) (id : Text) : Option Node :=
  g.nodes.find? (·.id = id)

def mention (g : Graph) (id : Text) : Graph :=
  if g.nodes.any (·.id = id) then g else { g with nodes := g.nodes ++ [Node.placeholder id] }

def update (g : Graph) (id : Text) (f : Node → Node) : Graph :=
  { g.mention id with
    nodes := (g.mention id).nodes.map fun n => if n.id = id then f n else n }

/-- Give a node its text. An empty text leaves what was there. -/
def setText (g : Graph) (id text : Text) : Graph :=
  g.update id fun n => if text.isEmpty then n else { n with text := text }

def definePattern (g : Graph) (id text : Text) : Graph :=
  (g.setText id text).update id fun n => { n with isPattern := true }

def defineCondition (g : Graph) (id : Text) (question : Question) : Graph :=
  g.update id fun n => { n with question := some question }

/-- Add an edge at the end, or give a new label to the one that joins the same nodes. -/
def drawEdge (e : Edge) : List Edge → List Edge
  | [] => [e]
  | d :: rest =>
    if d.source = e.source ∧ d.target = e.target then e :: rest else d :: drawEdge e rest

def addEdge (g : Graph) (source target label : Text) : Graph :=
  let g := (g.mention source).mention target
  { g with edges := drawEdge ⟨source, target, label⟩ g.edges }

def apply (g : Graph) : Edit → Graph
  | .mention id => g.mention id
  | .setText id text => g.setText id text
  | .pattern id text => g.definePattern id text
  | .condition id question => g.defineCondition id question
  | .edge source target label => g.addEdge source target label

def ofEdits (edits : List Edit) : Graph :=
  edits.foldl apply empty

def outgoing (g : Graph) (id : Text) : List Edge :=
  g.edges.filter (·.source = id)

def edgeLabel? (g : Graph) (source target : Text) : Option Text :=
  ((g.outgoing source).find? (·.target = target)).map (·.label)

/-- The nodes that some edge leaves and none enters. -/
def startNodes (g : Graph) : List Node :=
  g.nodes.filter fun n => !(g.edges.any (·.target = n.id)) && g.edges.any (·.source = n.id)

end Graph
end ChartDialogue.Chart
