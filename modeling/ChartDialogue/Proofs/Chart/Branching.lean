import ChartDialogue.Proofs.Chart.SideBySide

/-!
Charts that grow by a node at a time. A new node is drawn together with the edge that leads to it
from a node that is there; it comes behind the other nodes and its edge behind the other edges. So
the branches of a node stand in the order in which they were drawn.
-/
namespace ChartDialogue.Chart

/-- A node in brackets at the end of an edge. -/
structure Leaf where
  label : Text
  id : Text
  text : Text
  deriving DecidableEq

namespace Leaf

def node (l : Leaf) : Node :=
  Graph.patternNode (l.id, l.text)

def edge (source : Text) (l : Leaf) : Edge :=
  ⟨source, l.id, l.label⟩

def edits (source : Text) (l : Leaf) : List Edit :=
  [.pattern l.id l.text, .edge source l.id l.label]

end Leaf

/-- All edges to the leaves of a node leave this node. -/
theorem filter_leaves_self (source : Text) (leaves : List Leaf) :
    (leaves.map (Leaf.edge source)).filter (·.source = source) = leaves.map (Leaf.edge source) := by
  refine List.filter_eq_self.mpr fun e he => ?_
  obtain ⟨l, -, rfl⟩ := List.mem_map.mp he
  exact decide_eq_true rfl

theorem filter_leaves_of_ne {source id : Text} (h : source ≠ id) (leaves : List Leaf) :
    (leaves.map (Leaf.edge source)).filter (·.source = id) = [] := by
  refine List.filter_eq_nil_iff.mpr fun e he heq => ?_
  obtain ⟨l, -, rfl⟩ := List.mem_map.mp he
  exact h (of_decide_eq_true heq)

namespace Graph

variable {g : Graph} {source label : Text} {n : Node}

def conditionNode (id : Text) (question : Question) : Node :=
  ⟨id, [], false, some question⟩

theorem defineCondition_of_new {id : Text} (h : ∀ n ∈ g.nodes, n.id ≠ id) (question : Question) :
    g.defineCondition id question = ⟨g.nodes ++ [conditionNode id question], g.edges⟩ :=
  update_of_new h _

/-- The chart with one more node and the edge that leads to it. -/
def grow (g : Graph) (source label : Text) (n : Node) : Graph :=
  ⟨g.nodes ++ [n], g.edges ++ [⟨source, n.id, label⟩]⟩

theorem ids_grow : (g.grow source label n).ids = g.ids ++ [n.id] := by
  unfold ids grow
  rw [List.map_append, List.map_singleton]

theorem closed_grow (hg : g.Closed) (hsource : source ∈ g.ids) :
    (g.grow source label n).Closed := by
  intro e he
  rw [ids_grow]
  rcases List.mem_append.mp he with he | he
  · exact ⟨List.mem_append_left _ (hg e he).1, List.mem_append_left _ (hg e he).2⟩
  · rw [List.mem_singleton.mp he]
    exact ⟨List.mem_append_left _ hsource, List.mem_append_right _ List.mem_cons_self⟩

/-- No edge leads to a new node, so the first one does not replace another. -/
theorem addEdge_grow (hg : g.Closed) (hsource : source ∈ g.ids) (hnew : n.id ∉ g.ids) :
    (⟨g.nodes ++ [n], g.edges⟩ : Graph).addEdge source n.id label = g.grow source label n := by
  have hids : (g.nodes ++ [n]).map Node.id = g.ids ++ [n.id] := by
    rw [List.map_append, List.map_singleton, ids]
  refine addEdge_of_new ?_ ?_ ?_ label
  · rw [hids]
    exact List.mem_append_left _ hsource
  · rw [hids]
    exact List.mem_append_right _ List.mem_cons_self
  · rintro d hd ⟨-, htarget⟩
    exact hnew (htarget ▸ (hg d hd).2)

/-- To draw a leaf at a node of the chart is to let the chart grow by it. -/
theorem foldl_leaf_edits (hg : g.Closed) (hsource : source ∈ g.ids) {l : Leaf}
    (hnew : l.id ∉ g.ids) : (l.edits source).foldl apply g = g.grow source l.label l.node := by
  rw [Leaf.edits, List.foldl_cons, List.foldl_cons, List.foldl_nil, apply,
    definePattern_of_new (not_mem_ids_iff.mp hnew), apply]
  exact addEdge_grow hg hsource hnew

/-- To draw an edge to a new condition node is to let the chart grow by it. -/
theorem foldl_condition_edits (hg : g.Closed) (hsource : source ∈ g.ids) {id : Text}
    (hnew : id ∉ g.ids) (question : Question) :
    [.condition id question, .edge source id label].foldl apply g =
      g.grow source label (conditionNode id question) := by
  rw [List.foldl_cons, List.foldl_cons, List.foldl_nil, apply,
    defineCondition_of_new (not_mem_ids_iff.mp hnew), apply]
  exact addEdge_grow hg hsource hnew

/-- The leaves of a node come in the order in which they are drawn. -/
theorem foldl_leaves (hg : g.Closed) (hsource : source ∈ g.ids) {leaves : List Leaf}
    (hnodup : (leaves.map Leaf.id).Nodup) (hnew : ∀ l ∈ leaves, l.id ∉ g.ids) :
    (leaves.flatMap (Leaf.edits source)).foldl apply g =
      ⟨g.nodes ++ leaves.map Leaf.node, g.edges ++ leaves.map (Leaf.edge source)⟩ := by
  induction leaves generalizing g with
  | nil => simp
  | cons l leaves ih =>
    rw [List.map_cons, List.nodup_cons] at hnodup
    have hfirst := foldl_leaf_edits hg hsource (hnew l List.mem_cons_self)
    have hgrown : source ∈ (g.grow source l.label l.node).ids := by
      rw [ids_grow]
      exact List.mem_append_left _ hsource
    have hlater : ∀ m ∈ leaves, m.id ∉ (g.grow source l.label l.node).ids := by
      intro m hm
      rw [ids_grow, List.mem_append, List.mem_singleton, not_or]
      refine ⟨hnew m (List.mem_cons_of_mem l hm), fun heq => hnodup.1 ?_⟩
      have hid : m.id = l.id := heq
      rw [← hid]
      exact List.mem_map_of_mem hm
    rw [List.flatMap_cons, List.foldl_append, hfirst,
      ih (closed_grow hg hsource) hgrown hnodup.2 hlater, grow, List.append_assoc,
      List.append_assoc]
    rfl

end Graph
end ChartDialogue.Chart
