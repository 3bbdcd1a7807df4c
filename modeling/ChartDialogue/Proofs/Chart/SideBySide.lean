import ChartDialogue.Proofs.Chart.Drawing
import Mathlib.Data.List.Basic
import Mathlib.Tactic.SplitIfs

/-!
Charts next to each other. Edits that mention no node of a chart leave it as it is and build
another chart behind it, so edits over two sets of names build two charts side by side. Each of
them is a part of the whole: its nodes are found there with the edges that leave and enter them.
-/
namespace ChartDialogue.Chart

def Edit.names : Edit → List Text
  | .mention id => [id]
  | .setText id _ => [id]
  | .pattern id _ => [id]
  | .condition id _ => [id]
  | .edge source target _ => [source, target]

namespace Graph

variable {g h k : Graph} {id : Text} {f : Node → Node}

def ids (g : Graph) : List Text :=
  g.nodes.map Node.id

/-- Every edge joins nodes of the chart. -/
def Closed (g : Graph) : Prop :=
  ∀ e ∈ g.edges, e.source ∈ g.ids ∧ e.target ∈ g.ids

/-- The nodes and edges of one chart, and behind them those of another. -/
def beside (g h : Graph) : Graph :=
  ⟨g.nodes ++ h.nodes, g.edges ++ h.edges⟩

theorem mem_ids_of_mem {n : Node} (hn : n ∈ g.nodes) : n.id ∈ g.ids :=
  List.mem_map_of_mem hn

theorem not_mem_ids_iff : id ∉ g.ids ↔ ∀ n ∈ g.nodes, n.id ≠ id := by
  simp only [ids, List.mem_map, not_exists, not_and, ne_eq]

theorem mem_ids_mention {i : Text} : i ∈ (g.mention id).ids ↔ i ∈ g.ids ∨ i = id := by
  by_cases hid : id ∈ g.ids
  · obtain ⟨n, hn, rfl⟩ := List.mem_map.mp hid
    rw [mention_of_mem hn, or_iff_left_of_imp fun hi => hi ▸ hid]
  · rw [mention_of_new (not_mem_ids_iff.mp hid), ids, List.map_append, List.mem_append]
    exact or_congr Iff.rfl List.mem_singleton

theorem ids_update (hf : ∀ n, (f n).id = n.id) : (g.update id f).ids = (g.mention id).ids := by
  unfold ids update
  rw [List.map_map]
  refine List.map_congr_left fun n _ => ?_
  rw [Function.comp_apply]
  split_ifs
  · exact hf n
  · rfl

theorem ids_setText (g : Graph) (id text : Text) : (g.setText id text).ids = (g.mention id).ids :=
  ids_update fun n => by split_ifs <;> rfl

theorem ids_definePattern (g : Graph) (id text : Text) :
    (g.definePattern id text).ids = ((g.setText id text).mention id).ids :=
  ids_update fun _ => rfl

theorem ids_defineCondition (g : Graph) (id : Text) (question : Question) :
    (g.defineCondition id question).ids = (g.mention id).ids :=
  ids_update fun _ => rfl

/-- An edit adds the names that it mentions. -/
theorem mem_ids_apply {i : Text} (e : Edit) : i ∈ (g.apply e).ids ↔ i ∈ g.ids ∨ i ∈ e.names := by
  cases e with
  | mention id => rw [apply, mem_ids_mention, Edit.names, List.mem_singleton]
  | setText id text => rw [apply, ids_setText, mem_ids_mention, Edit.names, List.mem_singleton]
  | pattern id text =>
    rw [apply, ids_definePattern, mem_ids_mention, ids_setText, mem_ids_mention, Edit.names,
      List.mem_singleton, or_assoc, or_self]
  | condition id question =>
    rw [apply, ids_defineCondition, mem_ids_mention, Edit.names, List.mem_singleton]
  | edge source target label =>
    have hids : (g.addEdge source target label).ids = ((g.mention source).mention target).ids := rfl
    rw [apply, hids, mem_ids_mention, mem_ids_mention, Edit.names, List.mem_cons,
      List.mem_singleton, or_assoc]

theorem mem_ids_foldl {i : Text} (edits : List Edit) :
    i ∈ (edits.foldl apply g).ids ↔ i ∈ g.ids ∨ ∃ e ∈ edits, i ∈ e.names := by
  induction edits generalizing g with
  | nil => simp
  | cons e edits ih =>
    rw [List.foldl_cons, ih, mem_ids_apply, List.exists_mem_cons_iff, or_assoc]

/-- A chart has the nodes that its edits mention. -/
theorem mem_ids_ofEdits {i : Text} (edits : List Edit) :
    i ∈ (ofEdits edits).ids ↔ ∃ e ∈ edits, i ∈ e.names := by
  rw [ofEdits, mem_ids_foldl]
  exact or_iff_right List.not_mem_nil

theorem mem_drawEdge {d e : Edge} {edges : List Edge} (hd : d ∈ drawEdge e edges) :
    d = e ∨ d ∈ edges := by
  induction edges with
  | nil => exact Or.inl (List.mem_singleton.mp hd)
  | cons first edges ih =>
    unfold drawEdge at hd
    split_ifs at hd
    · rcases List.mem_cons.mp hd with rfl | hd
      · exact Or.inl rfl
      · exact Or.inr (List.mem_cons_of_mem first hd)
    · rcases List.mem_cons.mp hd with rfl | hd
      · exact Or.inr List.mem_cons_self
      · exact (ih hd).imp id (List.mem_cons_of_mem first)

theorem edges_mention (g : Graph) (id : Text) : (g.mention id).edges = g.edges := by
  unfold mention
  split_ifs <;> rfl

/-- An edit draws at most the edge between the nodes that it mentions. -/
theorem mem_edges_apply {e : Edit} {d : Edge} (hd : d ∈ (g.apply e).edges) :
    d ∈ g.edges ∨ d.source ∈ e.names ∧ d.target ∈ e.names := by
  cases e with
  | mention id => exact Or.inl (edges_mention g id ▸ hd)
  | setText id text => exact Or.inl (edges_mention g id ▸ hd)
  | pattern id text =>
    have hedges : (g.apply (.pattern id text)).edges = g.edges :=
      (edges_mention (g.setText id text) id).trans (edges_mention g id)
    exact Or.inl (hedges ▸ hd)
  | condition id question => exact Or.inl (edges_mention g id ▸ hd)
  | edge source target label =>
    rcases mem_drawEdge hd with rfl | hd
    · exact Or.inr ⟨List.mem_cons_self, List.mem_cons_of_mem _ List.mem_cons_self⟩
    · rw [edges_mention, edges_mention] at hd
      exact Or.inl hd

theorem closed_apply (hg : g.Closed) (e : Edit) : (g.apply e).Closed := by
  intro d hd
  rw [mem_ids_apply, mem_ids_apply]
  rcases mem_edges_apply hd with hd | ⟨hsource, htarget⟩
  · exact ⟨Or.inl (hg d hd).1, Or.inl (hg d hd).2⟩
  · exact ⟨Or.inr hsource, Or.inr htarget⟩

theorem closed_foldl (hg : g.Closed) (edits : List Edit) : (edits.foldl apply g).Closed := by
  induction edits generalizing g with
  | nil => exact hg
  | cons e edits ih => exact ih (closed_apply hg e)

/-- An edit mentions both ends of the edge that it draws, so no edge leads out of the chart. -/
theorem closed_ofEdits (edits : List Edit) : (ofEdits edits).Closed :=
  closed_foldl (fun _ he => absurd he List.not_mem_nil) edits

theorem beside_mention (hid : id ∉ g.ids) : (g.beside h).mention id = g.beside (h.mention id) := by
  have hleft := any_eq_false_iff.mpr (not_mem_ids_iff.mp hid)
  unfold mention beside
  rw [List.any_append, hleft, Bool.false_or]
  split_ifs
  · rfl
  · rw [List.append_assoc]

theorem beside_update (hid : id ∉ g.ids) (f : Node → Node) :
    (g.beside h).update id f = g.beside (h.update id f) := by
  have hleft : g.nodes.map (fun n => if n.id = id then f n else n) = g.nodes.map fun n => n :=
    List.map_congr_left fun n hn => if_neg (not_mem_ids_iff.mp hid n hn)
  unfold update
  rw [beside_mention hid]
  unfold beside
  rw [List.map_append, hleft, List.map_id']

/-- An edge from a node that no edge leaves comes behind the edges that are there. -/
theorem drawEdge_append {e : Edge} {edges : List Edge} (hnew : ∀ d ∈ edges, d.source ≠ e.source)
    (more : List Edge) : drawEdge e (edges ++ more) = edges ++ drawEdge e more := by
  induction edges with
  | nil => rfl
  | cons d edges ih =>
    have hd : ¬(d.source = e.source ∧ d.target = e.target) :=
      fun hjoin => hnew d List.mem_cons_self hjoin.1
    rw [List.cons_append, drawEdge, if_neg hd, ih fun d' hd' => hnew d' (List.mem_cons_of_mem d hd')]
    rfl

/-- An edit that mentions no node of a chart works on what is next to it. -/
theorem beside_apply (hg : g.Closed) {e : Edit} (hnames : ∀ id ∈ e.names, id ∉ g.ids) :
    (g.beside h).apply e = g.beside (h.apply e) := by
  cases e with
  | mention id => exact beside_mention (hnames id List.mem_cons_self)
  | setText id text => exact beside_update (hnames id List.mem_cons_self) _
  | pattern id text =>
    have hid := hnames id List.mem_cons_self
    rw [apply, definePattern, setText, beside_update hid, beside_update hid]
    rfl
  | condition id question => exact beside_update (hnames id List.mem_cons_self) _
  | edge source target label =>
    have hsource := hnames source List.mem_cons_self
    have htarget := hnames target (List.mem_cons_of_mem _ List.mem_cons_self)
    have hnew : ∀ d ∈ g.edges, d.source ≠ source := by
      intro d hd heq
      exact hsource (heq ▸ (hg d hd).1)
    have hdraw := drawEdge_append (e := ⟨source, target, label⟩) hnew h.edges
    rw [apply, apply, addEdge, addEdge, beside_mention hsource, beside_mention htarget]
    dsimp only [beside]
    rw [edges_mention, edges_mention, hdraw]

/-- Edits over two sets of names build two charts side by side. -/
theorem ofEdits_append {edits more : List Edit}
    (hids : List.Disjoint (ofEdits edits).ids (ofEdits more).ids) :
    ofEdits (edits ++ more) = (ofEdits edits).beside (ofEdits more) := by
  have hnew : ∀ e ∈ more, ∀ id ∈ e.names, id ∉ (ofEdits edits).ids := by
    intro e he id hid hmem
    exact hids hmem ((mem_ids_ofEdits more).mpr ⟨e, he, hid⟩)
  have hclosed := closed_ofEdits edits
  have hrun : ∀ h, more.foldl apply ((ofEdits edits).beside h) =
      (ofEdits edits).beside (more.foldl apply h) := by
    clear hids
    induction more with
    | nil => exact fun _ => rfl
    | cons e more ih =>
      intro h
      have hrest := ih fun d hd => hnew d (List.mem_cons_of_mem e hd)
      rw [List.foldl_cons, List.foldl_cons, beside_apply hclosed (hnew e List.mem_cons_self), hrest]
  have hempty : (ofEdits edits).beside empty = ofEdits edits := by
    unfold beside empty
    rw [List.append_nil, List.append_nil]
  have hmore := hrun empty
  rw [hempty] at hmore
  rw [ofEdits, List.foldl_append]
  exact hmore

/-- The nodes of a chart are found in another with the same edges leaving and entering them. -/
structure IsPart (g k : Graph) : Prop where
  node? : ∀ id ∈ g.ids, k.node? id = g.node? id
  outgoing : ∀ id ∈ g.ids, k.outgoing id = g.outgoing id
  entered : ∀ id ∈ g.ids, k.edges.any (·.target = id) = g.edges.any (·.target = id)

theorem node?_eq_none (hid : id ∉ g.ids) : g.node? id = none :=
  List.find?_eq_none.mpr fun n hn heq => not_mem_ids_iff.mp hid n hn (of_decide_eq_true heq)

theorem Closed.outgoing_eq_nil (hg : g.Closed) (hid : id ∉ g.ids) : g.outgoing id = [] :=
  List.filter_eq_nil_iff.mpr fun e he heq => hid (of_decide_eq_true heq ▸ (hg e he).1)

theorem Closed.not_entered (hg : g.Closed) (hid : id ∉ g.ids) :
    g.edges.any (·.target = id) = false :=
  List.any_eq_false.mpr fun e he heq => hid (of_decide_eq_true heq ▸ (hg e he).2)

/-- Targets of edges are nodes of the chart. -/
theorem Closed.target_mem (hg : g.Closed) {e : Edge} (he : e ∈ g.outgoing id) : e.target ∈ g.ids :=
  (hg e (List.mem_filter.mp he).1).2

theorem any_source (g : Graph) (id : Text) :
    g.edges.any (·.source = id) = !(g.outgoing id).isEmpty := by
  rw [Bool.eq_iff_iff, List.any_eq_true, Bool.not_eq_true', List.isEmpty_eq_false_iff_exists_mem,
    outgoing]
  simp only [List.mem_filter]

/-- Closed charts without a common node do not touch each other. -/
theorem isPart_beside_left (hh : h.Closed) (hids : List.Disjoint g.ids h.ids) :
    IsPart g (g.beside h) where
  node? := by
    intro id hid
    have hright := node?_eq_none (hids hid)
    unfold Graph.node? beside at *
    rw [List.find?_append, hright, Option.or_none]
  outgoing := by
    intro id hid
    have hright := hh.outgoing_eq_nil (hids hid)
    unfold Graph.outgoing beside at *
    rw [List.filter_append, hright, List.append_nil]
  entered := by
    intro id hid
    unfold beside
    rw [List.any_append, hh.not_entered (hids hid), Bool.or_false]

theorem isPart_beside_right (hg : g.Closed) (hids : List.Disjoint g.ids h.ids) :
    IsPart h (g.beside h) where
  node? := by
    intro id hid
    have hleft := node?_eq_none fun hmem => hids hmem hid
    unfold Graph.node? beside at *
    rw [List.find?_append, hleft, Option.none_or]
  outgoing := by
    intro id hid
    have hleft := hg.outgoing_eq_nil fun hmem => hids hmem hid
    unfold Graph.outgoing beside at *
    rw [List.filter_append, hleft, List.nil_append]
  entered := by
    intro id hid
    unfold beside
    rw [List.any_append, hg.not_entered fun hmem => hids hmem hid, Bool.false_or]

end Graph
end ChartDialogue.Chart
