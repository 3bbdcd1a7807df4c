import ChartDialogue.Proofs.Chart.SideBySide
import ChartDialogue.Proofs.Distinct
import Mathlib.Algebra.Order.BigOperators.Group.Multiset
import Mathlib.Algebra.BigOperators.Group.Finset.Basic
import Mathlib.Algebra.GroupWithZero.Nat

/-!
What a history of edits leaves in a graph. Nodes stand in the order in which the edits mention them,
each with the last text that was given to it and the last question that was asked there; the edges
that leave a node stand in the order in which they were first drawn, each with its last label. So
nothing else about the order of the edits can be seen in the graph.
-/
namespace ChartDialogue.Chart

namespace Edit

/-- The text that an edit gives to a node. To give the empty text is to give none. -/
def textFor? (id : Text) : Edit → Option Text
  | .setText i text => if i = id ∧ text ≠ [] then some text else none
  | .pattern i text => if i = id ∧ text ≠ [] then some text else none
  | .mention _ => none
  | .condition _ _ => none
  | .edge _ _ _ => none

def isPatternFor (id : Text) : Edit → Bool
  | .pattern i _ => i = id
  | .mention _ => false
  | .setText _ _ => false
  | .condition _ _ => false
  | .edge _ _ _ => false

/-- The question that an edit asks at a node. -/
def questionFor? (id : Text) : Edit → Option Question
  | .condition i question => if i = id then some question else none
  | .mention _ => none
  | .setText _ _ => none
  | .pattern _ _ => none
  | .edge _ _ _ => none

def edge? : Edit → Option Edge
  | .edge source target label => some ⟨source, target, label⟩
  | .mention _ => none
  | .setText _ _ => none
  | .pattern _ _ => none
  | .condition _ _ => none

theorem isPatternFor_iff {id : Text} {e : Edit} :
    e.isPatternFor id ↔ ∃ text, e = .pattern id text := by
  cases e <;> simp [isPatternFor]

theorem questionFor?_eq_some_iff {id : Text} {e : Edit} {question : Question} :
    e.questionFor? id = some question ↔ e = .condition id question := by
  cases e <;> simp [questionFor?]

end Edit

section Histories

variable (edits : List Edit)

/-- The names of nodes, as often as the edits mention them. -/
def mentioned : List Text :=
  edits.flatMap Edit.names

/-- The edges, as often as the edits draw them. -/
def drawn : List Edge :=
  edits.filterMap Edit.edge?

/-- The node that a history leaves under a name. -/
def nodeAfter (id : Text) : Node where
  id := id
  text := (edits.filterMap (Edit.textFor? id)).getLast?.getD []
  isPattern := edits.any (Edit.isPatternFor id)
  question := (edits.filterMap (Edit.questionFor? id)).getLast?

end Histories

/-- The targets of the edges from a node, as often as they were drawn. -/
def targetsOf (edges : List Edge) (source : Text) : List Text :=
  (edges.filter (·.source = source)).map Edge.target

/-- The label with which an edge between two nodes was last drawn. -/
def lastLabel? (edges : List Edge) (source target : Text) : Option Text :=
  ((edges.filter fun d => d.source = source ∧ d.target = target).getLast?).map Edge.label

namespace Graph

variable {g : Graph} {id : Text} {ids : List Text} {f : Text → Node} {edits : List Edit}

/-- A graph with a node for each of the mentioned names, in the order of the first mentions. -/
structure Lists (g : Graph) (ids : List Text) (f : Text → Node) : Prop where
  nodes : g.nodes = ids.eraseDups.map f
  id : ∀ i, (f i).id = i
  fresh : ∀ i, i ∉ ids → f i = Node.placeholder i

namespace Lists

theorem ids_eq (h : Lists g ids f) : g.ids = ids.eraseDups := by
  rw [Graph.ids, h.nodes, List.map_map]
  exact (List.map_congr_left fun i _ => h.id i).trans (List.map_id' _)

theorem nodup (h : Lists g ids f) : g.ids.Nodup :=
  h.ids_eq ▸ nodup_eraseDups ids

theorem mention (h : Lists g ids f) (id : Text) : Lists (g.mention id) (ids ++ [id]) f where
  nodes := by
    rw [eraseDups_concat]
    split_ifs with hid
    · rw [← List.mem_eraseDups, ← h.ids_eq] at hid
      obtain ⟨n, hn, rfl⟩ := List.mem_map.mp hid
      rw [mention_of_mem hn, h.nodes]
    · have hnew : id ∉ g.ids := by rwa [h.ids_eq, List.mem_eraseDups]
      rw [mention_of_new (not_mem_ids_iff.mp hnew), List.map_append, ← h.nodes,
        List.map_singleton, h.fresh id hid]
  id := h.id
  fresh i hi := h.fresh i fun hmem => hi (List.mem_append_left _ hmem)

theorem update (h : Lists g ids f) (id : Text) (change : Node → Node)
    (hchange : ∀ n, (change n).id = n.id) :
    Lists (g.update id change) (ids ++ [id]) fun i => if i = id then change (f i) else f i where
  nodes := by
    unfold Graph.update
    rw [(h.mention id).nodes, List.map_map]
    refine List.map_congr_left fun i _ => ?_
    rw [Function.comp_apply, h.id]
  id i := by
    split_ifs
    · rw [hchange, h.id]
    · exact h.id i
  fresh i hi := by
    rw [List.mem_append, List.mem_singleton, not_or] at hi
    rw [if_neg hi.2, h.fresh i hi.1]

theorem setText (h : Lists g ids f) (id text : Text) :
    Lists (g.setText id text) (ids ++ [id]) fun i =>
      if i = id then if text.isEmpty then f i else { f i with text := text } else f i :=
  h.update id _ fun n => by split_ifs <;> rfl

theorem congr {ids' : List Text} {f' : Text → Node} (h : Lists g ids f)
    (hids : ids'.eraseDups = ids.eraseDups) (hf : ∀ i, f' i = f i) : Lists g ids' f' := by
  obtain rfl : f' = f := funext hf
  refine ⟨hids ▸ h.nodes, h.id, fun i hi => h.fresh i fun hmem => hi ?_⟩
  rwa [← List.mem_eraseDups, hids, List.mem_eraseDups]

end Lists

theorem getLast?_filterMap_concat {α β : Type} (F : α → Option β) (l : List α) (a : α) :
    ((l ++ [a]).filterMap F).getLast? = (F a).or (l.filterMap F).getLast? := by
  rw [List.filterMap_append, List.getLast?_append, List.filterMap_cons, List.filterMap_nil]
  cases F a <;> rfl

/-- What the last edit says of a node comes before what the edits before it said. -/
theorem nodeAfter_concat (edits : List Edit) (e : Edit) (id : Text) :
    nodeAfter (edits ++ [e]) id =
      { id := id
        text := (e.textFor? id).getD (nodeAfter edits id).text
        isPattern := (nodeAfter edits id).isPattern || e.isPatternFor id
        question := (e.questionFor? id).or (nodeAfter edits id).question } := by
  unfold nodeAfter
  rw [getLast?_filterMap_concat, getLast?_filterMap_concat, Option.getD_or, List.any_append,
    List.any_cons, List.any_nil, Bool.or_false]

/-- An edit puts the names that it mentions at the end, and changes the node that it is about. -/
theorem lists_apply (h : Lists g (mentioned edits) (nodeAfter edits)) (e : Edit) :
    Lists (g.apply e) (mentioned (edits ++ [e])) (nodeAfter (edits ++ [e])) := by
  have hmentioned : mentioned (edits ++ [e]) = mentioned edits ++ e.names := by
    rw [mentioned, List.flatMap_append, List.flatMap_singleton, mentioned]
  rw [hmentioned]
  cases e with
  | mention id =>
    refine (h.mention id).congr rfl fun i => ?_
    rw [nodeAfter_concat, Edit.isPatternFor, Bool.or_false]
    rfl
  | setText id text =>
    refine (h.setText id text).congr rfl fun i => ?_
    rw [nodeAfter_concat, Edit.isPatternFor, Bool.or_false]
    by_cases hi : i = id
    · cases text <;> simp [Edit.textFor?, Edit.questionFor?, hi, nodeAfter]
    · have hi' : id ≠ i := Ne.symm hi
      simp [Edit.textFor?, Edit.questionFor?, hi, hi', nodeAfter]
  | pattern id text =>
    -- the name is mentioned twice, and the second time adds no node
    have htwice : (mentioned edits ++ [id] ++ [id]).eraseDups =
        (mentioned edits ++ [id]).eraseDups := by
      rw [eraseDups_concat, if_pos (List.mem_append_right _ (List.mem_singleton.mpr rfl))]
    have hdefined := (h.setText id text).update id (fun n => { n with isPattern := true })
      fun _ => rfl
    refine hdefined.congr htwice.symm fun i => ?_
    rw [nodeAfter_concat]
    by_cases hi : i = id
    · cases text <;> simp [Edit.textFor?, Edit.isPatternFor, Edit.questionFor?, hi, nodeAfter]
    · have hi' : id ≠ i := Ne.symm hi
      simp [Edit.textFor?, Edit.isPatternFor, Edit.questionFor?, hi, hi', nodeAfter]
  | condition id question =>
    have hdefined := h.update id (fun n => { n with question := some question }) fun _ => rfl
    refine hdefined.congr rfl fun i => ?_
    rw [nodeAfter_concat, Edit.isPatternFor, Bool.or_false]
    by_cases hi : i = id
    · simp [Edit.textFor?, Edit.questionFor?, hi, nodeAfter]
    · have hi' : id ≠ i := Ne.symm hi
      simp [Edit.textFor?, Edit.questionFor?, hi, hi', nodeAfter]
  | edge source target label =>
    have hboth := (h.mention source).mention target
    rw [List.append_assoc] at hboth
    refine Lists.congr ⟨hboth.nodes, hboth.id, hboth.fresh⟩ rfl fun i => ?_
    rw [nodeAfter_concat, Edit.isPatternFor, Bool.or_false]
    rfl

/-- The nodes of the graph are the mentioned ones, each as its history leaves it. -/
theorem lists_ofEdits (edits : List Edit) :
    Lists (ofEdits edits) (mentioned edits) (nodeAfter edits) := by
  induction edits using List.reverseRecOn with
  | nil => exact ⟨rfl, fun _ => rfl, fun _ _ => rfl⟩
  | append_singleton edits e ih =>
    rw [ofEdits, List.foldl_append, List.foldl_cons, List.foldl_nil]
    exact lists_apply ih e

def drawAll (edges : List Edge) : List Edge :=
  edges.foldl (fun es e => drawEdge e es) []

theorem drawAll_concat (edges : List Edge) (e : Edge) :
    drawAll (edges ++ [e]) = drawEdge e (drawAll edges) := by
  rw [drawAll, List.foldl_append]
  rfl

theorem edges_apply (g : Graph) (e : Edit) :
    (g.apply e).edges = e.edge?.elim g.edges fun d => drawEdge d g.edges := by
  cases e with
  | mention id => exact edges_mention g id
  | setText id text => exact edges_mention g id
  | pattern id text =>
    exact (edges_mention (g.setText id text) id).trans (edges_mention g id)
  | condition id question => exact edges_mention g id
  | edge source target label =>
    rw [apply, addEdge, edges_mention, edges_mention]
    rfl

theorem drawn_concat (edits : List Edit) (e : Edit) :
    drawn (edits ++ [e]) = drawn edits ++ e.edge?.toList := by
  rw [drawn, List.filterMap_append, List.filterMap_cons, List.filterMap_nil]
  cases e.edge? <;> rfl

/-- Only the drawn edges of a history count for the edges of its graph. -/
theorem edges_ofEdits (edits : List Edit) : (ofEdits edits).edges = drawAll (drawn edits) := by
  induction edits using List.reverseRecOn with
  | nil => rfl
  | append_singleton edits e ih =>
    rw [ofEdits, List.foldl_append, List.foldl_cons, List.foldl_nil, edges_apply, ← ofEdits, ih,
      drawn_concat]
    cases e.edge? with
    | none => exact congrArg drawAll (List.append_nil _).symm
    | some d => exact (drawAll_concat _ d).symm

/-- To draw an edge concerns the edges that leave its source. -/
theorem filter_drawEdge (e : Edge) (edges : List Edge) (source : Text) :
    (drawEdge e edges).filter (·.source = source) =
      if e.source = source then drawEdge e (edges.filter (·.source = source))
      else edges.filter (·.source = source) := by
  induction edges with
  | nil => by_cases he : e.source = source <;> simp [drawEdge, he]
  | cons d edges ih =>
    by_cases hjoin : d.source = e.source ∧ d.target = e.target
    · rw [drawEdge, if_pos hjoin]
      simp only [List.filter_cons, decide_eq_true_eq, hjoin.1]
      split_ifs
      · rw [drawEdge, if_pos hjoin]
      · rfl
    · rw [drawEdge, if_neg hjoin]
      simp only [List.filter_cons, decide_eq_true_eq, ih]
      split_ifs
      · rw [drawEdge, if_neg hjoin]
      · rfl
      · rfl
      · rfl

/-- Among the edges from one node the drawn one has a new label, where it is if it was there. -/
theorem drawEdge_fan {source target label : Text} {targets : List Text} (hnodup : targets.Nodup)
    (labels : Text → Text) :
    drawEdge ⟨source, target, label⟩ (targets.map fun t => ⟨source, t, labels t⟩) =
      (if target ∈ targets then targets else targets ++ [target]).map fun t =>
        ⟨source, t, if t = target then label else labels t⟩ := by
  induction targets with
  | nil => simp [drawEdge]
  | cons t targets ih =>
    rw [List.nodup_cons] at hnodup
    rw [List.map_cons, drawEdge]
    by_cases ht : t = target
    · subst ht
      have hothers : targets.map (fun u => (⟨source, u, labels u⟩ : Edge)) =
          targets.map fun u => ⟨source, u, if u = t then label else labels u⟩ :=
        List.map_congr_left fun u hu => by
          rw [if_neg fun heq : u = t => hnodup.1 (heq ▸ hu)]
      rw [if_pos ⟨rfl, rfl⟩, if_pos List.mem_cons_self, List.map_cons, if_pos rfl, hothers]
    · have hmem : target ∈ t :: targets ↔ target ∈ targets := by
        rw [List.mem_cons, or_iff_right (Ne.symm ht)]
      rw [if_neg fun hjoin => ht hjoin.2, ih hnodup.2]
      simp only [hmem]
      split_ifs
      · rw [List.map_cons, if_neg ht]
      · rw [List.cons_append, List.map_cons, if_neg ht]

theorem targetsOf_concat (edges : List Edge) (e : Edge) (source : Text) :
    targetsOf (edges ++ [e]) source =
      if e.source = source then targetsOf edges source ++ [e.target] else targetsOf edges source := by
  unfold targetsOf
  rw [List.filter_append, List.map_append, List.filter_singleton]
  by_cases he : e.source = source <;> simp [he]

theorem lastLabel?_concat (edges : List Edge) (e : Edge) (source target : Text) :
    lastLabel? (edges ++ [e]) source target =
      if e.source = source ∧ e.target = target then some e.label
      else lastLabel? edges source target := by
  unfold lastLabel?
  rw [List.filter_append, List.getLast?_append, List.filter_singleton]
  by_cases he : e.source = source ∧ e.target = target <;> simp [he]

/-- By induction over the edges: each is the last one drawn and gives its label. -/
theorem filter_drawAll (edges : List Edge) (source : Text) :
    (drawAll edges).filter (·.source = source) = (targetsOf edges source).eraseDups.map fun t =>
      ⟨source, t, (lastLabel? edges source t).getD []⟩ := by
  induction edges using List.reverseRecOn with
  | nil => rfl
  | append_singleton edges e ih =>
    rw [drawAll_concat, filter_drawEdge, ih, targetsOf_concat]
    split_ifs with he
    · subst he
      rw [drawEdge_fan (nodup_eraseDups _), eraseDups_concat]
      simp only [List.mem_eraseDups]
      refine List.map_congr_left fun t _ => ?_
      rw [lastLabel?_concat]
      by_cases ht : t = e.target
      · rw [if_pos ht, if_pos ⟨rfl, ht.symm⟩, Option.getD_some]
      · rw [if_neg ht, if_neg fun hjoin => ht hjoin.2.symm]
    · refine List.map_congr_left fun t _ => ?_
      rw [lastLabel?_concat, if_neg fun hjoin => he hjoin.1]

theorem isSome_lastLabel? (edges : List Edge) (source target : Text) :
    (lastLabel? edges source target).isSome ↔ target ∈ targetsOf edges source := by
  induction edges using List.reverseRecOn with
  | nil => simp [lastLabel?, targetsOf]
  | append_singleton edges e ih =>
    rw [lastLabel?_concat, targetsOf_concat]
    by_cases he : e.source = source
    · by_cases ht : e.target = target
      · simp [he, ht]
      · simp [he, ht, Ne.symm ht, ih]
    · simp [he, ih]

/-- The edges from a node lead to its targets in the order of the first drawings, with the last
labels. -/
theorem outgoing_ofEdits (edits : List Edit) (id : Text) :
    (ofEdits edits).outgoing id = (targetsOf (drawn edits) id).eraseDups.map fun t =>
      ⟨id, t, (lastLabel? (drawn edits) id t).getD []⟩ := by
  rw [outgoing, edges_ofEdits, filter_drawAll]

theorem find?_fan {targets : List Text} (source target : Text) (labels : Text → Text) :
    (targets.map fun t => (⟨source, t, labels t⟩ : Edge)).find? (·.target = target) =
      if target ∈ targets then some ⟨source, target, labels target⟩ else none := by
  induction targets with
  | nil => rfl
  | cons t targets ih =>
    rw [List.map_cons, List.find?_cons, ih]
    by_cases ht : t = target
    · simp [ht]
    · simp [ht, Ne.symm ht]

/-- An edge has the label with which it was last drawn. -/
theorem edgeLabel?_ofEdits (edits : List Edit) (source target : Text) :
    (ofEdits edits).edgeLabel? source target = lastLabel? (drawn edits) source target := by
  have hdrawn := isSome_lastLabel? (drawn edits) source target
  rw [← List.mem_eraseDups] at hdrawn
  rw [edgeLabel?, outgoing_ofEdits, find?_fan]
  cases hlast : lastLabel? (drawn edits) source target with
  | none =>
    rw [hlast] at hdrawn
    rw [if_neg fun hmem => Bool.false_ne_true (hdrawn.mpr hmem), Option.map_none]
  | some label =>
    rw [hlast] at hdrawn
    rw [if_pos (hdrawn.mp rfl), Option.map_some, Option.getD_some]

/-- A node is there once it is mentioned, as its history leaves it. -/
theorem node?_ofEdits (edits : List Edit) (id : Text) :
    (ofEdits edits).node? id = if id ∈ mentioned edits then some (nodeAfter edits id) else none := by
  have hlists := lists_ofEdits edits
  split_ifs with hid
  · have hmem : nodeAfter edits id ∈ (ofEdits edits).nodes := by
      rw [hlists.nodes]
      exact List.mem_map_of_mem (List.mem_eraseDups.mpr hid)
    exact node?_of_mem hlists.nodup hmem
  · refine node?_eq_none ?_
    rwa [hlists.ids_eq, List.mem_eraseDups]

/-- An edge is drawn between the nodes of the new one or of an old one. -/
theorem any_drawEdge {p : Text → Text → Bool} (e : Edge) (edges : List Edge) :
    (drawEdge e edges).any (fun d => p d.source d.target) =
      (p e.source e.target || edges.any fun d => p d.source d.target) := by
  induction edges with
  | nil => rfl
  | cons d edges ih =>
    rw [drawEdge]
    split_ifs with hjoin
    · rw [List.any_cons, List.any_cons, hjoin.1, hjoin.2, ← Bool.or_assoc, Bool.or_self]
    · rw [List.any_cons, List.any_cons, ih, Bool.or_left_comm]

theorem any_drawAll {p : Text → Text → Bool} (edges : List Edge) :
    (drawAll edges).any (fun d => p d.source d.target) =
      edges.any fun d => p d.source d.target := by
  induction edges using List.reverseRecOn with
  | nil => rfl
  | append_singleton edges e ih =>
    rw [drawAll_concat, any_drawEdge, ih, List.any_append, List.any_cons, List.any_nil,
      Bool.or_false, Bool.or_comm]

/-- Whether a node starts the chart is decided by all edges that were ever drawn. -/
theorem startNodes_ofEdits (edits : List Edit) :
    (ofEdits edits).startNodes = (ofEdits edits).nodes.filter fun n =>
      n.id ∈ (drawn edits).map Edge.source ∧ n.id ∉ (drawn edits).map Edge.target := by
  rw [startNodes, edges_ofEdits]
  refine List.filter_congr fun n _ => ?_
  have hsource := any_drawAll (p := fun source _ => decide (source = n.id)) (drawn edits)
  have htarget := any_drawAll (p := fun _ target => decide (target = n.id)) (drawn edits)
  rw [hsource, htarget, Bool.eq_iff_iff]
  simp only [Bool.and_eq_true, Bool.not_eq_true', List.any_eq_false, List.any_eq_true,
    decide_eq_true_eq, List.mem_map, not_exists, not_and]
  exact And.comm

/-- Every edge leaves just one of the names. -/
theorem length_eq_sum {ids : List Text} (hnodup : ids.Nodup) {edges : List Edge}
    (hids : ∀ e ∈ edges, e.source ∈ ids) :
    edges.length = (ids.map fun id => (edges.filter (·.source = id)).length).sum := by
  have hcount : ∀ id, (edges.filter (·.source = id)).length =
      (edges.map Edge.source : Multiset Text).count id := by
    intro id
    rw [Multiset.coe_count]
    simp only [List.count_eq_countP, List.countP_map, ← List.countP_eq_length_filter]
    exact List.countP_congr fun e _ => by simp
  simp only [hcount]
  rw [← List.sum_toFinset _ hnodup, Multiset.sum_count_eq_card]
  · rw [Multiset.coe_card, List.length_map]
  · intro id hid
    obtain ⟨e, he, rfl⟩ := List.mem_map.mp (Multiset.mem_coe.mp hid)
    exact List.mem_toFinset.mpr (hids e he)

/-- Being a pattern is never undone. -/
theorem isPattern_nodeAfter (edits : List Edit) (id : Text) :
    (nodeAfter edits id).isPattern ↔ ∃ text, Edit.pattern id text ∈ edits := by
  simp only [nodeAfter, List.any_eq_true, Edit.isPatternFor_iff]
  constructor
  · rintro ⟨e, he, text, rfl⟩
    exact ⟨text, he⟩
  · rintro ⟨text, he⟩
    exact ⟨_, he, text, rfl⟩

/-- Being a condition is never undone. -/
theorem isCondition_nodeAfter (edits : List Edit) (id : Text) :
    (nodeAfter edits id).isCondition ↔ ∃ question, Edit.condition id question ∈ edits := by
  rw [Node.isCondition, nodeAfter, List.getLast?_isSome]
  constructor
  · intro hne
    obtain ⟨question, hquestion⟩ := List.exists_mem_of_ne_nil _ hne
    obtain ⟨e, he, hasked⟩ := List.mem_filterMap.mp hquestion
    obtain rfl := Edit.questionFor?_eq_some_iff.mp hasked
    exact ⟨question, he⟩
  · rintro ⟨question, he⟩
    have hasked : (Edit.condition id question).questionFor? id = some question :=
      Edit.questionFor?_eq_some_iff.mpr rfl
    exact List.ne_nil_of_mem (List.mem_filterMap.mpr ⟨_, he, hasked⟩)

/-- A text of a node comes from an edit of this node. -/
theorem textFor?_of_mem_ofEdits {n : Node} (hn : n ∈ (ofEdits edits).nodes) :
    n.text = [] ∨ ∃ e ∈ edits, e.textFor? n.id = some n.text := by
  rw [(lists_ofEdits edits).nodes] at hn
  obtain ⟨id, -, rfl⟩ := List.mem_map.mp hn
  cases hlast : (edits.filterMap (Edit.textFor? id)).getLast? with
  | none => exact Or.inl (by rw [nodeAfter, hlast, Option.getD_none])
  | some text =>
    obtain ⟨e, he, hgiven⟩ := List.mem_filterMap.mp (List.mem_of_getLast? hlast)
    refine Or.inr ⟨e, he, ?_⟩
    rw [nodeAfter, hlast, Option.getD_some, hgiven]

theorem exists_isCondition_ofEdits {question : Question}
    (h : Edit.condition id question ∈ edits) : ∃ n ∈ (ofEdits edits).nodes, n.isCondition = true := by
  have hid : id ∈ mentioned edits := List.mem_flatMap.mpr ⟨_, h, List.mem_cons_self⟩
  refine ⟨nodeAfter edits id, ?_, (isCondition_nodeAfter edits id).mpr ⟨question, h⟩⟩
  rw [(lists_ofEdits edits).nodes]
  exact List.mem_map_of_mem (List.mem_eraseDups.mpr hid)

theorem mem_outgoing_ofEdits (edits : List Edit) (source target label : Text) :
    ⟨source, target, label⟩ ∈ (ofEdits edits).outgoing source ↔
      lastLabel? (drawn edits) source target = some label := by
  have hdrawn := isSome_lastLabel? (drawn edits) source target
  rw [outgoing_ofEdits, List.mem_map]
  constructor
  · rintro ⟨t, ht, hedge⟩
    obtain ⟨-, rfl, rfl⟩ := Edge.mk.inj hedge
    obtain ⟨label, hlabel⟩ := Option.isSome_iff_exists.mp (hdrawn.mpr (List.mem_eraseDups.mp ht))
    rw [hlabel, Option.getD_some]
  · intro hlabel
    rw [hlabel] at hdrawn
    refine ⟨target, List.mem_eraseDups.mpr (hdrawn.mp rfl), ?_⟩
    rw [hlabel, Option.getD_some]

/-- What a history of edits says about the graph that it leaves. -/
structure Follows (edits : List Edit) (g : Graph) : Prop where
  nodes : g.nodes = (mentioned edits).eraseDups.map (nodeAfter edits)
  nodup : g.ids.Nodup
  node? : ∀ id, g.node? id = if id ∈ mentioned edits then some (nodeAfter edits id) else none
  isPattern : ∀ n ∈ g.nodes, n.isPattern ↔ ∃ text, Edit.pattern n.id text ∈ edits
  isCondition : ∀ n ∈ g.nodes, n.isCondition ↔ ∃ question, Edit.condition n.id question ∈ edits
  outgoing : ∀ id, g.outgoing id = (targetsOf (drawn edits) id).eraseDups.map fun t =>
    ⟨id, t, (lastLabel? (drawn edits) id t).getD []⟩
  edgeLabel? : ∀ source target,
    g.edgeLabel? source target = lastLabel? (drawn edits) source target
  mem_outgoing : ∀ source target label,
    ⟨source, target, label⟩ ∈ g.outgoing source ↔ g.edgeLabel? source target = some label
  closed : g.Closed
  startNodes : g.startNodes = g.nodes.filter fun n =>
    n.id ∈ (drawn edits).map Edge.source ∧ n.id ∉ (drawn edits).map Edge.target
  nodeCount : g.nodeCount = (mentioned edits).eraseDups.length
  edgeCount : g.edgeCount = (g.ids.map fun id => (g.outgoing id).length).sum

/-- The graph that a history of edits builds can be told from the mentions, texts, questions and edges
in it. -/
theorem follows_ofEdits (edits : List Edit) : Follows edits (ofEdits edits) where
  nodes := (lists_ofEdits edits).nodes
  nodup := (lists_ofEdits edits).nodup
  node? := node?_ofEdits edits
  isPattern := by
    intro n hn
    rw [(lists_ofEdits edits).nodes] at hn
    obtain ⟨id, -, rfl⟩ := List.mem_map.mp hn
    exact isPattern_nodeAfter edits id
  isCondition := by
    intro n hn
    rw [(lists_ofEdits edits).nodes] at hn
    obtain ⟨id, -, rfl⟩ := List.mem_map.mp hn
    exact isCondition_nodeAfter edits id
  outgoing := outgoing_ofEdits edits
  edgeLabel? := edgeLabel?_ofEdits edits
  mem_outgoing := by
    intro source target label
    rw [edgeLabel?_ofEdits]
    exact mem_outgoing_ofEdits edits source target label
  closed := closed_ofEdits edits
  startNodes := startNodes_ofEdits edits
  nodeCount := by
    rw [nodeCount, (lists_ofEdits edits).nodes, List.length_map]
  edgeCount :=
    length_eq_sum (lists_ofEdits edits).nodup fun e he => (closed_ofEdits edits e he).1

end Graph
end ChartDialogue.Chart
