import ChartDialogue.Chart.Graph
import Mathlib.Data.List.Nodup

/-!
Drawing a flowchart from scratch: first nodes under different names, then edges between them that
join different pairs. Such a list of edits builds exactly these nodes and edges, in this order.
-/
namespace ChartDialogue.Chart.Graph

variable {g : Graph} {id text : Text} {nodes : List Node} {edges : List Edge}

theorem any_eq_false_iff : (nodes.any (·.id = id)) = false ↔ ∀ n ∈ nodes, n.id ≠ id := by
  rw [List.any_eq_false]
  simp only [decide_eq_true_eq]

theorem mention_of_new (h : ∀ n ∈ g.nodes, n.id ≠ id) :
    g.mention id = { g with nodes := g.nodes ++ [Node.placeholder id] } := by
  unfold mention
  rw [any_eq_false_iff.mpr h, if_neg Bool.false_ne_true]

theorem mention_of_mem {n : Node} (hn : n ∈ g.nodes) : g.mention n.id = g := by
  unfold mention
  rw [if_pos (List.any_eq_true.mpr ⟨n, hn, decide_eq_true rfl⟩)]

/-- To change the last node leaves the others alone, which have other names. -/
theorem map_update_last (h : ∀ n ∈ nodes, n.id ≠ id) {last : Node} (hlast : last.id = id)
    (f : Node → Node) :
    (nodes ++ [last]).map (fun n => if n.id = id then f n else n) = nodes ++ [f last] := by
  have hothers : nodes.map (fun n => if n.id = id then f n else n) = nodes.map fun n => n :=
    List.map_congr_left fun n hn => if_neg (h n hn)
  rw [List.map_append, hothers, List.map_id', List.map_singleton, if_pos hlast]

theorem update_of_new (h : ∀ n ∈ g.nodes, n.id ≠ id) (f : Node → Node) :
    g.update id f = { g with nodes := g.nodes ++ [f (Node.placeholder id)] } := by
  unfold update
  rw [mention_of_new h, map_update_last h rfl]

theorem update_last (h : ∀ n ∈ nodes, n.id ≠ id) {last : Node} (hlast : last.id = id)
    (f : Node → Node) :
    (⟨nodes ++ [last], edges⟩ : Graph).update id f = ⟨nodes ++ [f last], edges⟩ := by
  have hmem : last ∈ (⟨nodes ++ [last], edges⟩ : Graph).nodes :=
    List.mem_append_right _ (List.mem_singleton.mpr rfl)
  have hmention := mention_of_mem hmem
  rw [hlast] at hmention
  unfold update
  rw [hmention, map_update_last h hlast]

def patternNode (node : Text × Text) : Node :=
  ⟨node.1, node.2, true, none⟩

theorem definePattern_of_new (h : ∀ n ∈ g.nodes, n.id ≠ id) (text : Text) :
    g.definePattern id text = ⟨g.nodes ++ [patternNode (id, text)], g.edges⟩ := by
  unfold definePattern setText
  rw [update_of_new h]
  cases text with
  | nil => exact update_last h rfl _
  | cons c text => exact update_last h rfl _

/-- Nodes under new and different names come behind the nodes that are there. -/
theorem foldl_pattern (texts : List (Text × Text)) (hnodup : (texts.map Prod.fst).Nodup)
    (hnew : ∀ n ∈ g.nodes, n.id ∉ texts.map Prod.fst) :
    (texts.map fun t => Edit.pattern t.1 t.2).foldl apply g =
      ⟨g.nodes ++ texts.map patternNode, g.edges⟩ := by
  induction texts generalizing g with
  | nil => simp
  | cons t texts ih =>
    rw [List.map_cons, List.nodup_cons] at hnodup
    have hfirst : ∀ n ∈ g.nodes, n.id ≠ t.1 :=
      fun n hn heq => hnew n hn (heq ▸ List.mem_cons_self)
    have hstep := definePattern_of_new hfirst t.2
    have hrest := ih (g := ⟨g.nodes ++ [patternNode t], g.edges⟩) hnodup.2 (by
      intro n hn hmem
      rcases List.mem_append.mp hn with hn | hn
      · exact hnew n hn (List.mem_cons_of_mem _ hmem)
      · rw [List.mem_singleton.mp hn] at hmem
        exact hnodup.1 hmem)
    rw [List.map_cons, List.foldl_cons, apply, hstep, hrest, List.append_assoc]
    rfl

theorem drawEdge_of_new {e : Edge}
    (h : ∀ d ∈ edges, ¬(d.source = e.source ∧ d.target = e.target)) :
    drawEdge e edges = edges ++ [e] := by
  induction edges with
  | nil => rfl
  | cons d edges ih =>
    rw [drawEdge, if_neg (h d List.mem_cons_self),
      ih fun d' hd' => h d' (List.mem_cons_of_mem d hd')]
    rfl

/-- A first edge between two nodes that are there comes behind the other edges. -/
theorem addEdge_of_new {source target : Text} (hsource : source ∈ g.nodes.map Node.id)
    (htarget : target ∈ g.nodes.map Node.id)
    (hnew : ∀ d ∈ g.edges, ¬(d.source = source ∧ d.target = target)) (label : Text) :
    g.addEdge source target label = ⟨g.nodes, g.edges ++ [⟨source, target, label⟩]⟩ := by
  obtain ⟨n, hn, rfl⟩ := List.mem_map.mp hsource
  obtain ⟨m, hm, rfl⟩ := List.mem_map.mp htarget
  unfold addEdge
  rw [mention_of_mem hn, mention_of_mem hm]
  dsimp only
  rw [drawEdge_of_new hnew]

/-- Edges between nodes that are there come behind the edges that are there, if they join other
pairs. -/
theorem foldl_edge (ends : List (Text × Text)) (hnodup : ends.Nodup)
    (hnodes : ∀ p ∈ ends, p.1 ∈ g.nodes.map Node.id ∧ p.2 ∈ g.nodes.map Node.id)
    (hnew : ∀ d ∈ g.edges, (d.source, d.target) ∉ ends) :
    (ends.map fun p => Edit.edge p.1 p.2 []).foldl apply g =
      ⟨g.nodes, g.edges ++ ends.map fun p => ⟨p.1, p.2, []⟩⟩ := by
  induction ends generalizing g with
  | nil => simp
  | cons p ends ih =>
    rw [List.nodup_cons] at hnodup
    obtain ⟨hsource, htarget⟩ := hnodes p List.mem_cons_self
    have hdiffer : ∀ d ∈ g.edges, ¬(d.source = p.1 ∧ d.target = p.2) := by
      intro d hd hjoin
      refine hnew d hd ?_
      rw [hjoin.1, hjoin.2]
      exact List.mem_cons_self
    have hstep := addEdge_of_new hsource htarget hdiffer []
    have hrest := ih (g := ⟨g.nodes, g.edges ++ [⟨p.1, p.2, []⟩]⟩) hnodup.2
      (fun q hq => hnodes q (List.mem_cons_of_mem p hq)) (by
        intro d hd hmem
        rcases List.mem_append.mp hd with hd | hd
        · exact hnew d hd (List.mem_cons_of_mem p hmem)
        · rw [List.mem_singleton.mp hd] at hmem
          exact hnodup.1 hmem)
    rw [List.map_cons, List.foldl_cons, apply, hstep, hrest, List.append_assoc]
    rfl

/-- Nodes and then edges, drawn on an empty chart. -/
theorem ofEdits_nodes_edges (texts ends : List (Text × Text)) (htexts : (texts.map Prod.fst).Nodup)
    (hends : ends.Nodup)
    (hnodes : ∀ p ∈ ends, p.1 ∈ texts.map Prod.fst ∧ p.2 ∈ texts.map Prod.fst) :
    ofEdits ((texts.map fun t => .pattern t.1 t.2) ++ ends.map fun p => .edge p.1 p.2 []) =
      ⟨texts.map patternNode, ends.map fun p => ⟨p.1, p.2, []⟩⟩ := by
  have hids : (texts.map patternNode).map Node.id = texts.map Prod.fst := List.map_map
  have hpatterns := foldl_pattern (g := empty) texts htexts (by simp [empty])
  unfold ofEdits
  rw [List.foldl_append, hpatterns, foldl_edge ends hends]
  · rfl
  · intro p hp
    have hp' := hnodes p hp
    rw [← hids] at hp'
    exact hp'
  · simp [empty]

theorem find?_of_mem_nodup (hnodup : (nodes.map Node.id).Nodup) {n : Node} (hn : n ∈ nodes) :
    nodes.find? (·.id = n.id) = some n := by
  induction nodes with
  | nil => exact absurd hn List.not_mem_nil
  | cons m nodes ih =>
    rw [List.map_cons, List.nodup_cons] at hnodup
    rcases List.mem_cons.mp hn with rfl | hn
    · rw [List.find?_cons, decide_eq_true rfl]
    · have hne : m.id ≠ n.id := fun heq => hnodup.1 (heq ▸ List.mem_map_of_mem hn)
      rw [List.find?_cons, decide_eq_false hne]
      exact ih hnodup.2 hn

/-- Under different names every node is found under its own. -/
theorem node?_of_mem (hnodup : (g.nodes.map Node.id).Nodup) {n : Node} (hn : n ∈ g.nodes) :
    g.node? n.id = some n :=
  find?_of_mem_nodup hnodup hn

end ChartDialogue.Chart.Graph
