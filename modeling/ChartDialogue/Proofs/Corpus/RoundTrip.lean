import ChartDialogue.Corpus.Compile
import ChartDialogue.Proofs.Corpus.Written

/-!
Plain categories survive being written as a flowchart and compiled again. Every node has a name of
its own, so the nodes that start the chart are the patterns with templates, each leads to its own
templates and to nothing else, and no node is a condition.
-/
namespace ChartDialogue.Corpus

open Text Chart

variable {named : List NamedCategory} {c d : NamedCategory}

/-- No two nodes have the same name. -/
def Distinct (named : List NamedCategory) : Prop :=
  ((allNodes named).map Prod.fst).Nodup

theorem distinct_cons :
    Distinct (c :: named) ↔ (c.nodes.map Prod.fst).Nodup ∧ Distinct named ∧
      ∀ id ∈ c.nodes.map Prod.fst, id ∉ (allNodes named).map Prod.fst := by
  unfold Distinct allNodes
  rw [List.flatMap_cons, List.map_append, List.nodup_append']
  exact Iff.rfl

theorem name_mem_allNodes (hc : c ∈ named) {id : Text} (hid : id ∈ c.nodes.map Prod.fst) :
    id ∈ (allNodes named).map Prod.fst := by
  unfold allNodes
  rw [List.map_flatMap]
  exact List.mem_flatMap.mpr ⟨c, hc, hid⟩

theorem pattern_mem_names (c : NamedCategory) : c.pattern.1 ∈ c.nodes.map Prod.fst :=
  List.mem_map_of_mem List.mem_cons_self

theorem template_mem_names {t : Text × Text} (ht : t ∈ c.templates) :
    t.1 ∈ c.nodes.map Prod.fst :=
  List.mem_map_of_mem (List.mem_cons_of_mem _ ht)

namespace Distinct

/-- A name belongs to one category. -/
theorem eq_of_name (h : Distinct named) (hc : c ∈ named) (hd : d ∈ named) {id : Text}
    (hidc : id ∈ c.nodes.map Prod.fst) (hidd : id ∈ d.nodes.map Prod.fst) : c = d := by
  induction named with
  | nil => exact absurd hc List.not_mem_nil
  | cons e named ih =>
    obtain ⟨-, hrest, hnew⟩ := distinct_cons.mp h
    rcases List.mem_cons.mp hc with rfl | hc'
    · rcases List.mem_cons.mp hd with rfl | hd'
      · rfl
      · exact absurd (name_mem_allNodes hd' hidd) (hnew id hidc)
    · rcases List.mem_cons.mp hd with rfl | hd'
      · exact absurd (name_mem_allNodes hc' hidc) (hnew id hidd)
      · exact ih hrest hc' hd'

theorem nodup_names (h : Distinct named) (hc : c ∈ named) : (c.nodes.map Prod.fst).Nodup := by
  induction named with
  | nil => exact absurd hc List.not_mem_nil
  | cons e named ih =>
    obtain ⟨hnodup, hrest, -⟩ := distinct_cons.mp h
    rcases List.mem_cons.mp hc with rfl | hc
    · exact hnodup
    · exact ih hrest hc

theorem template_ne_pattern (h : Distinct named) (hc : c ∈ named) (hd : d ∈ named)
    {t : Text × Text} (ht : t ∈ d.templates) : t.1 ≠ c.pattern.1 := by
  intro heq
  have htc : t.1 ∈ c.nodes.map Prod.fst := heq ▸ pattern_mem_names c
  obtain rfl := h.eq_of_name hc hd htc (template_mem_names ht)
  have hnodup := h.nodup_names hc
  rw [NamedCategory.nodes, List.map_cons, List.nodup_cons] at hnodup
  exact hnodup.1 (heq ▸ List.mem_map_of_mem ht)

end Distinct

theorem mem_allEnds {p : Text × Text} :
    p ∈ allEnds named ↔ ∃ c ∈ named, ∃ t ∈ c.templates, (c.pattern.1, t.1) = p := by
  simp only [allEnds, NamedCategory.ends, List.mem_flatMap, List.mem_map]

namespace Distinct

theorem nodup_allEnds (h : Distinct named) : (allEnds named).Nodup := by
  have hsublist : List.Sublist ((allEnds named).map Prod.snd) ((allNodes named).map Prod.fst) := by
    clear h
    induction named with
    | nil => exact List.Sublist.refl _
    | cons c named ih =>
      simp only [allEnds, allNodes, List.flatMap_cons, List.map_append] at ih ⊢
      refine List.Sublist.append ?_ ih
      rw [NamedCategory.ends, NamedCategory.nodes, List.map_map]
      exact List.sublist_cons_self _ _
  exact List.Nodup.of_map Prod.snd (h.sublist hsublist)

/-- The edges that leave a category's pattern are its own. -/
theorem filter_allEnds (h : Distinct named) (hc : c ∈ named) :
    (allEnds named).filter (·.1 = c.pattern.1) = c.ends := by
  induction named with
  | nil => exact absurd hc List.not_mem_nil
  | cons d named ih =>
    obtain ⟨-, hrest, hnew⟩ := distinct_cons.mp h
    have hcons : allEnds (d :: named) = d.ends ++ allEnds named := List.flatMap_cons
    rw [hcons, List.filter_append]
    rcases List.mem_cons.mp hc with rfl | hc
    · have hown : c.ends.filter (·.1 = c.pattern.1) = c.ends := by
        refine List.filter_eq_self.mpr fun p hp => ?_
        obtain ⟨t, -, rfl⟩ := List.mem_map.mp hp
        exact decide_eq_true rfl
      have hothers : (allEnds named).filter (·.1 = c.pattern.1) = [] := by
        refine List.filter_eq_nil_iff.mpr fun p hp heq => ?_
        obtain ⟨e, he, t, -, rfl⟩ := mem_allEnds.mp hp
        have hsame : e.pattern.1 = c.pattern.1 := of_decide_eq_true heq
        refine hnew c.pattern.1 (pattern_mem_names c) (name_mem_allNodes he ?_)
        exact hsame ▸ pattern_mem_names e
      rw [hown, hothers, List.append_nil]
    · have hother : d.ends.filter (·.1 = c.pattern.1) = [] := by
        refine List.filter_eq_nil_iff.mpr fun p hp heq => ?_
        obtain ⟨t, -, rfl⟩ := List.mem_map.mp hp
        have hsame : d.pattern.1 = c.pattern.1 := of_decide_eq_true heq
        refine hnew d.pattern.1 (pattern_mem_names d) (name_mem_allNodes hc ?_)
        exact hsame ▸ pattern_mem_names c
      rw [hother, List.nil_append, ih hrest hc]

end Distinct

/-- A node with what is left of its text. -/
def chartNode (node : Text × Text) : Node :=
  Graph.patternNode (node.1, clean node.2)

def chartEdge (p : Text × Text) : Edge :=
  ⟨p.1, p.2, []⟩

def chart (named : List NamedCategory) : Graph :=
  ⟨(allNodes named).map chartNode, (allEnds named).map chartEdge⟩

namespace Distinct

/-- Every pattern has its own templates as targets, whatever the texts are. -/
theorem outgoing_chart (h : Distinct named) (hc : c ∈ named) :
    (chart named).outgoing c.pattern.1 = c.ends.map chartEdge := by
  unfold Graph.outgoing chart
  rw [List.filter_map]
  congr 1
  exact h.filter_allEnds hc

theorem node?_chart (h : Distinct named) {node : Text × Text} (hnode : node ∈ allNodes named) :
    (chart named).node? node.1 = some (chartNode node) := by
  have hids : (chart named).nodes.map Node.id = (allNodes named).map Prod.fst := List.map_map
  have hmem : chartNode node ∈ (chart named).nodes := List.mem_map_of_mem hnode
  exact Graph.node?_of_mem (by rw [hids]; exact h) hmem

/-- The templates of a category are the targets of its pattern. -/
theorem targets_chart (h : Distinct named) (hc : c ∈ named) :
    targets (chart named) c.pattern.1 = c.templates.map chartNode := by
  unfold targets
  rw [h.outgoing_chart hc, NamedCategory.ends, List.map_map, List.filterMap_map]
  have hfound : ∀ t ∈ c.templates, (chart named).node? t.1 = some (chartNode t) := by
    intro t ht
    exact h.node?_chart (List.mem_flatMap.mpr ⟨c, hc, List.mem_cons_of_mem _ ht⟩)
  rw [← List.filterMap_eq_map]
  exact List.filterMap_congr hfound

/-- The category of a pattern is answered with what is left of its templates. -/
theorem templates_chart (h : Distinct named) (hc : c ∈ named) :
    templates (chart named) c.pattern.1 =
      (c.templates.map fun t => clean t.2).filter (!·.isEmpty) := by
  unfold templates
  rw [h.targets_chart hc, List.filter_map, List.filter_map, List.map_map]
  rfl

/-- No edge enters a pattern. -/
theorem any_target (h : Distinct named) (hc : c ∈ named) :
    (chart named).edges.any (·.target = c.pattern.1) = false := by
  rw [List.any_eq_false]
  intro e he heq
  obtain ⟨p, hp, rfl⟩ := List.mem_map.mp he
  obtain ⟨d, hd, t, ht, rfl⟩ := mem_allEnds.mp hp
  exact h.template_ne_pattern hc hd ht (of_decide_eq_true heq)

theorem any_source (h : Distinct named) (hc : c ∈ named) :
    (chart named).edges.any (·.source = c.pattern.1) = !c.templates.isEmpty := by
  have hout := h.outgoing_chart hc
  cases htemplates : c.templates with
  | nil =>
    rw [NamedCategory.ends, htemplates] at hout
    refine List.any_eq_false.mpr fun e he hsource => ?_
    have hmem : e ∈ (chart named).outgoing c.pattern.1 := List.mem_filter.mpr ⟨he, hsource⟩
    rw [hout] at hmem
    exact List.not_mem_nil hmem
  | cons t templates =>
    have ht : t ∈ c.templates := by
      rw [htemplates]
      exact List.mem_cons_self
    have hedge : chartEdge (c.pattern.1, t.1) ∈ (chart named).edges :=
      List.mem_map_of_mem (mem_allEnds.mpr ⟨c, hc, t, ht, rfl⟩)
    exact List.any_eq_true.mpr ⟨_, hedge, decide_eq_true rfl⟩

end Distinct

theorem any_target_template (hc : c ∈ named) {t : Text × Text} (ht : t ∈ c.templates) :
    (chart named).edges.any (·.target = t.1) = true := by
  refine List.any_eq_true.mpr ⟨chartEdge (c.pattern.1, t.1), ?_, decide_eq_true rfl⟩
  exact List.mem_map_of_mem (mem_allEnds.mpr ⟨c, hc, t, ht, rfl⟩)

/-- What is left of a category that is written and read back, if anything. -/
def cleaned? (sourceFile : Text) (pattern : Text) (templates : List Text) : Option Category :=
  let kept := (templates.map clean).filter (!·.isEmpty)
  if (clean pattern).isEmpty || kept.isEmpty then none
  else some ⟨clean pattern, kept, sourceFile⟩

def starts (g : Graph) (n : Node) : Bool :=
  !(g.edges.any (·.target = n.id)) && g.edges.any (·.source = n.id)

/-- Of the nodes of a category its pattern starts the chart, if it has templates. -/
theorem Distinct.filterMap_starts (h : Distinct named) (hc : c ∈ named) (sourceFile : Text) :
    (((c.nodes.map chartNode).filter (starts (chart named))).filterMap
        (category? (chart named) sourceFile)) =
      (cleaned? sourceFile c.pattern.2 (c.templates.map Prod.snd)).toList := by
  have hothers : (c.templates.map chartNode).filter (starts (chart named)) = [] := by
    refine List.filter_eq_nil_iff.mpr fun n hn => ?_
    obtain ⟨t, ht, rfl⟩ := List.mem_map.mp hn
    have htarget : (chart named).edges.any (·.target = (chartNode t).id) = true :=
      any_target_template hc ht
    rw [starts, htarget]
    exact Bool.false_ne_true
  have hstarts : starts (chart named) (chartNode c.pattern) = !c.templates.isEmpty := by
    have htarget : (chart named).edges.any (·.target = (chartNode c.pattern).id) = false :=
      h.any_target hc
    rw [starts, htarget, Bool.not_false, Bool.true_and]
    exact h.any_source hc
  have hcategory : category? (chart named) sourceFile (chartNode c.pattern) =
      cleaned? sourceFile c.pattern.2 (c.templates.map Prod.snd) := by
    unfold category? cleaned?
    dsimp only
    rw [List.map_map]
    have htemplates : templates (chart named) (chartNode c.pattern).id = _ := h.templates_chart hc
    rw [htemplates]
    rfl
  rw [NamedCategory.nodes, List.map_cons, List.filter_cons, hothers, hstarts]
  cases htemplates : c.templates with
  | nil =>
    have hnone : cleaned? sourceFile c.pattern.2 [] = none := by
      unfold cleaned?
      exact if_pos (Bool.or_true _)
    rw [List.map_nil, hnone]
    rfl
  | cons t templates =>
    have hne : (t :: templates).isEmpty = false := rfl
    rw [← htemplates] at hne ⊢
    rw [← hcategory, hne, Bool.not_false, if_pos rfl, List.filterMap_cons, List.filterMap_nil]
    cases category? (chart named) sourceFile (chartNode c.pattern) <;> rfl

/-- A written chart asks nothing. -/
theorem question_chart {n : Node} (hn : n ∈ (chart named).nodes) : n.question = none := by
  obtain ⟨node, -, rfl⟩ := List.mem_map.mp hn
  rfl

/-- No node of the chart asks a question. -/
theorem conditional?_chart (n : Node) : conditional? (chart named) n = none := by
  have hbranches : (targets (chart named) n.id).flatMap (nodeBranches (chart named)) = [] := by
    refine List.flatMap_eq_nil_iff.mpr fun target htarget => ?_
    obtain ⟨e, -, hfound⟩ := List.mem_filterMap.mp htarget
    unfold nodeBranches
    rw [question_chart (List.mem_of_find?_eq_some hfound)]
  unfold conditional?
  rw [hbranches]
  exact if_neg (by simp)

/-- A named category is compiled to what is left of it. -/
theorem compile_chart (h : Distinct named) (sourceFile : Text) :
    compile (chart named) sourceFile =
      ⟨(named.map NamedCategory.texts).filterMap fun c => cleaned? sourceFile c.1 c.2, []⟩ := by
  have hconditionals : (chart named).nodes.filterMap (conditional? (chart named)) = [] :=
    List.filterMap_eq_nil_iff.mpr fun n _ => conditional?_chart n
  have hcategories : (chart named).startNodes.filterMap (category? (chart named) sourceFile) =
      (named.map NamedCategory.texts).filterMap fun c => cleaned? sourceFile c.1 c.2 := by
    have hnodes : (chart named).startNodes =
        named.flatMap fun c => (c.nodes.map chartNode).filter (starts (chart named)) := by
      have hstart : (chart named).startNodes =
          ((allNodes named).map chartNode).filter (starts (chart named)) := rfl
      rw [hstart, allNodes, List.map_flatMap, List.filter_flatMap]
    rw [hnodes, List.filterMap_flatMap, List.filterMap_map, List.filterMap_eq_flatMap_toList]
    exact List.flatMap_congr fun c hc => h.filterMap_starts hc sourceFile
  unfold compile
  rw [hcategories, hconditionals]

end ChartDialogue.Corpus
