import ChartDialogue.Corpus.Compile
import ChartDialogue.Proofs.Chart.ArrowLines
import ChartDialogue.Proofs.Chart.Branching

/-!
Corpora that are written out by hand: a pattern, the texts that it is answered with, and a question
whose answer selects a reply. The chart of such an outline grows from the pattern's node, by a node
and the edge that leads to it for every answer, for the question and for every reply, and it compiles
to the categories that the outline describes.
-/
namespace ChartDialogue.Corpus

open Text Chart

/-- A pattern with its answers and with the replies to one question, and the names of the nodes that
all of these are written under. -/
structure Outline where
  root : Text
  pattern : Text
  answers : List (Text × Text)
  asker : Text
  question : Question
  replies : List Leaf
  deriving DecidableEq

/-- What a keyword asks for; any word that is none of the keywords asks for a predicate. -/
def kindOf (keyword : Text) : ConditionKind :=
  if keyword = "variable".toList then .variableValue
  else if keyword = "star".toList then .predicateSet
  else .predicateValue

namespace Outline

def declaration : Text := "flowchart TD".toList

def lines (o : Outline) : List Text :=
  [declaration, quotedNode o.root o.pattern] ++
    (o.answers.map fun a => edgeText o.root (quotedNode a.1 a.2)) ++
    [edgeText o.root (askedNode o.asker o.question)] ++
    o.replies.map fun r => labelledText o.asker r.label (quotedNode r.id r.text)

def ids (o : Outline) : List Text :=
  o.root :: (o.answers.map Prod.fst ++ o.asker :: o.replies.map Leaf.id)

/-- An outline without blanks at the ends of its texts and labels. -/
def trimmed (o : Outline) : Outline :=
  { o with
    pattern := trim o.pattern
    answers := o.answers.map fun a => (a.1, trim a.2)
    replies := o.replies.map fun r => ⟨trim r.label, r.id, trim r.text⟩ }

def templates (o : Outline) : List Text :=
  (o.answers.map Prod.snd).filter (!·.isEmpty)

def plain (o : Outline) (sourceFile : Text) : List Category :=
  if o.pattern = [] ∨ o.templates = [] then [] else [⟨o.pattern, o.templates, sourceFile⟩]

/-- The conditional category, with a branch for every reply. -/
def conditional (o : Outline) : ConditionalCategory where
  pattern := o.pattern
  branches := o.replies.map fun r =>
    { condition :=
        { kind := kindOf o.question.keyword
          name := o.question.name
          value := r.label
          isDefault := r.label = ['*'] }
      response := r.text }

def corpus (o : Outline) (sourceFile : Text) : Corpus :=
  ⟨o.plain sourceFile, [o.conditional]⟩

section Chart

variable {o : Outline}

/-- The answers as leaves of the root. -/
def answerLeaves (o : Outline) : List Leaf :=
  o.answers.map fun a => ⟨[], a.1, a.2⟩

def edits (o : Outline) : List Edit :=
  .pattern o.root o.pattern ::
    (o.answerLeaves.flatMap (Leaf.edits o.root) ++
      ([.condition o.asker o.question, .edge o.root o.asker []] ++
        o.replies.flatMap (Leaf.edits o.asker)))

/-- The chart of an outline: every node but the root stands at the end of an edge. -/
def chart (o : Outline) : Graph where
  nodes := Graph.patternNode (o.root, o.pattern) ::
    (o.answerLeaves.map Leaf.node ++
      Graph.conditionNode o.asker o.question :: o.replies.map Leaf.node)
  edges := o.answerLeaves.map (Leaf.edge o.root) ++
    ⟨o.root, o.asker, []⟩ :: o.replies.map (Leaf.edge o.asker)

/-- The nodes stand in the order in which the outline mentions them. -/
theorem nodes_chart (o : Outline) :
    o.chart.nodes = Graph.patternNode (o.root, o.pattern) ::
      (o.answerLeaves.map Leaf.node ++
        Graph.conditionNode o.asker o.question :: o.replies.map Leaf.node) :=
  rfl

theorem ids_answerLeaves (o : Outline) : o.answerLeaves.map Leaf.id = o.answers.map Prod.fst :=
  List.map_map

theorem ids_chart (o : Outline) : o.chart.ids = o.ids := by
  unfold Graph.ids chart ids
  rw [List.map_cons, List.map_append, List.map_cons, List.map_map, List.map_map, ← ids_answerLeaves]
  rfl

/-- Different parts of an outline have different names. -/
structure Distinct (o : Outline) : Prop where
  answers : (o.answerLeaves.map Leaf.id).Nodup
  replies : (o.replies.map Leaf.id).Nodup
  root_answer : ∀ l ∈ o.answerLeaves, l.id ≠ o.root
  root_asker : o.asker ≠ o.root
  root_reply : ∀ l ∈ o.replies, l.id ≠ o.root
  asker_answer : ∀ l ∈ o.answerLeaves, l.id ≠ o.asker
  asker_reply : ∀ l ∈ o.replies, l.id ≠ o.asker
  answer_reply : ∀ l ∈ o.replies, l.id ∉ o.answerLeaves.map Leaf.id

theorem distinct_of_nodup (h : o.ids.Nodup) : o.Distinct := by
  rw [ids, ← ids_answerLeaves, List.nodup_cons, List.nodup_append, List.nodup_cons, List.mem_append,
    List.mem_cons, not_or, not_or] at h
  obtain ⟨⟨hanswer, hasker, hreply⟩, hanswers, ⟨hasks, hreplies⟩, hdisjoint⟩ := h
  have hother : ∀ {leaves : List Leaf} {id : Text}, id ∉ leaves.map Leaf.id →
      ∀ l ∈ leaves, l.id ≠ id := by
    rintro leaves id hid l hl rfl
    exact hid (List.mem_map_of_mem hl)
  exact {
    answers := hanswers
    replies := hreplies
    root_answer := hother hanswer
    root_asker := Ne.symm hasker
    root_reply := hother hreply
    asker_answer := hother fun hmem => hdisjoint _ hmem _ List.mem_cons_self rfl
    asker_reply := hother hasks
    answer_reply := fun l hl hmem =>
      hdisjoint _ hmem _ (List.mem_cons_of_mem _ (List.mem_map_of_mem hl)) rfl }

def rootChart (o : Outline) : Graph :=
  ⟨[Graph.patternNode (o.root, o.pattern)], []⟩

def answeredChart (o : Outline) : Graph :=
  ⟨o.rootChart.nodes ++ o.answerLeaves.map Leaf.node,
    o.rootChart.edges ++ o.answerLeaves.map (Leaf.edge o.root)⟩

def askedChart (o : Outline) : Graph :=
  o.answeredChart.grow o.root [] (Graph.conditionNode o.asker o.question)

theorem ids_answeredChart (o : Outline) :
    o.answeredChart.ids = o.root :: o.answerLeaves.map Leaf.id := by
  unfold Graph.ids answeredChart rootChart
  rw [List.singleton_append, List.map_cons, List.map_map]
  rfl

theorem ids_askedChart (o : Outline) :
    o.askedChart.ids = o.root :: (o.answerLeaves.map Leaf.id ++ [o.asker]) := by
  rw [askedChart, Graph.ids_grow, ids_answeredChart]
  rfl

theorem closed_answeredChart (o : Outline) : o.answeredChart.Closed := by
  intro e he
  obtain ⟨l, hl, rfl⟩ := List.mem_map.mp he
  rw [ids_answeredChart]
  exact ⟨List.mem_cons_self, List.mem_cons_of_mem _ (List.mem_map_of_mem hl)⟩

/-- Drawn node by node, the chart has the nodes of an outline in the order of its lines. -/
theorem ofEdits_edits (h : o.Distinct) : Graph.ofEdits o.edits = o.chart := by
  have hroot : Graph.empty.apply (.pattern o.root o.pattern) = o.rootChart :=
    Graph.definePattern_of_new (fun n hn => absurd hn List.not_mem_nil) o.pattern
  have hanswers : (o.answerLeaves.flatMap (Leaf.edits o.root)).foldl Graph.apply o.rootChart =
      o.answeredChart := by
    refine Graph.foldl_leaves (fun e he => absurd he List.not_mem_nil) List.mem_cons_self
      h.answers fun l hl hmem => ?_
    exact h.root_answer l hl (List.mem_singleton.mp hmem)
  have hasker : o.asker ∉ o.answeredChart.ids := by
    rw [ids_answeredChart, List.mem_cons, not_or]
    refine ⟨h.root_asker, fun hmem => ?_⟩
    obtain ⟨l, hl, hid⟩ := List.mem_map.mp hmem
    exact h.asker_answer l hl hid
  have hroot_mem : o.root ∈ o.answeredChart.ids := by
    rw [ids_answeredChart]
    exact List.mem_cons_self
  have hasked : [.condition o.asker o.question, .edge o.root o.asker []].foldl Graph.apply
      o.answeredChart = o.askedChart :=
    Graph.foldl_condition_edits o.closed_answeredChart hroot_mem hasker o.question
  have hreplies : (o.replies.flatMap (Leaf.edits o.asker)).foldl Graph.apply o.askedChart =
      ⟨o.askedChart.nodes ++ o.replies.map Leaf.node,
        o.askedChart.edges ++ o.replies.map (Leaf.edge o.asker)⟩ := by
    have hclosed : o.askedChart.Closed := Graph.closed_grow o.closed_answeredChart hroot_mem
    refine Graph.foldl_leaves hclosed ?_ h.replies ?_
    · rw [ids_askedChart]
      exact List.mem_cons_of_mem _ (List.mem_append_right _ List.mem_cons_self)
    · intro l hl
      rw [ids_askedChart, List.mem_cons, List.mem_append, List.mem_singleton, not_or, not_or]
      exact ⟨h.root_reply l hl, h.answer_reply l hl, h.asker_reply l hl⟩
  rw [Graph.ofEdits, edits, List.foldl_cons, hroot, List.foldl_append, hanswers, List.foldl_append,
    hasked, hreplies, askedChart, answeredChart, rootChart, Graph.grow, chart]
  simp only [List.append_assoc, List.cons_append, List.nil_append]
  rfl

end Chart

section Compile

variable {o : Outline} {leaves : List Leaf} {source id : Text}

/-- From the pattern the edges lead to the answers and to the question. -/
theorem outgoing_root (h : o.Distinct) :
    o.chart.outgoing o.root = o.answerLeaves.map (Leaf.edge o.root) ++ [⟨o.root, o.asker, []⟩] := by
  unfold Graph.outgoing chart
  rw [List.filter_append, List.filter_cons, filter_leaves_self, filter_leaves_of_ne h.root_asker,
    if_pos (decide_eq_true rfl)]

/-- From the question the edges lead to the replies. -/
theorem outgoing_asker (h : o.Distinct) :
    o.chart.outgoing o.asker = o.replies.map (Leaf.edge o.asker) := by
  have hother : ¬decide (o.root = o.asker) = true :=
    fun heq => h.root_asker (of_decide_eq_true heq).symm
  unfold Graph.outgoing chart
  rw [List.filter_append, List.filter_cons, filter_leaves_of_ne h.root_asker.symm,
    filter_leaves_self, if_neg hother, List.nil_append]

/-- No edge leaves an answer or a reply. -/
theorem outgoing_eq_nil (hroot : id ≠ o.root) (hasker : id ≠ o.asker) :
    o.chart.outgoing id = [] := by
  have hother : ¬decide (o.root = id) = true := fun heq => hroot (of_decide_eq_true heq).symm
  unfold Graph.outgoing chart
  rw [List.filter_append, List.filter_cons, filter_leaves_of_ne hroot.symm,
    filter_leaves_of_ne hasker.symm, if_neg hother, List.nil_append]

theorem node?_chart (h : o.ids.Nodup) {n : Node} (hn : n ∈ o.chart.nodes) :
    o.chart.node? n.id = some n :=
  Graph.node?_of_mem (by rwa [← ids_chart] at h) hn

theorem mem_nodes_of_answer {l : Leaf} (hl : l ∈ o.answerLeaves) : l.node ∈ o.chart.nodes :=
  List.mem_cons_of_mem _ (List.mem_append_left _ (List.mem_map_of_mem hl))

theorem mem_nodes_of_reply {l : Leaf} (hl : l ∈ o.replies) : l.node ∈ o.chart.nodes :=
  List.mem_cons_of_mem _
    (List.mem_append_right _ (List.mem_cons_of_mem _ (List.mem_map_of_mem hl)))

theorem targets_leaves (h : o.ids.Nodup) (hmem : ∀ l ∈ leaves, l.node ∈ o.chart.nodes) :
    (leaves.map (Leaf.edge source)).filterMap (fun e => o.chart.node? e.target) =
      leaves.map Leaf.node := by
  rw [List.filterMap_map, ← List.filterMap_eq_map]
  exact List.filterMap_congr fun l hl => node?_chart h (hmem l hl)

theorem targets_root (h : o.ids.Nodup) :
    targets o.chart o.root =
      o.answerLeaves.map Leaf.node ++ [Graph.conditionNode o.asker o.question] := by
  have hasker : o.chart.node? o.asker = some (Graph.conditionNode o.asker o.question) := by
    have hmem : Graph.conditionNode o.asker o.question ∈ o.chart.nodes :=
      List.mem_cons_of_mem _ (List.mem_append_right _ List.mem_cons_self)
    exact node?_chart h hmem
  rw [targets, outgoing_root (distinct_of_nodup h), List.filterMap_append,
    targets_leaves h fun l hl => mem_nodes_of_answer hl, List.filterMap_cons, hasker,
    List.filterMap_nil]

theorem targets_eq_nil (hroot : id ≠ o.root) (hasker : id ≠ o.asker) :
    targets o.chart id = [] := by
  rw [targets, outgoing_eq_nil hroot hasker, List.filterMap_nil]

/-- The asker is no answer, as it is a condition. -/
theorem templates_root (h : o.ids.Nodup) : Corpus.templates o.chart o.root = o.templates := by
  have hasker : [Graph.conditionNode o.asker o.question].filter
      (fun n => !n.isCondition && !n.text.isEmpty) = [] := rfl
  unfold Corpus.templates templates
  rw [targets_root h, List.filter_append, hasker, List.append_nil, answerLeaves, List.map_map,
    List.filter_map, List.map_map, List.filter_map]
  rfl

theorem getD_ofKeyword? (keyword : Text) :
    (ConditionKind.ofKeyword? keyword).getD .predicateValue = kindOf keyword := by
  by_cases hvariable : keyword = "variable".toList
  · rw [hvariable]
    decide
  by_cases hstar : keyword = "star".toList
  · rw [hstar]
    decide
  have hkind : kindOf keyword = .predicateValue := by
    rw [kindOf, if_neg hvariable, if_neg hstar]
  rw [hkind]
  cases hfound : ConditionKind.ofKeyword? keyword with
  | none => rfl
  | some kind =>
    rw [ConditionKind.ofKeyword?] at hfound
    have hkeyword : kind.keyword = keyword := by simpa using List.find?_some hfound
    cases kind with
    | predicateValue => rfl
    | variableValue => exact absurd hkeyword.symm hvariable
    | predicateSet => exact absurd hkeyword.symm hstar

theorem nodeBranches_asker (h : o.ids.Nodup) :
    nodeBranches o.chart (Graph.conditionNode o.asker o.question) = o.conditional.branches := by
  have hbranches : nodeBranches o.chart (Graph.conditionNode o.asker o.question) =
      (o.chart.outgoing o.asker).map (branch o.chart o.question) := rfl
  rw [hbranches, outgoing_asker (distinct_of_nodup h), List.map_map]
  refine List.map_congr_left fun l hl => ?_
  have hreply : o.chart.node? (Leaf.edge o.asker l).target = some l.node :=
    node?_chart h (mem_nodes_of_reply hl)
  rw [Function.comp_apply, branch, hreply, getD_ofKeyword?]
  rfl

/-- The branches of the root are those of its question. -/
theorem branches_root (h : o.ids.Nodup) :
    (targets o.chart o.root).flatMap (nodeBranches o.chart) = o.conditional.branches := by
  have hanswers : (o.answerLeaves.map Leaf.node).flatMap (nodeBranches o.chart) = [] := by
    refine List.flatMap_eq_nil_iff.mpr fun n hn => ?_
    obtain ⟨l, -, rfl⟩ := List.mem_map.mp hn
    rfl
  rw [targets_root h, List.flatMap_append, hanswers, List.nil_append, List.flatMap_singleton,
    nodeBranches_asker h]

theorem conditional?_root (h : o.ids.Nodup) (hreplies : o.replies ≠ []) :
    conditional? o.chart (Graph.patternNode (o.root, o.pattern)) = some o.conditional := by
  have hbranches : (targets o.chart (Graph.patternNode (o.root, o.pattern)).id).flatMap
      (nodeBranches o.chart) = o.conditional.branches := branches_root h
  have hsome : o.conditional.branches.isEmpty = false := by
    rw [List.isEmpty_eq_false_iff]
    exact fun hnil => hreplies (List.map_eq_nil_iff.mp hnil)
  unfold conditional?
  dsimp only
  rw [hbranches, hsome]
  rfl

/-- Answers and replies lead nowhere, so they have no branches. -/
theorem conditional?_leaf {l : Leaf} (hroot : l.id ≠ o.root) (hasker : l.id ≠ o.asker) :
    conditional? o.chart l.node = none := by
  have htargets : targets o.chart l.node.id = [] := targets_eq_nil hroot hasker
  unfold conditional?
  rw [htargets]
  rfl

/-- The pattern is the only node that leads to a condition. -/
theorem filterMap_conditional? (h : o.ids.Nodup) (hreplies : o.replies ≠ []) :
    o.chart.nodes.filterMap (conditional? o.chart) = [o.conditional] := by
  have hdistinct := distinct_of_nodup h
  have hleaves : ∀ leaves : List Leaf, (∀ l ∈ leaves, l.id ≠ o.root) →
      (∀ l ∈ leaves, l.id ≠ o.asker) →
      (leaves.map Leaf.node).filterMap (conditional? o.chart) = [] := by
    intro leaves hroot hasker
    refine List.filterMap_eq_nil_iff.mpr fun n hn => ?_
    obtain ⟨l, hl, rfl⟩ := List.mem_map.mp hn
    exact conditional?_leaf (hroot l hl) (hasker l hl)
  have hasker : conditional? o.chart (Graph.conditionNode o.asker o.question) = none := rfl
  rw [nodes_chart, List.filterMap_cons, conditional?_root h hreplies, List.filterMap_append,
    hleaves _ hdistinct.root_answer hdistinct.asker_answer, List.filterMap_cons, hasker,
    hleaves _ hdistinct.root_reply hdistinct.asker_reply]
  rfl

theorem not_entered_root (h : o.Distinct) : o.chart.edges.any (·.target = o.root) = false := by
  refine List.any_eq_false.mpr fun e he heq => ?_
  have htarget := of_decide_eq_true heq
  rcases List.mem_append.mp he with he | he
  · obtain ⟨l, hl, rfl⟩ := List.mem_map.mp he
    exact h.root_answer l hl htarget
  · rcases List.mem_cons.mp he with rfl | he
    · exact h.root_asker htarget
    · obtain ⟨l, hl, rfl⟩ := List.mem_map.mp he
      exact h.root_reply l hl htarget

/-- Every node but the root stands at the end of an edge. -/
theorem exists_edge {n : Node} (hn : n ∈ o.answerLeaves.map Leaf.node ++
    Graph.conditionNode o.asker o.question :: o.replies.map Leaf.node) :
    ∃ e ∈ o.chart.edges, e.target = n.id := by
  rcases List.mem_append.mp hn with hn | hn
  · obtain ⟨l, hl, rfl⟩ := List.mem_map.mp hn
    exact ⟨l.edge o.root, List.mem_append_left _ (List.mem_map_of_mem hl), rfl⟩
  · rcases List.mem_cons.mp hn with rfl | hn
    · exact ⟨⟨o.root, o.asker, []⟩, List.mem_append_right _ List.mem_cons_self, rfl⟩
    · obtain ⟨l, hl, rfl⟩ := List.mem_map.mp hn
      refine ⟨l.edge o.asker, List.mem_append_right _ (List.mem_cons_of_mem _ ?_), rfl⟩
      exact List.mem_map_of_mem hl

/-- Only the root starts the chart. -/
theorem startNodes_chart (h : o.Distinct) :
    o.chart.startNodes = [Graph.patternNode (o.root, o.pattern)] := by
  have hleft : o.chart.edges.any (·.source = o.root) = true := by
    rw [Graph.any_source, outgoing_root h]
    cases o.answerLeaves <;> rfl
  have hroot : (!(o.chart.edges.any (·.target = o.root)) &&
      o.chart.edges.any (·.source = o.root)) = true := by
    rw [not_entered_root h, hleft]
    rfl
  have hothers : (o.answerLeaves.map Leaf.node ++
      Graph.conditionNode o.asker o.question :: o.replies.map Leaf.node).filter
        (fun n => !(o.chart.edges.any (·.target = n.id)) && o.chart.edges.any (·.source = n.id)) =
      [] := by
    refine List.filter_eq_nil_iff.mpr fun n hn => ?_
    obtain ⟨e, he, htarget⟩ := exists_edge hn
    have hentered : o.chart.edges.any (·.target = n.id) = true :=
      List.any_eq_true.mpr ⟨e, he, decide_eq_true htarget⟩
    rw [hentered]
    exact Bool.false_ne_true
  rw [Graph.startNodes, nodes_chart, List.filter_cons, hothers]
  exact if_pos hroot

/-- The pattern is the only node that starts the chart. -/
theorem filterMap_category? (h : o.ids.Nodup) (sourceFile : Text) :
    [Graph.patternNode (o.root, o.pattern)].filterMap (category? o.chart sourceFile) =
      o.plain sourceFile := by
  have hcategory : category? o.chart sourceFile (Graph.patternNode (o.root, o.pattern)) =
      if o.pattern.isEmpty || o.templates.isEmpty then none
      else some ⟨o.pattern, o.templates, sourceFile⟩ := by
    rw [← templates_root h]
    rfl
  rw [List.filterMap_cons, hcategory, plain]
  by_cases hnone : o.pattern = [] ∨ o.templates = []
  · rw [if_pos hnone, if_pos (by simpa using hnone)]
    rfl
  · rw [if_neg hnone, if_neg (by simpa using hnone)]
    rfl

/-- The chart of an outline compiles to the categories that the outline describes. -/
theorem compile_chart (h : o.ids.Nodup) (hreplies : o.replies ≠ []) (sourceFile : Text) :
    compile o.chart sourceFile = o.corpus sourceFile := by
  rw [compile, startNodes_chart (distinct_of_nodup h), filterMap_category? h,
    filterMap_conditional? h hreplies, corpus]

end Compile

end Outline
end ChartDialogue.Corpus
