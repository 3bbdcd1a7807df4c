import ChartDialogue.Corpus.Compile
import ChartDialogue.Proofs.Chart.SideBySide
import ChartDialogue.Proofs.Text.Words

/-!
A flowchart text may be spread over several sources. Compiling looks at a node, at the edges that
leave or enter it and at the nodes that these lead to, all of which lie in one of two charts that
share no name. So the text of two flowcharts one after the other has the categories of the first
and then those of the second.
-/
namespace ChartDialogue

open Text Chart

namespace Corpus

variable {g h k : Graph}

theorem mem_ids_of_mem_targets {id : Text} {n : Node} (hn : n ∈ targets g id) : n.id ∈ g.ids := by
  obtain ⟨e, -, hfound⟩ := List.mem_filterMap.mp hn
  exact Graph.mem_ids_of_mem (List.mem_of_find?_eq_some hfound)

section Part

variable (hg : g.Closed) (hk : Graph.IsPart g k)

include hg hk

/-- A part of a chart sees the nodes that it would see alone. -/
theorem targets_part {id : Text} (hid : id ∈ g.ids) : targets k id = targets g id := by
  unfold targets
  rw [hk.outgoing id hid]
  exact List.filterMap_congr fun e he => hk.node? e.target (hg.target_mem he)

/-- A start node of a part becomes the plain category that it becomes alone. -/
theorem category?_part (sourceFile : Text) {n : Node} (hn : n ∈ g.nodes) :
    category? k sourceFile n = category? g sourceFile n := by
  unfold category? templates
  rw [targets_part hg hk (Graph.mem_ids_of_mem hn)]

theorem nodeBranches_part {n : Node} (hn : n.id ∈ g.ids) : nodeBranches k n = nodeBranches g n := by
  unfold nodeBranches
  cases n.question with
  | none => rfl
  | some question =>
    dsimp only
    rw [hk.outgoing n.id hn]
    refine List.map_congr_left fun e he => ?_
    unfold branch
    rw [hk.node? e.target (hg.target_mem he)]

/-- A pattern node of a part becomes the conditional category that it becomes alone. -/
theorem conditional?_part {n : Node} (hn : n ∈ g.nodes) : conditional? k n = conditional? g n := by
  have hbranches : (targets k n.id).flatMap (nodeBranches k) =
      (targets g n.id).flatMap (nodeBranches g) := by
    rw [targets_part hg hk (Graph.mem_ids_of_mem hn)]
    exact List.flatMap_congr fun t ht => nodeBranches_part hg hk (mem_ids_of_mem_targets ht)
  unfold conditional?
  rw [hbranches]

end Part

/-- The nodes of a part that start the whole chart are those that start the part. -/
theorem filter_part (hk : Graph.IsPart g k) :
    g.nodes.filter (fun n => !(k.edges.any (·.target = n.id)) && k.edges.any (·.source = n.id)) =
      g.startNodes := by
  refine List.filter_congr fun n hn => ?_
  have hid := Graph.mem_ids_of_mem hn
  rw [hk.entered n.id hid, Graph.any_source, Graph.any_source, hk.outgoing n.id hid]

/-- Two charts that share no name are compiled one after the other. -/
theorem compile_beside (hg : g.Closed) (hh : h.Closed) (hids : List.Disjoint g.ids h.ids)
    (sourceFile : Text) :
    compile (g.beside h) sourceFile = (compile g sourceFile).append (compile h sourceFile) := by
  have hleft := Graph.isPart_beside_left hh hids
  have hright := Graph.isPart_beside_right hg hids
  have hnodes : (g.beside h).nodes = g.nodes ++ h.nodes := rfl
  have hstarts : (g.beside h).startNodes = g.startNodes ++ h.startNodes := by
    rw [Graph.startNodes, hnodes, List.filter_append, filter_part hleft, filter_part hright]
  have hcategories : (g.beside h).startNodes.filterMap (category? (g.beside h) sourceFile) =
      g.startNodes.filterMap (category? g sourceFile) ++
        h.startNodes.filterMap (category? h sourceFile) := by
    rw [hstarts, List.filterMap_append]
    congr 1
    · exact List.filterMap_congr fun n hn =>
        category?_part hg hleft sourceFile (List.mem_filter.mp hn).1
    · exact List.filterMap_congr fun n hn =>
        category?_part hh hright sourceFile (List.mem_filter.mp hn).1
  have hconditionals : (g.beside h).nodes.filterMap (conditional? (g.beside h)) =
      g.nodes.filterMap (conditional? g) ++ h.nodes.filterMap (conditional? h) := by
    rw [hnodes, List.filterMap_append]
    congr 1
    · exact List.filterMap_congr fun n hn => conditional?_part hg hleft hn
    · exact List.filterMap_congr fun n hn => conditional?_part hh hright hn
  unfold compile append
  rw [hcategories, hconditionals]

end Corpus

namespace Chart

/-- The lines before the first declaration. -/
def preamble (text : Text) : List Text :=
  (lines text).takeWhile fun line => classify line ≠ .declaration

/-- A line that does nothing wherever it stands. -/
def IsIdle (line : Text) : Prop :=
  classify line = .comment ∨ classify line = .blank ∨ classify line = .unrecognized

instance (line : Text) : Decidable (IsIdle line) :=
  inferInstanceAs (Decidable (_ ∨ _))

theorem lineEdits_of_isIdle {line : Text} (h : IsIdle line) : lineEdits line = [] := by
  unfold lineEdits
  rcases h with h | h | h <;> rw [h]

/-- A line feed between two texts keeps their lines apart. -/
theorem lines_append (text more : Text) : lines (text ++ '\n' :: more) = lines text ++ lines more := by
  unfold lines
  rw [split_append_sep rfl, List.map_append]

/-- A text behind another does the same as alone, if its preamble does nothing. -/
theorem edits_append {text more : Text} (hidle : ∀ line ∈ preamble more, IsIdle line) :
    edits (text ++ '\n' :: more) = edits text ++ edits more := by
  have hmore : (lines more).flatMap lineEdits = edits more := by
    have hnone : (preamble more).flatMap lineEdits = [] :=
      List.flatMap_eq_nil_iff.mpr fun line hline => lineEdits_of_isIdle (hidle line hline)
    rw [← List.takeWhile_append_dropWhile (p := fun line => decide (classify line ≠ .declaration))
      (l := lines more), List.flatMap_append]
    exact (congrArg (· ++ _) hnone).trans (List.nil_append _)
  unfold edits body at hmore ⊢
  rw [lines_append, List.dropWhile_append]
  split_ifs with hdeclared
  · rw [List.isEmpty_iff.mp hdeclared]
    rfl
  · rw [List.flatMap_append, hmore]

end Chart

namespace Corpus

/-- Two texts in a row have the categories of the first and then those of the second, if they share
no name and the second does nothing before its first declaration. -/
theorem ofText_append (text more sourceFile : Text)
    (hids : List.Disjoint (Graph.ofText text).ids (Graph.ofText more).ids)
    (hidle : ∀ line ∈ preamble more, IsIdle line) :
    ofText (text ++ '\n' :: more) sourceFile =
      (ofText text sourceFile).append (ofText more sourceFile) := by
  have hchart : Graph.ofText (text ++ '\n' :: more) =
      (Graph.ofText text).beside (Graph.ofText more) := by
    unfold Graph.ofText at hids ⊢
    rw [edits_append hidle, Graph.ofEdits_append hids]
  have hclosed : ∀ t, (Graph.ofText t).Closed := fun t => Graph.closed_ofEdits (edits t)
  rw [ofText, hchart, compile_beside (hclosed text) (hclosed more) hids]
  rfl

theorem ofText_append_comment :
    List.Disjoint (Graph.ofText "flowchart TD\nA[hi] --> B[hello]".toList).ids
      (Graph.ofText "%% more\ngraph\nC[bye] --> D\x7bCondition: star x\x7d\nD -->|*| E[so]".toList).ids ∧
    (∀ line ∈ preamble
        "%% more\ngraph\nC[bye] --> D\x7bCondition: star x\x7d\nD -->|*| E[so]".toList, IsIdle line) ∧
    ofText ("flowchart TD\nA[hi] --> B[hello]".toList ++
        '\n' :: "%% more\ngraph\nC[bye] --> D\x7bCondition: star x\x7d\nD -->|*| E[so]".toList) [] =
      ⟨[⟨"hi".toList, ["hello".toList], []⟩],
        [⟨"bye".toList, [⟨⟨.predicateSet, "x".toList, "*".toList, true⟩, "so".toList⟩]⟩]⟩ := by
  have hids : List.Disjoint (Graph.ofText "flowchart TD\nA[hi] --> B[hello]".toList).ids
      (Graph.ofText
        "%% more\ngraph\nC[bye] --> D\x7bCondition: star x\x7d\nD -->|*| E[so]".toList).ids := by
    exact List.disjoint_iff_ne.mpr (by decide +kernel)
  have hidle : ∀ line ∈ preamble
      "%% more\ngraph\nC[bye] --> D\x7bCondition: star x\x7d\nD -->|*| E[so]".toList,
      IsIdle line := by decide +kernel
  exact ⟨hids, hidle, (ofText_append _ _ [] hids hidle).trans (by decide +kernel)⟩

end Corpus
end ChartDialogue
