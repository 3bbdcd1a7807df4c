import ChartDialogue.Proofs.Chart.ArrowLines
import ChartDialogue.Proofs.Chart.Drawing
import ChartDialogue.Proofs.Corpus.Names

/-!
The chart of a written flowchart. The text is a declaration, a line for each node, an empty line and
a line for each edge; reading it line by line draws all nodes and then all edges. The texts of the
nodes come back without blanks at their ends, and with apostrophes for double quotes.
-/
namespace ChartDialogue.Corpus

open Text Chart

/-- What is left of a text that is written and read back. -/
def clean (text : Text) : Text :=
  trim (unquote text)

namespace NamedCategory

/-- The sources and the targets of a category's edges. -/
def ends (c : NamedCategory) : List (Text × Text) :=
  c.templates.map fun t => (c.pattern.1, t.1)

theorem nodeLines_eq (c : NamedCategory) : c.nodeLines = c.nodes.flatMap nodeLine := by
  unfold nodeLines nodes
  rw [List.flatMap_cons]

theorem edgeLines_eq (c : NamedCategory) :
    c.edgeLines = c.ends.flatMap fun p => edgeLine p.1 p.2 := by
  unfold edgeLines ends
  rw [List.flatMap_map]

end NamedCategory

def nodeText (node : Text × Text) : Text :=
  node.1 ++ '[' :: '"' :: (unquote node.2 ++ ['"', ']'])

theorem nodeLine_eq (node : Text × Text) : nodeLine node = (indent ++ nodeText node) ++ ['\n'] := by
  unfold nodeLine nodeText
  simp only [List.append_assoc, List.cons_append, List.nil_append]
  rfl

theorem edgeLine_eq (source target : Text) :
    edgeLine source target = (indent ++ edgeText source target) ++ ['\n'] := by
  unfold edgeLine edgeText
  simp only [List.append_assoc]

def heading : Text := "flowchart TD".toList

def writtenLines (nodes ends : List (Text × Text)) : List Text :=
  heading :: (nodes.map (indent ++ nodeText ·) ++
    ((if nodes.isEmpty then [] else [[]]) ++ ends.map fun p => indent ++ edgeText p.1 p.2))

/-- The nodes and the edges of categories with the given names. -/
def allNodes (named : List NamedCategory) : List (Text × Text) :=
  named.flatMap NamedCategory.nodes

def allEnds (named : List NamedCategory) : List (Text × Text) :=
  named.flatMap NamedCategory.ends

theorem isEmpty_allNodes (categories : List Category) (names : Names) :
    (allNodes (nameCategories names categories)).isEmpty = categories.isEmpty := by
  cases categories <;> rfl

/-- What is written, line by line. -/
theorem write_eq (categories : List Category) :
    write categories =
      (writtenLines (allNodes (nameCategories ⟨[], 0⟩ categories))
        (allEnds (nameCategories ⟨[], 0⟩ categories))).flatMap (· ++ ['\n']) := by
  have hnodes : ∀ named : List NamedCategory, named.flatMap NamedCategory.nodeLines =
      (allNodes named).flatMap fun node => (indent ++ nodeText node) ++ ['\n'] := by
    intro named
    unfold allNodes
    rw [List.flatMap_assoc]
    refine List.flatMap_congr fun c _ => ?_
    rw [c.nodeLines_eq]
    exact List.flatMap_congr fun node _ => nodeLine_eq node
  have hedges : ∀ named : List NamedCategory, named.flatMap NamedCategory.edgeLines =
      (allEnds named).flatMap fun p => (indent ++ edgeText p.1 p.2) ++ ['\n'] := by
    intro named
    unfold allEnds
    rw [List.flatMap_assoc]
    refine List.flatMap_congr fun c _ => ?_
    rw [c.edgeLines_eq]
    exact List.flatMap_congr fun p _ => edgeLine_eq p.1 p.2
  unfold write writtenLines
  dsimp only
  rw [isEmpty_allNodes, hnodes, hedges]
  simp only [List.flatMap_cons, List.flatMap_append, List.flatMap_map, List.append_assoc]
  cases categories <;> rfl

section Lines

variable {id text : Text}

/-- Capital letters and digits make an identifier that no declaration begins with. -/
theorem isNodeName_of_isName (h : IsName id) : IsNodeName id where
  ne_nil := h.1
  isWord := by
    intro c hc
    have hc' : c.isAlphanum = true := by
      unfold Char.isAlphanum Char.isAlpha
      rcases h.2 c hc with hupper | hdigit
      · rw [hupper]
        rfl
      · rw [hdigit, Bool.or_true]
    exact isWord_of_isAlphanum (toNat_lt_of_isAlphanum hc') hc'
  lead := by
    intro c hc
    have hname := h.2 c (List.mem_of_mem_head? hc)
    constructor
    · rintro rfl
      exact absurd hname (by decide)
    · rintro rfl
      exact absurd hname (by decide)

theorem isBlank_indent : ∀ c ∈ indent, isBlank c = true :=
  List.all_eq_true.mp (by decide)

theorem quote_not_mem_unquote (text : Text) : '"' ∉ unquote text := by
  intro h
  obtain ⟨c, -, hc⟩ := List.mem_map.mp h
  split_ifs at hc with hquote
  · exact absurd hc (by decide)
  · exact hquote hc

/-- The line of a node without the blanks around it defines the node. -/
theorem lineEdits_nodeText {node : Text × Text} (h : IsName node.1) :
    lineEdits (trim (indent ++ nodeText node)) = [.pattern node.1 (clean node.2)] := by
  have hnode :=
    lineEdits_quotedNode (isNodeName_of_isName h).opensLine (quote_not_mem_unquote node.2)
  have htrim : trim (indent ++ nodeText node) = nodeText node := by
    refine trim_append isBlank_indent ?_ ?_
    · intro c hc
      refine (isNodeName_of_isName h).isIdentifier.not_isBlank c (List.mem_of_mem_head? ?_)
      rwa [nodeText, List.head?_append_of_ne_nil _ h.1] at hc
    · intro c hc
      have hlast : nodeText node = (node.1 ++ '[' :: '"' :: (unquote node.2 ++ ['"'])) ++ [']'] := by
        simp [nodeText]
      rw [hlast, List.getLast?_concat] at hc
      obtain rfl := Option.some.inj hc
      decide
  rw [htrim]
  exact hnode

/-- A written edge is read again. -/
theorem lineEdits_trim_edgeText {source target : Text} (hs : IsName source) (ht : IsName target) :
    lineEdits (trim (indent ++ edgeText source target)) = [.edge source target []] := by
  have htrim : trim (indent ++ edgeText source target) = edgeText source target := by
    refine trim_append isBlank_indent ?_ ?_
    · intro c hc
      refine (isNodeName_of_isName hs).isIdentifier.not_isBlank c (List.mem_of_mem_head? ?_)
      rwa [edgeText, List.append_assoc, List.head?_append_of_ne_nil _ hs.1] at hc
    · intro c hc
      refine (isNodeName_of_isName ht).isIdentifier.not_isBlank c (List.mem_of_getLast? ?_)
      rwa [edgeText, List.getLast?_append_of_ne_nil _ ht.1] at hc
  rw [htrim]
  exact lineEdits_edge (isNodeName_of_isName hs).opensLine (isNodeName_of_isName ht).isIdentifier

theorem newline_not_mem_name (h : IsName id) : '\n' ∉ id :=
  fun hmem => absurd ((isNodeName_of_isName h).isIdentifier.not_isBlank '\n' hmem) (by decide)

theorem newline_not_mem_unquote (h : '\n' ∉ text) : '\n' ∉ unquote text := by
  intro hmem
  obtain ⟨c, hc, heq⟩ := List.mem_map.mp hmem
  split_ifs at heq with hquote
  · exact absurd heq (by decide)
  · exact h (heq ▸ hc)

end Lines

section Chart

variable {nodes ends : List (Text × Text)}

/-- Texts without a line feed make lines without one. -/
theorem newline_not_mem_writtenLines (hnodes : ∀ node ∈ nodes, IsName node.1 ∧ '\n' ∉ node.2)
    (hends : ∀ p ∈ ends, IsName p.1 ∧ IsName p.2) :
    ∀ l ∈ writtenLines nodes ends, '\n' ∉ l := by
  intro l hl
  simp only [writtenLines, List.mem_cons, List.mem_append, List.mem_map] at hl
  rcases hl with rfl | ⟨node, hnode, rfl⟩ | hblank | ⟨p, hp, rfl⟩
  · decide
  · obtain ⟨hname, htext⟩ := hnodes node hnode
    have hname' := newline_not_mem_name hname
    have htext' := newline_not_mem_unquote htext
    simp [nodeText, indent, hname', htext']
  · split_ifs at hblank
    · exact absurd hblank List.not_mem_nil
    · rw [List.mem_singleton.mp hblank]
      exact List.not_mem_nil
  · obtain ⟨hsource, htarget⟩ := hends p hp
    have hsource' := newline_not_mem_name hsource
    have htarget' := newline_not_mem_name htarget
    simp [edgeText, indent, hsource', htarget']

/-- Read back, the lines of a flowchart draw its nodes and then its edges. -/
theorem edits_writtenLines (hnodes : ∀ node ∈ nodes, IsName node.1 ∧ '\n' ∉ node.2)
    (hends : ∀ p ∈ ends, IsName p.1 ∧ IsName p.2) :
    edits ((writtenLines nodes ends).flatMap (· ++ ['\n'])) =
      (nodes.map fun node => .pattern node.1 (clean node.2)) ++
        ends.map fun p => .edge p.1 p.2 [] := by
  have hlines := lines_flatMap (newline_not_mem_writtenLines hnodes hends)
  have hdeclaration : decide (classify (trim heading) ≠ .declaration) = false := by decide
  have hfirst : lineEdits (trim heading) = [] := by decide
  have hblank : lineEdits [] = [] := by decide
  have hbody : body ((writtenLines nodes ends).flatMap (· ++ ['\n'])) =
      (writtenLines nodes ends).map trim ++ [[]] := by
    unfold body
    rw [hlines, writtenLines, List.map_cons, List.cons_append, List.dropWhile_cons, hdeclaration,
      if_neg Bool.false_ne_true]
  have hnodeEdits : (nodes.map (indent ++ nodeText ·)).flatMap (fun l => lineEdits (trim l)) =
      nodes.map fun node => .pattern node.1 (clean node.2) := by
    rw [List.flatMap_map, List.map_eq_flatMap]
    exact List.flatMap_congr fun node hnode => lineEdits_nodeText (hnodes node hnode).1
  have hedgeEdits : (ends.map fun p => indent ++ edgeText p.1 p.2).flatMap
      (fun l => lineEdits (trim l)) = ends.map fun p => .edge p.1 p.2 [] := by
    rw [List.flatMap_map, List.map_eq_flatMap]
    exact List.flatMap_congr fun p hp =>
      lineEdits_trim_edgeText (hends p hp).1 (hends p hp).2
  have hbreak : (if nodes.isEmpty then [] else [[]] : List Text).flatMap
      (fun l => lineEdits (trim l)) = [] := by
    split_ifs
    · rfl
    · decide
  unfold edits
  rw [hbody, List.flatMap_append, List.flatMap_map, writtenLines, List.flatMap_cons,
    List.flatMap_append, List.flatMap_append, hfirst, hnodeEdits, hbreak, hedgeEdits,
    List.flatMap_singleton, hblank, List.nil_append, List.nil_append, List.append_nil]

/-- The chart of a written flowchart has the nodes and the edges that were written, in this order. -/
theorem ofText_writtenLines (hnodes : ∀ node ∈ nodes, IsName node.1 ∧ '\n' ∉ node.2)
    (hnames : (nodes.map Prod.fst).Nodup) (hdiffer : ends.Nodup)
    (hends : ∀ p ∈ ends, p.1 ∈ nodes.map Prod.fst ∧ p.2 ∈ nodes.map Prod.fst) :
    Graph.ofText ((writtenLines nodes ends).flatMap (· ++ ['\n'])) =
      ⟨nodes.map fun node => Graph.patternNode (node.1, clean node.2),
        ends.map fun p => ⟨p.1, p.2, []⟩⟩ := by
  have hname : ∀ id ∈ nodes.map Prod.fst, IsName id := by
    intro id hid
    obtain ⟨node, hnode, rfl⟩ := List.mem_map.mp hid
    exact (hnodes node hnode).1
  have hids : (nodes.map fun node => (node.1, clean node.2)).map Prod.fst = nodes.map Prod.fst := by
    rw [List.map_map]
    rfl
  unfold Graph.ofText
  rw [edits_writtenLines hnodes fun p hp =>
    ⟨hname p.1 (hends p hp).1, hname p.2 (hends p hp).2⟩]
  have hdraw := Graph.ofEdits_nodes_edges (nodes.map fun node => (node.1, clean node.2)) ends
    (by rwa [hids]) hdiffer (by rwa [hids])
  rw [List.map_map, List.map_map] at hdraw
  exact hdraw

end Chart
end ChartDialogue.Corpus
