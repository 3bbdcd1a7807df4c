import ChartDialogue.Proofs.Chart.Expressions
import ChartDialogue.Proofs.Chart.SideBySide

/-!
Lines that are one definition. What a line is told by fills it, and its nodes are defined by what is
found from left to right; the two agree, so such a line defines one node and changes nothing else,
whatever its text contains.
-/
namespace ChartDialogue.Chart

open Text

section Search

/-- The definitions of pattern nodes in a text, from left to right and first ways first. -/
def patternSearch : Scanner (Text × Text) where
  read s := (patternExpr s).head?
  shorter {s w r} h := length_lt_of_patternNode? (s := s) (by rw [patternNode?_eq, h]; rfl)

def conditionSearch : Scanner (Text × Text) where
  read s := (conditionExpr s).head?
  shorter {s w r} h := length_lt_of_conditionNode? (s := s) (by rw [conditionNode?_eq, h]; rfl)

/-- The nodes that a text defines are those that a search with the expression finds. -/
theorem patternEdits_eq (s : Text) :
    patternEdits s = (patternSearch.findAll s).map fun n => .pattern n.1 (trim n.2) := by
  have hread := findAll_eq_map patternScanner patternSearch (fun n => (n.1, trim n.2))
    patternNode?_eq
  rw [patternEdits, hread, List.map_map]
  rfl

theorem conditionEdits_eq (s : Text) :
    conditionEdits s = (conditionSearch.findAll s).filterMap fun n =>
      (question? n.2).map fun q => .condition n.1 q := by
  have hread := findAll_eq_map conditionScanner conditionSearch (fun n => (n.1, question? n.2))
    conditionNode?_eq
  rw [conditionEdits, hread, List.filterMap_map]
  rfl

end Search

section Classification

variable {α β : Type} {line : Text}

theorem isWhole_iff {read : Option (α × Text)} :
    isWhole read = true ↔ ∃ a, read = some (a, []) := by
  constructor
  · intro h
    unfold isWhole at h
    split at h
    · exact ⟨_, rfl⟩
    · exact absurd h Bool.false_ne_true
  · rintro ⟨a, rfl⟩
    rfl

theorem isWhole_map (f : α → β) (read : Option (α × Text)) :
    isWhole (read.map fun w => (f w.1, w.2)) = isWhole read := by
  rcases read with - | ⟨a, - | ⟨c, rest⟩⟩ <;> rfl

theorem isWhole_head? {e : Ways α}
    (h : ∀ {a}, Ways.whole? e line = some a ↔ (e line).head? = some (a, [])) :
    isWhole (e line).head? = (Ways.whole? e line).isSome := by
  rw [Bool.eq_iff_iff, isWhole_iff, Option.isSome_iff_exists]
  exact exists_congr fun a => h.symm

/-- The reader finds the definition that fills the line whenever the expression does. -/
theorem isWhole_patternNode? (line : Text) :
    isWhole (patternNode? line) = (Ways.whole? patternExpr line).isSome := by
  rw [patternNode?_eq, isWhole_map fun n : Text × Text => (n.1, trim n.2),
    isWhole_head? whole?_patternExpr]

theorem isWhole_conditionNode? (line : Text) :
    isWhole (conditionNode? line) = (Ways.whole? conditionExpr line).isSome := by
  rw [conditionNode?_eq, isWhole_map fun n : Text × Text => (n.1, question? n.2),
    isWhole_head? whole?_conditionExpr]

/-- A line is told by the expressions that fill it. -/
theorem classify_eq (line : Text) :
    classify line =
      if startsWith "%%".toList line then .comment
      else if line.isEmpty then .blank
      else if startsWith "flowchart".toList line || startsWith "graph".toList line then .declaration
      else if (Ways.whole? patternExpr line).isSome then .patternNode
      else if (Ways.whole? conditionExpr line).isSome then .conditionNode
      else if occursIn shaft line then .edge
      else .unrecognized := by
  rw [classify, isWhole_patternNode?, isWhole_conditionNode?]

theorem exists_whole?_patternExpr (h : classify line = .patternNode) :
    ∃ node, Ways.whole? patternExpr line = some node := by
  rw [classify_eq] at h
  split_ifs at h with _ _ _ hwhole
  exact Option.isSome_iff_exists.mp hwhole

theorem exists_whole?_conditionExpr (h : classify line = .conditionNode) :
    ∃ node, Ways.whole? conditionExpr line = some node := by
  rw [classify_eq] at h
  split_ifs at h with _ _ _ _ hwhole
  exact Option.isSome_iff_exists.mp hwhole

end Classification

namespace Graph

variable {g h k : Graph} {id : Text} {f : Node → Node}

/-- A graph as another one but for a single node, which may be new. -/
structure DiffersAt (id : Text) (g h : Graph) : Prop where
  edges : h.edges = g.edges
  ids : h.ids = g.ids ∨ id ∉ g.ids ∧ h.ids = g.ids ++ [id]
  others : h.nodes.filter (·.id ≠ id) = g.nodes.filter (·.id ≠ id)

theorem DiffersAt.refl (id : Text) (g : Graph) : DiffersAt id g g :=
  ⟨rfl, Or.inl rfl, rfl⟩

theorem DiffersAt.trans (hgh : DiffersAt id g h) (hhk : DiffersAt id h k) : DiffersAt id g k where
  edges := hhk.edges.trans hgh.edges
  ids := by
    rcases hhk.ids with hids | ⟨hnew, hids⟩
    · rw [hids]
      exact hgh.ids
    · rcases hgh.ids with hsame | ⟨-, hgrown⟩
      · rw [← hsame]
        exact Or.inr ⟨hnew, hids⟩
      · rw [hgrown] at hnew
        exact absurd (List.mem_append_right _ (List.mem_singleton.mpr rfl)) hnew
  others := hhk.others.trans hgh.others

theorem differsAt_mention (g : Graph) (id : Text) : DiffersAt id g (g.mention id) := by
  by_cases hid : id ∈ g.ids
  · obtain ⟨n, hn, rfl⟩ := List.mem_map.mp hid
    rw [mention_of_mem hn]
    exact DiffersAt.refl _ g
  · rw [mention_of_new (not_mem_ids_iff.mp hid)]
    refine ⟨rfl, Or.inr ⟨hid, ?_⟩, ?_⟩
    · exact List.map_append
    · dsimp only
      rw [List.filter_append]
      simp [Node.placeholder]

/-- An update that keeps the name of the node changes no other one. -/
theorem differsAt_update (g : Graph) (id : Text) (hf : ∀ n, (f n).id = n.id) :
    DiffersAt id g (g.update id f) := by
  refine (differsAt_mention g id).trans ⟨rfl, Or.inl (ids_update hf), ?_⟩
  unfold update
  dsimp only
  induction (g.mention id).nodes with
  | nil => rfl
  | cons n nodes ih =>
    rw [List.map_cons, List.filter_cons, List.filter_cons, ih]
    by_cases hn : n.id = id
    · simp [hn, hf]
    · simp [hn]

/-- A node that is mentioned is found: the one that was there, or a placeholder. -/
theorem node?_mention (g : Graph) (id : Text) :
    (g.mention id).node? id = some ((g.node? id).getD (Node.placeholder id)) := by
  by_cases hid : id ∈ g.ids
  · obtain ⟨n, hn, rfl⟩ := List.mem_map.mp hid
    rw [mention_of_mem hn]
    cases hfound : g.node? n.id with
    | none => exact absurd (decide_eq_true rfl) (List.find?_eq_none.mp hfound n hn)
    | some m => rfl
  · have hnone := node?_eq_none hid
    rw [mention_of_new (not_mem_ids_iff.mp hid), hnone]
    unfold Graph.node? at hnone ⊢
    dsimp only
    rw [List.find?_append, hnone]
    simp [Node.placeholder]

theorem node?_update (g : Graph) (id : Text) (hf : ∀ n, (f n).id = n.id) :
    (g.update id f).node? id = some (f ((g.node? id).getD (Node.placeholder id))) := by
  have hfound := node?_mention g id
  generalize (g.node? id).getD (Node.placeholder id) = n at hfound ⊢
  have hid : n.id = id := by simpa using List.find?_some hfound
  have hsame : ((fun m : Node => decide (m.id = id)) ∘ fun m => if m.id = id then f m else m) =
      fun m => decide (m.id = id) := by
    funext m
    rw [Function.comp_apply]
    split_ifs with hm
    · rw [hf]
    · rfl
  unfold Graph.node? at hfound ⊢
  rw [update, List.find?_map, hsame, hfound, Option.map_some, if_pos hid]

theorem node?_setText (g : Graph) (id text : Text) :
    (g.setText id text).node? id =
      let n := (g.node? id).getD (Node.placeholder id)
      some (if text.isEmpty then n else { n with text := text }) :=
  node?_update g id fun n => by split_ifs <;> rfl

/-- A definition in brackets makes a pattern node; an empty text leaves what was there. -/
theorem exists_node?_definePattern (g : Graph) (id text : Text) :
    ∃ n, (g.definePattern id text).node? id = some n ∧ n.isPattern = true ∧
      (text ≠ [] → n.text = text) := by
  refine ⟨_, node?_update (g.setText id text) id fun _ => rfl, rfl, fun htext => ?_⟩
  rw [node?_setText, Option.getD_some, if_neg fun hempty => htext (List.isEmpty_iff.mp hempty)]

theorem exists_node?_defineCondition (g : Graph) (id : Text) (question : Question) :
    ∃ n, (g.defineCondition id question).node? id = some n ∧ n.question = some question :=
  ⟨_, node?_update g id fun _ => rfl, rfl⟩

/-- To define a node leaves all other nodes and all edges alone. -/
theorem differsAt_apply_pattern (g : Graph) (id text : Text) :
    DiffersAt id g (g.apply (.pattern id text)) :=
  (differsAt_update g id fun n => by split_ifs <;> rfl).trans
    (differsAt_update (g.setText id text) id fun _ => rfl)

theorem differsAt_apply_condition (g : Graph) (id : Text) (question : Question) :
    DiffersAt id g (g.apply (.condition id question)) :=
  differsAt_update g id fun _ => rfl

end Graph

/-- A line that is one definition of a pattern node: the expression that fills the line gives the
identifier and the text, no other definition is found, and of a graph only this node is touched. -/
structure PatternLine (line id text : Text) : Prop where
  whole : Ways.whole? patternExpr line = some (id, text)
  search : patternSearch.pieces line = [.inr (id, text)]
  read : patternScanner.pieces line = [.inr (id, trim text)]
  edits : lineEdits line = [.pattern id (trim text)]
  node : ∀ g : Graph, ∃ n, ((lineEdits line).foldl Graph.apply g).node? id = some n ∧
    n.isPattern = true ∧ (trim text ≠ [] → n.text = trim text)
  others : ∀ g : Graph, g.DiffersAt id ((lineEdits line).foldl Graph.apply g)

/-- A line that is one definition of a condition node, which asks what stands between `Condition:`
and the closing brace. -/
structure ConditionLine (line id asked : Text) : Prop where
  isIdentifier : IsIdentifier id
  shape : ∃ gap, (∀ c ∈ gap, isBlank c = true) ∧
    line = id ++ '\x7b' :: (gap ++ ("Condition:".toList ++ (asked ++ ['\x7d'])))
  brace_not_mem : '\x7d' ∉ asked
  whole : Ways.whole? conditionExpr line = some (id, dropBlanks asked)
  search : conditionSearch.pieces line = [.inr (id, dropBlanks asked)]
  read : conditionScanner.pieces line = [.inr (id, question? asked)]
  edits : lineEdits line = ((question? asked).map (Edit.condition id)).toList
  none_iff : lineEdits line = [] ↔ ∀ c ∈ asked, isBlank c = true
  node : ∀ g : Graph, ∀ q ∈ question? asked,
    ∃ n, ((lineEdits line).foldl Graph.apply g).node? id = some n ∧ n.question = some q
  others : ∀ g : Graph, g.DiffersAt id ((lineEdits line).foldl Graph.apply g)

section Lines

variable {line : Text}

/-- A line that is a node in brackets is not searched for conditions. -/
theorem lineEdits_of_patternNode (h : classify line = .patternNode) :
    lineEdits line = patternEdits line := by
  rw [lineEdits, h]

theorem lineEdits_of_conditionNode (h : classify line = .conditionNode) :
    lineEdits line = conditionEdits line := by
  rw [lineEdits, h]

/-- What fills a line as a node in brackets is the only definition on it. -/
theorem patternLine_of_classify (h : classify line = .patternNode) :
    ∃ id text, PatternLine line id text := by
  obtain ⟨⟨id, text⟩, hwhole⟩ := exists_whole?_patternExpr h
  have hfirst := whole?_patternExpr.mp hwhole
  have hread : patternNode? line = some ((id, trim text), []) := by
    rw [patternNode?_eq, hfirst]
    rfl
  have hsearch := pieces_of_read_all patternSearch hfirst
  have hedits : lineEdits line = [.pattern id (trim text)] := by
    rw [lineEdits_of_patternNode h, patternEdits_eq, Scanner.findAll, hsearch]
    rfl
  refine ⟨id, text, hwhole, hsearch, pieces_of_read_all patternScanner hread, hedits,
    fun g => ?_, fun g => ?_⟩
  · rw [hedits]
    exact g.exists_node?_definePattern id (trim text)
  · rw [hedits]
    exact g.differsAt_apply_pattern id (trim text)

/-- What fills a line as a condition is the only definition on it. -/
theorem conditionLine_of_classify (h : classify line = .conditionNode) :
    ∃ id asked, ConditionLine line id asked := by
  obtain ⟨node, hwhole⟩ := exists_whole?_conditionExpr h
  have hfirst := whole?_conditionExpr.mp hwhole
  -- The expression drops the blanks before the question, so what is asked is taken from its reader.
  have hopen := hfirst
  rw [head?_conditionExpr] at hopen
  simp only [Option.bind_eq_some_iff, Option.map_eq_some_iff, Prod.mk.injEq, Prod.exists] at hopen
  obtain ⟨id, r, hasks, asked, rest, hasked, rfl, rfl⟩ := hopen
  obtain ⟨hid, gap, hgap, hline⟩ := eq_append_of_asks? hasks
  obtain ⟨hbrace, rfl⟩ := upTo?_eq_some_iff.mp hasked
  have hread : conditionNode? line = some ((id, question? asked), []) := by
    rw [conditionNode?_eq, hfirst, Option.map_some, question?_dropBlanks]
  have hsearch := pieces_of_read_all conditionSearch hfirst
  have hedits : lineEdits line = ((question? asked).map (Edit.condition id)).toList := by
    rw [lineEdits_of_conditionNode h, conditionEdits_eq, Scanner.findAll, hsearch]
    dsimp only [List.filterMap_cons, List.filterMap_nil]
    rw [question?_dropBlanks]
    cases question? asked <;> rfl
  refine ⟨id, asked, hid, ⟨gap, hgap, hline⟩, hbrace, hwhole, hsearch,
    pieces_of_read_all conditionScanner hread, hedits, ?_, fun g q hq => ?_, fun g => ?_⟩
  · rw [hedits, ← question?_eq_none_iff]
    cases question? asked <;> simp
  · rw [hedits, Option.mem_def.mp hq]
    exact g.exists_node?_defineCondition id q
  · rw [hedits]
    cases question? asked with
    | none => exact Graph.DiffersAt.refl id g
    | some q => exact g.differsAt_apply_condition id q

/-- A line that is told to be a node is one definition of it, whatever arrows, brackets, quotes and
braces are in its text. A condition that asks nothing but blanks defines no node. -/
theorem wholeLine_defines_one (line : Text) :
    (classify line = .patternNode → ∃ id text, PatternLine line id text) ∧
      (classify line = .conditionNode → ∃ id asked, ConditionLine line id asked) :=
  ⟨patternLine_of_classify, conditionLine_of_classify⟩

theorem wholeLine_defines_one_marks :
    (classify "a[\"x --> y[1] \x7bCondition: z\x7d\"]".toList = .patternNode ∧
      ∃ id text, PatternLine "a[\"x --> y[1] \x7bCondition: z\x7d\"]".toList id text) ∧
    (classify "b\x7bCondition: [x] --> y\x7d".toList = .conditionNode ∧
      ∃ id asked, ConditionLine "b\x7bCondition: [x] --> y\x7d".toList id asked) :=
  have hpattern : classify "a[\"x --> y[1] \x7bCondition: z\x7d\"]".toList = .patternNode := by
    decide
  have hcondition : classify "b\x7bCondition: [x] --> y\x7d".toList = .conditionNode := by decide
  ⟨⟨hpattern, (wholeLine_defines_one _).1 hpattern⟩,
    ⟨hcondition, (wholeLine_defines_one _).2 hcondition⟩⟩

end Lines

end ChartDialogue.Chart
