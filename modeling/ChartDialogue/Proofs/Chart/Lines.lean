import ChartDialogue.Proofs.Chart.Reading

/-!
What a line of a flowchart is told to be. A line that begins with an identifier is no comment, and
it is a declaration only if the identifier begins like one. A line that is one definition with a
quoted text defines that node and does nothing else, whatever the text contains.
-/
namespace ChartDialogue.Chart

open Text

/-- An identifier that a line may begin with and not be a declaration. -/
structure OpensLine (id : Text) : Prop extends IsIdentifier id where
  flowchart : startsWith "flowchart".toList id = false
  graph : startsWith "graph".toList id = false

/-- An identifier that does not begin like a declaration. -/
structure IsNodeName (id : Text) : Prop where
  ne_nil : id ≠ []
  isWord : ∀ c ∈ id, isWord c = true
  lead : ∀ c ∈ id.head?, c ≠ 'f' ∧ c ≠ 'g'

variable {id rest : Text} {c : Char}

theorem beq_eq_false_of_not_mem {s : Text} (h : c ∉ s) : ∀ d ∈ s, (d == c) = false := by
  intro d hd
  rw [beq_eq_false_iff_ne]
  rintro rfl
  exact h hd

/-- Lines that end with line feeds are read back, with an empty one behind them. -/
theorem lines_flatMap {ls : List Text} (h : ∀ l ∈ ls, '\n' ∉ l) :
    lines (ls.flatMap (· ++ ['\n'])) = ls.map trim ++ [[]] := by
  have hsplit : split (· == '\n') (ls.flatMap (· ++ ['\n'])) = ls ++ [[]] := by
    induction ls with
    | nil => rfl
    | cons l ls ih =>
      rw [List.flatMap_cons, List.append_assoc, List.singleton_append,
        split_append_cons (beq_eq_false_of_not_mem (h l List.mem_cons_self)) rfl,
        ih fun m hm => h m (List.mem_cons_of_mem l hm), List.cons_append]
  unfold lines
  rw [hsplit, List.map_append]
  rfl

/-- Lines with line feeds between them are read back. -/
theorem lines_join {ls : List Text} (hne : ls ≠ []) (h : ∀ l ∈ ls, '\n' ∉ l) :
    lines (join ['\n'] ls) = ls.map trim := by
  have hsplit : split (· == '\n') (join ['\n'] ls) = ls := by
    induction ls with
    | nil => exact absurd rfl hne
    | cons l ls ih =>
      have hl := beq_eq_false_of_not_mem (h l List.mem_cons_self)
      cases ls with
      | nil => exact split_of_clear hl
      | cons m ls =>
        have hrest := ih (List.cons_ne_nil m ls) fun k hk => h k (List.mem_cons_of_mem l hk)
        rw [join, List.append_assoc, List.singleton_append, split_append_cons hl rfl, hrest]
  unfold lines
  rw [hsplit]

theorem startsWith_iff {lead s : Text} : startsWith lead s = true ↔ lead <+: s := by
  unfold startsWith
  rw [Option.isSome_iff_exists]
  exact exists_congr fun rest => expect?_eq_some_iff.trans eq_comm

theorem startsWith_eq_false {lead s : Text} {a : Char} (hs : ∀ c ∈ s.head?, c ≠ a) :
    startsWith (a :: lead) s = false := by
  unfold startsWith
  rw [expect?_eq_none hs]
  rfl

/-- A text of word characters is looked for within the word that a line begins with. -/
theorem startsWith_append {lead : Text} (hlead : ∀ a ∈ lead, isWord a = true)
    (hc : isWord c = false) : startsWith lead (id ++ c :: rest) = startsWith lead id := by
  induction lead generalizing id with
  | nil => rfl
  | cons a lead ih =>
    have ha := hlead a List.mem_cons_self
    cases id with
    | nil =>
      rw [List.nil_append, startsWith_eq_false, startsWith_eq_false]
      · exact fun d hd => absurd hd (Option.not_mem_none d)
      · rintro d hd rfl
        rw [← Option.some.inj hd, hc] at ha
        exact absurd ha Bool.false_ne_true
    | cons d id =>
      have htail : startsWith lead (id ++ c :: rest) = startsWith lead id :=
        ih fun b hb => hlead b (List.mem_cons_of_mem a hb)
      unfold startsWith at htail ⊢
      rw [List.cons_append, expect?, expect?]
      split_ifs
      · exact htail
      · rfl

theorem IsNodeName.isIdentifier (h : IsNodeName id) : IsIdentifier id :=
  ⟨h.ne_nil, h.isWord⟩

theorem IsNodeName.opensLine (h : IsNodeName id) : OpensLine id where
  toIsIdentifier := h.isIdentifier
  flowchart := startsWith_eq_false fun c hc => (h.lead c hc).1
  graph := startsWith_eq_false fun c hc => (h.lead c hc).2

/-- A line that begins with such an identifier is a node, an edge or not recognized. -/
theorem classify_of_opensLine (h : OpensLine id) (hc : isWord c = false) :
    classify (id ++ c :: rest) =
      if isWhole (patternNode? (id ++ c :: rest)) then .patternNode
      else if isWhole (conditionNode? (id ++ c :: rest)) then .conditionNode
      else if occursIn shaft (id ++ c :: rest) then .edge
      else .unrecognized := by
  have hcomment : startsWith "%%".toList (id ++ c :: rest) = false := by
    refine startsWith_eq_false fun d hd => ?_
    rw [List.head?_append_of_ne_nil _ h.ne_nil] at hd
    rintro rfl
    exact h.not_mem (by decide) (List.mem_of_mem_head? hd)
  have hdeclaration : startsWith "flowchart".toList (id ++ c :: rest) = false := by
    rw [startsWith_append (List.all_eq_true.mp (by decide)) hc]
    exact h.flowchart
  have hgraph : startsWith "graph".toList (id ++ c :: rest) = false := by
    rw [startsWith_append (List.all_eq_true.mp (by decide)) hc]
    exact h.graph
  have hempty : (id ++ c :: rest).isEmpty = false := by
    rw [List.isEmpty_eq_false_iff]
    exact List.append_ne_nil_of_right_ne_nil id (List.cons_ne_nil c rest)
  unfold classify
  rw [hcomment, hempty, hdeclaration, hgraph]
  rfl

section Node

variable {text : Text}

/-- A definition in brackets, with its text in quotes. -/
def quotedNode (id text : Text) : Text :=
  id ++ '[' :: '"' :: (text ++ ['"', ']'])

theorem quotedNode_ne_nil (id text : Text) : quotedNode id text ≠ [] :=
  List.append_ne_nil_of_right_ne_nil id (List.cons_ne_nil _ _)

theorem quoted?_append (htext : '"' ∉ text) (rest : Text) :
    quoted? ('"' :: (text ++ '"' :: ']' :: rest)) = some (text, rest) := by
  have hclose : upTo? '"' (text ++ '"' :: ']' :: rest) = some (text, ']' :: rest) :=
    upTo?_append htext (']' :: rest)
  have hopen : dropBlanks ('"' :: (text ++ '"' :: ']' :: rest)) =
      '"' :: (text ++ '"' :: ']' :: rest) :=
    dropBlanks_of_head fun c hc => by
      obtain rfl := Option.some.inj hc
      decide
  unfold quoted?
  rw [hopen, expect?, if_pos rfl, expect?, Option.bind_eq_bind, Option.bind_some, hclose]
  rfl

theorem quotedNode_append (id text rest : Text) :
    quotedNode id text ++ rest = id ++ '[' :: '"' :: (text ++ '"' :: ']' :: rest) := by
  simp only [quotedNode, List.append_assoc, List.cons_append, List.nil_append]

/-- A quoted text in brackets defines the node, whatever stands between the quotes. -/
theorem patternNode?_quotedNode_append (h : IsIdentifier id) (htext : '"' ∉ text) (rest : Text) :
    patternNode? (quotedNode id text ++ rest) = some ((id, trim text), rest) := by
  have hid := identifier?_append_cons h (by decide : isWord '[' = false)
    ('"' :: (text ++ '"' :: ']' :: rest))
  have hbracket : expect? ['['] ('[' :: '"' :: (text ++ '"' :: ']' :: rest)) =
      some ('"' :: (text ++ '"' :: ']' :: rest)) := expect?_append ['['] _
  unfold patternNode? bracketed?
  rw [quotedNode_append, hid, Option.bind_eq_bind, Option.bind_some]
  dsimp only
  rw [hbracket, Option.bind_eq_bind, Option.bind_some, quoted?_append htext]
  rfl

theorem patternNode?_quotedNode (h : IsIdentifier id) (htext : '"' ∉ text) :
    patternNode? (quotedNode id text) = some ((id, trim text), []) := by
  have hread := patternNode?_quotedNode_append h htext []
  rwa [List.append_nil] at hread

theorem patternEdits_quotedNode (h : IsIdentifier id) (htext : '"' ∉ text) :
    patternEdits (quotedNode id text) = [.pattern id (trim text)] := by
  have hread := patternNode?_quotedNode h htext
  unfold patternEdits Scanner.findAll
  rw [pieces_of_read_all patternScanner hread]
  rfl

/-- A line that is one quoted definition defines that node and does nothing else. -/
theorem lineEdits_quotedNode (h : OpensLine id) (htext : '"' ∉ text) :
    lineEdits (quotedNode id text) = [.pattern id (trim text)] := by
  have hclass : classify (quotedNode id text) = .patternNode := by
    have hbracket : isWord '[' = false := by decide
    rw [quotedNode, classify_of_opensLine h hbracket, ← quotedNode,
      patternNode?_quotedNode h.toIsIdentifier htext]
    rfl
  unfold lineEdits
  rw [hclass]
  exact patternEdits_quotedNode h.toIsIdentifier htext

end Node

end ChartDialogue.Chart
