import ChartDialogue.Proofs.Chart.ArrowLines
import ChartDialogue.Proofs.Chart.History
import ChartDialogue.Proofs.Chart.Texts
import Mathlib.Algebra.Order.Group.Nat

/-!
Lines with an arrow between two quoted definitions. An arrow with a label is looked for before the
plain one, and it is looked for at every end of the line, as the questions of conditions are: also at
the ends that begin within a quoted text. Where the line has neither, it draws what it shows. It has
neither if both texts are free of barred shafts and of questions, because none is put together from
what stands on two sides of a quote.
-/
namespace ChartDialogue.Chart

open Text

variable {s t u w r lead : Text} {a b : Text} {c d : Char}

section Quotes

instance : DecidablePred HasBarredShaft := fun s =>
  decidable_of_iff
    (∃ t ∈ s.tails, ∃ w ∈ expect? shaft t, (dropBlanks w).head? = some '|') <| by
      simp only [List.mem_tails, Option.mem_def, expect?_eq_some_iff]
      constructor
      · rintro ⟨t, ht, w, rfl, hbar⟩
        exact ⟨w, ht, hbar⟩
      · rintro ⟨w, hw, hbar⟩
        exact ⟨_, hw, w, rfl, hbar⟩

theorem HasBarredShaft.mem (h : HasBarredShaft s) : '-' ∈ s ∧ '|' ∈ s := by
  obtain ⟨w, hw, hbar⟩ := h
  have hblanks : dropBlanks w <:+ w := List.dropWhile_suffix isBlank
  exact ⟨hw.subset List.mem_cons_self,
    hw.subset (List.mem_append_right shaft (hblanks.subset (List.mem_of_mem_head? hbar)))⟩

theorem HasBarredShaft.of_quote (h : HasBarredShaft (s ++ '"' :: r)) :
    HasBarredShaft s ∨ HasBarredShaft r := by
  obtain ⟨w, hw, hbar⟩ := h
  rcases suffix_append_cons (by decide) (by decide) hw with ⟨w', hw', rfl⟩ | hr
  · rw [dropBlanks, dropWhile_append_cons (by decide), ← dropBlanks] at hbar
    cases hrest : dropBlanks w' with
    | nil => simp [hrest] at hbar
    | cons e rest => exact Or.inl ⟨w', hw', by simpa [hrest] using hbar⟩
  · exact Or.inr ⟨w, hr, hbar⟩

/-- The beginning of a condition's definition: an opening brace behind a word and in it the word
`Condition:`. -/
def AsksQuestion (s : Text) : Prop :=
  ∃ c w, isWord c = true ∧ [c, '\x7b'] ++ w <:+ s ∧ "Condition:".toList <+: dropBlanks w

/-- Whether a condition's definition begins within the first two characters of a text. -/
def asksHere : Text → Bool
  | c :: '\x7b' :: w => isWord c && startsWith "Condition:".toList (dropBlanks w)
  | _ => false

theorem asksHere_iff {s : Text} : asksHere s = true ↔
    ∃ c w, isWord c = true ∧ s = [c, '\x7b'] ++ w ∧ "Condition:".toList <+: dropBlanks w := by
  unfold asksHere
  split
  · simp [startsWith_iff]
  · simp_all

instance : DecidablePred AsksQuestion := fun s =>
  decidable_of_iff (∃ t ∈ s.tails, asksHere t = true) <| by
    simp only [List.mem_tails, asksHere_iff]
    constructor
    · rintro ⟨t, ht, c, w, hc, rfl, hasked⟩
      exact ⟨c, w, hc, ht, hasked⟩
    · rintro ⟨c, w, hc, hw, hasked⟩
      exact ⟨_, hw, c, w, hc, rfl, hasked⟩

theorem AsksQuestion.brace_mem (h : AsksQuestion s) : '\x7b' ∈ s := by
  obtain ⟨c, w, -, hw, -⟩ := h
  exact hw.subset (List.mem_cons_of_mem c List.mem_cons_self)

theorem AsksQuestion.of_quote (h : AsksQuestion (s ++ '"' :: r)) :
    AsksQuestion s ∨ AsksQuestion r := by
  obtain ⟨c, w, hc, hw, hasked⟩ := h
  have hquote : '"' ∉ [c, '\x7b'] := by
    have hne : '"' ≠ c := by
      rintro rfl
      exact absurd hc (by decide)
    simpa using hne
  rcases suffix_append_cons (List.cons_ne_nil c _) hquote hw with ⟨w', hw', rfl⟩ | hr
  · obtain ⟨rest, hrest⟩ := hasked
    rw [dropBlanks, dropWhile_append_cons (by decide), ← dropBlanks] at hrest
    obtain ⟨rest', hrest', -⟩ := append_eq_append_cons (by decide) hrest
    exact Or.inl ⟨c, w', hc, hw', rest', hrest'.symm⟩
  · exact Or.inr ⟨c, w, hc, hr, hasked⟩

theorem asksQuestion_of_conditionNode? {node : Text × Option Question}
    (h : conditionNode? s = some (node, r)) : AsksQuestion s := by
  simp only [conditionNode?_eq_bind, Option.bind_eq_some_iff, Prod.exists] at h
  obtain ⟨id, rest, hasks, -⟩ := h
  obtain ⟨hword, gap, hgap, rfl⟩ := eq_append_of_asks? hasks
  obtain ⟨front, c, rfl⟩ := (List.eq_nil_or_concat id).resolve_left hword.ne_nil
  have hasked : dropBlanks (gap ++ ("Condition:".toList ++ rest)) = "Condition:".toList ++ rest :=
    dropWhile_append_stop hgap fun d hd => by
      obtain rfl := Option.some.inj hd
      decide
  exact ⟨c, _, hword.isWord c (by simp), ⟨front, by simp⟩, rest, hasked.symm⟩

/-- A line that defines a condition asks a question. -/
theorem conditionEdits_eq_nil_of_not_asksQuestion (h : ¬AsksQuestion s) :
    conditionEdits s = [] := by
  have hnone : conditionScanner.findAll s = [] := by
    refine findAll_eq_nil conditionScanner fun t ht => ?_
    rw [Option.eq_none_iff_forall_ne_some]
    rintro ⟨node, r⟩ hread
    obtain ⟨c, w, hc, hw, hasked⟩ := asksQuestion_of_conditionNode? hread
    exact h ⟨c, w, hc, hw.trans ht, hasked⟩
  unfold conditionEdits
  rw [hnone, List.filterMap_nil]

end Quotes

/-- A line with an arrow between two quoted definitions. -/
def quotedEdge (a t b u : Text) : Text :=
  edgeText (quotedNode a t) (quotedNode b u)

def quotedEdgeText (a t b u : Text) : Text :=
  join ['\n'] ["flowchart TD".toList, quotedEdge a t b u]

/-- The chart that shows two nodes in brackets and an edge without a label. -/
def quotedEdgeChart (a t b u : Text) : Graph :=
  ⟨[Graph.patternNode (a, trim t), Graph.patternNode (b, trim u)], [⟨a, b, []⟩]⟩

/-- What stands on the line between the two texts. -/
def between (b : Text) : Text :=
  ']' :: edgeText [] (b ++ ['['])

theorem quotedEdge_eq_quotes (a t b u : Text) :
    quotedEdge a t b u =
      (a ++ ['[']) ++ '"' :: (t ++ '"' :: (between b ++ '"' :: (u ++ '"' :: [']']))) := by
  simp only [quotedEdge, edgeText, quotedNode, between, List.append_assoc, List.cons_append,
    List.nil_append]

section Sides

theorem not_mem_opening (ha : IsIdentifier a) (hd : isWord d = false)
    (hgap : d ∉ "] --> [".toList) : d ∉ a ++ ['['] := by
  refine List.not_mem_append (ha.not_mem hd) fun hmem => hgap ?_
  rw [List.mem_singleton.mp hmem]
  decide

theorem not_mem_between (hb : IsIdentifier b) (hd : isWord d = false)
    (hgap : d ∉ "] --> [".toList) : d ∉ between b := by
  have hshaft : "] --> ".toList <+: "] --> [".toList := ⟨['['], rfl⟩
  have hbetween : between b = "] --> ".toList ++ (b ++ ['[']) := rfl
  rw [hbetween]
  exact List.not_mem_append (fun hmem => hgap (hshaft.subset hmem)) (not_mem_opening hb hd hgap)

/-- What never goes over a quote and needs a character that only the texts have stands in one of
them. -/
theorem side_of_quotedEdge {P : Text → Prop} (hquote : ∀ {s r}, P (s ++ '"' :: r) → P s ∨ P r)
    (hmem : ∀ {s}, P s → d ∈ s) (ha : IsIdentifier a) (hb : IsIdentifier b)
    (hd : isWord d = false) (hgap : d ∉ "] --> [".toList) (h : P (quotedEdge a t b u)) :
    P t ∨ P u := by
  have hbefore : ¬P (a ++ ['[']) := fun hP => not_mem_opening ha hd hgap (hmem hP)
  have hbetween : ¬P (between b) := fun hP => not_mem_between hb hd hgap (hmem hP)
  have hbehind : ¬P [']'] := by
    intro hP
    rw [List.mem_singleton.mp (hmem hP)] at hgap
    exact hgap (by decide)
  rw [quotedEdge_eq_quotes] at h
  have hfirst := (hquote h).resolve_left hbefore
  refine (hquote hfirst).imp_right fun hmiddle => ?_
  have hsecond := (hquote hmiddle).resolve_left hbetween
  exact (hquote hsecond).resolve_right hbehind

theorem labelledArrow?_quotedEdge (ha : IsIdentifier a) (hb : IsIdentifier b)
    (ht : ¬HasBarredShaft t) (hu : ¬HasBarredShaft u) :
    labelledArrow? (quotedEdge a t b u) = none := by
  rw [Option.eq_none_iff_forall_ne_some]
  intro arrow harrow
  have hside := side_of_quotedEdge HasBarredShaft.of_quote (fun h => h.mem.2) ha hb
    (by decide) (by decide) (bars_of_labelledArrow? harrow).1
  exact hside.elim ht hu

theorem conditionEdits_quotedEdge (ha : IsIdentifier a) (hb : IsIdentifier b)
    (ht : ¬AsksQuestion t) (hu : ¬AsksQuestion u) : conditionEdits (quotedEdge a t b u) = [] := by
  refine conditionEdits_eq_nil_of_not_asksQuestion fun hline => ?_
  have hside := side_of_quotedEdge AsksQuestion.of_quote AsksQuestion.brace_mem ha hb
    (by decide) (by decide) hline
  exact hside.elim ht hu

end Sides

section Line

theorem quotedEdge_eq (a t b u : Text) :
    quotedEdge a t b u = quotedNode a t ++ ' ' :: (shaft ++ ' ' :: quotedNode b u) :=
  edgeText_eq _ _

theorem patternEdits_quotedEdge (ha : IsIdentifier a) (hb : IsIdentifier b) (ht : '"' ∉ t)
    (hu : '"' ∉ u) :
    patternEdits (quotedEdge a t b u) = [.pattern a (trim t), .pattern b (trim u)] := by
  have hread := patternNode?_quotedNode_append ha ht (' ' :: (shaft ++ ' ' :: quotedNode b u))
  rw [← quotedEdge_eq] at hread
  have hne : quotedEdge a t b u ≠ [] := by
    rw [quotedEdge_eq]
    exact List.append_ne_nil_of_right_ne_nil _ (List.cons_ne_nil _ _)
  have hfirst : patternEdits (quotedEdge a t b u) =
      .pattern a (trim t) :: patternEdits (" -->".toList ++ ' ' :: quotedNode b u) := by
    unfold patternEdits Scanner.findAll
    rw [pieces_of_read patternScanner hne hread]
    rfl
  rw [hfirst, patternEdits_gap (by decide) (by decide) (by decide),
    patternEdits_quotedNode hb hu]

theorem plainArrow?_quotedEdge (ha : IsIdentifier a) (hb : IsIdentifier b) (ht : '"' ∉ t) :
    plainArrow? (quotedEdge a t b u) = some ⟨a, b, [], quotedEdge a t b u⟩ := by
  have hbracket : isWord '[' = false := by decide
  have hending : plainEnding? (' ' :: (shaft ++ ' ' :: quotedNode b u)) =
      some ⟨[], b, '[' :: '"' :: (u ++ ['"', ']'])⟩ :=
    plainEnding?_shaft hb (isWord_head?_cons hbracket _)
  have hread : arrowAt? plainEnding? (quotedEdge a t b u) =
      some (a, ⟨[], b, '[' :: '"' :: (u ++ ['"', ']'])⟩) := by
    unfold arrowAt?
    rw [quotedEdge_eq, quotedNode_append, identifier?_append_cons ha hbracket,
      Option.bind_eq_bind, Option.bind_some]
    dsimp only
    rw [afterDefinition, quoted?_append ht, Option.map_some, Option.toList_some,
      List.singleton_append, List.findSome?_cons, hending]
    rfl
  unfold plainArrow?
  rw [firstMatch?_of_read hread, Option.map_some]

theorem classify_quotedEdge (ha : OpensLine a) (ht : '"' ∉ t) :
    classify (quotedEdge a t b u) = .edge := by
  have hbracket : isWord '[' = false := by decide
  have hnode := patternNode?_quotedNode_append ha.toIsIdentifier ht
    (' ' :: (shaft ++ ' ' :: quotedNode b u))
  have hcondition : conditionNode? (quotedNode a t ++ ' ' :: (shaft ++ ' ' :: quotedNode b u)) =
      none := by
    refine conditionNode?_eq_none fun hread => ?_
    rw [quotedNode_append, identifier?_append_cons ha.toIsIdentifier hbracket] at hread
    simp at hread
  have hshaft : occursIn shaft (quotedNode a t ++ ' ' :: (shaft ++ ' ' :: quotedNode b u)) =
      true := by
    rw [List.append_cons]
    exact occursIn_append
  rw [quotedNode_append] at hnode hcondition hshaft
  rw [quotedEdge_eq, quotedNode_append, classify_of_opensLine ha hbracket, hnode, hcondition,
    hshaft]
  rfl

theorem newline_not_mem_quotedEdge (ha : IsIdentifier a) (hb : IsIdentifier b) (ht : '\n' ∉ t)
    (hu : '\n' ∉ u) : '\n' ∉ quotedEdge a t b u := by
  have hopening := not_mem_opening (d := '\n') ha (by decide) (by decide)
  have hbetween := not_mem_between (d := '\n') hb (by decide) (by decide)
  have hquote : '\n' ≠ '"' := by decide
  rw [quotedEdge_eq_quotes]
  refine List.not_mem_append hopening (List.not_mem_cons_of_ne_of_not_mem hquote ?_)
  refine List.not_mem_append ht (List.not_mem_cons_of_ne_of_not_mem hquote ?_)
  refine List.not_mem_append hbetween (List.not_mem_cons_of_ne_of_not_mem hquote ?_)
  exact List.not_mem_append hu (by decide)

theorem trim_quotedEdge (ha : IsIdentifier a) (t b u : Text) :
    trim (quotedEdge a t b u) = quotedEdge a t b u := by
  have hlast : (quotedNode b u).getLast? = some ']' := by
    simp [quotedNode, List.getLast?_append, List.getLast?_cons]
  refine trim_eq_self (fun c hc => ?_) fun c hc => ?_
  · rw [quotedEdge_eq_quotes, List.append_assoc, List.head?_append_of_ne_nil _ ha.ne_nil] at hc
    exact ha.not_isBlank c (List.mem_of_mem_head? hc)
  · rw [quotedEdge, edgeText, List.getLast?_append_of_ne_nil _ (quotedNode_ne_nil b u), hlast] at hc
    rw [← Option.some.inj hc]
    decide

theorem lines_quotedEdgeText (ha : IsIdentifier a) (hb : IsIdentifier b) (ht : '\n' ∉ t)
    (hu : '\n' ∉ u) :
    lines (quotedEdgeText a t b u) = ["flowchart TD".toList, quotedEdge a t b u] := by
  have hclear : ∀ l ∈ ["flowchart TD".toList, quotedEdge a t b u], '\n' ∉ l := by
    rw [List.forall_mem_cons, List.forall_mem_singleton]
    exact ⟨by decide, newline_not_mem_quotedEdge ha hb ht hu⟩
  have hheading : trim "flowchart TD".toList = "flowchart TD".toList := by decide
  rw [quotedEdgeText, lines_join (List.cons_ne_nil _ _) hclear, List.map_cons, List.map_singleton,
    hheading, trim_quotedEdge ha]

theorem edits_quotedEdgeText (ha : IsIdentifier a) (hb : IsIdentifier b) (ht : '\n' ∉ t)
    (hu : '\n' ∉ u) : edits (quotedEdgeText a t b u) = lineEdits (quotedEdge a t b u) := by
  have hdeclaration : decide (classify "flowchart TD".toList ≠ .declaration) = false := by decide
  have hfirst : lineEdits "flowchart TD".toList = [] := by decide
  unfold edits body
  rw [lines_quotedEdgeText ha hb ht hu, List.dropWhile_cons, hdeclaration,
    if_neg Bool.false_ne_true, List.flatMap_cons, hfirst, List.nil_append, List.flatMap_singleton]

end Line

section Chart

/-- What an arrow's line gives a node as its text, a pattern definition in it gives. -/
theorem mem_findAll_of_textFor? {arrow : Arrow} {e : Edit} {id text : Text} (he : e ∈ arrow.edits)
    (htext : e.textFor? id = some text) :
    (id, text) ∈ patternScanner.findAll arrow.definitions := by
  rw [Arrow.edits, List.append_assoc] at he
  rcases List.mem_append.mp he with he | he
  · obtain ⟨node, hnode, rfl⟩ := List.mem_map.mp he
    simp only [Edit.textFor?, Option.ite_none_right_eq_some, Option.some.injEq] at htext
    obtain ⟨⟨rfl, -⟩, rfl⟩ := htext
    exact hnode
  · exfalso
    rcases List.mem_append.mp he with he | he
    · obtain ⟨node, -, hnode⟩ := List.mem_filterMap.mp he
      obtain ⟨question, -, rfl⟩ := Option.map_eq_some_iff.mp hnode
      simp [Edit.textFor?] at htext
    · rw [List.mem_singleton.mp he] at htext
      simp [Edit.textFor?] at htext

theorem add_le_sum_map {α : Type} {f : α → Nat} {l : List α} {x y : α} (hx : x ∈ l) (hy : y ∈ l)
    (hne : x ≠ y) : f x + f y ≤ (l.map f).sum := by
  obtain ⟨front, back, rfl⟩ := List.append_of_mem hx
  have hy' : f y ∈ (front ++ back).map f := by
    refine List.mem_map_of_mem ?_
    simpa [hne.symm] using hy
  have hle := List.le_sum_of_mem hy'
  simp only [List.map_append, List.map_cons, List.sum_append, List.sum_cons] at hle ⊢
  omega

/-- Two nodes have at most the characters of all texts that were found; an empty text need not have
been found. -/
theorem add_count_le_sum {found : List (Text × Text)} (hab : a ≠ b) (ht : t = [] ∨ (a, t) ∈ found)
    (hu : u = [] ∨ (b, u) ∈ found) (c : Char) :
    t.count c + u.count c ≤ (found.map fun node => node.2.count c).sum := by
  have hone : ∀ node ∈ found, node.2.count c ≤ (found.map fun node => node.2.count c).sum :=
    fun node hnode => List.le_sum_of_mem (List.mem_map.mpr ⟨node, hnode, rfl⟩)
  rcases ht with rfl | ht
  · rcases hu with rfl | hu
    · simp
    · simpa using hone _ hu
  · rcases hu with rfl | hu
    · simpa using hone _ ht
    · exact add_le_sum_map (f := fun node : Text × Text => node.2.count c) ht hu (by simp [hab])

/-- An arrow's line in whose chart both texts stand has a character as often as both of them. -/
theorem count_le_of_quotedEdgeChart {arrow : Arrow} (hab : a ≠ b) (hc : isBlank c = false)
    (h : Graph.ofEdits arrow.edits = quotedEdgeChart a t b u) :
    t.count c + u.count c ≤ arrow.definitions.count c := by
  have hgiven : ∀ n ∈ (quotedEdgeChart a t b u).nodes,
      n.text = [] ∨ (n.id, n.text) ∈ patternScanner.findAll arrow.definitions := by
    intro n hn
    rw [← h] at hn
    refine (Graph.textFor?_of_mem_ofEdits hn).imp_right fun ⟨e, he, htext⟩ => ?_
    exact mem_findAll_of_textFor? he htext
  have ht := hgiven (Graph.patternNode (a, trim t)) List.mem_cons_self
  have hu := hgiven (Graph.patternNode (b, trim u)) (List.mem_cons_of_mem _ List.mem_cons_self)
  have hsum := sum_count_findAll_le hc arrow.definitions
  rw [← count_trim hc t, ← count_trim hc u]
  exact (add_count_le_sum hab ht hu c).trans hsum

theorem count_bar_quotedEdge (ha : IsIdentifier a) (hb : IsIdentifier b) (t u : Text) :
    (quotedEdge a t b u).count '|' = t.count '|' + u.count '|' := by
  have hbar : isWord '|' = false := by decide
  have hopening := List.count_eq_zero.mpr (not_mem_opening ha hbar (by decide))
  have hbetween := List.count_eq_zero.mpr (not_mem_between hb hbar (by decide))
  have hquote : ∀ s : Text, ('"' :: s).count '|' = s.count '|' :=
    fun s => List.count_cons_of_ne (by decide)
  have hbehind : [']'].count '|' = 0 := by decide
  rw [quotedEdge_eq_quotes, List.count_append, hopening]
  simp only [List.count_append, hquote, hbetween, hbehind]
  omega

end Chart

/-- Different identifiers, of which a line may begin with the first, and texts that stand in quotes on
a line. -/
structure QuotedEnds (a t b u : Text) : Prop where
  source : OpensLine a
  target : IsIdentifier b
  ne : a ≠ b
  quote_source : '"' ∉ t
  quote_target : '"' ∉ u
  newline_source : '\n' ∉ t
  newline_target : '\n' ∉ u

namespace QuotedEnds

theorem ofText_eq (h : QuotedEnds a t b u) :
    Graph.ofText (quotedEdgeText a t b u) =
      Graph.ofEdits (((arrow? (quotedEdge a t b u)).map Arrow.edits).getD []) := by
  rw [Graph.ofText,
    edits_quotedEdgeText h.source.toIsIdentifier h.target h.newline_source h.newline_target,
    lineEdits, classify_quotedEdge h.source h.quote_source]

/-- The line of a plain arrow defines both nodes and its conditions, and draws the edge. -/
theorem ofText_of_plain (h : QuotedEnds a t b u)
    (hlabel : labelledArrow? (quotedEdge a t b u) = none) :
    Graph.ofText (quotedEdgeText a t b u) = Graph.ofEdits
      ([.pattern a (trim t), .pattern b (trim u)] ++ conditionEdits (quotedEdge a t b u) ++
        [.edge a b []]) := by
  have ha := h.source.toIsIdentifier
  rw [h.ofText_eq, arrow?, hlabel, Option.none_or, plainArrow?_quotedEdge ha h.target h.quote_source,
    Option.map_some, Option.getD_some, Arrow.edits,
    patternEdits_quotedEdge ha h.target h.quote_source h.quote_target]

theorem ofText_eq_chart (h : QuotedEnds a t b u)
    (hlabel : labelledArrow? (quotedEdge a t b u) = none)
    (hcondition : conditionEdits (quotedEdge a t b u) = []) :
    Graph.ofText (quotedEdgeText a t b u) = quotedEdgeChart a t b u := by
  have hids : ([(a, trim t), (b, trim u)].map Prod.fst).Nodup := by simpa using h.ne
  have hdrawn := Graph.ofEdits_nodes_edges [(a, trim t), (b, trim u)] [(a, b)] hids
    (List.nodup_singleton _) (by simp)
  rw [h.ofText_of_plain hlabel, hcondition, List.append_nil]
  exact hdrawn

/-- The bars of a label are cut out of the texts, and the line has no others. -/
theorem labelledArrow?_eq_none (h : QuotedEnds a t b u)
    (hshown : Graph.ofText (quotedEdgeText a t b u) = quotedEdgeChart a t b u) :
    labelledArrow? (quotedEdge a t b u) = none := by
  rw [Option.eq_none_iff_forall_ne_some]
  intro arrow harrow
  obtain ⟨-, before, label, rest, hline, hcut⟩ := bars_of_labelledArrow? harrow
  rw [h.ofText_eq, arrow?, harrow, Option.some_or, Option.map_some, Option.getD_some] at hshown
  have htexts := count_le_of_quotedEdgeChart (c := '|') h.ne (by decide) hshown
  have hbars := count_bar_quotedEdge h.source.toIsIdentifier h.target t u
  have hspace : (' ' :: rest).count '|' = rest.count '|' := List.count_cons_of_ne (by decide)
  rw [hline, List.count_append, List.count_cons_self, List.count_append,
    List.count_cons_self] at hbars
  rw [hcut, List.count_append, hspace] at htexts
  omega

theorem conditionEdits_eq_nil (h : QuotedEnds a t b u)
    (hshown : Graph.ofText (quotedEdgeText a t b u) = quotedEdgeChart a t b u) :
    conditionEdits (quotedEdge a t b u) = [] := by
  rw [h.ofText_of_plain (h.labelledArrow?_eq_none hshown)] at hshown
  rw [List.eq_nil_iff_forall_not_mem]
  intro e he
  obtain ⟨node, -, hnode⟩ := List.mem_filterMap.mp he
  obtain ⟨question, -, rfl⟩ := Option.map_eq_some_iff.mp hnode
  obtain ⟨n, hn, hasked⟩ := Graph.exists_isCondition_ofEdits
    (List.mem_append_left [.edge a b []]
      (List.mem_append_right [.pattern a (trim t), .pattern b (trim u)] he))
  rw [hshown] at hn
  simp only [quotedEdgeChart, List.mem_cons, List.not_mem_nil, or_false] at hn
  rcases hn with rfl | rfl <;> exact absurd hasked Bool.false_ne_true

/-- Texts without barred shafts and questions are read as they are, whatever else they hold. In
general the chart is the one that the line shows exactly if the line is read as a plain arrow and
defines no condition. -/
theorem ofText_quotedEdgeText (h : QuotedEnds a t b u) :
    (¬HasBarredShaft t → ¬HasBarredShaft u → ¬AsksQuestion t → ¬AsksQuestion u →
      Graph.ofText (quotedEdgeText a t b u) = quotedEdgeChart a t b u) ∧
    (Graph.ofText (quotedEdgeText a t b u) = quotedEdgeChart a t b u ↔
      labelledArrow? (quotedEdge a t b u) = none ∧ conditionEdits (quotedEdge a t b u) = []) := by
  have ha := h.source.toIsIdentifier
  refine ⟨fun ht hu ht' hu' => ?_, fun hshown => ?_, fun hplain => ?_⟩
  · exact h.ofText_eq_chart (labelledArrow?_quotedEdge ha h.target ht hu)
      (conditionEdits_quotedEdge ha h.target ht' hu')
  · exact ⟨h.labelledArrow?_eq_none hshown, h.conditionEdits_eq_nil hshown⟩
  · exact h.ofText_eq_chart hplain.1 hplain.2

/-- Brackets, braces, arrows and bars in the texts are no matter. -/
theorem ofText_quotedEdgeText_marks :
    (QuotedEnds "a".toList "x[1] --> y |z|".toList "b".toList "p\x7bq\x7d".toList ∧
      ¬HasBarredShaft "x[1] --> y |z|".toList ∧ ¬HasBarredShaft "p\x7bq\x7d".toList ∧
      ¬AsksQuestion "x[1] --> y |z|".toList ∧ ¬AsksQuestion "p\x7bq\x7d".toList) ∧
    Graph.ofText
        (quotedEdgeText "a".toList "x[1] --> y |z|".toList "b".toList "p\x7bq\x7d".toList) =
      quotedEdgeChart "a".toList "x[1] --> y |z|".toList "b".toList "p\x7bq\x7d".toList := by
  have h : QuotedEnds "a".toList "x[1] --> y |z|".toList "b".toList "p\x7bq\x7d".toList :=
    ⟨⟨by decide, by decide, by decide⟩, by decide, by decide, by decide, by decide,
      by decide, by decide⟩
  have ht : ¬HasBarredShaft "x[1] --> y |z|".toList := by decide
  have hu : ¬HasBarredShaft "p\x7bq\x7d".toList := by decide
  have ht' : ¬AsksQuestion "x[1] --> y |z|".toList := by decide
  have hu' : ¬AsksQuestion "p\x7bq\x7d".toList := by decide
  exact ⟨⟨h, ht, hu, ht', hu'⟩, (ofText_quotedEdgeText h).1 ht hu ht' hu'⟩

/-- A barred shaft in a text is taken for the line's arrow, and a question in one for a condition. -/
theorem ofText_quotedEdgeText_barred :
    (QuotedEnds "a".toList "go -->|y| on".toList "b".toList "t".toList ∧
      Graph.ofText (quotedEdgeText "a".toList "go -->|y| on".toList "b".toList "t".toList) ≠
        quotedEdgeChart "a".toList "go -->|y| on".toList "b".toList "t".toList) ∧
    QuotedEnds "a".toList "p\x7bCondition: x y\x7d".toList "b".toList "t".toList ∧
      Graph.ofText
          (quotedEdgeText "a".toList "p\x7bCondition: x y\x7d".toList "b".toList "t".toList) ≠
        quotedEdgeChart "a".toList "p\x7bCondition: x y\x7d".toList "b".toList "t".toList := by
  have hbarred : QuotedEnds "a".toList "go -->|y| on".toList "b".toList "t".toList :=
    ⟨⟨by decide, by decide, by decide⟩, by decide, by decide, by decide, by decide,
      by decide, by decide⟩
  have hasked : QuotedEnds "a".toList "p\x7bCondition: x y\x7d".toList "b".toList "t".toList :=
    ⟨⟨by decide, by decide, by decide⟩, by decide, by decide, by decide, by decide,
      by decide, by decide⟩
  refine ⟨⟨hbarred, ?_⟩, hasked, ?_⟩ <;> decide +kernel

end QuotedEnds

end ChartDialogue.Chart
