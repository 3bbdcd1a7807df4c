import ChartDialogue.Proofs.Chart.Lines

/-!
Lines with an arrow. The source stands at the beginning of the line, so the arrow that is read is
the first one: the one with the label, if the shaft is followed by one, and else the plain one, as
no other shaft stands behind it. Such a line defines the nodes that are written behind the arrow and
draws its edge, and does nothing else.
-/
namespace ChartDialogue.Chart

open Text

variable {source target rest after label : Text}

section Shafts

theorem not_shaft_infix (h : '-' ∉ after) : ¬ shaft <:+: after :=
  fun hmem => h (hmem.subset (by decide))

/-- A suffix that begins with none of the characters of a lead is one of what follows the lead. -/
theorem suffix_of_suffix_append {a : Char} {lead s w : Text} (hlead : a ∉ lead)
    (h : a :: w <:+ lead ++ s) : a :: w <:+ s := by
  induction lead with
  | nil => exact h
  | cons c lead ih =>
    rw [List.mem_cons, not_or] at hlead
    rw [List.cons_append, List.suffix_cons_iff] at h
    rcases h with heq | h
    · exact absurd (List.cons.inj heq).1 hlead.1
    · exact ih hlead.2 h

theorem shaft_infix_of_concat {s : Text} {c : Char} (hc : c ≠ '>') (h : shaft <:+: s ++ [c]) :
    shaft <:+: s := by
  rcases List.infix_concat_iff.mp h with ⟨before, heq⟩ | h
  · have hlast := congrArg List.getLast? heq
    have hshaft : before ++ shaft = (before ++ ['-', '-']) ++ ['>'] := by
      rw [List.append_assoc]
      rfl
    rw [hshaft, List.getLast?_concat, List.getLast?_concat] at hlast
    exact absurd (Option.some.inj hlast).symm hc
  · exact h

/-- A shaft in a quoted definition stands in its text. -/
theorem not_shaft_infix_quotedNode {id text : Text} (hid : IsIdentifier id)
    (htext : ¬ shaft <:+: text) : ¬ shaft <:+: quotedNode id text := by
  have hlead : '-' ∉ id ++ ['[', '"'] := by
    rw [List.mem_append, not_or]
    exact ⟨hid.not_mem (by decide), by decide⟩
  have hnode : quotedNode id text = (id ++ ['[', '"']) ++ ((text ++ ['"']) ++ [']']) := by
    simp only [quotedNode, List.append_assoc, List.cons_append, List.nil_append]
  rintro ⟨before, w, heq⟩
  rw [hnode, List.append_assoc] at heq
  have hsuffix : '-' :: '-' :: '>' :: w <:+ (text ++ ['"']) ++ [']'] :=
    suffix_of_suffix_append hlead ⟨before, heq⟩
  have hclosed : shaft <:+: (text ++ ['"']) ++ [']'] :=
    (List.prefix_append shaft w).isInfix.trans hsuffix.isInfix
  have hquoted := shaft_infix_of_concat (by decide) hclosed
  exact htext (shaft_infix_of_concat (by decide) hquoted)

end Shafts

/-- The line that draws an edge without a label. -/
def edgeText (source target : Text) : Text :=
  source ++ " --> ".toList ++ target

/-- The line that draws an edge with a label. -/
def labelledText (source label target : Text) : Text :=
  source ++ " -->|".toList ++ label ++ "| ".toList ++ target

theorem edgeText_eq (source after : Text) :
    edgeText source after = source ++ ' ' :: (shaft ++ ' ' :: after) := by
  unfold edgeText
  rw [List.append_assoc]
  rfl

theorem labelledText_eq (source label after : Text) :
    labelledText source label after =
      source ++ ' ' :: (shaft ++ '|' :: (label ++ '|' :: ' ' :: after)) := by
  unfold labelledText
  simp only [List.append_assoc]
  rfl

/-- A line with an arrow behind its first identifier is an edge. -/
theorem classify_arrow (hs : OpensLine source) (after : Text) :
    classify (source ++ ' ' :: (shaft ++ after)) = .edge := by
  have hspace : isWord ' ' = false := by decide
  have hnode : patternNode? (source ++ ' ' :: (shaft ++ after)) = none :=
    patternNode?_eq_none
      (identifier?_ne_of_gap hspace (hs.not_mem (by decide)) (by decide))
  have hcondition : conditionNode? (source ++ ' ' :: (shaft ++ after)) = none :=
    conditionNode?_eq_none
      (identifier?_ne_of_gap hspace (hs.not_mem (by decide)) (by decide))
  have hshaft : occursIn shaft (source ++ ' ' :: (shaft ++ after)) = true := by
    have heq : source ++ ' ' :: (shaft ++ after) = (source ++ [' ']) ++ (shaft ++ after) := by
      rw [List.append_assoc]
      rfl
    rw [heq]
    exact occursIn_append
  rw [classify_of_opensLine hs hspace, hnode, hcondition, hshaft]
  rfl

/-- An arrow behind the first identifier is read there, if its ending is. -/
theorem arrowAt?_source {ending? : Text → Option Ending} {e : Ending} (hs : IsIdentifier source)
    (hending : ending? (' ' :: (shaft ++ after)) = some e) :
    arrowAt? ending? (source ++ ' ' :: (shaft ++ after)) = some (source, e) := by
  unfold arrowAt?
  rw [identifier?_append_cons hs (by decide), Option.bind_eq_bind, Option.bind_some]
  dsimp only
  rw [afterDefinition, List.findSome?_cons, hending]
  · rfl
  · exact fun s h => absurd (List.cons.inj h).1 (by decide)
  · exact fun s h => absurd (List.cons.inj h).1 (by decide)

section Gap

/-- Up to its arrow a line defines nothing. -/
theorem not_mem_before_shaft {d : Char} (hs : IsIdentifier source) (hd : isWord d = false)
    (hshaft : d ∉ " -->".toList) : d ∉ source ++ " -->".toList := by
  rw [List.mem_append, not_or]
  exact ⟨hs.not_mem hd, hshaft⟩

theorem edgeText_eq_gap (source after : Text) :
    edgeText source after = (source ++ " -->".toList) ++ ' ' :: after := by
  rw [edgeText, List.append_assoc, List.append_assoc]
  rfl

theorem patternEdits_edgeText (hs : IsIdentifier source) (after : Text) :
    patternEdits (edgeText source after) = patternEdits after := by
  have hgap := not_mem_before_shaft hs (by decide : isWord '[' = false) (by decide)
  rw [edgeText_eq_gap, patternEdits_gap (by decide) hgap (by decide)]

theorem conditionEdits_edgeText (hs : IsIdentifier source) (after : Text) :
    conditionEdits (edgeText source after) = conditionEdits after := by
  have hgap := not_mem_before_shaft hs (by decide : isWord '\x7b' = false) (by decide)
  rw [edgeText_eq_gap, conditionEdits_gap (by decide) hgap (by decide)]

end Gap

section Plain

/-- The only shaft of a line is the one behind its source. -/
theorem eq_of_shaft_suffix {w : Text} (hs : IsIdentifier source) (hafter : ¬ shaft <:+: after)
    (h : shaft ++ w <:+ edgeText source after) : w = ' ' :: after := by
  have hlead : '-' ∉ source ++ [' '] := by
    rw [List.mem_append, not_or]
    exact ⟨hs.not_mem (by decide), by decide⟩
  have hline : edgeText source after = (source ++ [' ']) ++ '-' :: '-' :: '>' :: ' ' :: after := by
    rw [edgeText_eq, List.append_assoc]
    rfl
  rw [hline] at h
  have hrest : '-' :: '-' :: '>' :: w <:+ '-' :: '-' :: '>' :: ' ' :: after :=
    suffix_of_suffix_append hlead h
  rcases List.suffix_cons_iff.mp hrest with heq | hrest
  · simpa using heq
  · -- A later shaft would begin within the first one, or stand behind it.
    exfalso
    simp only [List.suffix_cons_iff, List.cons.injEq] at hrest
    rcases hrest with ⟨-, hne, -⟩ | ⟨hne, -⟩ | ⟨hne, -⟩ | hlater
    · exact absurd hne (by decide)
    · exact absurd hne (by decide)
    · exact absurd hne (by decide)
    · exact hafter ((List.prefix_append shaft w).isInfix.trans hlater.isInfix)

theorem labelledArrow?_edgeText (hs : IsIdentifier source) (hafter : ¬ shaft <:+: after)
    (hbar : ∀ c ∈ (dropBlanks after).head?, c ≠ '|') :
    labelledArrow? (edgeText source after) = none := by
  rw [Option.eq_none_iff_forall_ne_some]
  intro a ha
  obtain ⟨⟨w, hw, hhead⟩, -⟩ := bars_of_labelledArrow? ha
  rw [eq_of_shaft_suffix hs hafter hw] at hhead
  have hblank : dropBlanks (' ' :: after) = dropBlanks after := rfl
  rw [hblank] at hhead
  exact hbar '|' hhead rfl

/-- Behind a shaft the target of a plain arrow is read up to its end. -/
theorem plainEnding?_shaft (ht : IsIdentifier target) (hrest : ∀ c ∈ rest.head?, isWord c = false) :
    plainEnding? (' ' :: (shaft ++ ' ' :: (target ++ rest))) = some ⟨[], target, rest⟩ := by
  have hblanks : dropBlanks (' ' :: (target ++ rest)) = target ++ rest := ht.dropBlanks_append rest
  have hshaft : afterShaft? (' ' :: (shaft ++ ' ' :: (target ++ rest))) =
      some (dropBlanks (' ' :: (target ++ rest))) := rfl
  unfold plainEnding?
  rw [hshaft, hblanks, Option.bind_eq_bind, Option.bind_some, identifier?_append ht hrest]
  rfl

theorem arrow?_edgeText (hs : IsIdentifier source) (ht : IsIdentifier target)
    (hrest : ∀ c ∈ rest.head?, isWord c = false) (hafter : ¬ shaft <:+: target ++ rest) :
    arrow? (edgeText source (target ++ rest)) =
      some ⟨source, target, [], edgeText source (target ++ rest)⟩ := by
  have hplain : arrowAt? plainEnding? (edgeText source (target ++ rest)) =
      some (source, ⟨[], target, rest⟩) := by
    rw [edgeText_eq]
    exact arrowAt?_source hs (plainEnding?_shaft ht hrest)
  have hbar : ∀ c ∈ (dropBlanks (target ++ rest)).head?, c ≠ '|' := by
    rw [ht.dropBlanks_append, List.head?_append_of_ne_nil _ ht.ne_nil]
    rintro c hc rfl
    exact ht.not_mem (by decide) (List.mem_of_mem_head? hc)
  unfold arrow? plainArrow?
  rw [labelledArrow?_edgeText hs hafter hbar, firstMatch?_of_read hplain]
  rfl

/-- A line with a plain arrow does what is written behind the arrow, and draws its edge. -/
theorem lineEdits_edgeText (hs : OpensLine source) (ht : IsIdentifier target)
    (hrest : ∀ c ∈ rest.head?, isWord c = false) (hafter : ¬ shaft <:+: target ++ rest) :
    lineEdits (edgeText source (target ++ rest)) =
      patternEdits (target ++ rest) ++ conditionEdits (target ++ rest) ++
        [.edge source target []] := by
  have hclass : classify (edgeText source (target ++ rest)) = .edge := by
    rw [edgeText_eq]
    exact classify_arrow hs _
  unfold lineEdits
  rw [hclass]
  dsimp only
  rw [arrow?_edgeText hs.toIsIdentifier ht hrest hafter, Option.map_some, Option.getD_some,
    Arrow.edits, patternEdits_edgeText hs.toIsIdentifier, conditionEdits_edgeText hs.toIsIdentifier]

end Plain

section Labelled

theorem arrow?_labelledText (hs : IsIdentifier source) (ht : IsIdentifier target)
    (hrest : ∀ c ∈ rest.head?, isWord c = false) (hlabel : '|' ∉ label) :
    arrow? (labelledText source label (target ++ rest)) =
      some ⟨source, target, trim label, edgeText source (' ' :: (target ++ rest))⟩ := by
  have hbar : afterShaft? (' ' :: (shaft ++ '|' :: (label ++ '|' :: ' ' :: (target ++ rest)))) =
      some ('|' :: (label ++ '|' :: ' ' :: (target ++ rest))) := rfl
  have hopen : expect? ['|'] ('|' :: (label ++ '|' :: ' ' :: (target ++ rest))) =
      some (label ++ '|' :: ' ' :: (target ++ rest)) := rfl
  have hblanks : dropBlanks (' ' :: (target ++ rest)) = target ++ rest := ht.dropBlanks_append rest
  have hending :
      labelledEnding? (' ' :: (shaft ++ '|' :: (label ++ '|' :: ' ' :: (target ++ rest)))) =
        some ⟨label, target, ' ' :: (target ++ rest)⟩ := by
    unfold labelledEnding?
    rw [hbar, Option.bind_eq_bind, Option.bind_some, hopen, Option.bind_some,
      upTo?_append hlabel, Option.bind_eq_bind, Option.bind_some]
    dsimp only
    rw [hblanks, identifier?_append ht hrest]
    rfl
  have harrow : arrowAt? labelledEnding? (labelledText source label (target ++ rest)) =
      some (source, ⟨label, target, ' ' :: (target ++ rest)⟩) := by
    rw [labelledText_eq]
    exact arrowAt?_source hs hending
  have hbefore : (labelledText source label (target ++ rest)).take
      ((labelledText source label (target ++ rest)).length -
        (label.length + (' ' :: (target ++ rest)).length + 2)) = source ++ " -->".toList := by
    have hcut : labelledText source label (target ++ rest) =
        (source ++ " -->".toList) ++ '|' :: (label ++ '|' :: ' ' :: (target ++ rest)) := by
      rw [labelledText_eq, List.append_assoc]
      rfl
    rw [hcut]
    refine List.take_left' ?_
    simp only [List.length_append, List.length_cons]
    omega
  unfold arrow? labelledArrow?
  rw [firstMatch?_of_read harrow, Option.map_some, Option.some_or]
  dsimp only
  rw [hbefore, edgeText_eq_gap]

/-- A line with a label does what is written behind its arrow, and draws its edge. -/
theorem lineEdits_labelledText (hs : OpensLine source) (ht : IsIdentifier target)
    (hrest : ∀ c ∈ rest.head?, isWord c = false) (hlabel : '|' ∉ label) :
    lineEdits (labelledText source label (target ++ rest)) =
      patternEdits (target ++ rest) ++ conditionEdits (target ++ rest) ++
        [.edge source target (trim label)] := by
  have hclass : classify (labelledText source label (target ++ rest)) = .edge := by
    rw [labelledText_eq]
    exact classify_arrow hs _
  have hpatterns : patternEdits (' ' :: (target ++ rest)) = patternEdits (target ++ rest) :=
    patternEdits_gap (by decide) List.not_mem_nil (by decide)
  have hconditions : conditionEdits (' ' :: (target ++ rest)) = conditionEdits (target ++ rest) :=
    conditionEdits_gap (by decide) List.not_mem_nil (by decide)
  unfold lineEdits
  rw [hclass]
  dsimp only
  rw [arrow?_labelledText hs.toIsIdentifier ht hrest hlabel, Option.map_some, Option.getD_some,
    Arrow.edits, patternEdits_edgeText hs.toIsIdentifier, conditionEdits_edgeText hs.toIsIdentifier,
    hpatterns, hconditions]

end Labelled

section Targets

variable {id text : Text} {question : Question}

/-- A line with an arrow between two identifiers draws that edge and does nothing else. -/
theorem lineEdits_edge (hs : OpensLine source) (ht : IsIdentifier target) :
    lineEdits (edgeText source target) = [.edge source target []] := by
  have hshaft : ¬ shaft <:+: target ++ [] := by
    rw [List.append_nil]
    exact not_shaft_infix (ht.not_mem (by decide))
  have hend : ∀ c ∈ ([] : Text).head?, isWord c = false :=
    fun c hc => absurd hc (Option.not_mem_none c)
  have hline := lineEdits_edgeText hs ht hend hshaft
  rw [List.append_nil, patternEdits_eq_nil (ht.not_mem (by decide)),
    conditionEdits_eq_nil (ht.not_mem (by decide))] at hline
  exact hline

theorem conditionEdits_quotedNode (hid : IsIdentifier id) (hbrace : '\x7b' ∉ text) :
    conditionEdits (quotedNode id text) = [] := by
  refine conditionEdits_eq_nil fun hmem => ?_
  have hword : '\x7b' ∉ id := hid.not_mem (by decide)
  simp [quotedNode, hword, hbrace] at hmem

/-- A line whose arrow leads to a quoted definition defines that node and draws the edge to it. -/
theorem lineEdits_edge_quotedNode (hs : OpensLine source) (hid : IsIdentifier id)
    (hquote : '"' ∉ text) (hbrace : '\x7b' ∉ text) (hshaft : ¬ shaft <:+: text) :
    lineEdits (edgeText source (quotedNode id text)) =
      [.pattern id (trim text), .edge source id []] := by
  have hbracket : isWord '[' = false := by decide
  have hline := lineEdits_edgeText hs hid (isWord_head?_cons hbracket _)
    (not_shaft_infix_quotedNode hid hshaft)
  rw [← quotedNode, patternEdits_quotedNode hid hquote,
    conditionEdits_quotedNode hid hbrace] at hline
  exact hline

/-- With a label the text may hold arrows. -/
theorem lineEdits_labelled_quotedNode (hs : OpensLine source) (hid : IsIdentifier id)
    (hquote : '"' ∉ text) (hbrace : '\x7b' ∉ text) (hlabel : '|' ∉ label) :
    lineEdits (labelledText source label (quotedNode id text)) =
      [.pattern id (trim text), .edge source id (trim label)] := by
  have hbracket : isWord '[' = false := by decide
  have hline := lineEdits_labelledText hs hid
    (isWord_head?_cons hbracket ('"' :: (text ++ ['"', ']']))) hlabel
  rw [← quotedNode, patternEdits_quotedNode hid hquote,
    conditionEdits_quotedNode hid hbrace] at hline
  exact hline

/-- A definition in braces. -/
def askedNode (id : Text) (question : Question) : Text :=
  id ++ "\x7bCondition: ".toList ++ question.keyword ++ " ".toList ++ question.name ++ "\x7d".toList

/-- What stands behind the word `Condition:`. -/
def asked (question : Question) : Text :=
  ' ' :: (question.keyword ++ ' ' :: question.name)

theorem askedNode_eq (id : Text) (question : Question) :
    askedNode id question =
      id ++ '\x7b' :: ("Condition:".toList ++ (asked question ++ ['\x7d'])) := by
  unfold askedNode asked
  simp only [List.append_assoc, List.cons_append]
  rfl

theorem askedNode_ne_nil (id : Text) (question : Question) : askedNode id question ≠ [] := by
  rw [askedNode_eq]
  exact List.append_ne_nil_of_right_ne_nil id (List.cons_ne_nil _ _)

/-- The parts of a definition in braces that are not fixed are words. -/
theorem not_mem_askedNode {d : Char} (hid : IsIdentifier id)
    (hkeyword : IsIdentifier question.keyword) (hname : IsIdentifier question.name)
    (hd : isWord d = false) (hfixed : d ∉ "\x7bCondition: \x7d".toList) :
    d ∉ askedNode id question := by
  have hopen : d ∉ "\x7bCondition: ".toList :=
    fun h => hfixed ((by decide : "\x7bCondition: ".toList ⊆ "\x7bCondition: \x7d".toList) h)
  have hspace : d ∉ " ".toList :=
    fun h => hfixed ((by decide : " ".toList ⊆ "\x7bCondition: \x7d".toList) h)
  have hclose : d ∉ "\x7d".toList :=
    fun h => hfixed ((by decide : "\x7d".toList ⊆ "\x7bCondition: \x7d".toList) h)
  simp only [askedNode, List.mem_append, not_or]
  exact ⟨⟨⟨⟨⟨hid.not_mem hd, hopen⟩, hkeyword.not_mem hd⟩, hspace⟩, hname.not_mem hd⟩, hclose⟩

theorem question?_asked (hkeyword : IsIdentifier question.keyword)
    (hname : IsIdentifier question.name) : question? (asked question) = some question := by
  have hlead : words (asked question) = words (question.keyword ++ ' ' :: question.name) := rfl
  have hwords : words (asked question) = [question.keyword, question.name] := by
    rw [hlead, words_append_cons ⟨hkeyword.ne_nil, hkeyword.not_isBlank⟩ (by decide),
      words_of_unbroken ⟨hname.ne_nil, hname.not_isBlank⟩]
  unfold question?
  rw [hwords]

theorem conditionNode?_askedNode (hid : IsIdentifier id) (hkeyword : IsIdentifier question.keyword)
    (hname : IsIdentifier question.name) :
    conditionNode? (askedNode id question) = some ((id, some question), []) := by
  have hopen : expect? ['\x7b'] ('\x7b' :: ("Condition:".toList ++ (asked question ++ ['\x7d']))) =
      some ("Condition:".toList ++ (asked question ++ ['\x7d'])) := rfl
  have hblanks : dropBlanks ("Condition:".toList ++ (asked question ++ ['\x7d'])) =
      "Condition:".toList ++ (asked question ++ ['\x7d']) := rfl
  have hclear : '\x7d' ∉ asked question := by
    simp only [asked, List.mem_cons, List.mem_append, not_or]
    exact ⟨by decide, hkeyword.not_mem (by decide), by decide,
      hname.not_mem (by decide)⟩
  unfold conditionNode?
  rw [askedNode_eq, identifier?_append_cons hid (by decide), Option.bind_eq_bind,
    Option.bind_some]
  dsimp only
  rw [hopen, Option.bind_eq_bind, Option.bind_some, hblanks, expect?_append, Option.bind_some,
    upTo?_append hclear, Option.bind_some]
  dsimp only
  rw [question?_asked hkeyword hname]
  rfl

/-- A line whose arrow leads to a definition in braces defines that condition and draws the edge to
it. -/
theorem lineEdits_edge_askedNode (hs : OpensLine source) (hid : IsIdentifier id)
    (hkeyword : IsIdentifier question.keyword) (hname : IsIdentifier question.name) :
    lineEdits (edgeText source (askedNode id question)) =
      [.condition id question, .edge source id []] := by
  have hclear {d : Char} := not_mem_askedNode (d := d) hid hkeyword hname
  have hpatterns : patternEdits (askedNode id question) = [] :=
    patternEdits_eq_nil (hclear (by decide) (by decide))
  have hconditions : conditionEdits (askedNode id question) = [.condition id question] := by
    have hread := conditionNode?_askedNode hid hkeyword hname
    unfold conditionEdits Scanner.findAll
    rw [pieces_of_read_all conditionScanner hread]
    rfl
  have hshaft : ¬ shaft <:+: askedNode id question :=
    not_shaft_infix (hclear (by decide) (by decide))
  rw [askedNode_eq] at hshaft
  have hbrace : isWord '\x7b' = false := by decide
  have hline := lineEdits_edgeText hs hid (isWord_head?_cons hbrace _) hshaft
  rw [← askedNode_eq, hpatterns, hconditions] at hline
  exact hline

end Targets

end ChartDialogue.Chart
