import ChartDialogue.Proofs.Chart.ArrowLines
import ChartDialogue.Proofs.Corpus.Outline
import ChartDialogue.Proofs.Text.Trimmed

/-!
Outlines as texts. The lines of a well formed outline are read back one by one: each stands within
a line and draws what it was written for, whatever else its texts and labels contain. So the text of
an outline compiles to the categories that the outline describes.
-/
namespace ChartDialogue.Corpus.Outline

open Text Chart

/-- A text that can stand in quotes within a line. -/
structure IsQuotable (text : Text) : Prop where
  quote : '"' ∉ text
  newline : '\n' ∉ text

instance : DecidablePred IsQuotable := fun text =>
  decidable_of_iff ('"' ∉ text ∧ '\n' ∉ text) ⟨fun h => ⟨h.1, h.2⟩, fun h => ⟨h.quote, h.newline⟩⟩

/-- The outlines whose lines say what is meant. The names differ, and a name at the beginning of a
line does not begin like a declaration; a text does not end its quotes or its line; a text behind an
arrow opens no brace, and one behind an arrow without a label holds no arrow; a label does not end
its bars or its line. -/
structure WellFormed (o : Outline) : Prop where
  nodup : o.ids.Nodup
  isIdentifier : ∀ id ∈ o.ids, IsIdentifier id
  root : ¬ "flowchart".toList <+: o.root ∧ ¬ "graph".toList <+: o.root
  asker : ¬ "flowchart".toList <+: o.asker ∧ ¬ "graph".toList <+: o.asker
  pattern : IsQuotable o.pattern
  answers : ∀ a ∈ o.answers, IsQuotable a.2 ∧ '\x7b' ∉ a.2 ∧ ¬ shaft <:+: a.2
  question : IsIdentifier o.question.keyword ∧ IsIdentifier o.question.name
  replies : ∀ r ∈ o.replies, IsQuotable r.text ∧ '\x7b' ∉ r.text
  labels : ∀ r ∈ o.replies, '|' ∉ r.label ∧ '\n' ∉ r.label
  asks : o.replies ≠ []

section Lines

variable {o : Outline}

theorem opensLine_of_not_prefix {id : Text} (h : IsIdentifier id)
    (hlead : ¬ "flowchart".toList <+: id ∧ ¬ "graph".toList <+: id) : OpensLine id := by
  have hnone : ∀ lead : Text, ¬ lead <+: id → startsWith lead id = false := by
    intro lead hlead
    rwa [← Bool.not_eq_true, startsWith_iff]
  exact { toIsIdentifier := h, flowchart := hnone _ hlead.1, graph := hnone _ hlead.2 }

/-- A line that begins with an identifier and ends like a text within a line has no blanks at its
ends. -/
theorem oneLine_append {id gap s : Text} (hid : IsIdentifier id) (hgap : '\n' ∉ gap)
    (hs : OneLine s) (hne : s ≠ []) : OneLine (id ++ gap ++ s) where
  trimmed := by
    refine trim_eq_self ?_ ?_
    · intro c hc
      rw [List.append_assoc, List.head?_append_of_ne_nil _ hid.ne_nil] at hc
      exact hid.not_isBlank c (List.mem_of_mem_head? hc)
    · intro c hc
      rw [List.getLast?_append_of_ne_nil _ hne, ← hs.trimmed] at hc
      exact not_isBlank_of_getLast?_trim hc
  newline := by
    have hword : '\n' ∉ id := hid.not_mem (by decide)
    rw [List.mem_append, List.mem_append, not_or, not_or]
    exact ⟨⟨hword, hgap⟩, hs.newline⟩

theorem oneLine_quotedNode {id text : Text} (hid : IsIdentifier id) (htext : IsQuotable text) :
    OneLine (quotedNode id text) := by
  have hnode : quotedNode id text = id ++ ('[' :: '"' :: text ++ ['"']) ++ [']'] := by
    simp only [quotedNode, List.append_assoc, List.cons_append, List.nil_append]
  have hclose : OneLine [']'] := ⟨by decide, by decide⟩
  rw [hnode]
  exact oneLine_append hid (by simp [htext.newline]) hclose (List.cons_ne_nil _ _)

theorem oneLine_askedNode {id : Text} {question : Question} (hid : IsIdentifier id)
    (hkeyword : IsIdentifier question.keyword) (hname : IsIdentifier question.name) :
    OneLine (askedNode id question) := by
  have hnode : askedNode id question =
      id ++ ("\x7bCondition: ".toList ++ question.keyword ++ " ".toList ++ question.name) ++
        "\x7d".toList := by
    simp only [askedNode, List.append_assoc]
  have hgap : '\n' ∉
      "\x7bCondition: ".toList ++ question.keyword ++ " ".toList ++ question.name := by
    simp only [List.mem_append, not_or]
    exact ⟨⟨⟨by decide, hkeyword.not_mem (by decide)⟩, by decide⟩,
      hname.not_mem (by decide)⟩
  have hclose : OneLine "\x7d".toList := ⟨by decide, by decide⟩
  rw [hnode]
  exact oneLine_append hid hgap hclose (by decide)

theorem oneLine_edgeText {source target : Text} (hs : IsIdentifier source) (ht : OneLine target)
    (hne : target ≠ []) : OneLine (edgeText source target) :=
  oneLine_append hs (by decide) ht hne

theorem oneLine_labelledText {source label target : Text} (hs : IsIdentifier source)
    (hlabel : '\n' ∉ label) (ht : OneLine target) (hne : target ≠ []) :
    OneLine (labelledText source label target) := by
  have hline : labelledText source label target =
      source ++ (" -->|".toList ++ label ++ "| ".toList) ++ target := by
    simp only [labelledText, List.append_assoc]
  have hgap : '\n' ∉ " -->|".toList ++ label ++ "| ".toList := by
    simp only [List.mem_append, not_or]
    exact ⟨⟨by decide, hlabel⟩, by decide⟩
  rw [hline]
  exact oneLine_append hs hgap ht hne

end Lines

namespace WellFormed

variable {o : Outline}

theorem opensLine_root (h : o.WellFormed) : OpensLine o.root :=
  opensLine_of_not_prefix (h.isIdentifier o.root List.mem_cons_self) h.root

theorem isIdentifier_asker (h : o.WellFormed) : IsIdentifier o.asker :=
  h.isIdentifier o.asker (List.mem_cons_of_mem _ (List.mem_append_right _ List.mem_cons_self))

theorem opensLine_asker (h : o.WellFormed) : OpensLine o.asker :=
  opensLine_of_not_prefix h.isIdentifier_asker h.asker

theorem isIdentifier_answer (h : o.WellFormed) {a : Text × Text} (ha : a ∈ o.answers) :
    IsIdentifier a.1 :=
  h.isIdentifier a.1 (List.mem_cons_of_mem _ (List.mem_append_left _ (List.mem_map_of_mem ha)))

theorem isIdentifier_reply (h : o.WellFormed) {r : Leaf} (hr : r ∈ o.replies) :
    IsIdentifier r.id := by
  refine h.isIdentifier r.id (List.mem_cons_of_mem _ (List.mem_append_right _ ?_))
  exact List.mem_cons_of_mem _ (List.mem_map_of_mem hr)

/-- No line of an outline breaks or has blanks at its ends, so the lines are read one by one. -/
theorem oneLine_of_mem_lines (h : o.WellFormed) : ∀ l ∈ o.lines, OneLine l := by
  intro l hl
  have hroot := h.opensLine_root.toIsIdentifier
  simp only [lines, List.mem_append, List.mem_cons, List.not_mem_nil, or_false, List.mem_map] at hl
  rcases hl with (((rfl | rfl) | ⟨a, ha, rfl⟩) | rfl) | ⟨r, hr, rfl⟩
  · exact ⟨by decide, by decide⟩
  · exact oneLine_quotedNode hroot h.pattern
  · have hnode := oneLine_quotedNode (h.isIdentifier_answer ha) (h.answers a ha).1
    exact oneLine_edgeText hroot hnode (quotedNode_ne_nil a.1 a.2)
  · have hnode := oneLine_askedNode h.isIdentifier_asker h.question.1 h.question.2
    exact oneLine_edgeText hroot hnode (askedNode_ne_nil o.asker o.question)
  · have hnode := oneLine_quotedNode (h.isIdentifier_reply hr) (h.replies r hr).1
    exact oneLine_labelledText h.isIdentifier_asker (h.labels r hr).2 hnode
      (quotedNode_ne_nil r.id r.text)

/-- Read line by line, an outline draws its chart, without the blanks at the ends of its texts. -/
theorem flatMap_lineEdits (h : o.WellFormed) : o.lines.flatMap lineEdits = o.trimmed.edits := by
  have hdeclaration : lineEdits declaration = [] := by decide
  have hpattern := lineEdits_quotedNode h.opensLine_root h.pattern.quote
  have hanswers : (o.answers.map fun a => edgeText o.root (quotedNode a.1 a.2)).flatMap lineEdits =
      o.trimmed.answerLeaves.flatMap (Leaf.edits o.root) := by
    rw [answerLeaves, trimmed, List.map_map, List.flatMap_map, List.flatMap_map]
    refine List.flatMap_congr fun a ha => ?_
    obtain ⟨htext, hbrace, hshaft⟩ := h.answers a ha
    exact lineEdits_edge_quotedNode h.opensLine_root (h.isIdentifier_answer ha) htext.quote hbrace
      hshaft
  have hasker := lineEdits_edge_askedNode h.opensLine_root h.isIdentifier_asker h.question.1
    h.question.2
  have hreplies : (o.replies.map fun r =>
      labelledText o.asker r.label (quotedNode r.id r.text)).flatMap lineEdits =
      o.trimmed.replies.flatMap (Leaf.edits o.asker) := by
    rw [trimmed, List.flatMap_map, List.flatMap_map]
    refine List.flatMap_congr fun r hr => ?_
    obtain ⟨htext, hbrace⟩ := h.replies r hr
    exact lineEdits_labelled_quotedNode h.opensLine_asker (h.isIdentifier_reply hr) htext.quote
      hbrace (h.labels r hr).1
  rw [lines, List.flatMap_append, List.flatMap_append, List.flatMap_append, List.flatMap_cons,
    List.flatMap_singleton, hdeclaration, hpattern, hanswers, List.flatMap_singleton, hasker,
    hreplies, List.nil_append, List.append_assoc, List.append_assoc]
  rfl

/-- The first line declares the chart, so that all lines are read. -/
theorem edits_of_lines (h : o.WellFormed) {text : Text} {rest : List Text}
    (hlines : Chart.lines text = o.lines ++ rest) (hrest : rest.flatMap lineEdits = []) :
    Chart.edits text = o.trimmed.edits := by
  have hdeclaration : decide (classify declaration ≠ .declaration) = false := by decide
  have hbody : body text = o.lines ++ rest := by
    rw [body, hlines, lines, List.append_assoc, List.append_assoc, List.append_assoc,
      List.cons_append, List.dropWhile_cons, hdeclaration, if_neg Bool.false_ne_true]
  rw [Chart.edits, hbody, List.flatMap_append, h.flatMap_lineEdits, hrest, List.append_nil]

end WellFormed

theorem ids_trimmed (o : Outline) : o.trimmed.ids = o.ids := by
  unfold ids trimmed
  rw [List.map_map, List.map_map]
  rfl

/-- An outline that is written out compiles to exactly what it describes, without the blanks at the
ends of its texts and labels, whether or not the last line ends with a line feed. -/
theorem ofText_lines (o : Outline) (h : o.WellFormed) (sourceFile : Text) :
    ofText (join ['\n'] o.lines) sourceFile = o.trimmed.corpus sourceFile ∧
      ofText (o.lines.flatMap (· ++ ['\n'])) sourceFile = o.trimmed.corpus sourceFile := by
  have hnewline : ∀ l ∈ o.lines, '\n' ∉ l := fun l hl => (h.oneLine_of_mem_lines l hl).newline
  have htrim : o.lines.map trim = o.lines := by
    have hsame : o.lines.map trim = o.lines.map fun l => l :=
      List.map_congr_left fun l hl => (h.oneLine_of_mem_lines l hl).trimmed
    rw [hsame, List.map_id']
  have hcompile : compile (Graph.ofEdits o.trimmed.edits) sourceFile =
      o.trimmed.corpus sourceFile := by
    have hids : o.trimmed.ids.Nodup := by
      rw [ids_trimmed]
      exact h.nodup
    have hasks : o.trimmed.replies ≠ [] := fun hnil => h.asks (List.map_eq_nil_iff.mp hnil)
    rw [ofEdits_edits (distinct_of_nodup hids), compile_chart hids hasks]
  have hne : o.lines ≠ [] := List.cons_ne_nil _ _
  have hjoined : Chart.lines (join ['\n'] o.lines) = o.lines ++ [] := by
    rw [lines_join hne hnewline, htrim, List.append_nil]
  -- behind the last line feed stands one more line, which is empty
  have hended : Chart.lines (o.lines.flatMap (· ++ ['\n'])) = o.lines ++ [[]] := by
    rw [lines_flatMap hnewline, htrim]
  have hblank : [([] : Text)].flatMap lineEdits = [] := by decide
  constructor
  · rw [ofText, Graph.ofText, h.edits_of_lines hjoined List.flatMap_nil, hcompile]
  · rw [ofText, Graph.ofText, h.edits_of_lines hended hblank, hcompile]

/-- Two answers, one of them empty, and a question that is no keyword's. -/
def mood : Outline where
  root := "A".toList
  pattern := "how am i --> today".toList
  answers := [("flowchart".toList, " f[i]ne | so far".toList), ("B".toList, " ".toList)]
  asker := "C".toList
  question := ⟨"mood".toList, "today".toList⟩
  replies := [⟨" good ".toList, "D".toList, "glad --> happy ".toList⟩, ⟨"*".toList, "E".toList, []⟩]

theorem ofText_lines_mood :
    mood.WellFormed ∧
    ofText (join ['\n'] mood.lines) [] =
      ⟨[⟨"how am i --> today".toList, ["f[i]ne | so far".toList], []⟩],
        [⟨"how am i --> today".toList,
          [⟨⟨.predicateValue, "today".toList, "good".toList, false⟩, "glad --> happy".toList⟩,
            ⟨⟨.predicateValue, "today".toList, "*".toList, true⟩, []⟩]⟩]⟩ := by
  have hformed : mood.WellFormed := {
    nodup := by decide +kernel
    isIdentifier := by decide +kernel
    root := by decide +kernel
    asker := by decide +kernel
    pattern := by decide +kernel
    answers := by decide +kernel
    question := by decide +kernel
    replies := by decide +kernel
    labels := by decide +kernel
    asks := by decide +kernel }
  exact ⟨hformed, (ofText_lines mood hformed []).1.trans (by decide +kernel)⟩

end ChartDialogue.Corpus.Outline
