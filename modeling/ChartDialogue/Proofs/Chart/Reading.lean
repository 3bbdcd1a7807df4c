import ChartDialogue.Chart.Line
import ChartDialogue.Proofs.Text.Reading
import Mathlib.Data.List.Basic
import Mathlib.Tactic.SplitIfs

/-!
What the readers of a line take from the beginning of a text and what they leave: characters of the
text, and an end of it. An identifier is read up to the first character that stands in no word, and
a definition opens right behind it. So there is no definition before a gap without brackets and
braces, and none in a text without them.
-/
namespace ChartDialogue.Chart

open Text

structure IsIdentifier (id : Text) : Prop where
  ne_nil : id ≠ []
  isWord : ∀ c ∈ id, isWord c = true

instance : DecidablePred IsIdentifier := fun id =>
  decidable_of_iff (id ≠ [] ∧ id.all Text.isWord = true)
    ⟨fun h => ⟨h.1, List.all_eq_true.mp h.2⟩, fun h => ⟨h.ne_nil, List.all_eq_true.mpr h.isWord⟩⟩

section Identifiers

variable {id gap s r rest : Text} {c d : Char}

theorem IsIdentifier.not_mem (h : IsIdentifier id) (hc : Text.isWord c = false) : c ∉ id := by
  intro hmem
  rw [h.isWord c hmem] at hc
  exact absurd hc.symm Bool.false_ne_true

theorem IsIdentifier.not_isBlank (h : IsIdentifier id) : ∀ c ∈ id, isBlank c = false := by
  intro c hc
  cases hblank : isBlank c with
  | false => rfl
  | true => exact absurd hc (h.not_mem (not_isWord_of_isBlank hblank))

theorem IsIdentifier.dropBlanks_append (h : IsIdentifier id) (rest : Text) :
    dropBlanks (id ++ rest) = id ++ rest := by
  refine dropBlanks_of_head fun c hc => ?_
  rw [List.head?_append_of_ne_nil _ h.ne_nil] at hc
  exact h.not_isBlank c (List.mem_of_mem_head? hc)

/-- An identifier ends where a character follows that can stand in no word. -/
theorem identifier?_append (h : IsIdentifier id) (hrest : ∀ c ∈ rest.head?, isWord c = false) :
    identifier? (id ++ rest) = some (id, rest) := by
  unfold identifier?
  rw [takeWhile_append_stop h.isWord hrest, dropWhile_append_stop h.isWord hrest]
  cases id with
  | nil => exact absurd rfl h.ne_nil
  | cons c id => rfl

theorem isWord_head?_cons (hc : isWord c = false) (rest : Text) :
    ∀ d ∈ (c :: rest).head?, isWord d = false := by
  intro d hd
  rw [← Option.some.inj hd]
  exact hc

theorem identifier?_append_cons (h : IsIdentifier id) (hc : isWord c = false) (rest : Text) :
    identifier? (id ++ c :: rest) = some (id, c :: rest) :=
  identifier?_append h (isWord_head?_cons hc rest)

/-- What is read as an identifier stands at the beginning of the text. -/
theorem eq_append_of_identifier? (h : identifier? s = some (id, r)) :
    IsIdentifier id ∧ s = id ++ r := by
  unfold identifier? at h
  split at h
  · exact absurd h.symm (Option.some_ne_none _)
  · rename_i c word hword
    obtain ⟨rfl, rfl⟩ := Prod.mk.inj (Option.some.inj h)
    rw [← hword]
    refine ⟨⟨?_, List.all_eq_true.mp List.all_takeWhile⟩, List.takeWhile_append_dropWhile.symm⟩
    rw [hword]
    exact List.cons_ne_nil c word

theorem suffix_of_identifier? (h : identifier? s = some (id, r)) : r <:+ s :=
  ⟨id, (eq_append_of_identifier? h).2.symm⟩

/-- Nothing opens behind an identifier with a character that does not occur. -/
theorem identifier?_ne_of_not_mem (h : c ∉ s) : identifier? s ≠ some (id, c :: r) :=
  fun hread => h ((suffix_of_identifier? hread).subset List.mem_cons_self)

/-- An identifier that is read before a gap ends in it. -/
theorem identifier?_ne_of_gap (hd : isWord d = false) (hc : c ∉ gap) (hcd : c ≠ d) :
    identifier? (gap ++ d :: s) ≠ some (id, c :: r) := by
  intro hread
  unfold identifier? at hread
  split at hread
  · exact absurd hread.symm (Option.some_ne_none _)
  · have hrest := (Prod.mk.inj (Option.some.inj hread)).2
    rw [dropWhile_append_cons hd] at hrest
    cases hkept : gap.dropWhile isWord with
    | nil =>
      rw [hkept, List.nil_append] at hrest
      exact hcd (List.cons.inj hrest).1.symm
    | cons e kept =>
      rw [hkept, List.cons_append] at hrest
      have hmem : e ∈ gap.dropWhile isWord := by rw [hkept]; exact List.mem_cons_self
      rw [(List.cons.inj hrest).1] at hmem
      exact hc ((List.dropWhile_suffix _).subset hmem)

end Identifiers

section Definitions

variable {s r id text gap : Text} {d mark : Char}

theorem subset_of_upTo? {stop : Char} (h : upTo? stop s = some (text, r)) : text ⊆ s ∧ r <:+ s := by
  obtain ⟨-, rfl⟩ := upTo?_eq_some_iff.mp h
  refine ⟨fun c hc => List.mem_append_left _ hc, ?_⟩
  exact (List.suffix_cons stop r).trans (List.suffix_append text (stop :: r))

/-- What is read behind blanks comes behind blanks. -/
theorem eq_append_of_dropBlanks {lead : Text} (h : expect? lead (dropBlanks s) = some r) :
    ∃ gap, (∀ c ∈ gap, isBlank c = true) ∧ s = gap ++ (lead ++ r) := by
  refine ⟨s.takeWhile isBlank, List.all_eq_true.mp List.all_takeWhile, ?_⟩
  rw [← eq_append_of_expect? h, dropBlanks, List.takeWhile_append_dropWhile]

/-- A quoted text stands between quotes, with blanks around them, and ends with a bracket. -/
theorem eq_append_of_quoted? (h : quoted? s = some (text, r)) :
    ∃ before after, (∀ c ∈ before, isBlank c = true) ∧ (∀ c ∈ after, isBlank c = true) ∧
      '"' ∉ text ∧ s = before ++ '"' :: (text ++ '"' :: (after ++ ']' :: r)) := by
  simp only [quoted?, Option.bind_eq_bind, Option.bind_eq_some_iff, Option.pure_def,
    Option.some.injEq, Prod.mk.injEq, Prod.exists] at h
  obtain ⟨s₁, hopen, t, s₂, hread, r', hclose, rfl, rfl⟩ := h
  obtain ⟨before, hbefore, rfl⟩ := eq_append_of_dropBlanks hopen
  obtain ⟨htext, rfl⟩ := upTo?_eq_some_iff.mp hread
  obtain ⟨after, hafter, rfl⟩ := eq_append_of_dropBlanks hclose
  exact ⟨before, after, hbefore, hafter, htext, rfl⟩

theorem subset_of_quoted? (h : quoted? s = some (text, r)) : text ⊆ s ∧ r <:+ s := by
  obtain ⟨before, after, -, -, -, rfl⟩ := eq_append_of_quoted? h
  refine ⟨fun c hc => by simp [hc], before ++ '"' :: (text ++ '"' :: (after ++ [']'])), ?_⟩
  simp only [List.append_assoc, List.cons_append, List.nil_append]

/-- What opens a definition: an identifier and a mark. -/
def opened? (mark : Char) (s : Text) : Option (Text × Text) := do
  let (id, s) ← identifier? s
  let s ← expect? [mark] s
  return (id, s)

theorem identifier?_of_opened? (h : opened? mark s = some (id, r)) :
    identifier? s = some (id, mark :: r) := by
  simp only [opened?, Option.bind_eq_bind, Option.bind_eq_some_iff, Option.pure_def,
    Option.some.injEq, Prod.mk.injEq, Prod.exists] at h
  obtain ⟨_, s₁, hid, r', hmark, rfl, rfl⟩ := h
  rw [hid, eq_append_of_expect? hmark]
  rfl

theorem opened?_eq_none (h : ∀ {id r : Text}, identifier? s ≠ some (id, mark :: r)) :
    opened? mark s = none := by
  rw [Option.eq_none_iff_forall_ne_some]
  exact fun _ hread => h (identifier?_of_opened? hread)

theorem suffix_of_opened? (h : opened? mark s = some (id, r)) : r <:+ s :=
  (List.suffix_cons mark r).trans (suffix_of_identifier? (identifier?_of_opened? h))

/-- A node in brackets is read in two steps: what opens it, and what the brackets hold. -/
theorem patternNode?_eq_bind (s : Text) :
    patternNode? s = (opened? '[' s).bind fun w =>
      (bracketed? w.2).map fun q => ((w.1, trim q.1), q.2) := by
  unfold patternNode? opened?
  simp only [Option.bind_eq_bind, Option.pure_def, Option.bind_assoc, Option.bind_some,
    Option.map_eq_bind, Function.comp_def]

/-- A pattern node is opened, and its text is what is read in brackets, trimmed. -/
theorem exists_bracketed?_of_patternNode? {node : Text × Text}
    (h : patternNode? s = some (node, r)) :
    ∃ w inner, opened? '[' s = some (node.1, w) ∧ bracketed? w = some (inner, r) ∧
      node.2 = trim inner := by
  simp only [patternNode?_eq_bind, Option.bind_eq_some_iff, Option.map_eq_some_iff,
    Prod.mk.injEq, Prod.exists] at h
  obtain ⟨id, w, hopen, inner, r', hread, rfl, rfl⟩ := h
  exact ⟨w, inner, hopen, hread, rfl⟩

theorem patternNode?_eq_none (h : ∀ {id r : Text}, identifier? s ≠ some (id, '[' :: r)) :
    patternNode? s = none := by
  rw [patternNode?_eq_bind, opened?_eq_none h, Option.bind_none]

/-- What begins a condition, up to what it asks. -/
def asks? (s : Text) : Option (Text × Text) := do
  let (id, s) ← opened? '\x7b' s
  let s ← expect? "Condition:".toList (dropBlanks s)
  return (id, s)

theorem eq_append_of_asks? (h : asks? s = some (id, r)) :
    IsIdentifier id ∧ ∃ gap, (∀ c ∈ gap, isBlank c = true) ∧
      s = id ++ '\x7b' :: (gap ++ ("Condition:".toList ++ r)) := by
  simp only [asks?, Option.bind_eq_bind, Option.bind_eq_some_iff, Option.pure_def,
    Option.some.injEq, Prod.mk.injEq, Prod.exists] at h
  obtain ⟨_, w, hopen, r', hlead, rfl, rfl⟩ := h
  obtain ⟨hid, rfl⟩ := eq_append_of_identifier? (identifier?_of_opened? hopen)
  obtain ⟨gap, hgap, rfl⟩ := eq_append_of_dropBlanks hlead
  exact ⟨hid, gap, hgap, rfl⟩

/-- A condition is read in two steps: what begins it, and what it asks. -/
theorem conditionNode?_eq_bind (s : Text) :
    conditionNode? s = (asks? s).bind fun w =>
      (upTo? '\x7d' w.2).map fun asked => ((w.1, question? asked.1), asked.2) := by
  unfold conditionNode? asks? opened?
  simp only [Option.bind_eq_bind, Option.pure_def, Option.bind_assoc, Option.bind_some,
    Option.map_eq_bind, Function.comp_def]

theorem conditionNode?_eq_none (h : ∀ {id r : Text}, identifier? s ≠ some (id, '\x7b' :: r)) :
    conditionNode? s = none := by
  rw [conditionNode?_eq_bind, asks?, opened?_eq_none h]
  rfl

/-- Without a bracket no text defines a pattern node. -/
theorem patternEdits_eq_nil (h : '[' ∉ s) : patternEdits s = [] := by
  unfold patternEdits
  rw [findAll_eq_nil patternScanner fun t ht =>
    patternNode?_eq_none (identifier?_ne_of_not_mem fun hmem => h (ht.subset hmem)), List.map_nil]

/-- Without a brace no text defines a condition. -/
theorem conditionEdits_eq_nil (h : '\x7b' ∉ s) : conditionEdits s = [] := by
  unfold conditionEdits
  rw [findAll_eq_nil conditionScanner fun t ht =>
    conditionNode?_eq_none (identifier?_ne_of_not_mem fun hmem => h (ht.subset hmem)),
    List.filterMap_nil]

/-- No pattern node is defined before a gap in which no bracket opens. -/
theorem patternEdits_gap (hd : isWord d = false) (hgap : '[' ∉ gap) (hne : '[' ≠ d) :
    patternEdits (gap ++ d :: s) = patternEdits s := by
  unfold patternEdits
  rw [findAll_gap patternScanner fun t ht =>
    patternNode?_eq_none (identifier?_ne_of_gap hd (fun hmem => hgap (ht.subset hmem)) hne)]

theorem conditionEdits_gap (hd : isWord d = false) (hgap : '\x7b' ∉ gap) (hne : '\x7b' ≠ d) :
    conditionEdits (gap ++ d :: s) = conditionEdits s := by
  unfold conditionEdits
  rw [findAll_gap conditionScanner fun t ht =>
    conditionNode?_eq_none (identifier?_ne_of_gap hd (fun hmem => hgap (ht.subset hmem)) hne)]

end Definitions

section Arrows

variable {s after : Text} {e : Ending}

theorem suffix_of_mem_afterDefinition (h : after ∈ afterDefinition s) : after <:+ s := by
  unfold afterDefinition at h
  split at h
  · rename_i s
    rcases List.mem_append.mp h with h | h
    · obtain ⟨found, hfound, rfl⟩ := Option.map_eq_some_iff.mp (Option.mem_toList.mp h)
      exact (subset_of_quoted? hfound).2.trans (List.suffix_cons '[' s)
    · obtain ⟨found, hfound, rfl⟩ := Option.map_eq_some_iff.mp (Option.mem_toList.mp h)
      exact (subset_of_upTo? hfound).2.trans (List.suffix_cons '[' s)
  · rename_i s
    obtain ⟨found, hfound, rfl⟩ := Option.map_eq_some_iff.mp (Option.mem_toList.mp h)
    exact (subset_of_upTo? hfound).2.trans (List.suffix_cons _ s)
  · obtain rfl := List.mem_singleton.mp h
    exact List.suffix_refl after

theorem exists_shaft_of_afterShaft? (h : afterShaft? s = some after) :
    ∃ w, shaft ++ w <:+ s ∧ after = dropBlanks w := by
  obtain ⟨w, hw, rfl⟩ := Option.map_eq_some_iff.mp h
  refine ⟨w, ?_, rfl⟩
  rw [← eq_append_of_expect? hw]
  exact List.dropWhile_suffix isBlank

/-- An ending with a label has the label between bars behind its shaft. -/
theorem exists_bars_of_labelledEnding? (h : labelledEnding? s = some e) :
    ∃ w, shaft ++ w <:+ s ∧ dropBlanks w = '|' :: (e.label ++ '|' :: e.rest) := by
  simp only [labelledEnding?, Option.bind_eq_bind, Option.bind_eq_some_iff, Option.pure_def,
    Option.some.injEq, Prod.exists] at h
  obtain ⟨s₁, hshaft, s₂, hbar, label, s₃, hlabel, target, -, -, rfl⟩ := h
  obtain ⟨w, hw, rfl⟩ := exists_shaft_of_afterShaft? hshaft
  refine ⟨w, hw, ?_⟩
  rw [eq_append_of_expect? hbar, (upTo?_eq_some_iff.mp hlabel).2]
  rfl

/-- The ending of an arrow is read at an end of its line. -/
theorem exists_suffix_of_firstMatch? {ending? : Text → Option Ending} {source : Text}
    (h : firstMatch? (arrowAt? ending?) s = some (source, e)) :
    ∃ after, after <:+ s ∧ ending? after = some e := by
  obtain ⟨t, ht, hread⟩ := exists_read_of_firstMatch? h
  simp only [arrowAt?, Option.bind_eq_bind, Option.bind_eq_some_iff, Option.pure_def,
    Option.some.injEq, Prod.mk.injEq, Prod.exists] at hread
  obtain ⟨id, s₁, hid, e', hending, rfl, rfl⟩ := hread
  obtain ⟨after, hafter, hending⟩ := List.exists_of_findSome?_eq_some hending
  have hs₁ : s₁ <:+ s := (suffix_of_identifier? hid).trans ht
  exact ⟨after, (suffix_of_mem_afterDefinition hafter).trans hs₁, hending⟩

/-- A shaft with a bar behind it, as an arrow with a label has. -/
def HasBarredShaft (s : Text) : Prop :=
  ∃ w, shaft ++ w <:+ s ∧ (dropBlanks w).head? = some '|'

/-- An arrow with a label has a barred shaft, and a blank instead of its label where the line defines
nodes. -/
theorem bars_of_labelledArrow? {a : Arrow} (h : labelledArrow? s = some a) :
    HasBarredShaft s ∧ ∃ before label rest,
      s = before ++ '|' :: (label ++ '|' :: rest) ∧ a.definitions = before ++ ' ' :: rest := by
  obtain ⟨⟨source, e⟩, hmatch, rfl⟩ := Option.map_eq_some_iff.mp h
  obtain ⟨after, hafter, hending⟩ := exists_suffix_of_firstMatch? hmatch
  obtain ⟨w, hw, hbars⟩ := exists_bars_of_labelledEnding? hending
  refine ⟨⟨w, hw.trans hafter, by rw [hbars, List.head?_cons]⟩, ?_⟩
  have hblanks : dropBlanks w <:+ w := List.dropWhile_suffix isBlank
  have hline := hblanks.trans ((List.suffix_append shaft w).trans (hw.trans hafter))
  rw [hbars] at hline
  obtain ⟨before, rfl⟩ := hline
  refine ⟨before, e.label, e.rest, rfl, ?_⟩
  dsimp only
  congr 1
  refine List.take_left' ?_
  simp only [List.length_append, List.length_cons]
  omega

end Arrows

end ChartDialogue.Chart
