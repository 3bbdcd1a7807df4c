import ChartDialogue.Proofs.Chart.Reading
import ChartDialogue.Proofs.Text.Ways

/-!
Definitions of nodes as expressions that are read with backtracking, with a repetition for each of
their parts and two alternatives in brackets. The readers of definitions do not backtrack: they find
what the first way of the expression finds. If there is a way that leaves nothing, the first way
leaves nothing, so a definition that fills a line is also the first that is read there.
-/
namespace ChartDialogue.Chart

open Text

/-- A text between quotes, with blanks around them. -/
def quotedText : Ways Text := do
  let _ ← Ways.many isBlank
  Ways.literal ['"']
  let text ← Ways.many (· ≠ '"')
  Ways.literal ['"']
  let _ ← Ways.many isBlank
  return text

/-- A text without quotes. -/
def plainText : Ways Text :=
  Ways.many (· ≠ ']')

/-- The definition of a pattern node: its identifier, and its text as written. -/
def patternExpr : Ways (Text × Text) := do
  let id ← Ways.plus isWord
  Ways.literal ['[']
  let text ← Ways.either quotedText plainText
  Ways.literal [']']
  return (id, text)

/-- What a condition asks, behind blanks. -/
def askedText : Ways Text := do
  let _ ← Ways.many isBlank
  Ways.many (· ≠ '\x7d')

/-- The definition of a condition node: its identifier, and what it asks as written. -/
def conditionExpr : Ways (Text × Text) := do
  let id ← Ways.plus isWord
  Ways.literal ['\x7b']
  let _ ← Ways.many isBlank
  Ways.literal "Condition:".toList
  let asked ← askedText
  Ways.literal ['\x7d']
  return (id, asked)

section Readers

variable {β : Type} {lead : Text} {d : Char}

/-- A word ends where an identifier ends. -/
theorem plus_literal (hd : isWord d = false) (f : Text → Ways β) :
    (Ways.plus isWord >>= fun id => Ways.literal (d :: lead) >>= fun _ => f id) =
      Ways.once identifier? >>= fun id => Ways.literal (d :: lead) >>= fun _ => f id := by
  funext s
  rw [Ways.plus, bind_assoc]
  cases s with
  | nil => rfl
  | cons c s =>
    rw [Ways.bind_apply, Ways.bind_apply, Ways.one, Ways.once, identifier?]
    by_cases hc : isWord c = true
    · rw [if_pos hc, List.takeWhile_cons_of_pos hc, List.dropWhile_cons_of_pos hc]
      rw [List.flatMap_singleton, Option.toList_some, List.flatMap_singleton, bind_assoc]
      simp only [pure_bind]
      exact Ways.many_literal hd (fun t => f (c :: t)) s
    · rw [if_neg hc, List.takeWhile_cons_of_neg hc]
      rfl

/-- A definition is opened in one way. -/
theorem opening (hd : isWord d = false) (f : Text → Ways β) :
    (Ways.plus isWord >>= fun id => Ways.literal [d] >>= fun _ => f id) =
      Ways.once (opened? d) >>= f := by
  rw [plus_literal hd]
  funext s
  rw [Ways.bind_apply, Ways.bind_apply, Ways.once, Ways.once, opened?]
  cases identifier? s with
  | none => rfl
  | some found =>
    simp only [Option.toList_some, List.flatMap_singleton, Option.bind_eq_bind, Option.bind_some,
      Ways.bind_apply, Ways.literal]
    cases expect? [d] found.2 with
    | none => rfl
    | some r =>
      simp only [Option.map_some, Option.toList_some, List.flatMap_singleton, Option.bind_some,
        Option.pure_def]

/-- What follows blanks and the given text. -/
def pastBlanks? (lead s : Text) : Option (Unit × Text) :=
  (expect? lead (dropBlanks s)).map fun r => ((), r)

/-- Blanks end before a character that is none. -/
theorem blanks_literal (hd : isBlank d = false) (w : Ways β) :
    (Ways.many isBlank >>= fun _ => Ways.literal (d :: lead) >>= fun _ => w) =
      Ways.once (pastBlanks? (d :: lead)) >>= fun _ => w := by
  funext s
  rw [Ways.many_literal hd]
  rfl

/-- Quotes that fill the brackets are read in one way. -/
theorem quotedText_literal (f : Text → Ways β) :
    (quotedText >>= fun text => Ways.literal [']'] >>= fun _ => f text) =
      Ways.once quoted? >>= f := by
  simp only [quotedText, bind_assoc, pure_bind]
  rw [blanks_literal (by decide), Ways.many_until]
  simp only [blanks_literal (by decide : isBlank ']' = false)]
  funext s
  rw [Ways.bind_apply, Ways.bind_apply, Ways.once, Ways.once, pastBlanks?, quoted?]
  cases expect? ['"'] (dropBlanks s) with
  | none => rfl
  | some s₁ =>
    simp only [Option.map_some, Option.toList_some, List.flatMap_singleton, Option.bind_eq_bind,
      Option.bind_some, Ways.bind_apply, Ways.once]
    cases upTo? '"' s₁ with
    | none => rfl
    | some found =>
      simp only [Option.toList_some, List.flatMap_singleton, Option.bind_some, pastBlanks?]
      cases expect? [']'] (dropBlanks found.2) <;> rfl

theorem plainText_literal (f : Text → Ways β) :
    (plainText >>= fun text => Ways.literal [']'] >>= fun _ => f text) =
      Ways.once unquoted? >>= f :=
  Ways.many_until ']' f

end Readers

section Patterns

variable {s : Text}

theorem patternExpr_eq (s : Text) :
    patternExpr s = (opened? '[' s).toList.flatMap fun r =>
      ((quoted? r.2).toList ++ (unquoted? r.2).toList).map fun q => ((r.1, q.1), q.2) := by
  unfold patternExpr
  rw [opening (by decide)]
  simp only [Ways.either_bind, quotedText_literal, plainText_literal]
  rw [Ways.bind_apply, Ways.once]
  simp only [Ways.either, Ways.bind_pure_apply, Ways.once, List.map_append]

theorem head?_patternExpr (s : Text) :
    (patternExpr s).head? = (opened? '[' s).bind fun r =>
      (bracketed? r.2).map fun q => ((r.1, q.1), q.2) := by
  rw [patternExpr_eq]
  cases opened? '[' s with
  | none => rfl
  | some r =>
    rw [Option.toList_some, List.flatMap_singleton, Option.bind_some, List.head?_map, bracketed?]
    cases quoted? r.2 with
    | none => cases unquoted? r.2 <;> rfl
    | some q => rfl

/-- The reader of pattern nodes takes the first way. -/
theorem patternNode?_eq (s : Text) :
    patternNode? s = (patternExpr s).head?.map fun w => ((w.1.1, trim w.1.2), w.2) := by
  rw [head?_patternExpr, patternNode?_eq_bind, Option.map_bind]
  simp only [Function.comp_def, Option.map_map]

/-- If the first closing bracket ends a text, no other one is in it. -/
theorem eq_nil_of_bracket_suffix {inner rest : Text} (hinner : ']' ∉ inner)
    (h : ']' :: rest <:+ inner ++ [']']) : rest = [] := by
  obtain ⟨front, hfront⟩ := h
  rcases List.eq_nil_or_concat rest with rfl | ⟨rest, c, rfl⟩
  · rfl
  · rw [List.concat_eq_append, ← List.cons_append, ← List.append_assoc] at hfront
    have hmem : ']' ∈ front ++ ']' :: rest := List.mem_append_right front List.mem_cons_self
    rw [(List.append_inj' hfront rfl).1] at hmem
    exact absurd hmem hinner

/-- If a text without quotes fills the line, a quoted text that is read before it does so, too. -/
theorem bracketed?_of_unquoted? {r text inner rest : Text} (h : unquoted? r = some (inner, []))
    (hread : bracketed? r = some (text, rest)) : rest = [] := by
  rcases Option.or_eq_some_iff.mp hread with hquoted | ⟨-, hunquoted⟩
  · obtain ⟨hinner, hend⟩ := upTo?_eq_some_iff.mp h
    obtain ⟨before, after, -, -, -, rfl⟩ := eq_append_of_quoted? hquoted
    refine eq_nil_of_bracket_suffix hinner ⟨before ++ '"' :: (text ++ '"' :: after), ?_⟩
    rw [← hend]
    simp only [List.append_assoc, List.cons_append]
  · rw [h] at hunquoted
    exact (Prod.mk.inj (Option.some.inj hunquoted)).2.symm

theorem whole?_patternExpr {node : Text × Text} :
    Ways.whole? patternExpr s = some node ↔ (patternExpr s).head? = some (node, []) := by
  refine Ways.whole?_eq_some_iff fun w hw hend first hfirst => ?_
  -- Quotes are tried first, so a way that fills the line is behind another one only without them.
  rw [head?_patternExpr] at hfirst
  rw [patternExpr_eq] at hw
  simp only [Option.mem_def, Option.bind_eq_some_iff, Option.map_eq_some_iff, Prod.exists] at hfirst
  obtain ⟨id, r, hopen, text, rest, hread, rfl⟩ := hfirst
  rw [hopen, Option.toList_some, List.flatMap_singleton] at hw
  obtain ⟨⟨inner, last⟩, hways, rfl⟩ := List.mem_map.mp hw
  obtain rfl : last = [] := hend
  rcases List.mem_append.mp hways with hquoted | hunquoted
  · have hfirst : bracketed? r = some (inner, []) := by
      rw [bracketed?, Option.mem_toList.mp hquoted, Option.some_or]
    rw [hfirst] at hread
    exact (Prod.mk.inj (Option.some.inj hread)).2.symm
  · exact bracketed?_of_unquoted? (Option.mem_toList.mp hunquoted) hread

end Patterns

section Conditions

variable {s : Text} {c : Char}

/-- The ways to read what a condition asks. -/
def askedWays : Ways Text := do
  let _ ← Ways.many isBlank
  Ways.once (upTo? '\x7d')

theorem upTo?_blank_cons (hc : isBlank c = true) (s : Text) :
    upTo? '\x7d' (c :: s) = (upTo? '\x7d' s).map fun r => (c :: r.1, r.2) := by
  rw [upTo?, if_neg]
  rintro rfl
  exact absurd hc (by decide)

theorem askedWays_of_blank (hc : isBlank c = true) (s : Text) :
    askedWays (c :: s) = askedWays s ++ (upTo? '\x7d' (c :: s)).toList := by
  rw [askedWays, Ways.bind_apply, Ways.many, if_pos hc, List.flatMap_append,
    List.flatMap_singleton, List.flatMap_map]
  rfl

theorem askedWays_of_not_blank (hc : isBlank c = false) (s : Text) :
    askedWays (c :: s) = (upTo? '\x7d' (c :: s)).toList := by
  rw [askedWays, Ways.bind_apply, Ways.many, hc]
  exact List.flatMap_singleton _ _

/-- All ways end at the first closing brace. -/
theorem exists_upTo?_of_mem_askedWays {w : Text × Text} (hw : w ∈ askedWays s) :
    ∃ asked, upTo? '\x7d' s = some (asked, w.2) := by
  induction s with
  | nil => exact absurd hw List.not_mem_nil
  | cons c s ih =>
    cases hc : isBlank c with
    | false =>
      rw [askedWays_of_not_blank hc] at hw
      exact ⟨w.1, Option.mem_toList.mp hw⟩
    | true =>
      rw [askedWays_of_blank hc] at hw
      rcases List.mem_append.mp hw with hw | hw
      · obtain ⟨asked, hread⟩ := ih hw
        rw [upTo?_blank_cons hc, hread]
        exact ⟨c :: asked, rfl⟩
      · exact ⟨w.1, Option.mem_toList.mp hw⟩

/-- The first way takes the most blanks. -/
theorem head?_askedWays (s : Text) :
    (askedWays s).head? = (upTo? '\x7d' s).map fun r => (dropBlanks r.1, r.2) := by
  induction s with
  | nil => rfl
  | cons c s ih =>
    cases hc : isBlank c with
    | false =>
      rw [askedWays_of_not_blank hc, upTo?]
      split_ifs
      · rfl
      · cases upTo? '\x7d' s with
        | none => rfl
        | some r =>
          have hkept : dropBlanks (c :: r.1) = c :: r.1 := by
            rw [dropBlanks, List.dropWhile_cons, hc, if_neg Bool.false_ne_true]
          simp only [Option.map_some, Option.toList_some, List.head?_cons, hkept]
    | true =>
      have hblank (asked : Text) : dropBlanks (c :: asked) = dropBlanks asked :=
        List.dropWhile_cons_of_pos hc
      rw [askedWays_of_blank hc, List.head?_append, ih, upTo?_blank_cons hc]
      cases upTo? '\x7d' s with
      | none => rfl
      | some r => simp only [Option.map_some, Option.some_or, hblank]

theorem conditionExpr_eq (s : Text) :
    conditionExpr s = (asks? s).toList.flatMap fun r =>
      (askedWays r.2).map fun asked => ((r.1, asked.1), asked.2) := by
  have hlead : "Condition:".toList = 'C' :: "ondition:".toList := rfl
  have hasked (f : Text → Ways (Text × Text)) :
      (askedText >>= fun asked => Ways.literal ['\x7d'] >>= fun _ => f asked) =
        askedWays >>= f := by
    rw [askedText, askedWays, bind_assoc, bind_assoc, Ways.many_until]
  unfold conditionExpr asks?
  rw [opening (by decide)]
  simp only [hasked, hlead, blanks_literal (by decide : isBlank 'C' = false)]
  rw [Ways.bind_apply, Ways.once]
  cases opened? '\x7b' s with
  | none => rfl
  | some r =>
    simp only [Option.toList_some, List.flatMap_singleton, Option.bind_eq_bind, Option.bind_some,
      Option.pure_def, Ways.bind_apply, Ways.once, pastBlanks?]
    cases expect? ('C' :: "ondition:".toList) (dropBlanks r.2) with
    | none => rfl
    | some r' =>
      simp only [Option.map_some, Option.toList_some, List.flatMap_singleton, Option.bind_some]
      exact Ways.bind_pure_apply askedWays _ r'

theorem head?_conditionExpr (s : Text) :
    (conditionExpr s).head? = (asks? s).bind fun r =>
      (upTo? '\x7d' r.2).map fun asked => ((r.1, dropBlanks asked.1), asked.2) := by
  rw [conditionExpr_eq]
  cases asks? s with
  | none => rfl
  | some r =>
    rw [Option.toList_some, List.flatMap_singleton, Option.bind_some, List.head?_map,
      head?_askedWays, Option.map_map]
    rfl

/-- Blanks before a question do not count. -/
theorem question?_dropBlanks (s : Text) : question? (dropBlanks s) = question? s := by
  unfold question?
  rw [words_dropBlanks]

/-- There is a question as soon as there is a word. -/
theorem question?_eq_none_iff : question? s = none ↔ ∀ c ∈ s, isBlank c = true := by
  rw [← words_eq_nil_iff]
  unfold question?
  cases words s with
  | nil => exact iff_of_true rfl rfl
  | cons keyword rest =>
    cases rest <;> exact iff_of_false (Option.some_ne_none _) (List.cons_ne_nil _ _)

/-- The reader of condition nodes takes the first way. -/
theorem conditionNode?_eq (s : Text) :
    conditionNode? s = (conditionExpr s).head?.map fun w => ((w.1.1, question? w.1.2), w.2) := by
  rw [head?_conditionExpr, conditionNode?_eq_bind, Option.map_bind]
  simp only [Function.comp_def, Option.map_map, question?_dropBlanks]

theorem whole?_conditionExpr {node : Text × Text} :
    Ways.whole? conditionExpr s = some node ↔ (conditionExpr s).head? = some (node, []) := by
  refine Ways.whole?_eq_some_iff fun w hw hend first hfirst => ?_
  rw [conditionExpr_eq] at hw hfirst
  cases hasks : asks? s with
  | none =>
    rw [hasks] at hw
    exact absurd hw List.not_mem_nil
  | some r =>
    rw [hasks, Option.toList_some, List.flatMap_singleton] at hw hfirst
    obtain ⟨asked, hasked, rfl⟩ := List.mem_map.mp hw
    obtain ⟨first, hmem, rfl⟩ := List.mem_map.mp (List.mem_of_mem_head? hfirst)
    obtain ⟨t, ht⟩ := exists_upTo?_of_mem_askedWays hasked
    obtain ⟨u, hu⟩ := exists_upTo?_of_mem_askedWays hmem
    rw [ht] at hu
    exact (Prod.mk.inj (Option.some.inj hu)).2.symm.trans hend

end Conditions

end ChartDialogue.Chart
