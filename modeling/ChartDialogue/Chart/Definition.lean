import ChartDialogue.Chart.Graph
import ChartDialogue.Text.Scan
import ChartDialogue.Text.Word

/-!
Definitions of nodes inside a line. A pattern node is written `id[text]` or `id["text"]`, a
condition node `id{Condition: keyword name}`. A text in quotes may hold brackets; if the quotes
do not fill the brackets, they belong to the text.
-/
namespace ChartDialogue.Chart

open Text

def identifier? (s : Text) : Option (Text × Text) :=
  match s.takeWhile isWord with
  | [] => none
  | c :: id => some (c :: id, s.dropWhile isWord)

/-- What follows an opening bracket, if it is a quoted text and a closing bracket. -/
def quoted? (s : Text) : Option (Text × Text) := do
  let s ← expect? ['"'] (dropBlanks s)
  let (text, s) ← upTo? '"' s
  let s ← expect? [']'] (dropBlanks s)
  return (text, s)

def unquoted? (s : Text) : Option (Text × Text) :=
  upTo? ']' s

def bracketed? (s : Text) : Option (Text × Text) :=
  (quoted? s).or (unquoted? s)

def patternNode? (s : Text) : Option ((Text × Text) × Text) := do
  let (id, s) ← identifier? s
  let s ← expect? ['['] s
  let (text, s) ← bracketed? s
  return ((id, trim text), s)

/-- The name that a condition asks for when it only gives a keyword. -/
def unknownName : Text := "unknown".toList

/-- The question in the words after `Condition:`. Words after the second do not count. -/
def question? (s : Text) : Option Question :=
  match words s with
  | [] => none
  | [keyword] => some ⟨keyword, unknownName⟩
  | keyword :: name :: _ => some ⟨keyword, name⟩

/-- The identifier and the question of a condition node; without a keyword it asks nothing. -/
def conditionNode? (s : Text) : Option ((Text × Option Question) × Text) := do
  let (id, s) ← identifier? s
  let s ← expect? ['{'] s
  let s ← expect? "Condition:".toList (dropBlanks s)
  let (asked, s) ← upTo? '}' s
  return ((id, question? asked), s)

theorem length_lt_of_identifier? {s id r : Text} (h : identifier? s = some (id, r)) :
    r.length < s.length := by
  unfold identifier? at h
  split at h
  · simp at h
  · rename_i c id' hw
    simp only [Option.some.injEq, Prod.mk.injEq] at h
    have hs := congrArg List.length (List.takeWhile_append_dropWhile (p := isWord) (l := s))
    rw [hw, h.2] at hs
    simp at hs
    omega

theorem length_lt_of_quoted? {s t r : Text} (h : quoted? s = some (t, r)) :
    r.length < s.length := by
  simp only [quoted?, Option.bind_eq_bind, Option.bind_eq_some_iff, Option.pure_def,
    Option.some.injEq, Prod.mk.injEq, Prod.exists] at h
  obtain ⟨s₁, h₁, t', s₂, h₂, r', h₃, -, rfl⟩ := h
  have := length_le_of_expect? h₁
  have := length_lt_of_upTo? h₂
  have := length_le_of_expect? h₃
  have := length_dropWhile_le isBlank s
  have := length_dropWhile_le isBlank s₂
  simp only [dropBlanks] at *
  omega

theorem length_lt_of_bracketed? {s t r : Text} (h : bracketed? s = some (t, r)) :
    r.length < s.length := by
  simp only [bracketed?, Option.or_eq_some_iff] at h
  rcases h with h | ⟨-, h⟩
  · exact length_lt_of_quoted? h
  · exact length_lt_of_upTo? h

theorem length_lt_of_patternNode? {s r : Text} {n : Text × Text}
    (h : patternNode? s = some (n, r)) : r.length < s.length := by
  simp only [patternNode?, Option.bind_eq_bind, Option.bind_eq_some_iff, Option.pure_def,
    Option.some.injEq, Prod.mk.injEq, Prod.exists] at h
  obtain ⟨id, s₁, h₁, s₂, h₂, t, s₃, h₃, -, rfl⟩ := h
  have := length_lt_of_identifier? h₁
  have := length_le_of_expect? h₂
  have := length_lt_of_bracketed? h₃
  omega

theorem length_lt_of_conditionNode? {s r : Text} {n : Text × Option Question}
    (h : conditionNode? s = some (n, r)) : r.length < s.length := by
  simp only [conditionNode?, Option.bind_eq_bind, Option.bind_eq_some_iff, Option.pure_def,
    Option.some.injEq, Prod.mk.injEq, Prod.exists] at h
  obtain ⟨id, s₁, h₁, s₂, h₂, s₃, h₃, t, s₄, h₄, -, rfl⟩ := h
  have := length_lt_of_identifier? h₁
  have := length_le_of_expect? h₂
  have := length_le_of_expect? h₃
  have := length_dropWhile_le isBlank s₂
  have := length_lt_of_upTo? h₄
  simp only [dropBlanks] at *
  omega

def patternScanner : Scanner (Text × Text) :=
  ⟨patternNode?, length_lt_of_patternNode?⟩

def conditionScanner : Scanner (Text × Option Question) :=
  ⟨conditionNode?, length_lt_of_conditionNode?⟩

def patternEdits (s : Text) : List Edit :=
  (patternScanner.findAll s).map fun n => .pattern n.1 n.2

/-- The condition nodes defined in a text; a condition that asks nothing defines none. -/
def conditionEdits (s : Text) : List Edit :=
  (conditionScanner.findAll s).filterMap fun n => n.2.map fun q => .condition n.1 q

end ChartDialogue.Chart
