import ChartDialogue.Matching.Pattern
import ChartDialogue.Text.Basic
import ChartDialogue.Text.Scan
import ChartDialogue.Users.State

/-!
Templates of responses. A get tag, `<get name="…"/>`, stands for one of the user's predicates,
a star tag, `<star/>`, for what the first star of the pattern captured. The get tags are
replaced first, so a predicate may hold a star tag; what a star captured is never read again.
-/
namespace ChartDialogue.Template

open Text

/-- What follows at least one blank, and the blanks themselves. -/
def skipBlanks? : Text → Option Text
  | [] => none
  | c :: s => if isBlank c then some (dropBlanks s) else none

/-- The predicate that a get tag at the beginning of a text names. -/
def getTag? (s : Text) : Option (Text × Text) := do
  let s ← expect? "<get".toList s
  let s ← skipBlanks? s
  let s ← expect? "name".toList s
  let s ← expect? ['='] (dropBlanks s)
  let s ← expect? ['"'] (dropBlanks s)
  let (name, s) ← upTo? '"' s
  let s ← expect? "/>".toList (dropBlanks s)
  return (name, s)

def starTag? (s : Text) : Option (Unit × Text) := do
  let s ← expect? "<star".toList s
  let s ← expect? "/>".toList (dropBlanks s)
  return ((), s)

theorem length_lt_of_skipBlanks? {s r : Text} (h : skipBlanks? s = some r) :
    r.length < s.length := by
  cases s with
  | nil => simp [skipBlanks?] at h
  | cons c s =>
    simp only [skipBlanks?, Option.ite_none_right_eq_some, Option.some.injEq] at h
    have := length_dropWhile_le isBlank s
    simp only [← h.2, dropBlanks, List.length_cons]
    omega

theorem length_lt_of_getTag? {s r name : Text} (h : getTag? s = some (name, r)) :
    r.length < s.length := by
  simp only [getTag?, Option.bind_eq_bind, Option.bind_eq_some_iff, Option.pure_def,
    Option.some.injEq, Prod.mk.injEq, Prod.exists] at h
  obtain ⟨s₁, h₁, s₂, h₂, s₃, h₃, s₄, h₄, s₅, h₅, t, s₆, h₆, s₇, h₇, -, rfl⟩ := h
  have := length_le_of_expect? h₁
  have := length_lt_of_skipBlanks? h₂
  have := length_le_of_expect? h₃
  have := length_dropWhile_le isBlank s₃
  have := length_le_of_expect? h₄
  have := length_dropWhile_le isBlank s₄
  have := length_le_of_expect? h₅
  have := length_lt_of_upTo? h₆
  have := length_dropWhile_le isBlank s₆
  have := length_le_of_expect? h₇
  simp only [dropBlanks] at *
  omega

theorem length_lt_of_starTag? {s r : Text} {u : Unit} (h : starTag? s = some (u, r)) :
    r.length < s.length := by
  simp only [starTag?, Option.bind_eq_bind, Option.bind_eq_some_iff, Option.pure_def,
    Option.some.injEq, Prod.mk.injEq] at h
  obtain ⟨s₁, h₁, s₂, h₂, -, rfl⟩ := h
  have hs := congrArg List.length (expect?_eq_some_iff.mp h₁)
  have := length_le_of_expect? h₂
  have := length_dropWhile_le isBlank s₁
  simp only [List.length_append, dropBlanks] at *
  have : "<star".toList.length = 5 := rfl
  omega

def getScanner : Scanner Text :=
  ⟨getTag?, length_lt_of_getTag?⟩

def starScanner : Scanner Unit :=
  ⟨starTag?, length_lt_of_starTag?⟩

/-- The text of a template for a user. What is not set is empty. -/
def render (template : Text) (state : UserState) : Text :=
  let predicate name := (state.predicates.get? name).getD []
  let star := (state.bindings.get? Matching.starKey).getD []
  starScanner.replaceAll (fun _ => star) (getScanner.replaceAll predicate template)

end ChartDialogue.Template
