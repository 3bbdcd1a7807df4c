/-!
Text as a list of Unicode scalar values, with the few operations every reader of
text in this library is built from: splitting at separators, joining, and taking a
fixed beginning or everything up to a stop character. A text is also seen through its words, the
maximal runs of characters that are not blank; normalising it joins its words by single spaces.
-/
namespace ChartDialogue

abbrev Text := List Char

namespace Text

/-- The pieces between separator characters; `n` separators give `n + 1` pieces. -/
def split (isSep : Char → Bool) : Text → List Text
  | [] => [[]]
  | c :: s =>
    if isSep c then [] :: split isSep s
    else match split isSep s with
      | piece :: rest => (c :: piece) :: rest
      | [] => [[c]]

def join (gap : Text) : List Text → Text
  | [] => []
  | [s] => s
  | s :: t :: rest => s ++ gap ++ join gap (t :: rest)

/-- What follows `lead` in a text that begins with it. -/
def expect? : (lead : Text) → Text → Option Text
  | [], s => some s
  | _ :: _, [] => none
  | a :: lead, c :: s => if a = c then expect? lead s else none

/-- The text before the first `stop`, and the text after it. -/
def upTo? (stop : Char) : Text → Option (Text × Text)
  | [] => none
  | c :: s => if c = stop then some ([], s) else (upTo? stop s).map fun p => (c :: p.1, p.2)

/-- Whether `part` occurs in a list without a gap. -/
def occursIn {α : Type} [BEq α] (part : List α) : List α → Bool
  | [] => part.isEmpty
  | c :: s => part.isPrefixOf (c :: s) || occursIn part s

def utf8 (s : Text) : List UInt8 :=
  s.flatMap String.utf8EncodeChar

def utf8Length (s : Text) : Nat :=
  s.foldl (fun n c => n + c.utf8Size) 0

/-- Decoding gives the text back, so different texts have different bytes. -/
theorem utf8_inj {s t : Text} : utf8 s = utf8 t ↔ s = t := by
  refine ⟨fun h => ?_, congrArg utf8⟩
  have hbytes : List.utf8Encode s = List.utf8Encode t := congrArg List.toByteArray h
  have hdecoded := congrArg ByteArray.utf8Decode? hbytes
  rw [List.utf8Decode?_utf8Encode, List.utf8Decode?_utf8Encode] at hdecoded
  exact congrArg Array.toList (Option.some.inj hdecoded)

theorem split_ne_nil (isSep : Char → Bool) (s : Text) : split isSep s ≠ [] := by
  cases s with
  | nil => simp [split]
  | cons c s =>
    unfold split
    split
    · simp
    · split <;> simp

theorem expect?_append (lead s : Text) : expect? lead (lead ++ s) = some s := by
  induction lead with
  | nil => rfl
  | cons a lead ih => simp [expect?, ih]

theorem eq_append_of_expect? {lead s r : Text} (h : expect? lead s = some r) : s = lead ++ r := by
  induction lead generalizing s with
  | nil => simpa [expect?] using h
  | cons a lead ih =>
    cases s with
    | nil => simp [expect?] at h
    | cons c s =>
      by_cases hac : a = c
      · simp only [expect?, hac, if_true] at h
        simp [ih h, hac]
      · simp [expect?, hac] at h

/-- `expect?` reads its text and nothing else. -/
theorem expect?_eq_some_iff {lead s r : Text} : expect? lead s = some r ↔ s = lead ++ r :=
  ⟨eq_append_of_expect?, fun h => h ▸ expect?_append lead r⟩

theorem upTo?_append {stop : Char} {s : Text} (h : stop ∉ s) (r : Text) :
    upTo? stop (s ++ stop :: r) = some (s, r) := by
  induction s with
  | nil => simp [upTo?]
  | cons c s ih =>
    simp only [List.mem_cons, not_or] at h
    have hc : c ≠ stop := fun e => h.1 e.symm
    simp [upTo?, hc, ih h.2]

/-- `upTo?` cuts at the first stop character. -/
theorem upTo?_eq_some_iff {stop : Char} {s t r : Text} :
    upTo? stop s = some (t, r) ↔ stop ∉ t ∧ s = t ++ stop :: r := by
  constructor
  · intro h
    induction s generalizing t with
    | nil => simp [upTo?] at h
    | cons c s ih =>
      by_cases hc : c = stop
      · simp only [upTo?, hc, if_true, Option.some.injEq, Prod.mk.injEq] at h
        simp [← h.1, ← h.2, hc]
      · simp only [upTo?, hc, if_false, Option.map_eq_some_iff] at h
        obtain ⟨⟨u, v⟩, hu, huv⟩ := h
        simp only [Prod.mk.injEq] at huv
        obtain ⟨rfl, rfl⟩ := huv
        obtain ⟨hmem, rfl⟩ := ih hu
        exact ⟨by simp [hmem, Ne.symm hc], rfl⟩
  · rintro ⟨h, rfl⟩
    exact upTo?_append h r

/-- The characters with the property White_Space. -/
def blanks : List Char :=
  ['\t', '\n', '\x0b', '\x0c', '\r', ' ', '\u0085', '\u00a0', '\u1680',
   '\u2000', '\u2001', '\u2002', '\u2003', '\u2004', '\u2005', '\u2006', '\u2007', '\u2008',
   '\u2009', '\u200a', '\u2028', '\u2029', '\u202f', '\u205f', '\u3000']

def isBlank (c : Char) : Bool :=
  blanks.contains c

def dropBlanks (s : Text) : Text :=
  s.dropWhile isBlank

/-- A text without the blanks at its two ends. -/
def trim (s : Text) : Text :=
  (dropBlanks (dropBlanks s).reverse).reverse

/-- The maximal runs of characters that are not blank. -/
def words (s : Text) : List Text :=
  (split isBlank s).filter (!·.isEmpty)

def normalize (s : Text) : Text :=
  join [' '] (words s)

theorem isBlank_iff {c : Char} : isBlank c = true ↔ c ∈ blanks := by
  simp [isBlank]

example : blanks.length = 25 := rfl

end Text
end ChartDialogue
