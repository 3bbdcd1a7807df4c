import ChartDialogue.Text.CharClass

/-!
The room that a compiled pattern takes. A program is a list of states, numbered in the order in
which they are made, that reads a text byte by byte from its end. Every state takes the same
room, and some take more for each way that leads on from them.

The sequences of a class share the states of bytes that go on alike. Shared states are found
by slots, and a slot keeps only the state put there last.
-/
namespace ChartDialogue.Matching

open Text

/-- A program so far: the number of its states, and the bytes that some of them take beyond
the room of a state. -/
structure Layout where
  states : Nat
  extra : Nat
  deriving DecidableEq

/-- A state that reads one byte and goes on to the state `next`. -/
structure ByteState where
  number : Nat
  bytes : ByteRange
  next : Nat

abbrev Slots := List (UInt64 × ByteState)

def slotCount : UInt64 := 1000

/-- The slot of a state: a multiplicative hash of what it goes on to and what it reads. -/
def slot (bytes : ByteRange) (next : Nat) : UInt64 :=
  let mix (h : UInt64) (n : Nat) := (h ^^^ n.toUInt64) * 1099511628211
  mix (mix (mix 14695981039346656037 next) bytes.1) bytes.2 % slotCount

namespace Layout

def bytes (l : Layout) : Nat :=
  32 * l.states + l.extra

def addStates (l : Layout) (n : Nat) : Layout :=
  { l with states := l.states + n }

/-- A state from which two ways lead on. -/
def addFork (l : Layout) : Layout :=
  ⟨l.states + 1, l.extra + 8⟩

def addByte (l : Layout) (slots : Slots) (next : Nat) (bytes : ByteRange) :
    Layout × Slots × Nat :=
  let i := slot bytes next
  match (slots.lookup i).filter fun s => s.bytes = bytes ∧ s.next = next with
  | some s => (l, slots, s.number)
  | none => (l.addStates 1, (i, ⟨l.states, bytes, next⟩) :: slots, l.states)

def addSequence (l : Layout) (slots : Slots) (next : Nat) : List ByteRange → Layout × Slots
  | [] => (l, slots)
  | bytes :: rest =>
    let (l, slots, number) := l.addByte slots next bytes
    l.addSequence slots number rest

def addSequences (l : Layout) (slots : Slots) (last : Nat) : List (List ByteRange) → Layout
  | [] => l
  | sequence :: rest =>
    let (l, slots) := l.addSequence slots last sequence
    addSequences ⟨l.states, l.extra + 4⟩ slots last rest

/-- A character of a class, given by its sequences: a first state that leads to all of them, and
a last one to which they all lead. -/
def addClass (l : Layout) (sequences : List (List ByteRange)) : Layout :=
  (l.addStates 2).addSequences [] (l.states + 1) sequences

/-- A character of a class of ASCII characters: one state reads it, another follows. -/
def addAsciiClass (l : Layout) (cls : CharClass) : Layout :=
  ⟨l.states + 2, l.extra + 8 * cls.length⟩

def addRun (l : Layout) (sequences : List (List ByteRange)) : Layout :=
  (l.addClass sequences).addFork

def blankSequences : List (List ByteRange) :=
  blankClass.sequences

def wordSequences : List (List ByteRange) :=
  blankClass.complement.sequences

def lineSequences : List (List ByteRange) :=
  (CharClass.ofAscending ['\n'.toNat]).complement.sequences

def addBlanks (l : Layout) : Layout :=
  l.addRun blankSequences

/-- A word, and any number of words with blanks before them. -/
def addWords (l : Layout) : Layout :=
  ((l.addFork.addRun wordSequences).addBlanks).addRun wordSequences

/-- One or more characters of a line. -/
def addLine (l : Layout) : Layout :=
  l.addRun lineSequences

end Layout

example : ((⟨0, 0⟩ : Layout).addBlanks).bytes = 720 := by decide +kernel

example : ((⟨0, 0⟩ : Layout).addLine).bytes = 1040 := by decide +kernel

end ChartDialogue.Matching
