import ChartDialogue.Corpus.Category

/-!
Writing plain categories as a flowchart. Every category gets nodes of its own, so a text that
occurs in several places keeps them apart. A node is named for the first letters of its text,
with a number behind them when the name is taken.

A flowchart is written with numbers that have no end. A machine counts the nodes without letters in
words of 64 bits and the numbers behind letters in signed words of 32 bits: `Allocator` finds the
same names as long as their numbers fit, which they do in every flowchart of up to `2 ^ 31` nodes.
-/
namespace ChartDialogue.Corpus

/-- The names given so far, and the number of the last node without letters. -/
structure Names where
  used : List Text
  counter : Nat

/-- The least number from `n` on whose candidate is not used, looked for `budget` times. -/
def firstFree (used : List Text) (candidate : Nat → Text) : (budget n : Nat) → Nat
  | 0, n => n
  | budget + 1, n =>
    if used.contains (candidate n) then firstFree used candidate budget (n + 1) else n

def numbered (base : Text) (n : Nat) : Text :=
  base ++ Nat.toDigits 10 n

/-- Up to three letters of a text, capitalised. -/
def initials (text : Text) : Text :=
  ((text.filter Char.isAlpha).take 3).map Char.toUpper

def Names.fresh (names : Names) (text : Text) : Text × Names :=
  let base := initials text
  if base.isEmpty then
    let n := firstFree names.used (numbered ['N']) names.used.length (names.counter + 1)
    (numbered ['N'] n, ⟨numbered ['N'] n :: names.used, n⟩)
  else if !names.used.contains base then (base, { names with used := base :: names.used })
  else
    let id := numbered base (firstFree names.used (numbered base) names.used.length 1)
    (id, { names with used := id :: names.used })

def Names.freshAll (names : Names) : List Text → List Text × Names
  | [] => ([], names)
  | text :: texts =>
    let (id, names) := names.fresh text
    let (ids, names) := names.freshAll texts
    (id :: ids, names)

/-- The next number of a machine word. After the last one a build that checks its sums stops, and
another one goes on with the number that the sum wraps to. -/
def successor? {σ : Type} [DecidableEq σ] [Add σ] [OfNat σ 1] (checked : Bool) (last n : σ) :
    Option σ :=
  if checked ∧ n = last then none else some (n + 1)

def nextWord? (checked : Bool) : UInt64 → Option UInt64 :=
  successor? checked 18446744073709551615

def nextSigned? (checked : Bool) : Int32 → Option Int32 :=
  successor? checked Int32.maxValue

/-- The first number from `n` on whose candidate is not used, unless the numbers run out before it;
at most `budget` candidates are looked at. -/
def findFree? {σ : Type} (used : List Text) (candidate : σ → Text) (next? : σ → Option σ) :
    (budget : Nat) → (n : σ) → Option σ
  | 0, _ => none
  | budget + 1, n =>
    if used.contains (candidate n) then (next? n).bind (findFree? used candidate next? budget)
    else some n

def signed : Int → Text
  | .ofNat n => Nat.toDigits 10 n
  | .negSucc n => '-' :: Nat.toDigits 10 (n + 1)

def countedName (n : UInt64) : Text :=
  numbered ['N'] n.toNat

def suffixedName (base : Text) (n : Int32) : Text :=
  base ++ signed n.toInt

/-- The names given so far, and the number of the last node without letters in a machine word. -/
structure Allocator where
  used : List Text
  counter : UInt64

namespace Allocator

/-- A name that is not used yet, if the numbers of the machine suffice to find one. -/
def fresh? (checked : Bool) (a : Allocator) (text : Text) : Option (Text × Allocator) :=
  let base := initials text
  if base.isEmpty then do
    let first ← nextWord? checked a.counter
    let n ← findFree? a.used countedName (nextWord? checked) (a.used.length + 1) first
    return (countedName n, ⟨countedName n :: a.used, n⟩)
  else if !a.used.contains base then some (base, { a with used := base :: a.used })
  else do
    let n ← findFree? a.used (suffixedName base) (nextSigned? checked) (a.used.length + 1) 1
    return (suffixedName base n, { a with used := suffixedName base n :: a.used })

def freshAll? (checked : Bool) (a : Allocator) : List Text → Option (List Text × Allocator)
  | [] => some ([], a)
  | text :: texts => do
    let (id, a) ← a.fresh? checked text
    let (ids, a) ← a.freshAll? checked texts
    return (id :: ids, a)

end Allocator

structure NamedCategory where
  pattern : Text × Text
  templates : List (Text × Text)

def nameCategories (names : Names) : List Category → List NamedCategory
  | [] => []
  | c :: cs =>
    let (id, names) := names.fresh c.pattern
    let (ids, names) := names.freshAll c.templates
    ⟨(id, c.pattern), ids.zip c.templates⟩ :: nameCategories names cs

def indent : Text := "    ".toList

/-- A double quote would end the text, so it is written as an apostrophe. -/
def unquote (text : Text) : Text :=
  text.map fun c => if c = '"' then '\x27' else c

def nodeLine (node : Text × Text) : Text :=
  indent ++ node.1 ++ "[\"".toList ++ unquote node.2 ++ "\"]\n".toList

def edgeLine (source target : Text) : Text :=
  indent ++ source ++ " --> ".toList ++ target ++ ['\n']

def NamedCategory.nodeLines (c : NamedCategory) : Text :=
  nodeLine c.pattern ++ c.templates.flatMap nodeLine

def NamedCategory.edgeLines (c : NamedCategory) : Text :=
  c.templates.flatMap fun t => edgeLine c.pattern.1 t.1

/-- The text of a flowchart with the given categories: all nodes, then all edges. -/
def write (categories : List Category) : Text :=
  let named := nameCategories ⟨[], 0⟩ categories
  "flowchart TD\n".toList ++ named.flatMap NamedCategory.nodeLines
    ++ (if categories.isEmpty then [] else ['\n']) ++ named.flatMap NamedCategory.edgeLines

end ChartDialogue.Corpus
