import ChartDialogue.Json.Value

/-!
Reading a JSON document. Blanks are the four that JSON knows, numbers keep their literals, and
nothing but blanks may follow the value.
-/
namespace ChartDialogue.Json

open Text

def skipSpace (s : Text) : Text :=
  s.dropWhile fun c => c = ' ' || c = '\n' || c = '\t' || c = '\r'

def hexDigit? (c : Char) : Option Nat :=
  if c.isDigit then some (c.toNat - '0'.toNat)
  else if 'a' ≤ c && c ≤ 'f' then some (c.toNat - 'a'.toNat + 10)
  else if 'A' ≤ c && c ≤ 'F' then some (c.toNat - 'A'.toNat + 10)
  else none

def hex? (digits : Text) : Option Nat :=
  digits.foldlM (fun n c => (hexDigit? c).map (16 * n + ·)) 0

def escape? : Char → Option Char
  | '"' => some '"'
  | '\\' => some '\\'
  | '/' => some '/'
  | 'b' => some '\x08'
  | 'f' => some '\x0c'
  | 'n' => some '\n'
  | 'r' => some '\r'
  | 't' => some '\t'
  | _ => none

/-- The code units of a string up to its closing quote. -/
def codeUnits? : Text → Option (List Nat × Text)
  | [] => none
  | '"' :: s => some ([], s)
  | '\\' :: 'u' :: a :: b :: c :: d :: s => do
    let n ← hex? [a, b, c, d]
    let (units, rest) ← codeUnits? s
    return (n :: units, rest)
  | '\\' :: c :: s => do
    let e ← escape? c
    let (units, rest) ← codeUnits? s
    return (e.toNat :: units, rest)
  | c :: s =>
    if c.toNat < 32 || c = '\\' then none
    else (codeUnits? s).map fun p => (c.toNat :: p.1, p.2)

/-- The text of code units, where a high surrogate and a low one stand for one character. -/
def decodeUnits? : List Nat → Option Text
  | [] => some []
  | [n] => if 0xD800 ≤ n ∧ n < 0xE000 then none else some [Char.ofNat n]
  | n :: m :: units =>
    if 0xD800 ≤ n ∧ n < 0xDC00 then
      if 0xDC00 ≤ m ∧ m < 0xE000
      then (decodeUnits? units).map
        (Char.ofNat (0x10000 + (n - 0xD800) * 0x400 + (m - 0xDC00)) :: ·)
      else none
    else if 0xDC00 ≤ n ∧ n < 0xE000 then none
    else (decodeUnits? (m :: units)).map (Char.ofNat n :: ·)

def stringEnd? (s : Text) : Option (Option Text × Text) :=
  (codeUnits? s).map fun p => (decodeUnits? p.1, p.2)

/-- At least one digit, and all that follow. -/
def digits? (s : Text) : Option (Text × Text) :=
  match s.takeWhile Char.isDigit with
  | [] => none
  | ds => some (ds, s.dropWhile Char.isDigit)

/-- The digits before the point: a zero stands alone. -/
def integerPart? : Text → Option (Text × Text)
  | '0' :: s => some (['0'], s)
  | s => digits? s

def fraction? : Text → Option (Text × Text)
  | '.' :: s => (digits? s).map fun p => ('.' :: p.1, p.2)
  | s => some ([], s)

def sign (s : Text) : Text × Text :=
  match s with
  | '-' :: s => (['-'], s)
  | '+' :: s => (['+'], s)
  | s => ([], s)

def exponent? : Text → Option (Text × Text)
  | c :: s =>
    if c = 'e' || c = 'E' then
      (digits? (sign s).2).map fun p => (c :: (sign s).1 ++ p.1, p.2)
    else some ([], c :: s)
  | [] => some ([], [])

def number? (s : Text) : Option (Json × Text) := do
  let (minus, s) := match s with
    | '-' :: s => (['-'], s)
    | s => ([], s)
  let (whole, s) ← integerPart? s
  let (part, s) ← fraction? s
  let (power, s) ← exponent? s
  return (.number (minus ++ whole ++ part ++ power), s)

mutual

/-- A value at the beginning of a text, read in at most `steps` steps. -/
def value? : (steps : Nat) → Text → Option (Json × Text)
  | 0, _ => none
  | steps + 1, s =>
    match skipSpace s with
    | '{' :: s =>
      match skipSpace s with
      | '}' :: s => some (.object [], s)
      | s => (members? steps s).map fun p => (.object p.1, p.2)
    | '[' :: s =>
      match skipSpace s with
      | ']' :: s => some (.array [], s)
      | s => (items? steps s).map fun p => (.array p.1, p.2)
    | '"' :: s => (stringEnd? s).map fun p => (.string p.1, p.2)
    | 't' :: s => (expect? "rue".toList s).map fun r => (.boolean true, r)
    | 'f' :: s => (expect? "alse".toList s).map fun r => (.boolean false, r)
    | 'n' :: s => (expect? "ull".toList s).map fun r => (.null, r)
    | s => number? s

def items? : (steps : Nat) → Text → Option (List Json × Text)
  | 0, _ => none
  | steps + 1, s => do
    let (item, s) ← value? steps s
    match skipSpace s with
    | ',' :: s => do
      let (rest, s) ← items? steps s
      return (item :: rest, s)
    | ']' :: s => return ([item], s)
    | _ => none

def members? : (steps : Nat) → Text → Option (List (Option Text × Json) × Text)
  | 0, _ => none
  | steps + 1, s => do
    let s ← expect? ['"'] (skipSpace s)
    let (name, s) ← stringEnd? s
    let s ← expect? [':'] (skipSpace s)
    let (item, s) ← value? steps s
    match skipSpace s with
    | ',' :: s => do
      let (rest, s) ← members? steps s
      return ((name, item) :: rest, s)
    | '}' :: s => return ([(name, item)], s)
    | _ => none

end

/-- The value of a whole document. Of two steps at least one takes a character, so there are
always enough. -/
def parse? (s : Text) : Option Json := do
  let (value, rest) ← value? (2 * s.length + 2) s
  if (skipSpace rest).isEmpty then some value else none

end ChartDialogue.Json
