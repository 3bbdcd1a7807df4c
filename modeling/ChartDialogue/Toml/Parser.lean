import ChartDialogue.Json.Parser
import ChartDialogue.Toml.Value

/-!
Reading a TOML document. Values may be nested less than eighty deep, and so many parts may a
dotted key have.
-/
namespace ChartDialogue.Toml

open Text

def nestingLimit : Nat := 80

def skipSpace (s : Text) : Text :=
  s.dropWhile fun c => c = ' ' || c = '\t'

def lineEnd? : Text → Option Text
  | '\n' :: s => some s
  | '\r' :: '\n' :: s => some s
  | _ => none

/-- Whether a character may stand in a comment. -/
def isPlain (c : Char) : Bool :=
  c = '\t' || (' ' ≤ c && c ≠ '\x7f')

def skipComment : Text → Text
  | '#' :: s => s.dropWhile isPlain
  | s => s

/-- What follows the rest of a line: blanks, a comment and the end of the line or the text. -/
def restOfLine? (s : Text) : Option Text :=
  match skipComment (skipSpace s) with
  | [] => some []
  | s => lineEnd? s

def skipLines : (steps : Nat) → Text → Text
  | 0, s => s
  | steps + 1, s =>
    match skipSpace s with
    | '#' :: s =>
      match lineEnd? (s.dropWhile isPlain) with
      | some r => skipLines steps r
      | none => s.dropWhile isPlain
    | s =>
      match lineEnd? s with
      | some r => skipLines steps r
      | none => s

def escape? : Char → Option Char
  | '/' => none
  | c => Json.escape? c

def scalar? (n : Nat) : Option Char :=
  if h : n.isValidChar then some (Char.ofNatAux n h) else none

/-- The character of an escape with `count` hexadecimal digits, and what follows. -/
def unicodeEscape? (count : Nat) (s : Text) : Option (Char × Text) := do
  if (s.take count).length ≠ count then none
  let n ← Json.hex? (s.take count)
  let c ← scalar? n
  return (c, s.drop count)

def escaped? : Text → Option (Char × Text)
  | 'u' :: s => unicodeEscape? 4 s
  | 'U' :: s => unicodeEscape? 8 s
  | c :: s => (escape? c).map fun e => (e, s)
  | [] => none

/-- A string in double quotes, after the opening one. -/
def basicEnd? : (steps : Nat) → Text → Option (Text × Text)
  | 0, _ => none
  | _ + 1, [] => none
  | _ + 1, '"' :: s => some ([], s)
  | steps + 1, '\\' :: s => do
    let (c, s) ← escaped? s
    let (text, s) ← basicEnd? steps s
    return (c :: text, s)
  | steps + 1, c :: s =>
    if isPlain c then (basicEnd? steps s).map fun p => (c :: p.1, p.2) else none

def literalEnd? : Text → Option (Text × Text)
  | [] => none
  | c :: s =>
    if c = '\x27' then some ([], s)
    else if isPlain c then (literalEnd? s).map fun p => (c :: p.1, p.2) else none

/-- Five, four or three closing quotes; those beyond three belong to the text. -/
def closing? (quote : Char) (s : Text) : Option (Text × Text) :=
  let run := (s.takeWhile (· = quote)).take 5
  if run.length < 3 then none else some (run.drop 3, s.drop run.length)

def skipBlankLines : (steps : Nat) → Text → Text
  | 0, s => s
  | steps + 1, s =>
    match lineEnd? (skipSpace s) with
    | some r => skipBlankLines steps r
    | none => skipSpace s

/-- What follows a backslash at the end of a line: the next line that is not blank. -/
def joinLines? (s : Text) : Option Text :=
  (lineEnd? (skipSpace s)).map fun r => skipBlankLines (r.length + 1) r

/-- A string in three quotes, after the opening ones. Ends of lines count as line feeds. -/
def multilineEnd? (quote : Char) : (steps : Nat) → Text → Option (Text × Text)
  | 0, _ => none
  | _ + 1, [] => none
  | steps + 1, c :: s =>
    match lineEnd? (c :: s) with
    | some r => (multilineEnd? quote steps r).map fun p => ('\n' :: p.1, p.2)
    | none =>
      if c = quote then
        match closing? quote (c :: s) with
        | some p => some p
        | none => (multilineEnd? quote steps s).map fun p => (c :: p.1, p.2)
      else if c = '\\' && quote = '"' then
        match joinLines? s with
        | some r => multilineEnd? quote steps r
        | none => do
          let (e, s) ← escaped? s
          let (text, s) ← multilineEnd? quote steps s
          return (e :: text, s)
      else if isPlain c then (multilineEnd? quote steps s).map fun p => (c :: p.1, p.2)
      else none

def dropLineEnd (s : Text) : Text :=
  (lineEnd? s).getD s

def string? : Text → Option (Text × Text)
  | '"' :: '"' :: '"' :: s => multilineEnd? '"' (s.length + 1) (dropLineEnd s)
  | '\x27' :: '\x27' :: '\x27' :: s => multilineEnd? '\x27' (s.length + 1) (dropLineEnd s)
  | '"' :: s => basicEnd? (s.length + 1) s
  | '\x27' :: s => literalEnd? s
  | _ => none

def isBare (c : Char) : Bool :=
  c.isAlphanum || c = '-' || c = '_'

def simpleKey? : Text → Option (Text × Text)
  | '"' :: s => basicEnd? (s.length + 1) s
  | '\x27' :: s => literalEnd? s
  | s => if (s.takeWhile isBare).isEmpty then none else some (s.takeWhile isBare, s.dropWhile isBare)

def keyParts? : (steps : Nat) → Text → Option (List Text × Text)
  | 0, _ => none
  | steps + 1, s => do
    let (part, s) ← simpleKey? (skipSpace s)
    match skipSpace s with
    | '.' :: s => (keyParts? steps s).map fun p => (part :: p.1, p.2)
    | s => return ([part], s)

def key? (s : Text) : Option (List Text × Text) := do
  let (path, s) ← keyParts? (s.length + 1) s
  if path.length < nestingLimit then return (path, s) else none

/-- Digits accepted by `isDigit`, with single underscores between them. -/
def digitRun? (isDigit : Char → Bool) : Text → Option (Text × Text)
  | [] => none
  | c :: s =>
    if !isDigit c then none
    else match s with
      | '_' :: s => (digitRun? isDigit s).map fun p => (c :: p.1, p.2)
      | d :: s =>
        if isDigit d then (digitRun? isDigit (d :: s)).map fun p => (c :: p.1, p.2)
        else some ([c], d :: s)
      | [] => some ([c], [])

def decimal (digits : Text) : Nat :=
  digits.foldl (fun n c => 10 * n + (c.toNat - '0'.toNat)) 0

def integer? (n : Int) : Option Value :=
  if Int64.minValue.toInt ≤ n ∧ n ≤ Int64.maxValue.toInt then some (.integer n) else none

/-- The digits of a decimal integer: a zero stands alone. -/
def wholePart? : Text → Option (Text × Text)
  | '0' :: s => some (['0'], s)
  | s => digitRun? Char.isDigit s

def fraction? : Text → Option (Text × Text)
  | '.' :: s => digitRun? Char.isDigit s
  | s => some ([], s)

def exponent? : Text → Option ((Text × Text) × Text)
  | c :: s =>
    if c = 'e' || c = 'E' then
      (digitRun? Char.isDigit (Json.sign s).2).map fun p => (((Json.sign s).1, p.1), p.2)
    else some (([], []), c :: s)
  | [] => some (([], []), [])

/-- The least number that rounds to more than the greatest finite floating point number. -/
def floatBound : Nat :=
  Nat.pow 2 1024 - Nat.pow 2 970

/-- Whether `digits · 10 ^ power` is too great for a binary floating point number of 64 bits. -/
def overflows (digits : Text) (power : Int) : Bool :=
  let n := decimal digits
  let size : Int := (Nat.toDigits 10 n).length + power
  if n = 0 || size < 308 then false
  else if 310 < size then true
  else if 0 ≤ power then floatBound ≤ n * Nat.pow 10 power.toNat
  else floatBound * Nat.pow 10 (-power).toNat ≤ n

/-- A decimal number: an integer, or with a fraction or a power of ten a float. -/
def decimalNumber? (s : Text) : Option (Value × Text) := do
  let (sign, s) := Json.sign s
  let (whole, s) ← wholePart? s
  let (part, rest) ← fraction? s
  let ((powerSign, power), rest) ← exponent? rest
  if rest.length = s.length then
    let n : Int := decimal whole
    let value ← integer? (if sign = ['-'] then -n else n)
    return (value, rest)
  else
    let n : Int := decimal power
    let exponent := (if powerSign = ['-'] then -n else n) - part.length
    if sign ≠ ['-'] && overflows (whole ++ part) exponent then none
    return (.float (sign ++ s.take (s.length - rest.length)), rest)

def based? (base : Nat) (isDigit : Char → Bool) (s : Text) : Option (Value × Text) := do
  let (digits, s) ← digitRun? isDigit s
  let n := digits.foldl (fun n c => base * n + (Json.hexDigit? c).getD 0) 0
  let value ← integer? n
  return (value, s)

def special? (s : Text) : Option (Value × Text) :=
  let (sign, s) := Json.sign s
  match s with
  | 'i' :: 'n' :: 'f' :: s => some (.float (sign ++ "inf".toList), s)
  | 'n' :: 'a' :: 'n' :: s => some (.float (sign ++ "nan".toList), s)
  | _ => none

def fixedDigits? (count : Nat) (s : Text) : Option (Nat × Text) :=
  if (s.take count).length = count && (s.take count).all Char.isDigit
  then some (decimal (s.take count), s.drop count) else none

def leapYear (year : Nat) : Bool :=
  year % 4 = 0 && (year % 100 ≠ 0 || year % 400 = 0)

def daysIn (year month : Nat) : Nat :=
  if month = 2 then (if leapYear year then 29 else 28)
  else if month ∈ [4, 6, 9, 11] then 30 else 31

def afterDate? (s : Text) : Option Text := do
  let (year, s) ← fixedDigits? 4 s
  let (month, s) ← fixedDigits? 2 (← expect? ['-'] s)
  let (day, s) ← fixedDigits? 2 (← expect? ['-'] s)
  if 1 ≤ month && month ≤ 12 && 1 ≤ day && day ≤ daysIn year month then return s else none

def afterSecondFraction? : Text → Option Text
  | '.' :: s => (Json.digits? s).map (·.2)
  | s => some s

def afterTime? (s : Text) : Option Text := do
  let (hour, s) ← fixedDigits? 2 s
  let (minute, s) ← fixedDigits? 2 (← expect? [':'] s)
  let (second, s) ← fixedDigits? 2 (← expect? [':'] s)
  if hour ≤ 23 && minute ≤ 59 && second ≤ 60 then afterSecondFraction? s else none

def afterZone? : Text → Option Text
  | [] => some []
  | c :: s =>
    if c = 'Z' || c = 'z' then some s
    else if c = '+' || c = '-' then do
      let (hour, s) ← fixedDigits? 2 s
      let (minute, s) ← fixedDigits? 2 (← expect? [':'] s)
      if hour ≤ 23 && minute ≤ 59 then return s else none
    else some (c :: s)

def afterDateTime? : Text → Option Text
  | [] => some []
  | c :: s =>
    if c = 'T' || c = 't' then (afterTime? s).bind afterZone?
    else if c = ' ' then
      match afterTime? s with
      | some r => afterZone? r
      | none => some (c :: s)
    else some (c :: s)

def date? (s : Text) : Option (Value × Text) := do
  let rest ← ((afterDate? s).bind afterDateTime?).or (afterTime? s)
  return (.date (s.take (s.length - rest.length)), rest)

def number? (s : Text) : Option (Value × Text) :=
  match s with
  | '0' :: 'x' :: s => based? 16 (fun c => (Json.hexDigit? c).isSome) s
  | '0' :: 'o' :: s => based? 8 (fun c => '0' ≤ c && c ≤ '7') s
  | '0' :: 'b' :: s => based? 2 (fun c => c = '0' || c = '1') s
  | s => ((date? s).or (special? s)).or (decimalNumber? s)

mutual

/-- A value at the beginning of a text, read in at most `steps` steps and nested in `depth`
others. -/
def value? : (steps depth : Nat) → Text → Option (Value × Text)
  | 0, _, _ => none
  | steps + 1, depth, s =>
    match s with
    | '[' :: s =>
      if depth + 1 < nestingLimit
      then (items? steps (depth + 1) s).map fun p => (.array p.1, p.2) else none
    | '{' :: s =>
      if depth + 1 < nestingLimit then do
        let (pairs, s) ← match skipSpace s with
          | '}' :: s => some ([], s)
          | s => pairs? steps (depth + 1) s
        let entries ← addAll? pairs []
        return (.table .inline entries, s)
      else none
    | 't' :: s => (expect? "rue".toList s).map fun r => (.boolean true, r)
    | 'f' :: s => (expect? "alse".toList s).map fun r => (.boolean false, r)
    | s => ((string? s).map fun p => (.text p.1, p.2)).or (number? s)

/-- The items of an array and its closing bracket. A comma may follow the last one. -/
def items? : (steps depth : Nat) → Text → Option (List Value × Text)
  | 0, _, _ => none
  | steps + 1, depth, s =>
    match skipLines (s.length + 1) s with
    | ']' :: s => some ([], s)
    | s => do
      let (item, s) ← value? steps depth s
      match skipLines (s.length + 1) s with
      | ',' :: s => (items? steps depth s).map fun p => (item :: p.1, p.2)
      | ']' :: s => return ([item], s)
      | _ => none

def pairs? : (steps depth : Nat) → Text → Option (List (List Text × Value) × Text)
  | 0, _, _ => none
  | steps + 1, depth, s => do
    let (path, s) ← key? s
    let s ← expect? ['='] s
    let (value, s) ← value? steps depth (skipSpace s)
    match skipSpace s with
    | ',' :: s => (pairs? steps depth s).map fun p => ((path, value) :: p.1, p.2)
    | '}' :: s => return ([(path, value)], s)
    | _ => none

end

def pairLine? (s : Text) : Option ((List Text × Value) × Text) := do
  let (path, s) ← key? s
  let s ← expect? ['='] s
  let (value, s) ← value? (2 * s.length + 2) 0 (skipSpace s)
  let s ← restOfLine? s
  return ((path, value), s)

def pairLines? : (steps : Nat) → Text → Option (List (List Text × Value) × Text)
  | 0, _ => none
  | steps + 1, s =>
    match skipLines (s.length + 1) s with
    | [] => some ([], [])
    | '[' :: s => some ([], '[' :: s)
    | s => do
      let (pair, s) ← pairLine? s
      let (pairs, s) ← pairLines? steps s
      return (pair :: pairs, s)

def header? : Text → Option ((List Text × Bool) × Text)
  | '[' :: '[' :: s => do
    let (path, s) ← key? s
    let s ← (expect? [']', ']'] s).bind restOfLine?
    return ((path, true), s)
  | '[' :: s => do
    let (path, s) ← key? s
    let s ← (expect? [']'] s).bind restOfLine?
    return ((path, false), s)
  | _ => none

def sections? : (steps : Nat) → Text → Option (List Section)
  | 0, _ => none
  | _ + 1, [] => some []
  | steps + 1, s => do
    let ((path, isMember), s) ← header? s
    let (pairs, s) ← pairLines? (s.length + 1) s
    let rest ← sections? steps s
    return ⟨path, isMember, pairs⟩ :: rest

/-- The text after a byte order mark, with which a document may begin. -/
def dropMark : Text → Text
  | '\ufeff' :: s => s
  | s => s

def parse? (document : Text) : Option Entries := do
  let s := dropMark document
  let (top, s) ← pairLines? (s.length + 1) s
  let sections ← sections? (s.length + 1) s
  assemble? top sections

end ChartDialogue.Toml
