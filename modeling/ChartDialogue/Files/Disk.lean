import ChartDialogue.Dict
import ChartDialogue.Text.Basic

/-!
Files and folders as values. A path is followed name by name from the root folder to a place,
which is a list of plain names; each reason why that or the reading fails has its own text.

Names are texts. A name whose bytes are not UTF-8 has no counterpart, and so neither has the text
with replaced characters that would stand for it as the source of a category.
-/
namespace ChartDialogue.Files

/-- A file with its bytes, or a folder with its named entries. -/
inductive Entry where
  | file (bytes : ByteArray)
  | folder (entries : List (Text × Entry))

inductive ReadError where
  | notFound
  | notADirectory
  | isADirectory
  | nameTooLong
  | nulInPath
  | notText
  deriving DecidableEq

def ReadError.message : ReadError → Text
  | notFound => "No such file or directory (os error 2)".toList
  | notADirectory => "Not a directory (os error 20)".toList
  | isADirectory => "Is a directory (os error 21)".toList
  | nameTooLong => "File name too long (os error 36)".toList
  | nulInPath => "file name contained an unexpected NUL byte".toList
  | notText => "stream did not contain valid UTF-8".toList

def names (path : Text) : List Text :=
  Text.split (· == '/') path

/-- Whether a name of a path stays in the folder where it is looked up. -/
def stays (name : Text) : Bool :=
  name.isEmpty || name == ['.']

/-- The name that leads to the folder above; above the root is the root itself. -/
def upward : Text := ['.', '.']

/-- Whether a path, but for slashes at its end, ends inside the folder that it leads to. -/
def endsInside (path : Text) : Bool :=
  (names path).reverse.find? (!·.isEmpty) == some ['.']

def folderOf (path : Text) : Text :=
  Text.join ['/'] (((names path).reverse.dropWhile stays).drop 1).reverse

/-- The most bytes that a name may take. -/
def nameLimit : Nat := 255

abbrev Place := List Text

namespace Entry

def at? : Entry → Place → Option Entry
  | here, [] => some here
  | file _, _ :: _ => none
  | folder entries, name :: rest =>
    match entries.lookup name with
    | none => none
    | some entry => entry.at? rest

/-- The place that a name leads to from another. Only a folder can be left. -/
def follow (root : Entry) (place : Place) (name : Text) : Except ReadError Place :=
  match root.at? place with
  | none => .error .notFound
  | some (file _) => .error .notADirectory
  | some (folder entries) =>
    if stays name then .ok place
    else if name = upward then .ok place.dropLast
    else if nameLimit < Text.utf8Length name then .error .nameTooLong
    else if (entries.lookup name).isSome then .ok (place ++ [name])
    else .error .notFound

def text : Entry → Except ReadError Text
  | folder _ => .error .isADirectory
  | file bytes =>
    match String.fromUTF8? bytes with
    | none => .error .notText
    | some s => .ok s.toList

/-- Put an entry at a place below a folder; missing folders on the way are made. -/
def put : (here : Entry) → Place → (new : Entry) → Entry
  | _, [], new => new
  | folder entries, name :: rest, new =>
    folder (Dict.setIn name (((entries.lookup name).getD (folder [])).put rest new) entries)
  | file bytes, _ :: _, _ => file bytes

def remove : Place → Entry → Entry
  | [name], folder entries => folder (entries.filter fun e => e.1 ≠ name)
  | name :: rest, folder entries =>
    match entries.lookup name with
    | none => folder entries
    | some entry => folder (Dict.setIn name (entry.remove rest) entries)
  | _, here => here

end Entry

structure Disk where
  root : Entry
  /-- The most bytes that a path may take. -/
  pathLimit : Nat := 4095

namespace Disk

def empty : Disk := { root := .folder [] }

def isTooLong (d : Disk) (path : Text) : Bool :=
  d.pathLimit < Text.utf8Length path

def place (d : Disk) (path : Text) : Except ReadError Place :=
  if path.contains '\x00' then .error .nulInPath
  else if d.isTooLong path then .error .nameTooLong
  else (names path).foldlM d.root.follow []

/-- What a path leads to. The empty path leads nowhere. -/
def find (d : Disk) (path : Text) : Except ReadError Entry :=
  if path.isEmpty then .error .notFound
  else (d.place path).bind fun place => (d.root.at? place).elim (.error .notFound) .ok

def readText (d : Disk) (path : Text) : Except ReadError Text :=
  (d.find path).bind Entry.text

def entryPath (path name : Text) : Text :=
  if path.getLast? = some '/' then path ++ name else path ++ '/' :: name

/-- The entries of a folder that a path can lead to, or nothing when the path leads to no
folder. -/
def listFolder? (d : Disk) (path : Text) : Option (List (Text × Entry)) :=
  match d.find path with
  | .ok (.folder entries) => some (entries.filter fun e => !d.isTooLong (entryPath path e.1))
  | _ => none

/-- Make the missing folders that the names lead through from a place, up to the first name that
can lead to none. -/
def makeFrom (d : Disk) (place : Place) : List Text → Disk
  | [] => d
  | name :: rest =>
    match d.root.follow place name with
    | .ok next => d.makeFrom next rest
    | .error .notFound =>
      let next := place ++ [name]
      makeFrom { d with root := d.root.put next (.folder []) } next rest
    | .error _ => d

def makeFolder (d : Disk) (path : Text) : Disk :=
  if path.contains '\x00' || d.isTooLong path then d else d.makeFrom [] (names path)

/-- The place of the file that writing to a path makes or replaces. The path has to end with a
name of its own, in a folder that is there. -/
def fileTarget? (d : Disk) (path : Text) : Option Place :=
  if path.contains '\x00' || d.isTooLong path then none
  else match d.place (folderOf path), (names path).getLast? with
    | .ok place, some name =>
      match d.root.follow place name with
      | .error .notFound => some (place ++ [name])
      | .error _ => none
      | .ok place =>
        match d.root.at? place with
        | some (.file _) => some place
        | _ => none
    | _, _ => none

/-- Write a file, in a folder made for it. Where no file can stand nothing is written. -/
def writeFile (d : Disk) (path : Text) (bytes : ByteArray) : Disk :=
  let d := d.makeFolder (folderOf path)
  match d.fileTarget? path with
  | none => d
  | some place => { d with root := d.root.put place (.file bytes) }

/-- Take out the file or the folder that a path leads to. A folder is emptied first, and stays
where the path ends inside it or leads to it no more. A path that leads nowhere changes nothing. -/
def delete (d : Disk) (path : Text) : Disk :=
  match d.place path with
  | .error _ => d
  | .ok place =>
    match d.root.at? place with
    | some (.folder _) =>
      let d := { d with root := d.root.put place (.folder []) }
      if endsInside path || !(d.place path).isOk then d
      else { d with root := d.root.remove place }
    | _ => { d with root := d.root.remove place }

end Disk

def fileName (path : Text) : Text :=
  ((names path).filter (!stays ·)).getLast?.getD []

/-- What follows the last dot of a name, unless nothing stands before it. -/
def extension? (name : Text) : Option Text :=
  match (Text.split (· == '.') name).reverse with
  | ext :: before :: more => if before.isEmpty && more.isEmpty then none else some ext
  | _ => none

def hasExtension (name known : Text) : Bool :=
  (extension? name).any fun ext => ext.map Char.toLower == known.map Char.toLower

end ChartDialogue.Files
