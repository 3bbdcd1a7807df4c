import ChartDialogue.Corpus.Compile
import ChartDialogue.Files.Disk

/-!
Reading corpora from files. A folder's corpus is made of its flowchart files in the order of
their names; a file that cannot be read or holds no node adds nothing.
-/
namespace ChartDialogue.Corpus

open Chart Files

inductive LoadError where
  | noNodes (source : Text)
  | noFolder (path : Text)
  | unreadable (path : Text) (cause : ReadError)
  deriving DecidableEq

def LoadError.message : LoadError → Text
  | noNodes source => "corpus '".toList ++ source ++ "' contains no nodes".toList
  | noFolder path => "corpus directory not found: ".toList ++ path
  | unreadable path cause => "failed to read ".toList ++ path ++ ": ".toList ++ cause.message

def chartOf (source text : Text) : Except LoadError Graph :=
  if (Graph.ofText text).isEmpty then .error (.noNodes source) else .ok (Graph.ofText text)

def ofSource (source text : Text) : Except LoadError Corpus :=
  (chartOf source text).map fun g => compile g source

def loadFile (disk : Disk) (path : Text) : Except LoadError Corpus :=
  match disk.readText path with
  | .error cause => .error (.unreadable path cause)
  | .ok text => ofSource (fileName path) text

def isChartName (name : Text) : Bool :=
  hasExtension name "mmd".toList || hasExtension name "mermaid".toList

/-- The order of names by their bytes. -/
def nameLe (a b : Text) : Bool :=
  decide (Text.utf8 a ≤ Text.utf8 b)

def ofEntry (name : Text) (entry : Entry) : Corpus :=
  match entry.text with
  | .error _ => empty
  | .ok text =>
    match ofSource name text with
    | .error _ => empty
    | .ok corpus => corpus

def ofEntries (entries : List (Text × Entry)) : Corpus :=
  let charts := entries.filter fun e => isChartName e.1
  concat ((charts.mergeSort fun a b => nameLe a.1 b.1).map fun e => ofEntry e.1 e.2)

def loadFolder (disk : Disk) (path : Text) : Except LoadError Corpus :=
  match disk.listFolder? path with
  | none => .error (.noFolder path)
  | some entries => .ok (ofEntries entries)

end ChartDialogue.Corpus
