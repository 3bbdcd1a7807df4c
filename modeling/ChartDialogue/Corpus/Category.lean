import ChartDialogue.Text.Basic

/-!
Categories of a corpus: a pattern of user input together with what can be answered. A plain
category answers with one of its templates, a conditional one with the response of a branch
that the user's state selects. A corpus can be looked at and edited while the engine runs; an edit
at an index that does not exist changes nothing and says so.
-/
namespace ChartDialogue

inductive Selection where
  | random
  | first
  deriving DecidableEq

structure Category where
  pattern : Text
  templates : List Text
  /-- The file that the category was read from; empty for one added at run time. -/
  sourceFile : Text
  deriving DecidableEq

namespace Category

/-- One of the templates: the first, or the one that a random `draw` falls on. -/
def pick (c : Category) (selection : Selection) (draw : Nat) : Option Text :=
  match selection with
  | .first => c.templates[0]?
  | .random => c.templates[draw % c.templates.length]?

end Category

inductive ConditionKind where
  /-- Whether a predicate has the expected value. -/
  | predicateValue
  /-- Whether a variable has the expected value. -/
  | variableValue
  /-- Whether a predicate is set at all. -/
  | predicateSet
  deriving DecidableEq

namespace ConditionKind

def keyword : ConditionKind → Text
  | predicateValue => "predicate".toList
  | variableValue => "variable".toList
  | predicateSet => "star".toList

def ofKeyword? (word : Text) : Option ConditionKind :=
  [predicateValue, variableValue, predicateSet].find? fun k => k.keyword = word

theorem ofKeyword?_keyword (k : ConditionKind) : ofKeyword? k.keyword = some k := by
  cases k <;> decide

end ConditionKind

structure Condition where
  kind : ConditionKind
  name : Text
  value : Text
  /-- Whether this is the branch to take when no other applies. -/
  isDefault : Bool
  deriving DecidableEq

/-- The value written for a default branch. -/
def defaultLabel : Text := ['*']

namespace Condition

def new (kind : ConditionKind) (name value : Text) : Condition :=
  ⟨kind, name, value, false⟩

def default (kind : ConditionKind) (name : Text) : Condition :=
  ⟨kind, name, defaultLabel, true⟩

end Condition

structure Branch where
  condition : Condition
  response : Text
  deriving DecidableEq

structure ConditionalCategory where
  pattern : Text
  branches : List Branch
  deriving DecidableEq

namespace ConditionalCategory

def defaultBranch? (c : ConditionalCategory) : Option Branch :=
  c.branches.find? (·.condition.isDefault)

end ConditionalCategory

/-- All categories that the engine answers from, in order. -/
structure Corpus where
  categories : List Category
  conditionals : List ConditionalCategory
  deriving DecidableEq

namespace Corpus

def empty : Corpus := ⟨[], []⟩

def isEmpty (c : Corpus) : Bool :=
  c.categories.isEmpty && c.conditionals.isEmpty

def append (c d : Corpus) : Corpus :=
  ⟨c.categories ++ d.categories, c.conditionals ++ d.conditionals⟩

def concat (corpora : List Corpus) : Corpus :=
  corpora.foldl append empty

def add (c : Corpus) (category : Category) : Corpus :=
  { c with categories := c.categories ++ [category] }

def addConditional (c : Corpus) (category : ConditionalCategory) : Corpus :=
  { c with conditionals := c.conditionals ++ [category] }

/-- Put another category at an index, if there is one. -/
def replaceAt? (c : Corpus) (index : Nat) (category : Category) : Option Corpus :=
  if index < c.categories.length then
    some { c with categories := c.categories.set index category }
  else none

/-- Take out the category at an index, if there is one. -/
def removeAt? (c : Corpus) (index : Nat) : Option (Category × Corpus) :=
  c.categories[index]?.map fun category =>
    (category, { c with categories := c.categories.eraseIdx index })

inductive Request where
  | categories
  | conditionals
  | sizes
  | add (category : Category)
  | addConditional (category : ConditionalCategory)
  | replaceAt (index : Nat) (category : Category)
  | removeAt (index : Nat)
  | replaceAll (corpus : Corpus)

inductive Answer where
  | done
  | categories (cs : List Category)
  | conditionals (cs : List ConditionalCategory)
  | sizes (plain conditional : Nat)
  | replaced (found : Bool)
  | removed (category : Option Category)
  /-- The corpus before another took its place. -/
  | former (corpus : Corpus)
  deriving DecidableEq

def serve (c : Corpus) : Request → Answer × Corpus
  | .categories => (.categories c.categories, c)
  | .conditionals => (.conditionals c.conditionals, c)
  | .sizes => (.sizes c.categories.length c.conditionals.length, c)
  | .add category => (.done, c.add category)
  | .addConditional category => (.done, c.addConditional category)
  | .replaceAt index category =>
    match c.replaceAt? index category with
    | some d => (.replaced true, d)
    | none => (.replaced false, c)
  | .removeAt index =>
    match c.removeAt? index with
    | some (removed, d) => (.removed (some removed), d)
    | none => (.removed none, c)
  | .replaceAll corpus => (.former c, corpus)

end Corpus
end ChartDialogue
