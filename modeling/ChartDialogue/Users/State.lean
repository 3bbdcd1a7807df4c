import ChartDialogue.Corpus.Category
import ChartDialogue.Dict

/-!
What the engine knows about its users: predicates that last, variables of the conversation,
and free values. A user's state comes into being when it is first looked at or changed; only
removing a user does not bring it into being.
-/
namespace ChartDialogue

structure UserState where
  predicates : Dict Text Text
  /-- The values of the variables. -/
  bindings : Dict Text Text
  context : Dict Text Text
  deriving DecidableEq

namespace UserState

def empty : UserState := ⟨Dict.empty, Dict.empty, Dict.empty⟩

def setPredicate (s : UserState) (name value : Text) : UserState :=
  { s with predicates := s.predicates.set name value }

def setVariable (s : UserState) (name value : Text) : UserState :=
  { s with bindings := s.bindings.set name value }

def setVariables (s : UserState) (values : List (Text × Text)) : UserState :=
  { s with bindings := s.bindings.setAll values }

def setContext (s : UserState) (name value : Text) : UserState :=
  { s with context := s.context.set name value }

def clearVariables (s : UserState) : UserState :=
  { s with bindings := Dict.empty }

/-- Whether the state satisfies a condition. A value that is not set satisfies just the
default branches. -/
def satisfies (s : UserState) (c : Condition) : Bool :=
  match c.kind with
  | .predicateValue => (s.predicates.get? c.name).elim c.isDefault (· == c.value)
  | .variableValue => (s.bindings.get? c.name).elim c.isDefault (· == c.value)
  | .predicateSet => s.predicates.contains c.name

/-- The response of a conditional category: that of the first satisfied branch that is no
default, or else that of the first default branch. -/
def response? (s : UserState) (c : ConditionalCategory) : Option Text :=
  let specific := c.branches.find? fun b => !b.condition.isDefault && s.satisfies b.condition
  (specific.or c.defaultBranch?).map (·.response)

end UserState

abbrev Users := Dict Text UserState

namespace Users

def empty : Users := Dict.empty

/-- The state of a user, empty for one that has none. -/
def state (users : Users) (user : Text) : UserState :=
  (users.get? user).getD UserState.empty

def update (users : Users) (user : Text) (f : UserState → UserState) : Users :=
  users.set user (f (users.state user))

def touch (users : Users) (user : Text) : Users :=
  users.update user id

/-- Give values to variables of a user. Without a value nothing happens. -/
def setVariables (users : Users) (user : Text) (values : List (Text × Text)) : Users :=
  if values.isEmpty then users else users.update user (·.setVariables values)

inductive Request where
  | state
  | predicateOf (name : Text)
  | variableOf (name : Text)
  | setPredicate (name value : Text)
  | setVariable (name value : Text)
  | setContext (name value : Text)
  | setVariables (values : List (Text × Text))
  | clearVariables
  | remove

inductive Answer where
  | done
  | state (s : UserState)
  | value (v : Option Text)
  /-- The state that was removed, if the user had one. -/
  | removed (s : Option UserState)
  deriving DecidableEq

def serve (users : Users) (user : Text) : Request → Answer × Users
  | .state => (.state (users.state user), users.touch user)
  | .predicateOf name => (.value ((users.state user).predicates.get? name), users.touch user)
  | .variableOf name => (.value ((users.state user).bindings.get? name), users.touch user)
  | .setPredicate name value => (.done, users.update user (·.setPredicate name value))
  | .setVariable name value => (.done, users.update user (·.setVariable name value))
  | .setContext name value => (.done, users.update user (·.setContext name value))
  | .setVariables values => (.done, users.setVariables user values)
  | .clearVariables => (.done, users.update user (·.clearVariables))
  | .remove => (.removed (users.get? user), users.erase user)

end Users
end ChartDialogue
