import ChartDialogue.Users.State
import Mathlib.Tactic.SplitIfs

/-!
Requests about one user in a store of many. A request about somebody else leaves what is known
about a user alone, and one about the user depends on nothing else in the store.
-/
namespace ChartDialogue.Users

variable {users users' : Users} {u v : Text}

theorem state_congr (h : users.get? u = users'.get? u) : users.state u = users'.state u := by
  unfold state
  rw [h]

theorem state_update (f : UserState → UserState) :
    (users.update u f).state u = f (users.state u) := by
  rw [state, update, Dict.get?_set_self, Option.getD_some]

theorem state_setVariables (values : List (Text × Text)) :
    (users.setVariables u values).state u = (users.state u).setVariables values := by
  unfold setVariables
  split_ifs with hempty
  · rw [List.isEmpty_iff.mp hempty]
    rfl
  · exact state_update _

/-- To change a user leaves the others alone. -/
theorem get?_update_of_ne (hne : u ≠ v) (f : UserState → UserState) :
    (users.update v f).get? u = users.get? u :=
  Dict.get?_set_of_ne users (f (users.state v)) hne

theorem get?_update_congr (h : users.get? u = users'.get? u) (f : UserState → UserState) :
    (users.update u f).get? u = (users'.update u f).get? u := by
  unfold update
  rw [Dict.get?_set_self, Dict.get?_set_self, state_congr h]

theorem get?_setVariables_of_ne (hne : u ≠ v) (values : List (Text × Text)) :
    (users.setVariables v values).get? u = users.get? u := by
  unfold setVariables
  split_ifs
  · rfl
  · exact get?_update_of_ne hne _

theorem get?_setVariables_congr (h : users.get? u = users'.get? u) (values : List (Text × Text)) :
    (users.setVariables u values).get? u = (users'.setVariables u values).get? u := by
  unfold setVariables
  split_ifs
  · exact h
  · exact get?_update_congr h _

/-- A request about one user leaves the others alone. -/
theorem get?_serve_of_ne (hne : u ≠ v) (r : Request) :
    (users.serve v r).2.get? u = users.get? u := by
  cases r with
  | setVariables values => exact get?_setVariables_of_ne hne values
  | remove => exact Dict.get?_erase_of_ne users hne
  | state => exact get?_update_of_ne hne _
  | predicateOf name => exact get?_update_of_ne hne _
  | variableOf name => exact get?_update_of_ne hne _
  | setPredicate name value => exact get?_update_of_ne hne _
  | setVariable name value => exact get?_update_of_ne hne _
  | setContext name value => exact get?_update_of_ne hne _
  | clearVariables => exact get?_update_of_ne hne _

/-- Such a request is answered by the state of that user only. -/
theorem serve_congr (h : users.get? u = users'.get? u) (r : Request) :
    (users.serve u r).1 = (users'.serve u r).1 ∧
      (users.serve u r).2.get? u = (users'.serve u r).2.get? u := by
  have hstate := state_congr h
  cases r with
  | state => exact ⟨congrArg Answer.state hstate, get?_update_congr h _⟩
  | predicateOf name =>
    exact ⟨congrArg (fun s : UserState => Answer.value (s.predicates.get? name)) hstate,
      get?_update_congr h _⟩
  | variableOf name =>
    exact ⟨congrArg (fun s : UserState => Answer.value (s.bindings.get? name)) hstate,
      get?_update_congr h _⟩
  | setVariables values => exact ⟨rfl, get?_setVariables_congr h values⟩
  | remove =>
    refine ⟨congrArg Answer.removed h, ?_⟩
    exact (Dict.get?_erase_self users u).trans (Dict.get?_erase_self users' u).symm
  | setPredicate name value => exact ⟨rfl, get?_update_congr h _⟩
  | setVariable name value => exact ⟨rfl, get?_update_congr h _⟩
  | setContext name value => exact ⟨rfl, get?_update_congr h _⟩
  | clearVariables => exact ⟨rfl, get?_update_congr h _⟩

end ChartDialogue.Users
