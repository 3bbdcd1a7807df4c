import ChartDialogue.Users.State
import Mathlib.Data.List.Basic
import Mathlib.Data.List.Find

/-!
The branch that a conditional category answers with. Of the branches that are no default the first one
that the user's state meets speaks, wherever the defaults stand among them; the first default speaks
where there is none. So a response depends on nothing but what the other branches name.
-/
namespace ChartDialogue

namespace ConditionalCategory

/-- The branches that are no default. -/
def specific (c : ConditionalCategory) : List Branch :=
  c.branches.filter fun b => !b.condition.isDefault

def defaults (c : ConditionalCategory) : List Branch :=
  c.branches.filter (·.condition.isDefault)

/-- A branch has a property and none that stands before it has. -/
def IsFirst (c : ConditionalCategory) (P : Branch → Prop) (b : Branch) : Prop :=
  ∃ before after, c.branches = before ++ b :: after ∧ P b ∧ ∀ d ∈ before, ¬ P d

end ConditionalCategory

/-- Two states are the same in what a condition looks at: a value, or whether there is one. -/
def Condition.SeesAlike (c : Condition) (s s' : UserState) : Prop :=
  match c.kind with
  | .predicateValue => s.predicates.get? c.name = s'.predicates.get? c.name
  | .variableValue => s.bindings.get? c.name = s'.bindings.get? c.name
  | .predicateSet => s.predicates.contains c.name = s'.predicates.contains c.name

namespace UserState

/-- What a condition that is no default asks for. A value that is not set never meets it. -/
def Meets (s : UserState) (c : Condition) : Prop :=
  match c.kind with
  | .predicateValue => s.predicates.get? c.name = some c.value
  | .variableValue => s.bindings.get? c.name = some c.value
  | .predicateSet => ∃ value, s.predicates.get? c.name = some value

/-- A branch that is no default and whose condition is met. -/
def Speaks (s : UserState) (b : Branch) : Prop :=
  b.condition.isDefault = false ∧ s.Meets b.condition

variable {s s' : UserState}

/-- The default flag decides about a value that is not set, so not for a branch that is no default. -/
theorem elim_eq_true_iff {value? : Option Text} {c : Condition} (hc : c.isDefault = false) :
    value?.elim c.isDefault (· == c.value) = true ↔ value? = some c.value := by
  cases value? with
  | none => simp [hc]
  | some value => simp

/-- A condition that is no default is satisfied by what it asks for. -/
theorem satisfies_iff_meets {c : Condition} (hc : c.isDefault = false) :
    s.satisfies c = true ↔ s.Meets c := by
  obtain ⟨kind, name, value, isDefault⟩ := c
  cases kind with
  | predicateValue => exact elim_eq_true_iff hc
  | variableValue => exact elim_eq_true_iff hc
  | predicateSet => exact Option.isSome_iff_exists

theorem satisfies_iff_speaks (b : Branch) :
    (!b.condition.isDefault && s.satisfies b.condition) = true ↔ s.Speaks b := by
  rw [Bool.and_eq_true, Bool.not_eq_true', Speaks]
  exact and_congr_right satisfies_iff_meets

theorem satisfies_congr {c : Condition} (h : c.SeesAlike s s') :
    s.satisfies c = s'.satisfies c := by
  obtain ⟨kind, name, value, isDefault⟩ := c
  cases kind with
  | predicateValue => exact congrArg (Option.elim · isDefault (· == value)) h
  | variableValue => exact congrArg (Option.elim · isDefault (· == value)) h
  | predicateSet => exact h

theorem seesAlike_refl (s : UserState) (c : Condition) : c.SeesAlike s s := by
  unfold Condition.SeesAlike
  split <;> rfl

end UserState

namespace ConditionalCategory

variable {c d : ConditionalCategory} {s s' : UserState} {b : Branch}

theorem find?_eq_some_iff_isFirst {p : Branch → Bool} {P : Branch → Prop} (hp : ∀ d, p d = true ↔ P d) :
    c.branches.find? p = some b ↔ c.IsFirst P b := by
  rw [List.find?_eq_some_iff_append, hp]
  constructor
  · rintro ⟨hb, before, after, hsplit, hbefore⟩
    refine ⟨before, after, hsplit, hb, fun e he => ?_⟩
    rw [← hp, Bool.not_eq_true, ← Bool.not_eq_true']
    exact hbefore e he
  · rintro ⟨before, after, hsplit, hb, hbefore⟩
    refine ⟨hb, before, after, hsplit, fun e he => ?_⟩
    rw [Bool.not_eq_true', ← Bool.not_eq_true, hp]
    exact hbefore e he

theorem find?_eq_none_iff {p : Branch → Bool} {P : Branch → Prop} (hp : ∀ d, p d = true ↔ P d) :
    c.branches.find? p = none ↔ ∀ b ∈ c.branches, ¬ P b := by
  rw [List.find?_eq_none]
  exact forall₂_congr fun e _ => not_congr (hp e)

/-- The order of the defaults among the other branches does not count. -/
theorem response?_eq (s : UserState) (c : ConditionalCategory) :
    s.response? c = ((c.specific.find? (s.satisfies ·.condition)).or c.defaults.head?).map (·.response) := by
  rw [specific, defaults, List.find?_filter, List.head?_filter]
  unfold UserState.response? defaultBranch?
  simp only [Bool.decide_and, Bool.decide_eq_true]

/-- Only the order among the specific branches and that among the defaults count. -/
theorem response?_congr (hspecific : c.specific = d.specific) (hdefaults : c.defaults = d.defaults)
    (h : ∀ b ∈ c.specific, b.condition.SeesAlike s s') : s.response? c = s'.response? d := by
  have hfind : c.specific.find? (s.satisfies ·.condition) =
      c.specific.find? (s'.satisfies ·.condition) :=
    List.find?_congr fun b hb => UserState.satisfies_congr (h b hb)
  rw [response?_eq, response?_eq, hfind, hspecific, hdefaults]

theorem response?_eq_none_iff :
    s.response? c = none ↔
      (∀ b ∈ c.branches, ¬ s.Speaks b) ∧ ∀ b ∈ c.branches, b.condition.isDefault = false := by
  unfold UserState.response? defaultBranch?
  rw [Option.map_eq_none_iff, Option.or_eq_none_iff,
    find?_eq_none_iff UserState.satisfies_iff_speaks, List.find?_eq_none]
  simp only [Bool.not_eq_true]

/-- The first specific branch that is met answers, and else the first default. -/
theorem response?_eq_some_iff {text : Text} :
    s.response? c = some text ↔ ∃ b, b.response = text ∧ (c.IsFirst s.Speaks b ∨
      (∀ e ∈ c.branches, ¬ s.Speaks e) ∧ c.IsFirst (·.condition.isDefault = true) b) := by
  unfold UserState.response? defaultBranch?
  rw [Option.map_eq_some_iff]
  refine exists_congr fun b => ?_
  rw [and_comm, Option.or_eq_some_iff, find?_eq_some_iff_isFirst UserState.satisfies_iff_speaks,
    find?_eq_none_iff UserState.satisfies_iff_speaks, find?_eq_some_iff_isFirst fun _ => Iff.rfl]

/-- The response of a category is the same for two users whose states are the same in what its branches
look at, defaults apart. It stays the same when the defaults are moved among the other branches. There is
none if no branch speaks and none is a default, and otherwise it is that of the first branch that
speaks or, where no branch speaks, of the first default. -/
theorem response?_decided (c : ConditionalCategory) :
    (∀ s s' : UserState,
      (∀ b ∈ c.branches, b.condition.isDefault = false → b.condition.SeesAlike s s') →
      s.response? c = s'.response? c) ∧
    (∀ d : ConditionalCategory, d.specific = c.specific → d.defaults = c.defaults →
      ∀ s : UserState, s.response? d = s.response? c) ∧
    ∀ s : UserState,
      (s.response? c = none ↔
        (∀ b ∈ c.branches, ¬ s.Speaks b) ∧ ∀ b ∈ c.branches, b.condition.isDefault = false) ∧
      ∀ text, s.response? c = some text ↔ ∃ b, b.response = text ∧ (c.IsFirst s.Speaks b ∨
        (∀ e ∈ c.branches, ¬ s.Speaks e) ∧ c.IsFirst (·.condition.isDefault = true) b) := by
  refine ⟨fun s s' h => ?_, fun d hspecific hdefaults s => ?_, fun s =>
    ⟨response?_eq_none_iff, fun text => response?_eq_some_iff⟩⟩
  · refine response?_congr rfl rfl fun b hb => ?_
    obtain ⟨hmem, hb⟩ := List.mem_filter.mp hb
    exact h b hmem ((Bool.not_eq_true' _).mp hb)
  · exact response?_congr hspecific hdefaults fun b _ => UserState.seesAlike_refl s b.condition

/-- A default branch before a branch about what the star captured. -/
def trip : ConditionalCategory where
  pattern := "where to".toList
  branches :=
    [⟨.default .predicateValue "age".toList, "who knows".toList⟩,
      ⟨.new .variableValue "star".toList "Paris".toList, "oui".toList⟩]

/-- A user for whom the star captured a town, with any predicates. -/
def traveller (predicates : Dict Text Text) : UserState where
  predicates := predicates
  bindings := ⟨[("star".toList, "Paris".toList)]⟩
  context := Dict.empty

theorem response?_decided_trip :
    (∀ b ∈ trip.branches, b.condition.isDefault = false →
      b.condition.SeesAlike (traveller Dict.empty) (traveller ⟨[("age".toList, ['*'])]⟩)) ∧
    (traveller Dict.empty).response? trip = (traveller ⟨[("age".toList, ['*'])]⟩).response? trip ∧
    (traveller Dict.empty).response? { trip with branches := trip.branches.reverse } =
      (traveller Dict.empty).response? trip ∧
    (traveller Dict.empty).response? trip = some "oui".toList := by
  obtain ⟨hstates, horder, hchosen⟩ := response?_decided trip
  have halike : ∀ b ∈ trip.branches, b.condition.isDefault = false →
      b.condition.SeesAlike (traveller Dict.empty) (traveller ⟨[("age".toList, ['*'])]⟩) := by
    intro b hb hspecific
    rcases List.mem_pair.mp hb with rfl | rfl
    · exact absurd hspecific (by decide)
    · rfl
  have hspeaks : trip.IsFirst (traveller Dict.empty).Speaks
      ⟨.new .variableValue "star".toList "Paris".toList, "oui".toList⟩ :=
    ⟨[⟨.default .predicateValue "age".toList, "who knows".toList⟩], [], rfl, ⟨rfl, rfl⟩,
      List.forall_mem_singleton.mpr fun h => absurd h.1 (by decide)⟩
  exact ⟨halike, hstates _ _ halike, horder { trip with branches := trip.branches.reverse } rfl rfl _,
    ((hchosen _).2 _).mpr ⟨_, rfl, Or.inl hspeaks⟩⟩

end ConditionalCategory
end ChartDialogue
