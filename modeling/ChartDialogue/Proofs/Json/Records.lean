import ChartDialogue.Json.Value
import Mathlib.Data.List.Forall2
import Mathlib.Data.List.Nodup
import Mathlib.Data.List.Perm.Basic
import Mathlib.Tactic.SplitIfs

/-!
What a JSON value gives for the fields of a record. An object gives each field by one member, wherever
it stands and whatever other names there are, and an array gives the fields in order. Reading the fields
finds exactly what the value gives.
-/
namespace ChartDialogue.Json

/-- The members for the fields that are not missing. -/
def given (names : List Text) (fields : List (Option Json)) : List (Text × Json) :=
  (names.zip fields).flatMap fun f => (f.2.map fun value => (f.1, value)).toList

/-- A value gives the fields of a record, `none` for one that is missing. An object has the members for
the others in any order, among members of unknown names; an array may end before the last fields. -/
inductive Gives (names : List Text) (fields : List (Option Json)) : Json → Prop
  | object {members others : List (Text × Json)} (hlength : names.length = fields.length)
      (hothers : ∀ m ∈ others, m.1 ∉ names) (hmembers : members.Perm (given names fields ++ others)) :
      Gives names fields (record members)
  | array {items : List Json} {missing : Nat} (hlength : items.length + missing = names.length)
      (hfields : fields = items.map some ++ List.replicate missing none) :
      Gives names fields (.array items)

/-- A value gives every field of a record. -/
def GivesAll (names : List Text) (values : List Json) (json : Json) : Prop :=
  Gives names (values.map some) json

/-- A value has a field: an object has a member of that name, an array an item at its place. -/
def Has (names : List Text) (name : Text) (json value : Json) : Prop :=
  match json with
  | object members => (some name, value) ∈ members
  | array items => (name, value) ∈ names.zip items
  | _ => False

/-- A value has nothing for a field. -/
def Lacks (names : List Text) (name : Text) (json : Json) : Prop :=
  ∀ value, ¬ json.Has names name value

/-- Some field of a record is missing. -/
def Misses (names : List Text) (json : Json) : Prop :=
  ∃ name ∈ names, json.Lacks names name

/-- Reading a list reads every item of it. -/
theorem mapM_eq_some_iff {α β : Type} {f : α → Option β} {l : List α} {r : List β} :
    l.mapM f = some r ↔ List.Forall₂ (fun a b => f a = some b) l r := by
  induction l generalizing r with
  | nil => simp [eq_comm]
  | cons a l ih =>
    rw [List.mapM_cons, List.forall₂_cons_left_iff]
    simp only [Option.bind_eq_bind, Option.bind_eq_some_iff, Option.pure_def, Option.some.injEq, ih]
    constructor
    · rintro ⟨b, hb, rest, hrest, rfl⟩
      exact ⟨b, rest, hb, hrest, rfl⟩
    · rintro ⟨b, rest, hb, hrest, rfl⟩
      exact ⟨b, hb, rest, hrest, rfl⟩

section Members

variable {names : List Text} {fields : List (Option Json)} {members : List (Text × Json)} {name : Text}
  {field : Option Json}

theorem exists_record {raw : List (Option Text × Json)} (h : raw.all (·.1.isSome) = true) :
    ∃ members, object raw = record members := by
  refine ⟨raw.map fun m => (m.1.getD [], m.2), ?_⟩
  have hnamed : ∀ m ∈ raw, (some (m.1.getD []), m.2) = m := by
    intro m hm
    obtain ⟨name, hname⟩ := Option.isSome_iff_exists.mp (List.all_eq_true.mp h m hm)
    obtain ⟨_, value⟩ := m
    obtain rfl : _ = some name := hname
    rfl
  have hraw : (raw.map fun m => (some (m.1.getD []), m.2)) = raw :=
    (List.map_congr_left hnamed).trans (List.map_id raw)
  rw [record, List.map_map]
  exact congrArg object hraw.symm

theorem eq_toList_of_perm {α : Type} {l : List α} {o : Option α} (h : l.Perm o.toList) :
    l = o.toList := by
  cases o with
  | none => exact h.eq_nil
  | some a => exact List.perm_singleton.mp h

/-- Looking up a field fails just where its name stands twice. -/
theorem member?_eq_some_iff :
    member? (members.map fun m => (some m.1, m.2)) name = some field ↔
      members.filter (·.1 = name) = (field.map fun value => (name, value)).toList := by
  have hfilter : (members.map fun m => (some m.1, m.2)).filter (·.1 = some name) =
      (members.filter (·.1 = name)).map fun m => (some m.1, m.2) := by
    rw [List.filter_map]
    simp [Function.comp_def]
  unfold member?
  rw [hfilter]
  have hname : ∀ m ∈ members.filter (·.1 = name), m.1 = name := fun m hm =>
    of_decide_eq_true (List.mem_filter.mp hm).2
  revert hname
  cases members.filter (·.1 = name) with
  | nil => cases field <;> simp
  | cons m rest =>
    intro hname
    obtain rfl := hname m List.mem_cons_self
    cases rest with
    | nil => cases field <;> simp [Prod.ext_iff]
    | cons m' rest => cases field <;> simp

theorem given_cons (name : Text) (field : Option Json) (names : List Text) (fields : List (Option Json)) :
    given (name :: names) (field :: fields) =
      (field.map fun value => (name, value)).toList ++ given names fields := rfl

theorem mem_given_iff {value : Json} :
    (name, value) ∈ given names fields ↔ (name, some value) ∈ names.zip fields := by
  unfold given
  rw [List.mem_flatMap]
  constructor
  · rintro ⟨⟨first, field⟩, hzip, hm⟩
    obtain ⟨held, rfl, heq⟩ := Option.map_eq_some_iff.mp (Option.mem_toList.mp hm)
    obtain ⟨rfl, rfl⟩ := Prod.mk.inj heq
    exact hzip
  · intro h
    exact ⟨(name, some value), h, List.mem_singleton_self _⟩

theorem name_mem_of_mem_given {m : Text × Json} (h : m ∈ given names fields) : m.1 ∈ names :=
  (List.of_mem_zip (mem_given_iff.mp h)).1

/-- A field that is there is found under its name only. -/
theorem filter_given (hnodup : names.Nodup) (h : (name, field) ∈ names.zip fields) :
    (given names fields).filter (·.1 = name) = (field.map fun value => (name, value)).toList := by
  induction names generalizing fields with
  | nil => exact absurd h List.not_mem_nil
  | cons first names ih =>
    cases fields with
    | nil => exact absurd h List.not_mem_nil
    | cons head fields =>
      rw [List.nodup_cons] at hnodup
      rw [given_cons, List.filter_append]
      rcases List.mem_cons.mp h with heq | htail
      · obtain ⟨rfl, rfl⟩ := Prod.mk.inj heq
        have hrest : (given names fields).filter (·.1 = name) = [] := by
          refine List.filter_eq_nil_iff.mpr fun m hm => ?_
          have hmem := name_mem_of_mem_given hm
          simp only [decide_eq_true_eq]
          rintro rfl
          exact hnodup.1 hmem
        cases field <;> simp [hrest]
      · have hne : first ≠ name := fun heq => hnodup.1 (heq ▸ (List.of_mem_zip htail).1)
        rw [ih hnodup.2 htail]
        cases head <;> simp [hne]

/-- Members among which each field is found are those of the fields and others. By induction over the
names: the members with the first name are set apart, which changes none of the others. -/
theorem exists_others (hnodup : names.Nodup) (hlength : names.length = fields.length)
    (h : ∀ f ∈ names.zip fields, members.filter (·.1 = f.1) =
      (f.2.map fun value => (f.1, value)).toList) :
    ∃ others : List (Text × Json), (∀ m ∈ others, m.1 ∉ names) ∧
      members.Perm (given names fields ++ others) := by
  induction names generalizing fields members with
  | nil => exact ⟨members, fun m _ => List.not_mem_nil, List.Perm.refl members⟩
  | cons name names ih =>
    obtain ⟨field, fields, rfl⟩ := List.exists_cons_of_length_eq_add_one hlength.symm
    rw [List.nodup_cons] at hnodup
    rw [List.zip_cons_cons, List.forall_mem_cons] at h
    have hrest : ∀ f ∈ names.zip fields, (members.filter (¬ ·.1 = name)).filter (·.1 = f.1) =
        (f.2.map fun value => (f.1, value)).toList := by
      intro f hf
      have hne : f.1 ≠ name := fun heq => hnodup.1 (heq ▸ (List.of_mem_zip hf).1)
      rw [← h.2 f hf, List.filter_filter]
      refine List.filter_congr fun m _ => ?_
      by_cases hm : m.1 = f.1
      · simp [hm, hne]
      · simp [hm]
    obtain ⟨others, hothers, hperm⟩ := ih hnodup.2 (Nat.succ.inj hlength) hrest
    refine ⟨others, fun m hm => ?_, ?_⟩
    · have hname : m ∈ members.filter (¬ ·.1 = name) :=
        hperm.mem_iff.mpr (List.mem_append_right _ hm)
      rw [List.mem_cons, not_or]
      exact ⟨of_decide_eq_true (List.mem_filter.mp hname).2, hothers m hm⟩
    · have hsplit := List.filter_append_perm (fun m : Text × Json => decide (m.1 = name)) members
      rw [given_cons, List.append_assoc, ← h.1]
      refine hsplit.symm.trans (List.Perm.append_left _ ?_)
      simpa using hperm

theorem filter_of_perm (hnodup : names.Nodup) {others : List (Text × Json)}
    (hothers : ∀ m ∈ others, m.1 ∉ names) (hperm : members.Perm (given names fields ++ others))
    (h : (name, field) ∈ names.zip fields) :
    members.filter (·.1 = name) = (field.map fun value => (name, value)).toList := by
  have hnone : others.filter (·.1 = name) = [] := by
    refine List.filter_eq_nil_iff.mpr fun m hm => ?_
    simp only [decide_eq_true_eq]
    rintro rfl
    exact hothers m hm (List.of_mem_zip h).1
  refine eq_toList_of_perm ((hperm.filter _).trans ?_)
  rw [List.filter_append, hnone, List.append_nil, filter_given hnodup h]

end Members

section Fields

variable {names : List Text} {fields : List (Option Json)} {json : Json}

/-- The fields of an object are its members of the known names, in any order and among any others.
-/
theorem fields?_record_eq_some_iff (hnodup : names.Nodup) {members : List (Text × Json)} :
    (record members).fields? names = some fields ↔ names.length = fields.length ∧
      ∃ others : List (Text × Json), (∀ m ∈ others, m.1 ∉ names) ∧
        members.Perm (given names fields ++ others) := by
  have hnamed : (members.map fun m => (some m.1, m.2)).all (·.1.isSome) = true := by simp
  rw [record, fields?, if_pos hnamed, mapM_eq_some_iff, List.forall₂_iff_zip]
  refine and_congr_right fun hlength => ?_
  constructor
  · intro h
    exact exists_others hnodup hlength fun f hf => member?_eq_some_iff.mp (h hf)
  · rintro ⟨others, hothers, hperm⟩ name field hmem
    exact member?_eq_some_iff.mpr (filter_of_perm hnodup hothers hperm hmem)

/-- The fields that are read from a value are those that it gives. -/
theorem fields?_eq_some_iff (hnodup : names.Nodup) :
    json.fields? names = some fields ↔ Gives names fields json := by
  constructor
  · intro h
    cases json with
    | object raw =>
      have hnamed : raw.all (·.1.isSome) = true := by
        by_contra hraw
        rw [fields?, if_neg hraw] at h
        exact Option.some_ne_none _ h.symm
      obtain ⟨members, hmembers⟩ := exists_record hnamed
      rw [hmembers] at h ⊢
      obtain ⟨hlength, others, hothers, hperm⟩ := (fields?_record_eq_some_iff hnodup).mp h
      exact .object hlength hothers hperm
    | array items =>
      rw [fields?, Option.ite_none_right_eq_some, Option.some.injEq] at h
      exact .array (Nat.add_sub_cancel' h.1) h.2.symm
    | null => exact absurd h.symm (Option.some_ne_none _)
    | boolean b => exact absurd h.symm (Option.some_ne_none _)
    | number literal => exact absurd h.symm (Option.some_ne_none _)
    | string text => exact absurd h.symm (Option.some_ne_none _)
  · intro h
    cases h with
    | object hlength hothers hmembers =>
      exact (fields?_record_eq_some_iff hnodup).mpr ⟨hlength, _, hothers, hmembers⟩
    | array hlength hfields =>
      rw [fields?, if_pos (by omega), hfields, ← hlength, Nat.add_sub_cancel_left]

theorem mem_zip_padded {name : Text} {value : Json} {items : List Json} {missing : Nat} :
    (name, some value) ∈ names.zip (items.map some ++ List.replicate missing none) ↔
      (name, value) ∈ names.zip items := by
  induction names generalizing items with
  | nil => simp
  | cons first names ih =>
    cases items with
    | nil =>
      simp only [List.map_nil, List.nil_append, List.zip_nil_right, List.not_mem_nil, iff_false]
      intro h
      exact Option.some_ne_none value (List.eq_of_mem_replicate (List.of_mem_zip h).2)
    | cons item items => simp [ih]

theorem has_record_iff {name : Text} {value : Json} {members : List (Text × Json)} :
    (record members).Has names name value ↔ (name, value) ∈ members := by
  refine List.mem_map.trans ⟨?_, fun h => ⟨_, h, rfl⟩⟩
  rintro ⟨m, hm, heq⟩
  obtain ⟨hname, rfl⟩ := Prod.mk.inj heq
  rwa [← Option.some.inj hname]

/-- A value has the fields that it gives, each with one value only. -/
theorem Gives.has_iff {name : Text} {value : Json} (h : Gives names fields json) (hname : name ∈ names) :
    json.Has names name value ↔ (name, some value) ∈ names.zip fields := by
  cases h with
  | object hlength hothers hmembers =>
    rw [has_record_iff, hmembers.mem_iff, List.mem_append, mem_given_iff]
    exact or_iff_left fun hmem => hothers _ hmem hname
  | array hlength hfields =>
    rw [hfields, mem_zip_padded]
    rfl

theorem Gives.not_lacks {name : Text} {value : Json} (h : Gives names fields json)
    (hfield : (name, some value) ∈ names.zip fields) : ¬ json.Lacks names name :=
  fun hlacks => hlacks value ((h.has_iff (List.of_mem_zip hfield).1).mpr hfield)

theorem Gives.length_eq (h : Gives names fields json) : names.length = fields.length := by
  cases h with
  | object hlength hothers hmembers => exact hlength
  | array hlength hfields => simp [hfields, hlength]

section Complete

variable {values : List Json}

theorem given_complete (names : List Text) (values : List Json) :
    given names (values.map some) = names.zip values := by
  induction names generalizing values with
  | nil => rfl
  | cons name names ih =>
    cases values with
    | nil => rfl
    | cons value values =>
      rw [List.map_cons, given_cons, ih]
      rfl

/-- An object with a member for every name gives a full record. -/
theorem givesAll_record (hlength : names.length = values.length) :
    GivesAll names values (record (names.zip values)) := by
  have hmembers : (names.zip values).Perm (given names (values.map some) ++ []) := by
    rw [given_complete, List.append_nil]
  exact .object (by rw [List.length_map, hlength]) (fun m hm => absurd hm List.not_mem_nil) hmembers

/-- So does the array of the values. -/
theorem givesAll_array (hlength : values.length = names.length) :
    GivesAll names values (.array values) := by
  refine .array ((Nat.add_zero _).trans hlength) ?_
  rw [List.replicate_zero, List.append_nil]

theorem GivesAll.has_iff {name : Text} {value : Json} (h : GivesAll names values json)
    (hname : name ∈ names) : json.Has names name value ↔ (name, value) ∈ names.zip values := by
  rw [Gives.has_iff h hname, ← mem_given_iff, given_complete]

theorem GivesAll.not_misses (h : GivesAll names values json) : ¬ json.Misses names := by
  rintro ⟨name, hname, hlacks⟩
  have hlength : names.length = values.length := by
    rw [Gives.length_eq h, List.length_map]
  rw [← List.map_fst_zip (Nat.le_of_eq hlength)] at hname
  obtain ⟨⟨name, value⟩, hzip, rfl⟩ := List.mem_map.mp hname
  exact hlacks value ((h.has_iff (List.of_mem_zip hzip).1).mpr hzip)

end Complete

end Fields

end ChartDialogue.Json
