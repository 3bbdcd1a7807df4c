import ChartDialogue.Json.Forms
import ChartDialogue.Proofs.Distinct
import ChartDialogue.Proofs.Json.Records

/-!
The JSON forms of the domain types. A value is read from exactly its forms: the object with the fields in
any order and among others, the array of the fields, and for a category without a source file the one
that leaves it out. What is written is one of them, and from a value that misses another field, at any
depth, nothing is read.
-/
namespace ChartDialogue

namespace Json

variable {json : Json}

theorem text?_eq_some_iff {s : Text} : json.text? = some s ↔ json = ofText s := by
  cases json <;> simp [text?, ofText]

theorem boolean?_eq_some_iff {b : Bool} : json.boolean? = some b ↔ json = boolean b := by
  cases json <;> simp [boolean?]

theorem list?_eq_some_iff {α : Type} {f : Json → Option α} {l : List α} :
    json.list? f = some l ↔
      ∃ items, json = array items ∧ List.Forall₂ (fun item a => f item = some a) items l := by
  cases json <;> simp [list?, mapM_eq_some_iff]

theorem forall₂_eq_map_iff {α β : Type} {f : β → α} {l : List α} {r : List β} :
    List.Forall₂ (fun a b => a = f b) l r ↔ l = r.map f := by
  rw [← List.forall₂_map_right_iff, List.forall₂_eq_eq_eq]

theorem list?_text?_eq_some_iff {texts : List Text} :
    json.list? text? = some texts ↔ json = array (texts.map ofText) := by
  simp only [list?_eq_some_iff, text?_eq_some_iff, forall₂_eq_map_iff]
  constructor
  · rintro ⟨items, hjson, rfl⟩
    exact hjson
  · intro hjson
    exact ⟨_, hjson, rfl⟩

/-- A name without content has two forms. -/
theorem tag?_eq_some_iff {name : Text} :
    json.tag? = some name ↔ json = ofText name ∨ json = object [(some name, null)] := by
  unfold tag? ofText
  split
  · simp
  · simp
  · rename_i hstring hobject
    simp only [reduceCtorEq, false_iff, not_or]
    exact ⟨hstring (some name), hobject (some name)⟩

def texts (pairs : List (Text × Text)) : Json :=
  record (pairs.map fun p => (p.1, ofText p.2))

theorem namedText?_eq_some_iff {m : Option Text × Json} {p : Text × Text} :
    namedText? m = some p ↔ m = (some p.1, ofText p.2) := by
  obtain ⟨name, value⟩ := m
  cases name <;> simp [namedText?, text?_eq_some_iff, Prod.ext_iff, and_comm]

/-- A map is read from any list of named texts, and the last of equal names counts. -/
theorem texts?_eq_some_iff {d : Dict Text Text} :
    json.texts? = some d ↔ ∃ pairs, json = texts pairs ∧ d = Dict.ofList pairs := by
  cases json with
  | object members =>
    simp only [texts?, Option.map_eq_some_iff, mapM_eq_some_iff, namedText?_eq_some_iff,
      forall₂_eq_map_iff, texts, record, List.map_map, object.injEq, eq_comm (a := d)]
    rfl
  | _ => simp [texts?, texts, record]

/-- Reading the fields of a record and then its parts from them. -/
theorem bind_fields?_eq_some_iff {α : Type} {names : List Text} (hnodup : names.Nodup)
    {f : List (Option Json) → Option α} {a : α} :
    (json.fields? names).bind f = some a ↔ ∃ fields, Gives names fields json ∧ f fields = some a := by
  rw [Option.bind_eq_some_iff]
  exact exists_congr fun fields => and_congr_left' (fields?_eq_some_iff hnodup)

end Json

open Json

variable {json : Json}

namespace Category

/-- A value that stands for a category. Only an empty source file may be left out. -/
def Form (c : Category) (json : Json) : Prop :=
  ∃ source, Gives fieldNames
      [some (.ofText c.pattern), some (.array (c.templates.map .ofText)), source] json ∧
    (source = some (.ofText c.sourceFile) ∨ source = none ∧ c.sourceFile = [])

/-- A field other than the source file is missing. -/
def Incomplete (json : Json) : Prop :=
  ∃ name ∈ fieldNames, name ≠ "source_file".toList ∧ json.Lacks fieldNames name

theorem ofJson?_eq_some_iff {c : Category} : ofJson? json = some c ↔ c.Form json := by
  have hnodup : fieldNames.Nodup := by decide
  refine (bind_fields?_eq_some_iff hnodup).trans ⟨?_, ?_⟩
  · rintro ⟨fields, hgives, hread⟩
    split at hread
    · rename_i pattern templates source
      simp only [Option.bind_eq_bind, Option.bind_eq_some_iff, text?_eq_some_iff,
        list?_text?_eq_some_iff, Option.pure_def, Option.some.injEq] at hread
      obtain ⟨p, rfl, ts, rfl, s, hs, rfl⟩ := hread
      refine ⟨source, hgives, ?_⟩
      cases source with
      | none => exact Or.inr ⟨rfl, (Option.some.inj hs).symm⟩
      | some source => exact Or.inl (congrArg some (text?_eq_some_iff.mp hs))
    · exact absurd hread.symm (Option.some_ne_none c)
  · rintro ⟨source, hgives, hsource⟩
    refine ⟨_, hgives, ?_⟩
    have htemplates := list?_text?_eq_some_iff.mpr (Eq.refl (array (c.templates.map ofText)))
    have hfile : source.elim (some []) text? = some c.sourceFile := by
      rcases hsource with rfl | ⟨rfl, hfile⟩
      · rfl
      · exact congrArg some hfile.symm
    simp only [Option.bind_eq_bind, htemplates, hfile, ofText, text?, Option.bind_some, Option.pure_def]

theorem form_toJson (c : Category) : c.Form c.toJson := by
  have hgives : GivesAll fieldNames
      [.ofText c.pattern, .array (c.templates.map .ofText), .ofText c.sourceFile] c.toJson :=
    givesAll_record rfl
  exact ⟨_, hgives, Or.inl rfl⟩

theorem Form.not_incomplete {c : Category} (h : c.Form json) : ¬ Incomplete json := by
  obtain ⟨source, hgives, -⟩ := h
  rintro ⟨name, hname, hother, hlacks⟩
  simp only [fieldNames, List.mem_cons, hother, List.not_mem_nil, or_false] at hname
  rcases hname with rfl | rfl
  · exact hgives.not_lacks List.mem_cons_self hlacks
  · exact hgives.not_lacks (List.mem_cons_of_mem _ List.mem_cons_self) hlacks

end Category

namespace ConditionKind

/-- A value that stands for a kind: its keyword, or that as the one name of an object without content. -/
def Form (k : ConditionKind) (json : Json) : Prop :=
  json = .ofText k.keyword ∨ json = .object [(some k.keyword, .null)]

theorem ofKeyword?_eq_some_iff {word : Text} {k : ConditionKind} :
    ofKeyword? word = some k ↔ word = k.keyword := by
  constructor
  · intro h
    have hword := List.find?_some h
    exact (of_decide_eq_true hword).symm
  · rintro rfl
    exact ofKeyword?_keyword k

theorem ofJson?_eq_some_iff {k : ConditionKind} : ofJson? json = some k ↔ k.Form json := by
  simp only [ofJson?, Option.bind_eq_some_iff, tag?_eq_some_iff, ofKeyword?_eq_some_iff,
    exists_eq_right]
  rfl

end ConditionKind

namespace Condition

/-- A value that stands for a condition. -/
def Form (c : Condition) (json : Json) : Prop :=
  ∃ kind, c.kind.Form kind ∧
    GivesAll fieldNames [kind, .ofText c.name, .ofText c.value, .boolean c.isDefault] json

theorem ofJson?_eq_some_iff {c : Condition} : ofJson? json = some c ↔ c.Form json := by
  have hnodup : fieldNames.Nodup := by decide
  refine (bind_fields?_eq_some_iff hnodup).trans ⟨?_, ?_⟩
  · rintro ⟨fields, hgives, hread⟩
    split at hread
    · rename_i kind name value isDefault
      simp only [Option.bind_eq_bind, Option.bind_eq_some_iff, ConditionKind.ofJson?_eq_some_iff,
        text?_eq_some_iff, boolean?_eq_some_iff, Option.pure_def, Option.some.injEq] at hread
      obtain ⟨k, hkind, n, rfl, v, rfl, d, rfl, rfl⟩ := hread
      exact ⟨kind, hkind, hgives⟩
    · exact absurd hread.symm (Option.some_ne_none c)
  · rintro ⟨kind, hkind, hgives⟩
    refine ⟨_, hgives, ?_⟩
    simp only [Option.bind_eq_bind, ConditionKind.ofJson?_eq_some_iff.mpr hkind, List.map_cons,
      List.map_nil, ofText, text?, boolean?, Option.bind_some, Option.pure_def]

theorem form_toJson (c : Condition) : c.Form c.toJson :=
  ⟨_, Or.inl rfl, givesAll_record rfl⟩

theorem Form.not_misses {c : Condition} (h : c.Form json) : ¬ json.Misses fieldNames := by
  obtain ⟨kind, -, hgives⟩ := h
  exact hgives.not_misses

end Condition

namespace Branch

/-- A value that stands for a branch, with its condition in any form. -/
def Form (b : Branch) (json : Json) : Prop :=
  ∃ condition, b.condition.Form condition ∧
    GivesAll fieldNames [condition, .ofText b.response] json

/-- A field is missing, of the branch or of its condition. -/
def Incomplete (json : Json) : Prop :=
  json.Misses fieldNames ∨
    ∃ condition, json.Has fieldNames "condition".toList condition ∧
      condition.Misses Condition.fieldNames

theorem ofJson?_eq_some_iff {b : Branch} : ofJson? json = some b ↔ b.Form json := by
  have hnodup : fieldNames.Nodup := by decide
  refine (bind_fields?_eq_some_iff hnodup).trans ⟨?_, ?_⟩
  · rintro ⟨fields, hgives, hread⟩
    split at hread
    · rename_i condition response
      simp only [Option.bind_eq_bind, Option.bind_eq_some_iff, Condition.ofJson?_eq_some_iff,
        text?_eq_some_iff, Option.pure_def, Option.some.injEq] at hread
      obtain ⟨c, hcondition, r, rfl, rfl⟩ := hread
      exact ⟨condition, hcondition, hgives⟩
    · exact absurd hread.symm (Option.some_ne_none b)
  · rintro ⟨condition, hcondition, hgives⟩
    refine ⟨_, hgives, ?_⟩
    simp only [Option.bind_eq_bind, Condition.ofJson?_eq_some_iff.mpr hcondition, List.map_cons,
      List.map_nil, ofText, text?, Option.bind_some, Option.pure_def]

theorem form_toJson (b : Branch) : b.Form b.toJson :=
  ⟨_, b.condition.form_toJson, givesAll_record rfl⟩

theorem Form.not_incomplete {b : Branch} (h : b.Form json) : ¬ Incomplete json := by
  obtain ⟨condition, hcondition, hgives⟩ := h
  rintro (hmisses | ⟨value, hhas, hmisses⟩)
  · exact hgives.not_misses hmisses
  · have hvalue : value = condition := by
      simpa [fieldNames] using (hgives.has_iff List.mem_cons_self).mp hhas
    exact hcondition.not_misses (hvalue ▸ hmisses)

end Branch

namespace ConditionalCategory

/-- A value that stands for a conditional category, with each branch in any form. -/
def Form (c : ConditionalCategory) (json : Json) : Prop :=
  ∃ items, List.Forall₂ (fun item (b : Branch) => b.Form item) items c.branches ∧
    GivesAll fieldNames [.ofText c.pattern, .array items] json

/-- A field is missing, of the category or somewhere in a branch. -/
def Incomplete (json : Json) : Prop :=
  json.Misses fieldNames ∨
    ∃ items, json.Has fieldNames "conditions".toList (.array items) ∧
      ∃ item ∈ items, Branch.Incomplete item

theorem ofJson?_eq_some_iff {c : ConditionalCategory} : ofJson? json = some c ↔ c.Form json := by
  have hnodup : fieldNames.Nodup := by decide
  refine (bind_fields?_eq_some_iff hnodup).trans ⟨?_, ?_⟩
  · rintro ⟨fields, hgives, hread⟩
    split at hread
    · rename_i pattern branches
      simp only [Option.bind_eq_bind, Option.bind_eq_some_iff, list?_eq_some_iff,
        Branch.ofJson?_eq_some_iff, text?_eq_some_iff, Option.pure_def, Option.some.injEq] at hread
      obtain ⟨p, rfl, bs, ⟨items, rfl, hitems⟩, rfl⟩ := hread
      exact ⟨items, hitems, hgives⟩
    · exact absurd hread.symm (Option.some_ne_none c)
  · rintro ⟨items, hitems, hgives⟩
    refine ⟨_, hgives, ?_⟩
    have hbranches : (array items).list? Branch.ofJson? = some c.branches :=
      list?_eq_some_iff.mpr ⟨items, rfl, hitems.imp fun _ _ => Branch.ofJson?_eq_some_iff.mpr⟩
    simp only [Option.bind_eq_bind, hbranches, List.map_cons, List.map_nil, ofText, text?,
      Option.bind_some, Option.pure_def]

theorem form_toJson (c : ConditionalCategory) : c.Form c.toJson := by
  refine ⟨_, ?_, givesAll_record rfl⟩
  rw [List.forall₂_map_left_iff, List.forall₂_same]
  intro b _
  exact b.form_toJson

theorem Form.not_incomplete {c : ConditionalCategory} (h : c.Form json) : ¬ Incomplete json := by
  obtain ⟨branches, hbranches, hgives⟩ := h
  rintro (hmisses | ⟨items, hhas, item, hitem, hincomplete⟩)
  · exact hgives.not_misses hmisses
  · have hitems : items = branches := by
      simpa [fieldNames] using (hgives.has_iff (List.mem_cons_of_mem _ List.mem_cons_self)).mp hhas
    have hboth : List.Forall₂ (fun item (b : Branch) => ¬ Branch.Incomplete item ∧ b.Form item)
        branches c.branches := hbranches.imp fun _ _ hform => ⟨hform.not_incomplete, hform⟩
    exact ((List.forall₂_and_left _ _).mp hboth).1 item (hitems ▸ hitem) hincomplete

end ConditionalCategory

namespace UserState

variable {s t : UserState}

/-- A value that stands for a state. Of equal names in one map the last counts. -/
def Form (s : UserState) (json : Json) : Prop :=
  ∃ predicates bindings context,
    s = ⟨Dict.ofList predicates, Dict.ofList bindings, Dict.ofList context⟩ ∧
    GivesAll fieldNames [.texts predicates, .texts bindings, .texts context] json

/-- No name stands twice in a map of the state. -/
structure Distinct (s : UserState) : Prop where
  predicates : s.predicates.Distinct
  bindings : s.bindings.Distinct
  context : s.context.Distinct

/-- Two states have the same values under all names. -/
structure Same (s t : UserState) : Prop where
  predicates : ∀ name, s.predicates.get? name = t.predicates.get? name
  bindings : ∀ name, s.bindings.get? name = t.bindings.get? name
  context : ∀ name, s.context.get? name = t.context.get? name

/-- A value gives the entries of a state, those of each map in any order. -/
def Lists (s : UserState) (json : Json) : Prop :=
  ∃ predicates bindings context : List (Text × Text), predicates.Perm s.predicates.entries ∧
    bindings.Perm s.bindings.entries ∧ context.Perm s.context.entries ∧
    GivesAll fieldNames [.texts predicates, .texts bindings, .texts context] json

theorem ofJson?_eq_some_iff : ofJson? json = some s ↔ s.Form json := by
  have hnodup : fieldNames.Nodup := by decide
  refine (bind_fields?_eq_some_iff hnodup).trans ⟨?_, ?_⟩
  · rintro ⟨fields, hgives, hread⟩
    split at hread
    · simp only [Option.bind_eq_bind, Option.bind_eq_some_iff, texts?_eq_some_iff,
        Option.pure_def, Option.some.injEq] at hread
      obtain ⟨_, ⟨predicates, rfl, rfl⟩, _, ⟨bindings, rfl, rfl⟩, _, ⟨context, rfl, rfl⟩, rfl⟩ := hread
      exact ⟨predicates, bindings, context, rfl, hgives⟩
    · exact absurd hread.symm (Option.some_ne_none s)
  · rintro ⟨predicates, bindings, context, rfl, hgives⟩
    have htexts (pairs : List (Text × Text)) : (texts pairs).texts? = some (Dict.ofList pairs) :=
      texts?_eq_some_iff.mpr ⟨pairs, rfl, rfl⟩
    refine ⟨_, hgives, ?_⟩
    simp only [Option.bind_eq_bind, List.map_cons, List.map_nil, htexts, Option.bind_some,
      Option.pure_def]

theorem Distinct.form_toJson (h : s.Distinct) : s.Form s.toJson := by
  refine ⟨s.predicates.entries, s.bindings.entries, s.context.entries, ?_, givesAll_record rfl⟩
  rw [Dict.ofList_of_nodup h.predicates, Dict.ofList_of_nodup h.bindings,
    Dict.ofList_of_nodup h.context]

theorem Form.distinct (h : s.Form json) : s.Distinct := by
  obtain ⟨predicates, bindings, context, rfl, -⟩ := h
  exact ⟨Dict.distinct_ofList predicates, Dict.distinct_ofList bindings, Dict.distinct_ofList context⟩

theorem Form.not_misses (h : s.Form json) : ¬ json.Misses fieldNames := by
  obtain ⟨_, _, _, -, hgives⟩ := h
  exact hgives.not_misses

/-- A state that is listed in another order is read as one with the same values. -/
theorem Lists.exists_same (h : s.Lists json) (hs : s.Distinct) :
    ∃ t : UserState, t.Form json ∧ t.Same s := by
  obtain ⟨predicates, bindings, context, hpredicates, hbindings, hcontext, hgives⟩ := h
  refine ⟨_, ⟨predicates, bindings, context, rfl, hgives⟩, ?_⟩
  exact ⟨Dict.get?_ofList_of_perm hs.predicates hpredicates,
    Dict.get?_ofList_of_perm hs.bindings hbindings, Dict.get?_ofList_of_perm hs.context hcontext⟩

end UserState

/-- A value is read from its forms and from nothing else, what is written is read again, and what is
incomplete is refused. -/
structure ReadsBack {α : Type} (read : Json → Option α) (write : α → Json) (Form : α → Json → Prop)
    (Incomplete : Json → Prop) : Prop where
  read_iff : ∀ json a, read json = some a ↔ Form a json
  read_write : ∀ a, read (write a) = some a
  read_incomplete : ∀ json, Incomplete json → read json = none

section Reading

variable {α : Type} {read : Json → Option α} {write : α → Json} {Form : α → Json → Prop}
  {Incomplete : Json → Prop}

theorem read_eq_none (hread : ∀ json a, read json = some a → ¬ Incomplete json)
    (h : Incomplete json) : read json = none :=
  Option.eq_none_iff_forall_ne_some.mpr fun a ha => hread json a ha h

/-- It is enough to know the values that are read, that what is written is one of them, and that
none of them is incomplete. -/
theorem readsBack_of_form (hread : ∀ json a, read json = some a ↔ Form a json)
    (hwrite : ∀ a, Form a (write a)) (hcomplete : ∀ json a, Form a json → ¬ Incomplete json) :
    ReadsBack read write Form Incomplete where
  read_iff := hread
  read_write a := (hread (write a) a).mpr (hwrite a)
  read_incomplete _ := read_eq_none fun json a ha => hcomplete json a ((hread json a).mp ha)

end Reading

/-- Categories, conditions, conditional categories and states are read from what is written for them and
from every other form of it. The entries of a state may come in any order; the state that is read then
has the same values. Nothing is read where a field is missing that has no default. -/
theorem ofJson?_forms :
    ReadsBack Category.ofJson? Category.toJson Category.Form Category.Incomplete ∧
    ReadsBack Condition.ofJson? Condition.toJson Condition.Form (Misses Condition.fieldNames) ∧
    ReadsBack ConditionalCategory.ofJson? ConditionalCategory.toJson ConditionalCategory.Form
      ConditionalCategory.Incomplete ∧
    (∀ s : UserState, s.Distinct → UserState.ofJson? s.toJson = some s) ∧
    (∀ (s : UserState) json, s.Distinct → s.Lists json →
      ∃ t, UserState.ofJson? json = some t ∧ t.Distinct ∧ t.Same s) ∧
    ∀ json, Misses UserState.fieldNames json → UserState.ofJson? json = none := by
  refine ⟨?_, ?_, ?_, ?_, ?_, ?_⟩
  · exact readsBack_of_form (fun _ _ => Category.ofJson?_eq_some_iff) Category.form_toJson
      fun _ _ => Category.Form.not_incomplete
  · exact readsBack_of_form (fun _ _ => Condition.ofJson?_eq_some_iff) Condition.form_toJson
      fun _ _ => Condition.Form.not_misses
  · exact readsBack_of_form (fun _ _ => ConditionalCategory.ofJson?_eq_some_iff)
      ConditionalCategory.form_toJson fun _ _ => ConditionalCategory.Form.not_incomplete
  · intro s hs
    exact UserState.ofJson?_eq_some_iff.mpr hs.form_toJson
  · intro s json hs hlists
    obtain ⟨t, hform, hsame⟩ := hlists.exists_same hs
    exact ⟨t, UserState.ofJson?_eq_some_iff.mpr hform, hform.distinct, hsame⟩
  · intro json
    exact read_eq_none fun _ _ hread => (UserState.ofJson?_eq_some_iff.mp hread).not_misses

/-- Whether the name of a user is known, with the fields from last to first. -/
def nameKnownJson : Json :=
  .record [("is_default".toList, .boolean false), ("value".toList, .ofText []),
    ("name".toList, .ofText "name".toList), ("condition_type".toList, .ofText "star".toList)]

/-- A conditional category with a note, and with its branch as an array. -/
def welcomeJson : Json :=
  .record [
    ("conditions".toList, .array [.array [nameKnownJson, .ofText "welcome back".toList]]),
    ("note".toList, .null),
    ("pattern".toList, .ofText "hello".toList)]

/-- A category without its source file, a conditional category, one whose branch has no response, and
a state whose predicates are listed from last to first. -/
theorem ofJson?_forms_welcome :
    Category.ofJson? (.array [.ofText "hello".toList, .array [.ofText "hi".toList]]) =
      some ⟨"hello".toList, ["hi".toList], []⟩ ∧
    ConditionalCategory.ofJson? welcomeJson = some ⟨"hello".toList,
      [⟨.new .predicateSet "name".toList [], "welcome back".toList⟩]⟩ ∧
    ConditionalCategory.ofJson? (.array [.ofText "hello".toList, .array [.array [.null]]]) = none ∧
    ∃ s, UserState.ofJson? (.array [
        .texts [("b".toList, "2".toList), ("a".toList, "1".toList)], .texts [], .texts []]) = some s ∧
      s.predicates.get? "a".toList = some "1".toList := by
  obtain ⟨hcategory, -, hconditional, -, hstate, -⟩ := ofJson?_forms
  refine ⟨(hcategory.read_iff _ _).mpr ?_, (hconditional.read_iff _ _).mpr ?_,
    hconditional.read_incomplete _ (Or.inr ?_), ?_⟩
  · exact ⟨none, .array rfl rfl, Or.inr ⟨rfl, rfl⟩⟩
  · have hnone : ∀ m ∈ ([] : List (Text × Json)), m.1 ∉ Condition.fieldNames := by simp
    have hcondition : Condition.Form (.new .predicateSet "name".toList []) nameKnownJson :=
      ⟨_, Or.inl rfl, .object rfl hnone (List.reverse_perm [_, _, _, _])⟩
    have hnote : ∀ m ∈ [("note".toList, null)], m.1 ∉ ConditionalCategory.fieldNames := by decide
    exact ⟨[_], .cons ⟨_, hcondition, givesAll_array rfl⟩ .nil,
      .object rfl hnote (List.perm_append_singleton _ [_, _])⟩
  · have hresponse : "response".toList ∈ Branch.fieldNames := by decide
    refine ⟨_, List.mem_cons_of_mem _ List.mem_cons_self, _, List.mem_cons_self, Or.inl ?_⟩
    refine ⟨_, hresponse, fun value hhas => ?_⟩
    simp [Has, Branch.fieldNames] at hhas
  · have hnodup : (([("a".toList, "1".toList), ("b".toList, "2".toList)] : List (Text × Text)).map
        Prod.fst).Nodup := by decide
    obtain ⟨s, hread, -, hsame⟩ := hstate ⟨⟨_⟩, Dict.empty, Dict.empty⟩ _
      ⟨hnodup, List.nodup_nil, List.nodup_nil⟩
      ⟨_, [], [], List.Perm.swap _ _ _, .nil, .nil, givesAll_array rfl⟩
    exact ⟨s, hread, hsame.predicates _⟩

end ChartDialogue
