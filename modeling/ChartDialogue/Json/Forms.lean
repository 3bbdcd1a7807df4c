import ChartDialogue.Json.Value
import ChartDialogue.Users.State

/-!
The JSON forms of categories, conditions and user states. Writing gives every field; reading
takes the fields in any order or as an array, and only the source file of a category may be
missing.
-/
namespace ChartDialogue

namespace Category

def fieldNames : List Text :=
  ["pattern".toList, "templates".toList, "source_file".toList]

def toJson (c : Category) : Json :=
  .record (fieldNames.zip
    [.ofText c.pattern, .array (c.templates.map .ofText), .ofText c.sourceFile])

def ofJson? (json : Json) : Option Category := do
  match ← json.fields? fieldNames with
  | [some pattern, some templates, sourceFile] =>
    let pattern ← pattern.text?
    let templates ← templates.list? Json.text?
    let sourceFile ← sourceFile.elim (some []) Json.text?
    return ⟨pattern, templates, sourceFile⟩
  | _ => none

end Category

namespace ConditionKind

def toJson (k : ConditionKind) : Json :=
  .ofText k.keyword

def ofJson? (json : Json) : Option ConditionKind :=
  json.tag?.bind ofKeyword?

end ConditionKind

namespace Condition

def fieldNames : List Text :=
  ["condition_type".toList, "name".toList, "value".toList, "is_default".toList]

def toJson (c : Condition) : Json :=
  .record (fieldNames.zip
    [c.kind.toJson, .ofText c.name, .ofText c.value, .boolean c.isDefault])

def ofJson? (json : Json) : Option Condition := do
  match ← json.fields? fieldNames with
  | [some kind, some name, some value, some isDefault] =>
    let kind ← ConditionKind.ofJson? kind
    let name ← name.text?
    let value ← value.text?
    let isDefault ← isDefault.boolean?
    return ⟨kind, name, value, isDefault⟩
  | _ => none

end Condition

namespace Branch

def fieldNames : List Text :=
  ["condition".toList, "response".toList]

def toJson (b : Branch) : Json :=
  .record (fieldNames.zip [b.condition.toJson, .ofText b.response])

def ofJson? (json : Json) : Option Branch := do
  match ← json.fields? fieldNames with
  | [some condition, some response] =>
    let condition ← Condition.ofJson? condition
    let response ← response.text?
    return ⟨condition, response⟩
  | _ => none

end Branch

namespace ConditionalCategory

def fieldNames : List Text :=
  ["pattern".toList, "conditions".toList]

def toJson (c : ConditionalCategory) : Json :=
  .record (fieldNames.zip [.ofText c.pattern, .array (c.branches.map Branch.toJson)])

def ofJson? (json : Json) : Option ConditionalCategory := do
  match ← json.fields? fieldNames with
  | [some pattern, some branches] =>
    let pattern ← pattern.text?
    let branches ← branches.list? Branch.ofJson?
    return ⟨pattern, branches⟩
  | _ => none

end ConditionalCategory

namespace UserState

def fieldNames : List Text :=
  ["predicates".toList, "variables".toList, "context".toList]

def toJson (s : UserState) : Json :=
  .record (fieldNames.zip [.ofTexts s.predicates, .ofTexts s.bindings, .ofTexts s.context])

def ofJson? (json : Json) : Option UserState := do
  match ← json.fields? fieldNames with
  | [some predicates, some bindings, some context] =>
    let predicates ← predicates.texts?
    let bindings ← bindings.texts?
    let context ← context.texts?
    return ⟨predicates, bindings, context⟩
  | _ => none

end UserState
end ChartDialogue
