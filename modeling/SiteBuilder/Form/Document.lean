import SiteBuilder.Form.Config
import SiteBuilder.Datum.Typed
import SiteBuilder.Json.Reader
import SiteBuilder.Json.Printer
import SiteBuilder.Yaml.Reader

/-!
# Forms and answers as documents

A form is read from JSON or YAML and written as JSON. The steps of a document stand at its top or
under `formConfig`, where steps that are not empty take precedence.
-/

namespace SiteBuilder

/-! ## Answers -/

/-- The answer a value holds: a truth value, a number or a text. -/
def Answer.ofDatum? (value : Datum) : Option Answer :=
  match value.resolved with
  | .bool b => some (.bool b)
  | .int n => (Datum.float? (.int n)).map .number
  | .float x => some (.number x)
  | .text s => some (.text s)
  | _ => none

namespace AnswerSet

/-- The answers of a record. A name may be given more than once; the last answer counts. -/
def ofDatum? : Datum → Option AnswerSet
  | .record entries =>
    (entries.mapM fun entry : String × Datum => (Answer.ofDatum? entry.2).map (entry.1, ·)).map .ofList
  | _ => none

/-- The answers of a JSON text. -/
def ofJson? (text : String) : Option AnswerSet := (Json.read text).bind ofDatum?

/-- The JSON text of answers, without spaces. -/
def toJson (answers : AnswerSet) : String := Json.compact (toDatum answers)

end AnswerSet

/-! ## Reading forms -/

/-- The kind a value names. In JSON a record of the name alone will do as well, and in YAML a tag of that
name in front of no value. -/
def FieldKind.ofDatum? : Datum → Option FieldKind
  | .record [(name, .null)] => FieldKind.ofLabel? name
  | .tagged (.named name) (.plain s) =>
    if s = "" ∨ Datum.Plain.isNull s then FieldKind.ofLabel? name else none
  | .tagged (.named _) _ => none
  | value => value.text?.bind FieldKind.ofLabel?

/-- The option a value holds: a text, or a record of a value and a label. -/
def FieldOption.ofDatum? (value : Datum) : Option FieldOption :=
  let text? (value : Datum) : Option String :=
    match value.resolved with
    | .text s => some s
    | _ => none
  let optionalText? (value : Datum) : Option (Option String) :=
    match value.resolved with
    | .null => some none
    | value => (text? value).map some
  match value.resolved with
  | .text s => some (.plain s)
  | .record entries => do
    if !(Datum.record entries).isReadable then none
    let fields ← Datum.fields? ["value", "label"] (.record entries)
    let value ← Datum.required? fields "value" text?
    let label ← Datum.defaulted? fields "label" none optionalText?
    return .labeled value label
  | _ => none

/-- The rules a value holds. -/
def ValidationRules.ofDatum? (value : Datum) : Option ValidationRules := do
  let fields ← value.fields? ["required", "pattern", "minLength", "maxLength", "min", "max", "custom", "message"]
  let required ← Datum.defaulted? fields "required" false Datum.bool?
  let pattern ← Datum.absent? fields "pattern" Datum.text?
  let minLength ← Datum.absent? fields "minLength" Datum.size?
  let maxLength ← Datum.absent? fields "maxLength" Datum.size?
  let min ← Datum.absent? fields "min" Datum.float?
  let max ← Datum.absent? fields "max" Datum.float?
  let custom ← Datum.absent? fields "custom" Datum.text?
  let message ← Datum.absent? fields "message" Datum.text?
  return { required, pattern, minLength, maxLength, min, max, custom, message }

/-- The field a value holds. -/
def Field.ofDatum? (value : Datum) : Option Field := do
  let fields ← value.fields?
    ["name", "label", "type", "default", "placeholder", "help", "options", "required", "validation"]
  let name ← Datum.required? fields "name" Datum.text?
  let label ← Datum.absent? fields "label" Datum.text?
  let kind ← Datum.defaulted? fields "type" FieldKind.text FieldKind.ofDatum?
  let default ← Datum.absent? fields "default" Answer.ofDatum?
  let placeholder ← Datum.absent? fields "placeholder" Datum.text?
  let help ← Datum.absent? fields "help" Datum.text?
  let options ← Datum.defaulted? fields "options" [] (Datum.items? FieldOption.ofDatum?)
  let required ← Datum.defaulted? fields "required" false Datum.bool?
  let validation ← Datum.defaulted? fields "validation" .none ValidationRules.ofDatum?
  return { name, label, kind, default, placeholder, help, options, required, validation }

/-- The identifier of a step: a text, or a whole number of 64 bits with a sign. -/
def Step.idOfDatum? (value : Datum) : Option String :=
  match value.resolved with
  | .text s => some s
  | .int n => if n < (Nat.pow 2 63 : Int) then some (Json.intText n) else none
  | _ => none

/-- The step a value holds. -/
def Step.ofDatum? (value : Datum) : Option Step := do
  let fields ← value.fields? ["id", "title", "description", "fields"]
  let id ← Datum.defaulted? fields "id" "" Step.idOfDatum?
  let title ← Datum.required? fields "title" Datum.text?
  let description ← Datum.absent? fields "description" Datum.text?
  let inner ← Datum.defaulted? fields "fields" [] (Datum.items? Field.ofDatum?)
  return ⟨id, title, description, inner⟩

namespace TemplateConfig

/-- The steps a document nests under `formConfig`. -/
def nestedSteps? (value : Datum) : Option (List Step) := do
  let fields ← value.fields? ["steps"]
  Datum.defaulted? fields "steps" [] (Datum.items? Step.ofDatum?)

/-- The form of a document before it is checked. -/
def ofDatum? (value : Datum) : Option TemplateConfig := do
  let fields ← value.fields? ["name", "description", "steps", "formConfig"]
  let name ← Datum.absent? fields "name" Datum.text?
  let description ← Datum.absent? fields "description" Datum.text?
  let steps ← Datum.absent? fields "steps" (Datum.items? Step.ofDatum?)
  let nested ← Datum.absent? fields "formConfig" nestedSteps?
  let nested := nested.getD []
  return ⟨name, description, if nested.isEmpty then steps.getD [] else nested⟩

/-- The checked form of a document. -/
def ofDocument (value : Option Datum) : Except SchemaError TemplateConfig :=
  match value.bind ofDatum? with
  | some config => config.check
  | none => .error .unreadable

/-- The form of a JSON text. -/
def ofJson (text : String) : Except SchemaError TemplateConfig := ofDocument (Json.read text)

/-- The form of a YAML text. -/
def ofYaml (text : String) : Except SchemaError TemplateConfig := ofDocument (Yaml.read text)

end TemplateConfig

/-! ## Writing forms -/

/-- The value of an option. -/
def FieldOption.toDatum : FieldOption → Datum
  | .plain value => .text value
  | .labeled value label => .record [("value", .text value), ("label", .ofOption .text label)]

/-- The value of rules. -/
def ValidationRules.toDatum (rules : ValidationRules) : Datum :=
  .record [("required", .bool rules.required), ("pattern", .ofOption .text rules.pattern),
    ("minLength", .ofOption (fun n : Nat => .int n) rules.minLength),
    ("maxLength", .ofOption (fun n : Nat => .int n) rules.maxLength),
    ("min", .ofOption .float rules.min), ("max", .ofOption .float rules.max),
    ("custom", .ofOption .text rules.custom), ("message", .ofOption .text rules.message)]

/-- The value of a field. -/
def Field.toDatum (field : Field) : Datum :=
  .record [("name", .text field.name), ("label", .ofOption .text field.label),
    ("type", .text field.kind.label), ("default", .ofOption Answer.toDatum field.default),
    ("placeholder", .ofOption .text field.placeholder), ("help", .ofOption .text field.help),
    ("options", .list (field.options.map FieldOption.toDatum)), ("required", .bool field.required),
    ("validation", field.validation.toDatum)]

/-- The value of a step. -/
def Step.toDatum (step : Step) : Datum :=
  .record [("id", .text step.id), ("title", .text step.title),
    ("description", .ofOption .text step.description), ("fields", .list (step.fields.map Field.toDatum))]

/-- The value of a form. -/
def TemplateConfig.toDatum (config : TemplateConfig) : Datum :=
  .record [("name", .ofOption .text config.name), ("description", .ofOption .text config.description),
    ("steps", .list (config.steps.map Step.toDatum))]

end SiteBuilder
