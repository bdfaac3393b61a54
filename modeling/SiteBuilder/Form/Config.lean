import SiteBuilder.Form.Kind
import SiteBuilder.Pattern.Parser

/-!
# Form definitions

A template's form is a list of steps that hold fields. `TemplateConfig.check` accepts a list with at
least one step, in which no two fields share a name and every pattern can be read; a step without an
identifier gets its position. Field names are unique over all steps, so one set of answers keyed by
name serves the whole form.
-/

namespace SiteBuilder

/-- One of the values a field offers. -/
inductive FieldOption where
  /-- A value that is its own label. -/
  | plain (value : String)
  /-- A value with a label. -/
  | labeled (value : String) (label : Option String)
  deriving DecidableEq

/-- The value that is stored when an option is chosen. -/
def FieldOption.value : FieldOption → String
  | .plain value => value
  | .labeled value _ => value

/-- The rules an answer has to keep beyond its kind. -/
structure ValidationRules where
  /-- Whether the field must be filled in. -/
  required : Bool
  /-- A pattern that must occur in the text. -/
  pattern : Option String
  /-- The least number of characters. -/
  minLength : Option Nat
  /-- The greatest number of characters. -/
  maxLength : Option Nat
  /-- The least number. -/
  min : Option Float
  /-- The greatest number. -/
  max : Option Float
  /-- The name of a registered predicate. -/
  custom : Option String
  /-- What is said instead of the wording of a rule. -/
  message : Option String
  deriving DecidableEq

/-- No rules. -/
def ValidationRules.none : ValidationRules :=
  ⟨false, Option.none, Option.none, Option.none, Option.none, Option.none, Option.none, Option.none⟩

/-- A field of a form. -/
structure Field where
  /-- The name its answer is stored under. -/
  name : String
  /-- What it is called in messages. -/
  label : Option String
  /-- What it asks for. -/
  kind : FieldKind
  /-- The answer it starts with. -/
  default : Option Answer
  placeholder : Option String
  help : Option String
  /-- The values it offers. -/
  options : List FieldOption
  /-- Whether it must be filled in. -/
  required : Bool
  /-- Its further rules. -/
  validation : ValidationRules
  deriving DecidableEq

namespace Field

/-- What a field is called: its label, or else its name. -/
def shownLabel (field : Field) : String := field.label.getD field.name

/-- Whether a field must be filled in; either place may ask for it. -/
def isRequired (field : Field) : Bool := field.required || field.validation.required

/-- The answer a field starts with: its default if that fits its kind, else the zero of the kind. -/
def defaultValue (field : Field) : Answer :=
  (field.default.bind field.kind.stored?).getD field.kind.zero

end Field

/-- A step of a form. -/
structure Step where
  /-- What the step is found by. -/
  id : String
  title : String
  description : Option String
  /-- The fields of the step, in order. -/
  fields : List Field
  deriving DecidableEq

/-- A form of several steps. -/
structure TemplateConfig where
  name : Option String
  description : Option String
  /-- The steps, in order. -/
  steps : List Step
  deriving DecidableEq

/-- Why a form is refused. -/
inductive SchemaError where
  /-- The document is no form. -/
  | unreadable
  /-- There are no steps. -/
  | noSteps
  /-- A field has the name of an earlier one. -/
  | duplicateField (name : String)
  /-- The pattern of a field cannot be read. -/
  | invalidPattern (field : String)
  deriving DecidableEq

/-- The wording of a cause; what a reader of documents or patterns would add is left out. -/
def SchemaError.message : SchemaError → String
  | .unreadable => "Failed to parse template config: "
  | .noSteps => "Template config declares no steps"
  | .duplicateField name => "Field '" ++ name ++ "' is declared more than once"
  | .invalidPattern field => "Field '" ++ field ++ "' has an invalid pattern:"

namespace TemplateConfig

/-- Give every step without an identifier its position, the first of the list having the given one. -/
def withIds (position : Nat) : List Step → List Step
  | [] => []
  | step :: rest =>
    (if step.id = "" then { step with id := String.ofList (Decimal.digitsOf position) } else step) ::
      withIds (position + 1) rest

/-- The first fault in a list of fields, given the names before it: a name that is not new, or else a
pattern that cannot be read. -/
def firstFault (seen : List String) : List Field → Option SchemaError
  | [] => none
  | field :: rest =>
    if seen.contains field.name then some (.duplicateField field.name)
    else if field.validation.pattern.any fun p => (Pattern.parse? p).isNone then
      some (.invalidPattern field.name)
    else firstFault (field.name :: seen) rest

/-- All fields, in the order of the steps. -/
def fields (config : TemplateConfig) : List Field := config.steps.flatMap (·.fields)

/-- Accept a form or say what is wrong with it first. -/
def check (config : TemplateConfig) : Except SchemaError TemplateConfig :=
  if config.steps.isEmpty then .error .noSteps
  else
    match firstFault [] config.fields with
    | some fault => .error fault
    | none => .ok { config with steps := withIds 1 config.steps }

/-- The form of steps, with the same checks as one that is read. -/
def ofSteps (steps : List Step) : Except SchemaError TemplateConfig := check ⟨none, none, steps⟩

/-- The number of steps. -/
def stepCount (config : TemplateConfig) : Nat := config.steps.length

/-- The first step with an identifier. -/
def step? (config : TemplateConfig) (id : String) : Option Step := config.steps.find? (·.id == id)

/-- The step at a position; the first is at one. -/
def stepAt? (config : TemplateConfig) (position : Nat) : Option Step :=
  if position = 0 then none else config.steps[position - 1]?

/-- The field with a name. -/
def field? (config : TemplateConfig) (name : String) : Option Field := config.fields.find? (·.name == name)

/-- Type a written answer by the kind of its field. An answer without a field stays as it is. -/
def coerce (config : TemplateConfig) (name : String) (answer : Answer) : Except Mismatch Answer :=
  match config.field? name with
  | some field => field.kind.coerce name answer
  | none => .ok answer

/-- The answers the form starts with. -/
def defaults (config : TemplateConfig) : AnswerSet :=
  .ofList (config.fields.map fun field => (field.name, field.defaultValue))

end TemplateConfig

/-- Fill in the defaults of the names that `existing` lacks. -/
def mergeWithDefaults (defaults existing : AnswerSet) : AnswerSet := defaults.overlay existing

end SiteBuilder
