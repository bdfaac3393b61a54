import SiteBuilder.Form.Answer

/-!
# Field kinds

The kind of a field decides which answers it stores. `FieldKind.coerce` turns what was written into
what is stored; an empty text fits every kind, so that a cleared input can be held until the form
is validated.
-/

namespace SiteBuilder

/-- What a form field asks for. -/
inductive FieldKind where
  | text
  | textarea
  | number
  | color
  | url
  | email
  | boolean
  | select
  deriving DecidableEq, Inhabited

namespace FieldKind

/-- The name of a kind in documents and messages. -/
def label : FieldKind → String
  | .text => "text"
  | .textarea => "textarea"
  | .number => "number"
  | .color => "color"
  | .url => "url"
  | .email => "email"
  | .boolean => "boolean"
  | .select => "select"

/-- The kind of a name; a truth value has two more names. -/
def ofLabel? (s : String) : Option FieldKind :=
  match s with
  | "text" => some .text
  | "textarea" => some .textarea
  | "number" => some .number
  | "color" => some .color
  | "url" => some .url
  | "email" => some .email
  | "boolean" => some .boolean
  | "checkbox" => some .boolean
  | "bool" => some .boolean
  | "select" => some .select
  | _ => none

/-- The answer of a field that declares no default. -/
def zero : FieldKind → Answer
  | .number => .number 0.0
  | .boolean => .bool false
  | _ => .text ""

end FieldKind

/-- An answer that does not fit the kind of its field. -/
structure Mismatch where
  /-- The name of the field. -/
  field : String
  /-- The kind it declares. -/
  kind : FieldKind
  /-- The text of the answer. -/
  value : String
  deriving DecidableEq

/-- The wording of a mismatch. -/
def Mismatch.message (m : Mismatch) : String :=
  "Value '" ++ m.value ++ "' does not fit " ++ m.kind.label ++ " field '" ++ m.field ++ "'"

namespace FieldKind

/-- The stored form of a written answer, if the kind has one. -/
def stored? (kind : FieldKind) (answer : Answer) : Option Answer :=
  if answer = .text "" then some answer
  else
    match kind, answer with
    | .number, .number x => some (.number x)
    | .number, .text _ => answer.number?.map .number
    | .number, .bool _ => none
    | .boolean, .bool b => some (.bool b)
    | .boolean, .text s =>
      if Text.trim s = "true" then some (.bool true)
      else if Text.trim s = "false" then some (.bool false)
      else none
    | .boolean, .number _ => none
    | _, answer => some (.text answer.display)

/-- Type a written answer, or say which field it does not fit. -/
def coerce (kind : FieldKind) (field : String) (answer : Answer) : Except Mismatch Answer :=
  match kind.stored? answer with
  | some stored => .ok stored
  | none => .error ⟨field, kind, answer.display⟩

end FieldKind

end SiteBuilder
