import SiteBuilder.NameMap
import SiteBuilder.Text.Blank
import SiteBuilder.Decimal.Layout
import SiteBuilder.Decimal.Reading
import SiteBuilder.Datum.Basic

/-!
# Answers

An `Answer` is what a form field holds: a text, a number or a truth value. An `AnswerSet` holds
the answers of a form by the names of their fields, in the order of the names, so that everything
derived from it is reproducible.
-/

namespace SiteBuilder

/-- The value of one form field. -/
inductive Answer where
  /-- A truth value, from a check box. -/
  | bool (b : Bool)
  /-- A number. -/
  | number (x : Float)
  /-- A text. -/
  | text (s : String)
  deriving DecidableEq, Inhabited

namespace Answer

/-- The text that stands for an answer in a page. Zero has no sign. -/
def display : Answer → String
  | .text s => s
  | .bool b => if b then "true" else "false"
  | .number x => if x == 0.0 then "0" else Decimal.Layout.shown.text x

/-- Whether a required field counts as not filled in: a blank text, or a box that is not checked. -/
def isBlank : Answer → Bool
  | .text s => Text.isAllBlank s
  | .bool b => !b
  | .number _ => false

/-- The number an answer denotes: a text is read without the blanks around it. -/
def number? : Answer → Option Float
  | .number x => some x
  | .text s => Decimal.readFloat (Text.trimBy Text.isBlank s.toList)
  | .bool _ => none

/-- The document value of an answer. -/
def toDatum : Answer → Datum
  | .bool b => .bool b
  | .number x => .float x
  | .text s => .text s

end Answer

/-- Answers by the names of their fields. -/
abbrev AnswerSet := NameMap Answer

namespace AnswerSet

/-- The text of a field's answer. -/
def display? (answers : AnswerSet) (name : String) : Option String :=
  (answers.get? name).map Answer.display

/-- The record of all answers. -/
def toDatum (answers : AnswerSet) : Datum :=
  .record (answers.entries.map fun (name, answer) => (name, answer.toDatum))

end AnswerSet

end SiteBuilder
