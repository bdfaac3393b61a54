/-!
# Document values

A `Datum` is what a JSON or YAML text holds before it is given a type. Three of its forms come only
from reading: a `plain` scalar, whose kind depends on what is expected in its place, a `tagged` value,
whose document says what kind it is of, and an `unreadable` value, which a document may hold only where
nobody looks at it.
-/

namespace SiteBuilder

/-- What a document says about the kind of a value. -/
inductive Tag where
  /-- No value. -/
  | null
  /-- A truth value. -/
  | bool
  /-- A whole number. -/
  | int
  /-- A number. -/
  | float
  /-- Another kind of the language, by which a scalar is a text. -/
  | other
  /-- A kind of the document's own. -/
  | named (name : String)
  deriving DecidableEq

/-- A value of a structured document. -/
inductive Datum where
  /-- No value. -/
  | null
  /-- A truth value. -/
  | bool (b : Bool)
  /-- A whole number written without a fraction or an exponent. -/
  | int (n : Int)
  /-- Any other number. -/
  | float (x : Float)
  /-- A text. -/
  | text (s : String)
  /-- A list, which may also give the fields of a record in the order of their declaration. -/
  | list (items : List Datum)
  /-- A record. -/
  | record (entries : List (String × Datum))
  /-- A scalar without quotes, to be read as whatever is expected. -/
  | plain (s : String)
  /-- A list that never stands for a record. -/
  | sequence (items : List Datum)
  /-- A value with its kind. -/
  | tagged (tag : Tag) (value : Datum)
  /-- A well-formed text without a value: a number out of range, half a surrogate pair, a key that
  is no text, or nesting that is too deep. -/
  | unreadable
  deriving Inhabited

namespace Datum

/-- An optional value: `null` if absent. -/
def ofOption {α : Type} (f : α → Datum) : Option α → Datum
  | none => .null
  | some a => f a

end Datum

end SiteBuilder
