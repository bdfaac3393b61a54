import SiteBuilder.Datum.Basic
import SiteBuilder.Decimal.Reading

/-!
# The kind of a plain scalar

A scalar without quotes is read as a number, a truth value or nothing where one of these is
expected. Where anything may stand, it is the first of: nothing, a truth value, a whole number, any
other number, a text.
-/

namespace SiteBuilder.Datum.Plain

open Decimal

/-- The words for no value. -/
def isNull (s : String) : Bool := s == "null" || s == "Null" || s == "NULL" || s == "~"

/-- The words for truth values. -/
def bool? (s : String) : Option Bool :=
  if s = "true" ∨ s = "True" ∨ s = "TRUE" then some true
  else if s = "false" ∨ s = "False" ∨ s = "FALSE" then some false
  else none

/-- The value of a digit up to `f`. -/
def digit? (base : Nat) (c : Char) : Option Nat :=
  let n :=
    if '0' ≤ c ∧ c ≤ '9' then c.toNat - 48
    else if 'a' ≤ c ∧ c ≤ 'z' then c.toNat - 87
    else if 'A' ≤ c ∧ c ≤ 'Z' then c.toNat - 55
    else base
  if n < base then some n else none

/-- The number of one or more digits in a base. -/
def digits? (base : Nat) (cs : List Char) : Option Nat :=
  if cs.isEmpty then none
  else cs.foldl (fun acc c => acc.bind fun n => (digit? base c).map (n * base + ·)) (some 0)

/-- Whether the scalar has more than one digit and starts with a zero: such a scalar is a text. -/
def isPaddedNumber (cs : List Char) : Bool :=
  let cs :=
    match cs with
    | '-' :: rest => rest
    | '+' :: rest => rest
    | cs => cs
  match cs with
  | '0' :: rest => !rest.isEmpty && rest.all Char.isDigit
  | _ => false

/-- The size of a whole number without a minus sign: hexadecimal, octal, binary or decimal. -/
def size? (cs : List Char) : Option Nat :=
  match cs with
  | '0' :: 'x' :: rest => digits? 16 rest
  | '0' :: 'o' :: rest => digits? 8 rest
  | '0' :: 'b' :: rest => digits? 2 rest
  | cs => if isPaddedNumber cs then none else digits? 10 cs

/-- The whole number of a scalar, with an optional sign. -/
def int? (s : String) : Option Int :=
  match s.toList with
  | '-' :: rest => (size? rest).map fun n => -(n : Int)
  | '+' :: rest => (size? rest).map fun n => (n : Int)
  | cs => (size? cs).map fun n => (n : Int)

/-- The number of a scalar that need not be whole. The words for infinity and for no number start
with a point. -/
def float? (s : String) : Option Float :=
  let unsigned : Option (List Char) :=
    match s.toList with
    | '+' :: rest => if rest.head? = some '+' ∨ rest.head? = some '-' then none else some rest
    | cs => some cs
  match unsigned with
  | none => none
  | some cs =>
    let word := String.ofList cs
    if word = ".inf" ∨ word = ".Inf" ∨ word = ".INF" then some (1.0 / 0.0)
    else if s = "-.inf" ∨ s = "-.Inf" ∨ s = "-.INF" then some (-1.0 / 0.0)
    else if s = ".nan" ∨ s = ".NaN" ∨ s = ".NAN" then some (0.0 / 0.0)
    else
      match readFloat cs with
      | some x => if x.isFinite then some x else none
      | none => none

/-- The value of a whole number. Those that fit 128 bits but not 64 have none. -/
def wholeNumber? (s : String) : Option Datum :=
  ((int? s).filter fun n => -(Nat.pow 2 127 : Int) ≤ n ∧ n < (Nat.pow 2 128 : Int)).map fun n =>
    if -(Nat.pow 2 63 : Int) ≤ n ∧ n < (Nat.pow 2 64 : Int) then .int n else .unreadable

/-- The value of a plain scalar where any value may stand. -/
def value (s : String) : Datum :=
  if s = "" ∨ isNull s then .null
  else
    match bool? s with
    | some b => .bool b
    | none =>
      match wholeNumber? s with
      | some n => n
      | none =>
        if isPaddedNumber s.toList then .text s
        else
          match float? s with
          | some x => .float x
          | none => .text s

/-- The value of a scalar with a tag where any value may stand. -/
def taggedValue (s : String) : Tag → Datum
  | .null => if isNull s then .null else .unreadable
  | .bool => ((bool? s).map .bool).getD .unreadable
  | .int => (wholeNumber? s).getD .unreadable
  | .float => ((float? s).map .float).getD .unreadable
  | .other => .text s
  | .named _ => .unreadable

end SiteBuilder.Datum.Plain
