import SiteBuilder.Datum.Basic
import SiteBuilder.Decimal.Reading

/-!
# Numbers in JSON

A whole number that fits 64 bits, signed or unsigned, is kept exactly. Every other number becomes
the float that its leading digits, as many as fit 64 bits, give when multiplied or divided by a
power of ten in float arithmetic; a number too large for that has no value.
-/

namespace SiteBuilder.Json

open Decimal

/-- Add digits while the number fits 64 bits; the digits left over are returned. -/
def accumulate : Nat → List Char → Nat × List Char
  | n, [] => (n, [])
  | n, c :: cs => if pushDigit n c < Nat.pow 2 64 then accumulate (pushDigit n c) cs else (n, c :: cs)

/-- Multiply by a power of ten, in steps that a float can hold. A result above all floats is
refused. -/
def scaleFloat : Nat → Float → Int → Option Float
  | 0, x, _ => some x
  | steps + 1, x, exponent =>
    if exponent.natAbs ≤ 308 then
      let power := nearestFloat 1 exponent.natAbs
      if 0 ≤ exponent then
        let product := x * power
        if product.isInf then none else some product
      else some (x / power)
    else if x == 0.0 then some x
    else if 0 < exponent then none
    else scaleFloat steps (x / nearestFloat 1 308) (exponent + 308)

/-- The value of a number's parts. -/
def numberValue (negative : Bool) (whole : List Char) (fraction : List Char) (exponent : Int) : Datum :=
  let (significand, skipped) := accumulate 0 whole
  let (significand, unused) := accumulate significand fraction
  let scale := exponent + skipped.length - (fraction.length - unused.length : Nat)
  match scaleFloat 4 (nearestFloat significand 0) scale with
  | some x => .float (if negative then -x else x)
  | none => .unreadable

/-- The value of a whole number without an exponent. -/
def wholeValue (negative : Bool) (whole : List Char) : Datum :=
  let n : Nat := digitsValue whole
  if negative then
    if 0 < n ∧ n ≤ Nat.pow 2 63 then .int (-n) else numberValue true whole [] 0
  else if n < Nat.pow 2 64 then .int n
  else numberValue false whole [] 0

/-- Read a number: no leading zeros, and digits on both sides of a point. -/
def readNumber (cs : List Char) : Option (Datum × List Char) :=
  let (negative, rest) :=
    match cs with
    | '-' :: rest => (true, rest)
    | cs => (false, cs)
  let (whole, rest) := spanDigits rest
  if whole.isEmpty ∨ (whole.head? = some '0' ∧ 1 < whole.length) then none
  else
    let (fraction, rest) : Option (List Char) × List Char :=
      match rest with
      | '.' :: rest => ((spanDigits rest).map some id)
      | rest => (none, rest)
    let (exponent, rest) : Option (Bool × List Char) × List Char :=
      match rest with
      | e :: rest' =>
        if e = 'e' ∨ e = 'E' then
          let (negative, rest') :=
            match rest' with
            | '-' :: rest' => (true, rest')
            | '+' :: rest' => (false, rest')
            | rest' => (false, rest')
          let (digits, rest') := spanDigits rest'
          (some (negative, digits), rest')
        else (none, rest)
      | [] => (none, rest)
    if fraction = some [] then none
    else
      match exponent with
      | some (_, []) => none
      | some (negativeExponent, digits) =>
        let size : Int := digitsValue digits
        let size := if negativeExponent then -size else size
        some (numberValue negative whole (fraction.getD []) size, rest)
      | none =>
        match fraction with
        | some digits => some (numberValue negative whole digits 0, rest)
        | none => some (wholeValue negative whole, rest)

end SiteBuilder.Json
