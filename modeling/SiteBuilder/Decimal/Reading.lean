/-!
# Reading numbers

The value of decimal digits is rounded to the nearest float. `readFloat` reads an optional sign,
digits with an optional fraction and exponent, or one of the words for infinity and for no number.
-/

namespace SiteBuilder.Decimal

/-- Append the value of one digit. -/
def pushDigit (n : Nat) (c : Char) : Nat := 10 * n + (c.toNat - 48)

/-- The number a list of digits denotes. -/
def digitsValue (digits : List Char) : Nat := digits.foldl pushDigit 0

/-- The float nearest to `significand * 10 ^ exponent`. Numbers that are far above the greatest
float or below half the least are settled by their number of digits. -/
def nearestFloat (significand : Nat) (exponent : Int) : Float :=
  if significand = 0 then 0.0
  else
    let size := ((Nat.toDigits 10 significand).length : Int) + exponent
    if 310 < size then 1.0 / 0.0
    else if size < -330 then 0.0
    else if exponent < 0 then Float.ofScientific significand true exponent.natAbs
    else Float.ofScientific significand false exponent.natAbs

/-- The parts of a list before and from the first character that is not a digit. -/
def spanDigits (cs : List Char) : List Char × List Char := (cs.takeWhile Char.isDigit, cs.dropWhile Char.isDigit)

/-- The exponent at the end of a number; an absent one is zero. -/
def readExponent : List Char → Option Int
  | [] => some 0
  | e :: rest =>
    if e = 'e' ∨ e = 'E' then
      let (negative, rest) :=
        match rest with
        | '-' :: rest => (true, rest)
        | '+' :: rest => (false, rest)
        | rest => (false, rest)
      let (digits, rest) := spanDigits rest
      if digits.isEmpty ∨ ¬ rest.isEmpty then none
      else
        let size : Int := digitsValue digits
        some (if negative then -size else size)
    else none

/-- A number without a sign. -/
def readUnsigned (cs : List Char) : Option Float :=
  let (whole, rest) := spanDigits cs
  let (fraction, rest) :=
    match rest with
    | '.' :: rest => spanDigits rest
    | rest => ([], rest)
  if whole.isEmpty ∧ fraction.isEmpty then none
  else
    (readExponent rest).map fun exponent =>
      nearestFloat (digitsValue (whole ++ fraction)) (exponent - fraction.length)

/-- The words for what is not finite, in any case. -/
def readWord (cs : List Char) : Option Float :=
  let word := String.ofList (cs.map Char.toLower)
  if word = "inf" ∨ word = "infinity" then some (1.0 / 0.0)
  else if word = "nan" then some (0.0 / 0.0)
  else none

/-- The float a text denotes. -/
def readFloat (cs : List Char) : Option Float :=
  let (negative, rest) :=
    match cs with
    | '-' :: rest => (true, rest)
    | '+' :: rest => (false, rest)
    | cs => (false, cs)
  let size := (readUnsigned rest).orElse fun _ => readWord rest
  size.map fun x => if negative then -x else x

end SiteBuilder.Decimal
