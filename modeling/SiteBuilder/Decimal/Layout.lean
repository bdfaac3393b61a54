import SiteBuilder.Decimal.Shortest

/-!
# Number texts

A `Layout` says how the shortest digits of a float become text: which of two equally near decimals
is taken, where positional notation ends, whether a whole number shows a fraction, and the words
for what is not finite.
-/

namespace SiteBuilder.Decimal

/-- How a float is written. -/
structure Layout where
  /-- Which of two equally near decimals is written. -/
  tie : Tie
  /-- Numbers of size `10 ^ fst` up to below `10 ^ snd` are positional, others show an exponent;
  `none`: all are positional. -/
  positional : Option (Int × Int)
  /-- Whether whole numbers end in `.0`. -/
  showsFraction : Bool
  /-- Whether an exponent that is not negative has a sign. -/
  signsExponent : Bool
  /-- What is written for no number. -/
  notANumber : String
  /-- What is written for infinity, and with a sign for its negative. -/
  infinity : String
  /-- What is written for minus infinity. -/
  minusInfinity : String

/-- Numbers in messages and pages: never an exponent, and no fraction on a whole number. A tie goes
up. -/
def Layout.shown : Layout := ⟨.up, none, false, false, "NaN", "inf", "-inf"⟩

/-- Numbers in JSON: positional from `0.00001` up to below `10 ^ 16` with at least one decimal, and
`null` for what is not finite. A tie goes to the even digit. -/
def Layout.json : Layout := ⟨.even, some (-5, 16), true, true, "null", "null", "null"⟩

/-- Numbers that a template prints: never an exponent, and at least one decimal. -/
def Layout.printed : Layout := ⟨.up, none, true, false, "NaN", "inf", "-inf"⟩

/-- Numbers inside a list or a record that a template prints: positional from `0.0001` up to below
`10 ^ 16`. -/
def Layout.nested : Layout := ⟨.up, some (-4, 16), true, false, "NaN", "inf", "-inf"⟩

/-- The decimal digits of a natural number. -/
def digitsOf (n : Nat) : List Char := Nat.toDigits 10 n

/-- Positional notation of digits with the decimal point after the first `point` of them; `point`
may lie outside the digits. -/
def positionalText (showsFraction : Bool) (digits : List Char) (point : Int) : List Char :=
  if point ≤ 0 then
    '0' :: '.' :: (List.replicate (-point).toNat '0' ++ digits)
  else
    let whole := digits.take point.toNat
    let fraction := digits.drop point.toNat
    let whole := whole ++ List.replicate (point.toNat - digits.length) '0'
    if fraction.isEmpty then (if showsFraction then whole ++ ['.', '0'] else whole)
    else whole ++ '.' :: fraction

/-- Scientific notation: one digit before the point, and an exponent. -/
def scientificText (signsExponent : Bool) (digits : List Char) (point : Int) : List Char :=
  let exponent := point - 1
  let sign := if exponent < 0 then ['-'] else if signsExponent then ['+'] else []
  let power := 'e' :: (sign ++ digitsOf exponent.natAbs)
  match digits with
  | [] => power
  | [d] => d :: power
  | d :: rest => d :: '.' :: (rest ++ power)

/-- The text of a positive or zero decimal. -/
def Layout.digitsText (layout : Layout) (d : Digits) : List Char :=
  if d.significand = 0 then (if layout.showsFraction then ['0', '.', '0'] else ['0'])
  else
    let digits := digitsOf d.significand
    let point := (digits.length : Int) + d.exponent
    match layout.positional with
    | none => positionalText layout.showsFraction digits point
    | some (least, most) =>
      if least < point ∧ point ≤ most then positionalText layout.showsFraction digits point
      else scientificText layout.signsExponent digits point

/-- The text of a float. The sign of zero is kept. -/
def Layout.text (layout : Layout) (x : Float) : String :=
  if x.isNaN then layout.notANumber
  else
    let negative := x.toBits.toNat / Nat.pow 2 63 == 1
    if x.isInf then (if negative then layout.minusInfinity else layout.infinity)
    else
      let digits := layout.digitsText ((Dyadic.ofFloat x).shortest layout.tie)
      String.ofList (if negative then '-' :: digits else digits)

end SiteBuilder.Decimal
