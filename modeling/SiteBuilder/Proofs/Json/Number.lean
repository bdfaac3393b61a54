import Mathlib.Data.List.Basic
import SiteBuilder.Json.Number

/-!
# Numbers in front of other text

A number is read up to the first character that cannot belong to it. So what is read of a text stays the same when
the text is continued by such a character, and what follows is left over.
-/

namespace SiteBuilder.Json

open Decimal

/-- No number goes on with the characters. -/
def EndsNumber : List Char → Prop
  | [] => True
  | c :: _ => c.isDigit = false ∧ c ∉ ['.', 'e', 'E', '-', '+']

/-! ## The parts of a number -/

/-- Whether a number is negative, and what follows its sign. -/
def readSign (cs : List Char) : Bool × List Char :=
  match cs with
  | '-' :: rest => (true, rest)
  | cs => (false, cs)

/-- The digits behind a point, if there is one, and what follows them. -/
def readFraction (cs : List Char) : Option (List Char) × List Char :=
  match cs with
  | '.' :: rest => (spanDigits rest).map some id
  | rest => (none, rest)

/-- Whether an exponent is negative, and what follows its sign. -/
def readPowerSign (cs : List Char) : Bool × List Char :=
  match cs with
  | '-' :: rest => (true, rest)
  | '+' :: rest => (false, rest)
  | rest => (false, rest)

/-- The sign of an exponent and its digits, if there is one, and what follows them. -/
def readPower (cs : List Char) : Option (Bool × List Char) × List Char :=
  match cs with
  | e :: rest =>
    if e = 'e' ∨ e = 'E' then
      let (negative, rest) := readPowerSign rest
      let (digits, rest) := spanDigits rest
      (some (negative, digits), rest)
    else (none, cs)
  | [] => (none, cs)

/-- The number of its parts, if there is one, and what is left over. -/
def ofNumberParts (negative : Bool) (whole : List Char) (fraction : Option (List Char))
    (exponent : Option (Bool × List Char)) (rest : List Char) : Option (Datum × List Char) :=
  if fraction = some [] then none
  else
    match exponent with
    | some (_, []) => none
    | some (negativeExponent, digits) =>
      let size : Int := digitsValue digits
      let size := if negativeExponent then -size else size
      some (numberValue negative whole (fraction.getD []) size, rest)
    | none =>
      match fraction with
      | some digits => some (numberValue negative whole digits 0, rest)
      | none => some (wholeValue negative whole, rest)

/-- A number is read part by part. -/
theorem readNumber_eq (cs : List Char) :
    readNumber cs =
      let (negative, rest) := readSign cs
      let (whole, rest) := spanDigits rest
      if whole.isEmpty ∨ (whole.head? = some '0' ∧ 1 < whole.length) then none
      else
        let (fraction, rest) := readFraction rest
        let (exponent, rest) := readPower rest
        ofNumberParts negative whole fraction exponent rest := by
  unfold readNumber
  rfl

/-! ## Numbers that are continued -/

variable {tail : List Char}

/-- Digits are read up to the first character that is none. -/
theorem spanDigits_append (h : EndsNumber tail) (cs : List Char) :
    spanDigits (cs ++ tail) = ((spanDigits cs).1, (spanDigits cs).2 ++ tail) := by
  induction cs with
  | nil =>
    cases tail with
    | nil => rfl
    | cons c tail => simp [spanDigits, h.1]
  | cons c cs ih =>
    simp only [spanDigits, Prod.mk.injEq] at ih ⊢
    by_cases hdigit : c.isDigit = true
    · simp [hdigit, ih]
    · simp [hdigit]

/-- A sign is read as before. -/
theorem readSign_append (h : EndsNumber tail) (cs : List Char) :
    readSign (cs ++ tail) = ((readSign cs).1, (readSign cs).2 ++ tail) := by
  unfold readSign
  cases cs with
  | nil =>
    cases tail with
    | nil => rfl
    | cons c tail =>
      have hminus : c ≠ '-' := by rintro rfl; simp [EndsNumber] at h
      simp [hminus]
  | cons c cs =>
    by_cases hminus : c = '-'
    · simp [hminus]
    · simp [hminus]

/-- A fraction is read as before. -/
theorem readFraction_append (h : EndsNumber tail) (cs : List Char) :
    readFraction (cs ++ tail) = ((readFraction cs).1, (readFraction cs).2 ++ tail) := by
  unfold readFraction
  cases cs with
  | nil =>
    cases tail with
    | nil => rfl
    | cons c tail =>
      have hpoint : c ≠ '.' := by rintro rfl; simp [EndsNumber] at h
      simp [hpoint]
  | cons c cs =>
    by_cases hpoint : c = '.'
    · simp [hpoint, spanDigits_append h]
    · simp [hpoint]

/-- The sign of an exponent is read as before. -/
theorem readPowerSign_append (h : EndsNumber tail) (cs : List Char) :
    readPowerSign (cs ++ tail) = ((readPowerSign cs).1, (readPowerSign cs).2 ++ tail) := by
  unfold readPowerSign
  cases cs with
  | nil =>
    cases tail with
    | nil => rfl
    | cons c tail =>
      have hminus : c ≠ '-' := by rintro rfl; simp [EndsNumber] at h
      have hplus : c ≠ '+' := by rintro rfl; simp [EndsNumber] at h
      simp [hminus, hplus]
  | cons c cs =>
    by_cases hminus : c = '-'
    · simp [hminus]
    · by_cases hplus : c = '+'
      · simp [hplus]
      · simp [hminus, hplus]

/-- An exponent is read as before. -/
theorem readPower_append (h : EndsNumber tail) (cs : List Char) :
    readPower (cs ++ tail) = ((readPower cs).1, (readPower cs).2 ++ tail) := by
  unfold readPower
  cases cs with
  | nil =>
    cases tail with
    | nil => rfl
    | cons c tail =>
      have he : ¬(c = 'e' ∨ c = 'E') := by rintro (rfl | rfl) <;> simp [EndsNumber] at h
      simp [he]
  | cons e cs =>
    by_cases he : e = 'e' ∨ e = 'E'
    · simp [he, readPowerSign_append h, spanDigits_append h]
    · simp [he]

/-- A number is read as before, and what continues it is left over. -/
theorem readNumber_append (h : EndsNumber tail) (cs : List Char) :
    readNumber (cs ++ tail) = (readNumber cs).map fun (value, rest) => (value, rest ++ tail) := by
  rw [readNumber_eq, readNumber_eq, readSign_append h]
  rcases readSign cs with ⟨negative, rest⟩
  simp only [spanDigits_append h]
  rcases spanDigits rest with ⟨whole, rest⟩
  simp only [readFraction_append h]
  rcases readFraction rest with ⟨fraction, rest⟩
  simp only [readPower_append h]
  rcases readPower rest with ⟨exponent, rest⟩
  simp only [ofNumberParts]
  by_cases hwhole : whole.isEmpty = true ∨ whole.head? = some '0' ∧ 1 < whole.length
  · simp only [if_pos hwhole, Option.map_none]
  simp only [if_neg hwhole]
  by_cases hfraction : fraction = some []
  · simp only [if_pos hfraction, Option.map_none]
  simp only [if_neg hfraction]
  rcases exponent with - | ⟨negative, - | ⟨digit, digits⟩⟩
  · cases fraction <;> rfl
  · rfl
  · rfl

/-- A number starts with its sign or with a digit. -/
theorem head_of_readNumber {cs : List Char} {read : Datum × List Char} (h : readNumber cs = some read) :
    ∃ c rest, cs = c :: rest ∧ (c = '-' ∨ c.isDigit = true) := by
  cases cs with
  | nil => cases h
  | cons c rest =>
    refine ⟨c, rest, rfl, Decidable.byContradiction fun hother => ?_⟩
    obtain ⟨hminus, hdigit⟩ := not_or.mp hother
    simp [readNumber_eq, readSign, hminus, spanDigits, hdigit] at h

end SiteBuilder.Json
