/-!
# Base64

Three bytes are written as four symbols of six bits each. A shorter ending is filled up with `=`, and
the bits of its last symbol that stand for nothing are zero. Only this form is read; any other is
refused with the place of what is wrong with it.
-/

namespace SiteBuilder.Text.Base64

/-- What is wrong with an encoded text. -/
inductive Fault where
  /-- A byte that is no symbol, or padding where there may be none. -/
  | symbol (byte : UInt8) (offset : Nat)
  /-- An ending of one symbol. -/
  | length (n : Nat)
  /-- A last symbol with bits that stand for nothing. -/
  | lastSymbol (byte : UInt8) (offset : Nat)
  /-- Padding that does not fill up the ending. -/
  | padding
  deriving DecidableEq

/-- The wording of a fault. -/
def Fault.message : Fault → String
  | .symbol byte offset =>
    "Invalid symbol " ++ toString byte.toNat ++ ", offset " ++ toString offset ++ "."
  | .length n => "Invalid input length: " ++ toString n
  | .lastSymbol byte offset =>
    "Invalid last symbol " ++ toString byte.toNat ++ ", offset " ++ toString offset ++ "."
  | .padding => "Invalid padding"

/-- The symbol of six bits. -/
def symbol (n : Nat) : Char :=
  if n < 26 then Char.ofNat (65 + n)
  else if n < 52 then Char.ofNat (71 + n)
  else if n < 62 then Char.ofNat (n - 4)
  else if n = 62 then '+'
  else '/'

/-- The six bits of a symbol. -/
def symbolValue? (b : UInt8) : Option Nat :=
  let n := b.toNat
  if 65 ≤ n ∧ n ≤ 90 then some (n - 65)
  else if 97 ≤ n ∧ n ≤ 122 then some (n - 71)
  else if 48 ≤ n ∧ n ≤ 57 then some (n + 4)
  else if n = 43 then some 62
  else if n = 47 then some 63
  else none

/-- The byte of `=`. -/
def pad : UInt8 := 61

/-- The text of bytes. -/
def encode : List UInt8 → List Char
  | [] => []
  | [a] => [symbol (a.toNat / 4), symbol (a.toNat % 4 * 16), '=', '=']
  | [a, b] =>
    [symbol (a.toNat / 4), symbol (a.toNat % 4 * 16 + b.toNat / 16), symbol (b.toNat % 16 * 4), '=']
  | a :: b :: c :: rest =>
    symbol (a.toNat / 4) :: symbol (a.toNat % 4 * 16 + b.toNat / 16) ::
      symbol (b.toNat % 16 * 4 + c.toNat / 64) :: symbol (c.toNat % 64) :: encode rest

/-- The values of symbols, the first of which is at `offset`. -/
def readSymbols (offset : Nat) : List UInt8 → Except Fault (List Nat)
  | [] => .ok []
  | b :: rest =>
    match symbolValue? b with
    | none => .error (.symbol b offset)
    | some n => (readSymbols (offset + 1) rest).map (n :: ·)

/-- The bytes that the values of symbols make up. -/
def bytesOf : List Nat → List UInt8
  | a :: b :: c :: d :: rest =>
    .ofNat (a * 4 + b / 16) :: .ofNat (b % 16 * 16 + c / 4) :: .ofNat (c % 4 * 64 + d) :: bytesOf rest
  | [a, b, c] => [.ofNat (a * 4 + b / 16), .ofNat (b % 16 * 16 + c / 4)]
  | [a, b] => [.ofNat (a * 4 + b / 16)]
  | _ => []

/-- Whether the last of an ending's values has bits that stand for nothing. -/
def hasSpareBits : List Nat → Bool
  | [_, b] => b % 16 != 0
  | [_, _, c] => c % 4 != 0
  | _ => false

/-- Read the ending of a text: one to four bytes, the first of which is at `offset`. -/
def decodeEnding (offset : Nat) (ending : List UInt8) : Except Fault (List UInt8) := do
  let symbols := ending.takeWhile (· != pad)
  let padding := ending.dropWhile (· != pad)
  let values ← readSymbols offset symbols
  if !padding.isEmpty && (symbols.length < 2 || padding.any (· != pad)) then
    .error (.symbol pad (offset + symbols.length))
  if symbols.length < 2 then .error (.length (offset + symbols.length))
  if ending.length ≠ 4 then .error .padding
  if hasSpareBits values then
    .error (.lastSymbol (symbols.getLastD pad) (offset + symbols.length - 1))
  return bytesOf values

/-- The bytes of an encoded text. A last byte that is no symbol and is alone after groups of four is
found first. -/
def decode (encoded : List UInt8) : Except Fault (List UInt8) := do
  if encoded.isEmpty then return []
  let rest := encoded.length % 4
  let last := encoded.getLastD pad
  if rest = 1 ∧ last ≠ pad ∧ symbolValue? last = none then
    .error (.symbol last (encoded.length - 1))
  let whole := encoded.length - (if rest = 0 then 4 else rest)
  let values ← readSymbols 0 (encoded.take whole)
  return bytesOf values ++ (← decodeEnding whole (encoded.drop whole))

end SiteBuilder.Text.Base64
