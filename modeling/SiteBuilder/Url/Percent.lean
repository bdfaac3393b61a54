import SiteBuilder.Text.Utf8

/-!
# Percent-encoding

A character outside the set that a part of an address allows is written as its UTF-8 bytes, each as a
percent sign and two hexadecimal digits. Every set excludes controls and all that is not ASCII.
-/

namespace SiteBuilder.Url

open SiteBuilder.Text

/-- A hexadecimal digit in capital letters. -/
def hexChar (n : Nat) : Char := if n < 10 then Char.ofNat (48 + n) else Char.ofNat (55 + n)

/-- A byte as a percent sign and two digits. -/
def percentByte (b : UInt8) : List Char := ['%', hexChar (b.toNat / 16), hexChar (b.toNat % 16)]

/-- Encode the characters that are in `set`, and all controls and characters beyond ASCII. -/
def percentEncode (set : List Char) (cs : List Char) : List Char :=
  cs.flatMap fun c =>
    if c.toNat < 0x20 || 0x7F ≤ c.toNat || set.contains c then (Utf8.encodeChar c).flatMap percentByte
    else [c]

/-- What is encoded in a fragment. -/
def fragmentSet : List Char := [' ', '"', '<', '>', '\x60']

/-- What is encoded in a path. -/
def pathSet : List Char := fragmentSet ++ ['#', '?', '\x7b', '\x7d']

/-- What is encoded in a path segment that is added on its own. -/
def segmentSet : List Char := pathSet ++ ['/', '%']

/-- What is encoded in the name and the password of a user. -/
def userSet : List Char := pathSet ++ ['/', ':', ';', '=', '@', '[', '\\', ']', '^', '|']

/-- What is encoded in a query. -/
def querySet : List Char := [' ', '"', '#', '<', '>']

/-- The value of a hexadecimal digit. -/
def hexDigit? (c : Char) : Option Nat :=
  if c.isDigit then some (c.toNat - 48)
  else if 'a' ≤ c ∧ c ≤ 'f' then some (c.toNat - 87)
  else if 'A' ≤ c ∧ c ≤ 'F' then some (c.toNat - 55)
  else none

/-- The bytes of a text in which percent signs with two digits behind them stand for bytes. -/
def percentDecode : List Char → List UInt8
  | '%' :: a :: b :: rest =>
    match hexDigit? a, hexDigit? b with
    | some x, some y => .ofNat (16 * x + y) :: percentDecode rest
    | _, _ => Utf8.encodeChar '%' ++ percentDecode (a :: b :: rest)
  | c :: rest => Utf8.encodeChar c ++ percentDecode rest
  | [] => []

/-- The encoding of form values: letters, digits and `*-._` stay, and a space becomes a plus. -/
def formEncode (s : String) : List Char :=
  (Utf8.encodeText s).flatMap fun b =>
    let c := Char.ofNat b.toNat
    if b = 0x20 then ['+']
    else if b.toNat < 0x80 && (c.isAlphanum || ['*', '-', '.', '_'].contains c) then [c]
    else percentByte b

end SiteBuilder.Url
