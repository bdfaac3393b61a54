import SiteBuilder.Text.Letter
import SiteBuilder.Text.Case
import SiteBuilder.Url.Percent

/-!
# Domain names

`Domain.toAscii?` brings a name into the form in which it is looked up. Letters become small, wide
forms become those of ASCII, and a label with other characters is written with `xn--` and the
Punycode of its characters.
-/

namespace SiteBuilder.Url.Domain

open SiteBuilder.Text

/-- Characters that disappear from names. -/
def isIgnored (n : Nat) : Bool :=
  n == 0xAD || n == 0x34F || n == 0x200B || n == 0x2060 || n == 0x2064 || n == 0xFEFF ||
  (0x180B ≤ n && n ≤ 0x180F && n != 0x180E) || (0xFE00 ≤ n && n ≤ 0xFE0F) || (0xE0100 ≤ n && n ≤ 0xE01EF)

/-- What a character becomes in a name; `none` if it may not occur. -/
def mapChar (c : Char) : Option (List Char) :=
  let n := c.toNat
  if n < 128 then some [c.toLower]
  else if isIgnored n then some []
  else if n = 0x3002 ∨ n = 0xFF0E ∨ n = 0xFF61 then some ['.']
  else if 0xFF01 ≤ n ∧ n ≤ 0xFF5E then some [(Char.ofNat (n - 0xFEE0)).toLower]
  else if n = 0x1E9E then some ['s', 's']
  else if n = 0xDF ∨ n = 0x3C2 then some [c]
  else
    match categoryOf n with
    | "Cc" | "Cf" | "Cs" | "Co" | "Cn" | "Zs" | "Zl" | "Zp" => none
    | _ => some (lower (Char.ofNat (foldCase n)))

/-- Characters of ASCII that may not occur in a name. -/
def isForbidden (c : Char) : Bool :=
  c.toNat ≤ 0x20 || c.toNat == 0x7F || "%#/:<>?@[\\]^|".toList.contains c

/-! ## Punycode -/

/-- The digit of a value below 36. -/
def digitChar (n : Nat) : Char := if n < 26 then Char.ofNat (97 + n) else Char.ofNat (22 + n)

/-- The value of a digit. -/
def digitValue? (c : Char) : Option Nat :=
  if c.isLower then some (c.toNat - 97)
  else if c.isUpper then some (c.toNat - 65)
  else if c.isDigit then some (c.toNat - 22)
  else none

/-- Halve a distance until it is small enough for the next digits. -/
def settleBias : Nat → Nat → Nat → Nat
  | 0, delta, k => k + 36 * delta / (delta + 38)
  | steps + 1, delta, k => if 455 < delta then settleBias steps (delta / 35) (k + 36) else k + 36 * delta / (delta + 38)

/-- The bias after a distance has been written. -/
def adapt (delta count : Nat) (isFirst : Bool) : Nat :=
  let delta := if isFirst then delta / 700 else delta / 2
  settleBias 64 (delta + delta / count) 0

/-- The threshold of the digit at place `k`. -/
def threshold (k bias : Nat) : Nat := if k ≤ bias + 1 then 1 else if bias + 26 ≤ k then 26 else k - bias

/-- The digits of a distance. -/
def writeDelta (bias : Nat) : Nat → Nat → Nat → List Char
  | 0, q, _ => [digitChar (q % 36)]
  | steps + 1, q, k =>
    let t := threshold k bias
    if q < t then [digitChar q]
    else digitChar (t + (q - t) % (36 - t)) :: writeDelta bias steps ((q - t) / (36 - t)) (k + 36)

/-- The state of writing a label. -/
structure Writing where
  delta : Nat
  bias : Nat
  handled : Nat
  out : List Char

/-- Write the places of one code point, going once over the label. -/
def writePoint (point basics : Nat) (w : Writing) (cs : List Char) : Writing :=
  let w := cs.foldl (fun w c =>
    if c.toNat < point then { w with delta := w.delta + 1 }
    else if c.toNat = point then
      ⟨0, adapt w.delta (w.handled + 1) (w.handled == basics), w.handled + 1,
        w.out ++ writeDelta w.bias 64 w.delta 36⟩
    else w) w
  { w with delta := w.delta + 1 }

/-- The Punycode of a label. -/
def punycode (cs : List Char) : List Char :=
  let basic := cs.filter (·.toNat < 128)
  let points := ((cs.filter (128 ≤ ·.toNat)).map Char.toNat).mergeSort.eraseDups
  let start : Writing := ⟨0, 72, basic.length, if basic.isEmpty then [] else basic ++ ['-']⟩
  let (_, w) := points.foldl (fun (previous, w) point =>
    let w := { w with delta := w.delta + (point - previous) * (w.handled + 1) }
    (point + 1, writePoint point basic.length w cs)) (128, start)
  w.out

/-- Read one distance: its value and the digits behind it. -/
def readDelta (bias : Nat) : Nat → List Char → (weight k i : Nat) → Option (Nat × List Char)
  | 0, _, _, _, _ => none
  | _, [], _, _, _ => none
  | steps + 1, c :: rest, weight, k, i =>
    match digitValue? c with
    | none => none
    | some d =>
      let i := i + d * weight
      let t := threshold k bias
      if d < t then some (i, rest) else readDelta bias steps rest (weight * (36 - t)) (k + 36) i

/-- Read the characters beyond ASCII into a label. -/
def readPoints : Nat → List Char → (n i bias : Nat) → List Char → Option (List Char)
  | 0, _, _, _, _, _ => none
  | _, [], _, _, _, out => some out
  | fuel + 1, cs, n, i, bias, out =>
    match readDelta bias (cs.length + 1) cs 1 36 i with
    | none => none
    | some (next, rest) =>
      let size := out.length + 1
      let n := n + next / size
      if h : n.isValidChar then
        let place := next % size
        readPoints fuel rest n (place + 1) (adapt (next - i) size (i == 0))
          (out.take place ++ Char.ofNatAux n h :: out.drop place)
      else none

/-- The label a Punycode denotes. -/
def unpunycode? (cs : List Char) : Option (List Char) :=
  let behind := (cs.reverse.takeWhile (· != '-')).reverse
  let basic := cs.take (cs.length - behind.length - 1)
  if behind.length = cs.length then readPoints (cs.length + 1) cs 128 0 72 []
  else readPoints (cs.length + 1) behind 128 0 72 basic

/-! ## Names -/

/-- Whether a label beyond ASCII may stand in a name: it does not start with a mark, and every
character is its own mapping. -/
def isValidLabel (cs : List Char) : Bool :=
  cs.all (fun c => mapChar c == some [c]) &&
    match cs with
    | c :: _ => c.toNat < 128 || !(["Mn", "Mc", "Me"].contains (categoryOf c.toNat))
    | [] => true

/-- A label in ASCII. -/
def labelToAscii? (cs : List Char) : Option (List Char) :=
  if cs.all (·.toNat < 128) then
    match cs with
    | 'x' :: 'n' :: '-' :: '-' :: code =>
      match unpunycode? code with
      | some label => if isValidLabel label && label.any (128 ≤ ·.toNat) then some cs else none
      | none => none
    | _ => some cs
  else if isValidLabel cs then some ('x' :: 'n' :: '-' :: '-' :: punycode cs)
  else none

/-- A name in ASCII. -/
def toAscii? (cs : List Char) : Option (List Char) := do
  let mapped ← cs.mapM mapChar
  let name := mapped.flatten
  if name.any fun c => c.toNat < 128 && isForbidden c then none
  else
    let labels := (name.splitOn '.')
    return ['.'].intercalate (← labels.mapM labelToAscii?)

end SiteBuilder.Url.Domain
