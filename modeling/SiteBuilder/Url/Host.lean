import SiteBuilder.Url.Domain
import SiteBuilder.Text.Blank
import SiteBuilder.Decimal.Layout

/-!
# Hosts

A host of a web address is an IPv6 address in brackets, an IPv4 address if its last label is a
number, or a domain name. The host of any other address is a text without structure.
-/

namespace SiteBuilder.Url

open SiteBuilder.Text

/-- Why a text is no address. -/
inductive ParseError where
  | emptyHost
  | domainName
  | port
  | ipv4
  | ipv6
  | hostCharacter
  | relative
  deriving DecidableEq

/-- The wording of a cause. -/
def ParseError.message : ParseError → String
  | .emptyHost => "empty host"
  | .domainName => "invalid international domain name"
  | .port => "invalid port number"
  | .ipv4 => "invalid IPv4 address"
  | .ipv6 => "invalid IPv6 address"
  | .hostCharacter => "invalid domain character"
  | .relative => "relative URL without a base"

/-- The value of a part of an IPv4 address: decimal, octal behind `0`, or hexadecimal behind `0x`. -/
def ipv4Number? (cs : List Char) : Option Nat :=
  let number (base : Nat) (digits : List Char) : Option Nat :=
    digits.foldl (fun acc c => acc.bind fun n =>
      match hexDigit? c with
      | some d => if d < base then some (n * base + d) else none
      | none => none) (some 0)
  match cs with
  | [] => none
  | '0' :: 'x' :: rest => number 16 rest
  | '0' :: 'X' :: rest => number 16 rest
  | '0' :: c :: rest => number 8 (c :: rest)
  | cs => number 10 cs

/-- Whether the last label of a name is a number, so that the name must be an IPv4 address. -/
def endsInNumber (labels : List (List Char)) : Bool :=
  let last :=
    match labels.reverse with
    | [] :: last :: _ => last
    | last :: _ => last
    | [] => []
  (!last.isEmpty && last.all Char.isDigit) || (ipv4Number? last).isSome

/-- The four bytes of an IPv4 address as one number. The last part fills the bytes that are left. -/
def ipv4? (labels : List (List Char)) : Option Nat :=
  let labels := if labels.getLast? = some [] then labels.dropLast else labels
  if 4 < labels.length then none
  else
    match labels.mapM ipv4Number? with
    | none => none
    | some numbers =>
      match numbers.reverse with
      | [] => none
      | last :: front =>
        if last < Nat.pow 256 (4 - front.length) ∧ front.all (· < 256) then
          some ((front.reverse.zipIdx).foldl (fun sum (n, i) => sum + n * Nat.pow 256 (3 - i)) last)
        else none

/-- An IPv4 address in its usual form. -/
def ipv4Text (n : Nat) : List Char :=
  ['.'].intercalate ([n / Nat.pow 256 3, n / Nat.pow 256 2 % 256, n / 256 % 256, n % 256].map Decimal.digitsOf)

/-- The pieces of one side of an IPv6 address; the last may be an IPv4 address of two pieces. -/
def ipv6Pieces? (parts : List (List Char)) : Option (List Nat) :=
  match parts with
  | [] => some []
  | [last] =>
    if last.contains '.' then
      let labels := last.splitOn '.'
      let isPlain (label : List Char) : Bool :=
        !label.isEmpty && label.all Char.isDigit && (label.length == 1 || label.head? != some '0')
      if labels.length = 4 ∧ labels.all isPlain then
        (ipv4? labels).map fun n => [n / 65536, n % 65536]
      else none
    else (piece? last).map ([·])
  | part :: rest => do return (← piece? part) :: (← ipv6Pieces? rest)
where
  /-- One piece of up to four hexadecimal digits. -/
  piece? (cs : List Char) : Option Nat :=
    if cs.isEmpty ∨ 4 < cs.length then none
    else cs.foldl (fun acc c => acc.bind fun n => (hexDigit? c).map (16 * n + ·)) (some 0)

/-- The eight pieces of an IPv6 address. Two colons stand for one or more zero pieces. -/
def ipv6? (cs : List Char) : Option (List Nat) :=
  let parts (side : List Char) : List (List Char) := if side.isEmpty then [] else side.splitOn ':'
  match cutAt? [':', ':'] cs with
  | none => (ipv6Pieces? (parts cs)).filter (·.length == 8)
  | some (front, back) =>
    if front.contains '.' then none
    else
      match ipv6Pieces? (parts front), ipv6Pieces? (parts back) with
      | some front, some back =>
        let known := front.length + back.length
        if known < 8 then some (front ++ List.replicate (8 - known) 0 ++ back) else none
      | _, _ => none

/-- The first longest run of at least two zero pieces: where it starts and its length. -/
def longestZeros (pieces : List Nat) : Nat × Nat :=
  let runAt (i : Nat) : Nat := ((pieces.drop i).takeWhile (· == 0)).length
  (List.range pieces.length).foldl (fun best i => if best.2 < runAt i then (i, runAt i) else best) (0, 1)

/-- An IPv6 address in its shortest form. -/
def ipv6Text (pieces : List Nat) : List Char :=
  let hex (ps : List Nat) : List Char := [':'].intercalate (ps.map (Nat.toDigits 16))
  let (start, size) := longestZeros pieces
  if size < 2 then hex pieces
  else hex (pieces.take start) ++ [':', ':'] ++ hex (pieces.drop (start + size))

/-- The host of a web address, in its normal form. -/
def specialHost (cs : List Char) : Except ParseError String :=
  match cs with
  | '[' :: rest =>
    if rest.getLast? = some ']' then
      match ipv6? rest.dropLast with
      | some pieces => .ok (String.ofList ('[' :: ipv6Text pieces ++ [']']))
      | none => .error .ipv6
    else .error .ipv6
  | cs =>
    match (Utf8.decode? (percentDecode cs)).bind Domain.toAscii? with
    | none => .error .domainName
    | some [] => .error .emptyHost
    | some name =>
      let labels := name.splitOn '.'
      if endsInNumber labels then
        match ipv4? labels with
        | some n => .ok (String.ofList (ipv4Text n))
        | none => .error .ipv4
      else .ok (String.ofList name)

/-- The host of any other address. -/
def opaqueHost (cs : List Char) : Except ParseError String :=
  match cs with
  | '[' :: _ => specialHost cs
  | cs =>
    if cs.any fun c => c.toNat == 0 || "\t\n\r #/:<>?@[\\]^|".toList.contains c then .error .hostCharacter
    else .ok (String.ofList (percentEncode [] cs))

end SiteBuilder.Url
