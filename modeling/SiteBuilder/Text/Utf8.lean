/-!
# UTF-8

A character is written in one to four bytes. `decode?` accepts exactly what `encode` produces:
neither longer forms, nor half surrogate pairs, nor numbers beyond the last code point.
-/

namespace SiteBuilder.Text.Utf8

/-- The bytes of a character. -/
def encodeChar (c : Char) : List UInt8 :=
  let n := c.toNat
  if n < 0x80 then [.ofNat n]
  else if n < 0x800 then [.ofNat (0xC0 + n / 64), .ofNat (0x80 + n % 64)]
  else if n < 0x10000 then
    [.ofNat (0xE0 + n / 4096), .ofNat (0x80 + n / 64 % 64), .ofNat (0x80 + n % 64)]
  else
    [.ofNat (0xF0 + n / 262144), .ofNat (0x80 + n / 4096 % 64), .ofNat (0x80 + n / 64 % 64),
      .ofNat (0x80 + n % 64)]

/-- The bytes of characters. -/
def encode (cs : List Char) : List UInt8 := cs.flatMap encodeChar

/-- The character with a number of at least `least`. -/
def charFrom? (least n : Nat) : Option Char :=
  if h : n.isValidChar ∧ least ≤ n then some (Char.ofNatAux n h.1) else none

/-- Whether a byte continues a character. -/
def continues (b : UInt8) : Bool := 0x80 ≤ b.toNat && b.toNat < 0xC0

/-- The bits that a continuing byte contributes. -/
def payload (b : UInt8) : Nat := b.toNat % 64

/-- The character at the front and the bytes behind it. -/
def decodeChar? (bytes : List UInt8) : Option (Char × List UInt8) :=
  match bytes with
  | [] => none
  | a :: rest =>
    if a.toNat < 0x80 then some (Char.ofNat a.toNat, rest)
    else if a.toNat < 0xC0 then none
    else
      match rest with
      | [] => none
      | b :: rest =>
        if !continues b then none
        else if a.toNat < 0xE0 then
          (charFrom? 0x80 ((a.toNat - 0xC0) * 64 + payload b)).map (·, rest)
        else
          match rest with
          | [] => none
          | c :: rest =>
            if !continues c then none
            else if a.toNat < 0xF0 then
              (charFrom? 0x800 ((a.toNat - 0xE0) * 4096 + payload b * 64 + payload c)).map (·, rest)
            else
              match rest with
              | [] => none
              | d :: rest =>
                if !continues d then none
                else if a.toNat < 0xF8 then
                  (charFrom? 0x10000
                    ((a.toNat - 0xF0) * 262144 + payload b * 4096 + payload c * 64 + payload d)).map (·, rest)
                else none

/-- Reading a character takes at least one byte. -/
theorem length_of_decodeChar? {bytes rest : List UInt8} {c : Char}
    (h : decodeChar? bytes = some (c, rest)) : rest.length < bytes.length := by
  unfold decodeChar? at h
  repeat' split at h
  all_goals simp at h
  all_goals grind

/-- The characters of bytes. -/
def decode? (bytes : List UInt8) : Option (List Char) :=
  match bytes with
  | [] => some []
  | bytes =>
    match h : decodeChar? bytes with
    | none => none
    | some (c, rest) =>
      have := length_of_decodeChar? h
      (decode? rest).map (c :: ·)
  termination_by bytes.length

/-- The text of bytes. -/
def decodeText? (bytes : List UInt8) : Option String := (decode? bytes).map String.ofList

/-- The bytes of a text. -/
def encodeText (s : String) : List UInt8 := encode s.toList

end SiteBuilder.Text.Utf8
