import SiteBuilder.Text.Utf8

/-!
# Reading UTF-8 back

What is written of a text is read as that text. A character is read from the front of its bytes, whatever follows
them.
-/

namespace SiteBuilder.Text.Utf8

/-- A byte holds a number that fits it. -/
theorem toNat_ofNat {n : Nat} (h : n < 256) : (UInt8.ofNat n).toNat = n := by
  simpa using h

/-- The number of a character is read as the character. -/
theorem charFrom?_toNat {c : Char} {least : Nat} (h : least ≤ c.toNat) : charFrom? least c.toNat = some c := by
  have hvalid : c.toNat.isValidChar := c.valid
  rw [charFrom?, dif_pos ⟨hvalid, h⟩]
  exact congrArg some (Char.ext (UInt32.toNat_inj.mp rfl))

/-- A byte that is written behind the first one of a character continues it. -/
theorem continues_ofNat {n : Nat} (h : n < 64) : continues (.ofNat (0x80 + n)) = true := by
  rw [continues, toNat_ofNat (by omega)]
  simp
  omega

/-- A byte behind the first one contributes what was written in it. -/
theorem payload_ofNat {n : Nat} (h : n < 64) : payload (.ofNat (0x80 + n)) = n := by
  rw [payload, toNat_ofNat (by omega)]
  omega

/-- A character is read from its bytes. -/
theorem decodeChar?_encodeChar (c : Char) (rest : List UInt8) :
    decodeChar? (encodeChar c ++ rest) = some (c, rest) := by
  have hlast : c.toNat < 0x110000 := by
    have hvalid : c.toNat.isValidChar := c.valid
    unfold Nat.isValidChar at hvalid
    omega
  unfold encodeChar
  dsimp only
  split
  · next hone =>
    simp only [List.singleton_append, decodeChar?]
    rw [toNat_ofNat (by omega), if_pos hone, Char.ofNat_toNat]
  split
  · next hone htwo =>
    have hnumber : (0xC0 + c.toNat / 64 - 0xC0) * 64 + c.toNat % 64 = c.toNat := by omega
    simp only [List.cons_append, List.nil_append, decodeChar?]
    rw [toNat_ofNat (by omega), if_neg (by omega), if_neg (by omega), continues_ofNat (by omega),
      payload_ofNat (by omega), hnumber, charFrom?_toNat (by omega), if_neg (by simp), if_pos (by omega)]
    rfl
  split
  · next hone htwo hthree =>
    have hnumber : (0xE0 + c.toNat / 4096 - 0xE0) * 4096 + c.toNat / 64 % 64 * 64 + c.toNat % 64 = c.toNat := by omega
    simp only [List.cons_append, List.nil_append, decodeChar?]
    rw [toNat_ofNat (by omega), if_neg (by omega), if_neg (by omega), continues_ofNat (by omega),
      continues_ofNat (by omega), payload_ofNat (by omega), payload_ofNat (by omega), hnumber,
      charFrom?_toNat (by omega), if_neg (by simp), if_neg (by omega), if_neg (by simp), if_pos (by omega)]
    rfl
  · next hone htwo hthree =>
    have hnumber : (0xF0 + c.toNat / 262144 - 0xF0) * 262144 + c.toNat / 4096 % 64 * 4096 + c.toNat / 64 % 64 * 64 +
        c.toNat % 64 = c.toNat := by omega
    simp only [List.cons_append, List.nil_append, decodeChar?]
    rw [toNat_ofNat (by omega), if_neg (by omega), if_neg (by omega), continues_ofNat (by omega),
      continues_ofNat (by omega), continues_ofNat (by omega), payload_ofNat (by omega), payload_ofNat (by omega),
      payload_ofNat (by omega), hnumber, charFrom?_toNat (by omega), if_neg (by simp), if_neg (by omega),
      if_neg (by simp), if_neg (by omega), if_neg (by simp), if_pos (by omega)]
    rfl

/-- Characters are read from their bytes. -/
theorem decode?_encode (cs : List Char) : decode? (encode cs) = some cs := by
  induction cs with
  | nil => rw [encode, List.flatMap_nil, decode?]
  | cons c cs ih =>
    have hread := decodeChar?_encodeChar c (encode cs)
    have hbytes : encode (c :: cs) = encodeChar c ++ encode cs := List.flatMap_cons
    rw [hbytes]
    unfold decode?
    split
    · next hnil =>
      rw [hnil] at hread
      cases hread
    · split
      · next hfail => cases hfail.symm.trans hread
      · next first rest hfirst =>
        cases hfirst.symm.trans hread
        rw [ih]
        rfl

/-- A text is read from its bytes. -/
theorem decodeText?_encodeText (s : String) : decodeText? (encodeText s) = some s := by
  rw [decodeText?, encodeText, decode?_encode, Option.map_some, String.ofList_toList]

end SiteBuilder.Text.Utf8
