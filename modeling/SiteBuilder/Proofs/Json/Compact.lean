import Mathlib.Algebra.Group.Nat.Defs
import Mathlib.Data.List.DropRight
import SiteBuilder.Proofs.Json.ReadBack

/-!
# Reading compact documents back

A document without spaces is read back part by part: an item is read up to the comma or the bracket behind it, which
no number goes on with, and an entry up to the comma or the brace. A value that is nested too deeply has no value in
JSON, so what is said of a value says how deep it is. The scalars of a document are read back if each is read back on
its own.
-/

namespace SiteBuilder.Json

open Decimal

variable {fuel depth height : Nat} {tail : List Char}

/-- Wherever the value is written without spaces, and not too deep for what is nested in it, it is read. -/
def ReadsBack (height : Nat) (value : Datum) : Prop :=
  ∀ fuel depth tail, (compact value).length < fuel → depth + height ≤ maxDepth → EndsNumber tail →
    ∃ rest, readValue fuel depth ((compact value).toList ++ tail) = some (value, rest ++ tail) ∧
      rest.all isSpace = true

/-- A value that needs less depth is read back as well. -/
theorem ReadsBack.mono {height' : Nat} {value : Datum} (h : ReadsBack height value) (hle : height ≤ height') :
    ReadsBack height' value :=
  fun fuel depth tail hfuel hdepth => h fuel depth tail hfuel (by omega)

/-! ## Scalars -/

/-- A value without parts is read at any depth. -/
theorem ReadAs.readsBack {text : String} {value : Datum} (h : ReadAs text value) (hcompact : compact value = text) :
    ReadsBack height value := by
  subst hcompact
  exact fun fuel depth tail hfuel _ => h fuel depth tail hfuel

/-- A text is read back. -/
theorem readsBack_text (s : String) : ReadsBack height (.text s) :=
  (readAs_quote s).readsBack (by simp only [compact, scalarText])

/-- A truth value is read back. -/
theorem readsBack_bool (b : Bool) : ReadsBack height (.bool b) := (readAs_bool b).readsBack (by simp only [compact])

/-- No value is read back. -/
theorem readsBack_null : ReadsBack height .null := readAs_null.readsBack (by simp only [compact, scalarText])

/-- The digits of a number denote it. -/
theorem digitsValue_digitsOf (n : Nat) : digitsValue (digitsOf n) = n := Nat.ofDigitChars_ten_toDigits

/-- The digits of a number do not start with a zero unless it is zero. -/
theorem head?_digitsOf {n : Nat} (hn : 0 < n) : (digitsOf n).head? ≠ some '0' := by
  induction n using Nat.strongRecOn with
  | ind n ih =>
    rw [digitsOf, Nat.toDigits_eq_if (by decide)]
    split
    · simp
      omega
    · next hlarge =>
      rw [List.head?_append_of_ne_nil _ Nat.toDigits_ne_nil]
      exact ih (n / 10) (by omega) (by omega)

/-- The digits of a number of 64 bits are read as that number. -/
theorem readNumber_digitsOf {n : Nat} (hn : n < 2 ^ 64) : readNumber (digitsOf n) = some (.int n, []) := by
  have hdigits : ∀ c ∈ digitsOf n, c.isDigit = true := fun c hc =>
    Nat.isDigit_of_mem_toDigits (by decide) (by decide) hc
  have hspan : spanDigits (digitsOf n) = (digitsOf n, []) := by
    simp only [spanDigits, List.takeWhile_eq_self_iff.mpr hdigits, List.dropWhile_eq_nil_iff.mpr hdigits]
  have hsign : readSign (digitsOf n) = (false, digitsOf n) := by
    unfold readSign
    split
    · next rest hminus =>
      have hdigit := hdigits '-' (by rw [hminus]; exact List.mem_cons_self)
      exact absurd hdigit (by decide)
    · rfl
  have hwhole : ¬((digitsOf n).isEmpty = true ∨ (digitsOf n).head? = some '0' ∧ 1 < (digitsOf n).length) := by
    rintro (hempty | ⟨hzero, hlength⟩)
    · exact Nat.toDigits_ne_nil (List.isEmpty_iff.mp hempty)
    · rcases Nat.eq_zero_or_pos n with rfl | hpos
      · exact absurd hlength (by decide)
      · exact head?_digitsOf hpos hzero
  rw [readNumber_eq, hsign]
  simp only [hspan, if_neg hwhole]
  show some (wholeValue false (digitsOf n), []) = some (.int n, [])
  have hbits : n < Nat.pow 2 64 := hn
  simp only [wholeValue, Bool.false_eq_true, ↓reduceIte, digitsValue_digitsOf, if_pos hbits]

/-- A number does not start with a blank. -/
theorem isSpace_of_head {c : Char} (hc : c = '-' ∨ c.isDigit = true) : isSpace c = false := by
  have hother {d : Char} (hd : d ≠ '-' ∧ d.isDigit = false) : c ≠ d := by
    rintro rfl
    rcases hc with hminus | hdigit
    · exact hd.1 hminus
    · rw [hd.2] at hdigit
      cases hdigit
  have hblank : c ≠ ' ' := hother (by decide)
  have hline : c ≠ '\n' := hother (by decide)
  have htab : c ≠ '\t' := hother (by decide)
  have hreturn : c ≠ '\r' := hother (by decide)
  simp [isSpace, hblank, hline, htab, hreturn]

/-- A whole number of 64 bits without a sign is read back. -/
theorem readsBack_int {n : Nat} (hn : n < 2 ^ 64) : ReadsBack height (.int n) := by
  have hsign : ¬(n : Int) < 0 := by omega
  have htext : intText n = String.ofList (digitsOf n) := by rw [intText, if_neg hsign, Int.natAbs_natCast]
  have hread : ReadAs (intText n) (.int n) := by
    have hnumber := readNumber_digitsOf hn
    obtain ⟨c, digits, hdigits, hc⟩ := head_of_readNumber hnumber
    have hblank : isSpace c = false := isSpace_of_head hc
    have hblanks : (intText n).toList.dropWhile isSpace = digitsOf n := by
      rw [htext, String.toList_ofList, hdigits, List.dropWhile_cons_of_neg (by simp [hblank])]
    exact readAs_of_readNumber (hblanks ▸ hnumber) rfl
  exact hread.readsBack (by simp only [compact, scalarText])

/-! ## Parts with commas between them -/

/-- Parts with commas between them are read up to the closing character, if the reader takes the last part in front of
that character and any other part in front of a comma and of parts that it reads. -/
theorem read_intercalate {α β : Type} {write : α → String}
    (reader : Nat → List Char → Option (β × List Char)) (result : List α → β) (closing : Char) {parts : List α}
    (hne : parts ≠ [])
    (hlast : ∀ part ∈ parts, ∀ fuel, (write part).length < fuel → ∀ tail,
      reader (fuel + 1) ((write part).toList ++ closing :: tail) = some (result [part], tail))
    (hmore : ∀ part ∈ parts, ∀ fuel, (write part).length < fuel → ∀ others after tail,
      reader fuel after = some (result others, tail) →
        reader (fuel + 1) ((write part).toList ++ ',' :: after) = some (result (part :: others), tail)) :
    let body := ",".intercalate (parts.map write)
    body.length + 1 < fuel → reader fuel (body.toList ++ closing :: tail) = some (result parts, tail) := by
  induction parts generalizing fuel with
  | nil => exact absurd rfl hne
  | cons part rest ih =>
    intro body hfuel
    obtain ⟨fuel, rfl⟩ := Nat.exists_eq_add_one_of_ne_zero (Nat.ne_zero_of_lt hfuel)
    cases rest with
    | nil =>
      have hbody : body = write part := by simp only [body, List.map_cons, List.map_nil, String.intercalate_singleton]
      rw [hbody] at hfuel ⊢
      exact hlast part List.mem_cons_self fuel (by omega) tail
    | cons next rest =>
      let others := ",".intercalate ((next :: rest).map write)
      have hbody : body = write part ++ "," ++ others := by
        simp only [body, others, List.map_cons, String.intercalate_cons_cons]
      have hlength : body.length = (write part).length + 1 + others.length := by
        rw [hbody, String.length_append, String.length_append]
        rfl
      have hsplit :
          body.toList ++ closing :: tail = (write part).toList ++ ',' :: (others.toList ++ closing :: tail) := by
        simp [hbody]
      have hothers : reader fuel (others.toList ++ closing :: tail) = some (result (next :: rest), tail) :=
        ih (List.cons_ne_nil _ _) (fun other hother => hlast other (List.mem_cons_of_mem _ hother))
          (fun other hother => hmore other (List.mem_cons_of_mem _ hother)) (show others.length + 1 < fuel by omega)
      rw [hsplit]
      exact hmore part List.mem_cons_self fuel (by omega) _ _ _ hothers

/-! ## Lists -/

/-- The items of a list are written one by one. -/
theorem compactItems_eq_map (items : List Datum) : compactItems items = items.map compact := by
  induction items with
  | nil => rfl
  | cons item rest ih => rw [compactItems, ih, List.map_cons]

/-- Blanks in front of a value are passed over. -/
theorem readValue_dropWhile (cs : List Char) :
    readValue fuel depth (cs.dropWhile isSpace) = readValue fuel depth cs := by
  cases fuel with
  | zero => rw [readValue_zero, readValue_zero]
  | succ fuel => rw [readValue, readValue, List.dropWhile_idempotent]

/-- Blanks in front of items are passed over. -/
theorem readItems_dropWhile (cs : List Char) :
    readItems fuel depth (cs.dropWhile isSpace) = readItems fuel depth cs := by
  cases fuel with
  | zero => rw [readItems_zero, readItems_zero]
  | succ fuel => rw [readItems, readItems, readValue_dropWhile]

/-- An item in front of the closing bracket is the last one. -/
theorem readItems_last {item : Datum} (hitem : ReadsBack height item) (hdepth : depth + height ≤ maxDepth)
    (hfuel : (compact item).length < fuel) (tail : List Char) :
    readItems (fuel + 1) depth ((compact item).toList ++ ']' :: tail) = some ([item], tail) := by
  obtain ⟨rest, hvalue, hrest⟩ := hitem fuel depth (']' :: tail) hfuel hdepth ⟨rfl, by decide⟩
  have hclosing : isSpace ']' = false := rfl
  simp only [readItems, hvalue, dropWhile_blanks_append hrest, List.dropWhile_cons, hclosing, Bool.false_eq_true,
    ↓reduceIte]

/-- An item in front of a comma is followed by others. -/
theorem readItems_more {item : Datum} {others : List Datum} {after : List Char} (hitem : ReadsBack height item)
    (hdepth : depth + height ≤ maxDepth) (hfuel : (compact item).length < fuel)
    (hothers : readItems fuel depth after = some (others, tail)) :
    readItems (fuel + 1) depth ((compact item).toList ++ ',' :: after) = some (item :: others, tail) := by
  obtain ⟨rest, hvalue, hrest⟩ := hitem fuel depth (',' :: after) hfuel hdepth ⟨rfl, by decide⟩
  have hcomma : isSpace ',' = false := rfl
  simp only [readItems, hvalue, dropWhile_blanks_append hrest, List.dropWhile_cons, hcomma, Bool.false_eq_true,
    ↓reduceIte, hothers, Option.map_some]

/-- Items are read up to the closing bracket. -/
theorem readItems_compact {items : List Datum} (hne : items ≠ []) (hitems : ∀ item ∈ items, ReadsBack height item)
    (hdepth : depth + height ≤ maxDepth) :
    let body := ",".intercalate (items.map compact)
    body.length + 1 < fuel → readItems fuel depth (body.toList ++ ']' :: tail) = some (items, tail) :=
  read_intercalate (fun fuel => readItems fuel depth) id ']' hne
    (fun item hitem _ hfuel tail => readItems_last (hitems item hitem) hdepth hfuel tail)
    fun item hitem _ hfuel _ _ _ => readItems_more (hitems item hitem) hdepth hfuel

/-- No value starts with a closing bracket, so a list that has items is not taken for an empty one. -/
theorem ne_bracket_of_readItems {cs rest : List Char} {read : List Datum × List Char}
    (h : readItems fuel depth cs = some read) : cs.dropWhile isSpace ≠ ']' :: rest := by
  intro hbracket
  have hnone (fuel : Nat) : readValue fuel depth cs = none := by
    cases fuel with
    | zero => exact readValue_zero depth cs
    | succ fuel =>
      have hnumber : readNumber (']' :: rest) = none := by
        by_contra hread
        obtain ⟨found, hfound⟩ := Option.ne_none_iff_exists'.mp hread
        obtain ⟨c, digits, hdigits, hc⟩ := head_of_readNumber hfound
        obtain rfl : ']' = c := (List.cons.inj hdigits).1
        exact absurd hc (by decide)
      simp only [readValue, hbracket]
      exact hnumber
  cases fuel with
  | zero => cases h
  | succ fuel =>
    simp only [readItems, hnone] at h
    cases h

/-- A list of values that are read back is read back. -/
theorem readsBack_list {items : List Datum} (hitems : ∀ item ∈ items, ReadsBack height item) :
    ReadsBack (height + 1) (.list items) := by
  intro fuel depth tail hfuel hdepth htail
  obtain ⟨fuel, rfl⟩ := Nat.exists_eq_add_one_of_ne_zero (Nat.ne_zero_of_lt hfuel)
  have hshallow : depth < maxDepth := by omega
  have hopening : isSpace '[' = false := rfl
  refine ⟨[], ?_, rfl⟩
  by_cases hne : items = []
  · subst hne
    have htext : (compact (.list [])).toList ++ tail = '[' :: ']' :: tail := by
      simp [compact, compactItems]
    have hclosing : isSpace ']' = false := rfl
    rw [htext]
    simp [readValue, hopening, hclosing, hshallow]
  · let body := ",".intercalate (items.map compact)
    have hcompact : compact (.list items) = "[" ++ body ++ "]" := by rw [compact, compactItems_eq_map]
    have htext : (compact (.list items)).toList ++ tail = '[' :: (body.toList ++ ']' :: tail) := by simp [hcompact]
    have hlength : (compact (.list items)).length = body.length + 2 := by
      rw [hcompact, String.length_append, String.length_append]
      show 1 + body.length + 1 = body.length + 2
      omega
    have hread : readItems fuel (depth + 1) (body.toList ++ ']' :: tail) = some (items, tail) :=
      readItems_compact hne hitems (by omega) (show body.length + 1 < fuel by omega)
    rw [htext]
    simp only [readValue, List.dropWhile_cons, hopening, Bool.false_eq_true, ↓reduceIte]
    split
    · next rest hempty => exact absurd hempty (ne_bracket_of_readItems hread)
    · rw [readItems_dropWhile, hread]
      simp [hshallow]

/-! ## Records -/

/-- The entries of a record are written one by one. -/
theorem compactEntries_eq_map (entries : List (String × Datum)) :
    compactEntries entries = entries.map fun entry => quote entry.1 ++ ":" ++ compact entry.2 := by
  induction entries with
  | nil => rfl
  | cons entry rest ih => rw [compactEntries, ih, List.map_cons]

/-- An entry starts with a quote. Its key is read up to the colon, and its value up to what follows the entry. -/
theorem parts_of_entry {entry : String × Datum} (hvalue : ReadsBack height entry.2)
    (hdepth : depth + height ≤ maxDepth) (hfuel : (quote entry.1 ++ ":" ++ compact entry.2).length < fuel)
    (htail : EndsNumber tail) :
    ∃ cs rest, (quote entry.1 ++ ":" ++ compact entry.2).toList ++ tail = '"' :: cs ∧
      readText fuel [] true cs = some (some entry.1, ':' :: ((compact entry.2).toList ++ tail)) ∧
      readValue fuel depth ((compact entry.2).toList ++ tail) = some (entry.2, rest ++ tail) ∧
      rest.all isSpace = true := by
  have hquote := length_le_length_quote entry.1
  rw [String.length_append, String.length_append] at hfuel
  obtain ⟨rest, hread, hrest⟩ := hvalue fuel depth tail (by omega) hdepth htail
  exact ⟨_, rest, by simp [quote], readText_quote entry.1 (by omega), hread, hrest⟩

/-- An entry in front of the closing brace is the last one. -/
theorem readEntries_last {entry : String × Datum} (hvalue : ReadsBack height entry.2)
    (hdepth : depth + height ≤ maxDepth) (hfuel : (quote entry.1 ++ ":" ++ compact entry.2).length < fuel)
    (tail : List Char) :
    readEntries (fuel + 1) depth ((quote entry.1 ++ ":" ++ compact entry.2).toList ++ '}' :: tail) =
      some (some [entry], tail) := by
  have hends : EndsNumber ('}' :: tail) := ⟨rfl, by decide⟩
  obtain ⟨cs, rest, hentry, hkey, hread, hrest⟩ := parts_of_entry hvalue hdepth hfuel hends
  have hquote : isSpace '"' = false := rfl
  have hcolon : isSpace ':' = false := rfl
  have hclosing : isSpace '}' = false := rfl
  rw [hentry]
  simp only [readEntries, List.dropWhile_cons, hquote, hcolon, hclosing, Bool.false_eq_true, ↓reduceIte, hkey, hread,
    dropWhile_blanks_append hrest, Option.map_some]

/-- An entry in front of a comma is followed by others. -/
theorem readEntries_more {entry : String × Datum} {others : List (String × Datum)} {after : List Char}
    (hvalue : ReadsBack height entry.2) (hdepth : depth + height ≤ maxDepth)
    (hfuel : (quote entry.1 ++ ":" ++ compact entry.2).length < fuel)
    (hothers : readEntries fuel depth after = some (some others, tail)) :
    readEntries (fuel + 1) depth ((quote entry.1 ++ ":" ++ compact entry.2).toList ++ ',' :: after) =
      some (some (entry :: others), tail) := by
  have hends : EndsNumber (',' :: after) := ⟨rfl, by decide⟩
  obtain ⟨cs, rest, hentry, hkey, hread, hrest⟩ := parts_of_entry hvalue hdepth hfuel hends
  have hquote : isSpace '"' = false := rfl
  have hcolon : isSpace ':' = false := rfl
  have hcomma : isSpace ',' = false := rfl
  rw [hentry]
  simp only [readEntries, List.dropWhile_cons, hquote, hcolon, hcomma, Bool.false_eq_true, ↓reduceIte, hkey, hread,
    dropWhile_blanks_append hrest, Option.map_some, hothers]
  rfl

/-- Entries are read up to the closing brace. -/
theorem readEntries_compact {entries : List (String × Datum)} (hne : entries ≠ [])
    (hentries : ∀ entry ∈ entries, ReadsBack height entry.2) (hdepth : depth + height ≤ maxDepth) :
    let body := ",".intercalate (entries.map fun entry => quote entry.1 ++ ":" ++ compact entry.2)
    body.length + 1 < fuel → readEntries fuel depth (body.toList ++ '}' :: tail) = some (some entries, tail) :=
  read_intercalate (fun fuel => readEntries fuel depth) some '}' hne
    (fun entry hentry _ hfuel tail => readEntries_last (hentries entry hentry) hdepth hfuel tail)
    fun entry hentry _ hfuel _ _ _ => readEntries_more (hentries entry hentry) hdepth hfuel

/-- A record of values that are read back is read back. -/
theorem readsBack_record (height : Nat) {entries : List (String × Datum)}
    (hentries : ∀ entry ∈ entries, ReadsBack height entry.2) :
    ReadsBack (height + 1) (.record entries) := by
  intro fuel depth tail hfuel hdepth htail
  obtain ⟨fuel, rfl⟩ := Nat.exists_eq_add_one_of_ne_zero (Nat.ne_zero_of_lt hfuel)
  have hshallow : depth < maxDepth := by omega
  have hopening : isSpace '{' = false := rfl
  refine ⟨[], ?_, rfl⟩
  cases entries with
  | nil =>
    have htext : (compact (.record [])).toList ++ tail = '{' :: '}' :: tail := by
      simp [compact, compactEntries]
    have hclosing : isSpace '}' = false := rfl
    rw [htext]
    simp [readValue, hopening, hclosing, hshallow]
  | cons entry rest =>
    let body := ",".intercalate ((entry :: rest).map fun entry => quote entry.1 ++ ":" ++ compact entry.2)
    have hcompact : compact (.record (entry :: rest)) = "\x7b" ++ body ++ "\x7d" := by
      rw [compact, compactEntries_eq_map]
    have htext : (compact (.record (entry :: rest))).toList ++ tail = '{' :: (body.toList ++ '}' :: tail) := by
      simp [hcompact]
    have hlength : (compact (.record (entry :: rest))).length = body.length + 2 := by
      rw [hcompact, String.length_append, String.length_append]
      show 1 + body.length + 1 = body.length + 2
      omega
    have hread : readEntries fuel (depth + 1) (body.toList ++ '}' :: tail) = some (some (entry :: rest), tail) :=
      readEntries_compact (List.cons_ne_nil _ _) hentries (by omega) (show body.length + 1 < fuel by omega)
    -- The first entry starts with a key, so the record is not taken for one without entries.
    obtain ⟨cs, hcs⟩ : ∃ cs, (body.toList ++ '}' :: tail).dropWhile isSpace = '"' :: cs := by
      cases rest <;> simp [body, String.intercalate_cons_cons, quote, isSpace]
    have hbody : readEntries fuel (depth + 1) ('"' :: cs) = some (some (entry :: rest), tail) := by
      rw [← hread]
      exact readEntries_congr (by rw [hcs]; rfl)
    rw [htext]
    simp [readValue, hopening, hcs, hbody, hshallow]

/-! ## Documents -/

/-- A document that is not nested too deeply is read back if its values are. -/
theorem read_compact {value : Datum} (h : ReadsBack maxDepth value) : read (compact value) = some value := by
  obtain ⟨rest, hread, hrest⟩ := h ((compact value).toList.length + 1) 0 [] (by rw [String.length_toList]; omega)
    (by decide) trivial
  rw [List.append_nil, List.append_nil] at hread
  simp only [read, hread, hrest, if_true]

end SiteBuilder.Json
