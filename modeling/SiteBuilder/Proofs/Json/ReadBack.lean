import SiteBuilder.Json.Printer
import SiteBuilder.Json.Reader
import SiteBuilder.Proofs.Json.Number

/-!
# Reading JSON back

A text in quotes is read as that text, and a number is read in a document as it is read alone. A record over several
lines is read as the record of what its values are read as.
-/

namespace SiteBuilder.Json

variable {fuel depth : Nat} {tail : List Char}

/-! ## Texts -/

/-- The digits of a control are read as its number. -/
theorem hexUnit?_hexChar : ∀ n < 0x20, hexUnit? '0' '0' (hexChar (n / 16)) (hexChar (n % 16)) = some n := by
  decide

/-- A character is read from the way it is written in quotes. -/
theorem readText_escapeChar (fuel : Nat) (acc : List Char) (whole : Bool) (c : Char) (rest : List Char) :
    readText (fuel + 1) acc whole (escapeChar c ++ rest) = readText fuel (c :: acc) whole rest := by
  unfold escapeChar
  iterate 7
    split
    · next h => rw [h]; rfl
  split
  · next hcontrol =>
    have hunit := hexUnit?_hexChar c.toNat hcontrol
    simp only [List.cons_append, List.nil_append, readText, hunit]
    rw [if_pos (by omega), Char.ofNat_toNat]
  · next hquote hslash _ _ _ _ _ hcontrol =>
    rw [List.singleton_append, readText]
    · rw [if_neg (by simp [hcontrol, hslash])]
    all_goals simp [hquote, hslash]

/-- Characters are read up to the closing quote. -/
theorem readText_flatMap_escapeChar (acc cs : List Char) (hfuel : cs.length < fuel) :
    readText fuel acc true (cs.flatMap escapeChar ++ '"' :: tail) =
      some (some (String.ofList (acc.reverse ++ cs)), tail) := by
  induction cs generalizing acc fuel with
  | nil =>
    obtain ⟨fuel, rfl⟩ := Nat.exists_eq_add_one_of_ne_zero (Nat.ne_zero_of_lt hfuel)
    simp [readText]
  | cons c cs ih =>
    obtain ⟨fuel, rfl⟩ := Nat.exists_eq_add_one_of_ne_zero (Nat.ne_zero_of_lt hfuel)
    rw [List.flatMap_cons, List.append_assoc, readText_escapeChar, ih _ (by simpa using hfuel)]
    simp

/-- A text is read up to its closing quote. -/
theorem readText_quote (s : String) (hfuel : s.length < fuel) :
    readText fuel [] true (s.toList.flatMap escapeChar ++ '"' :: tail) = some (some s, tail) := by
  rw [readText_flatMap_escapeChar [] s.toList (by rwa [String.length_toList])]
  simp

/-- No character is written shorter than it is. -/
theorem length_le_length_quote (s : String) : s.length + 2 ≤ (quote s).length := by
  have hescape (c : Char) : 1 ≤ (escapeChar c).length := by
    unfold escapeChar
    repeat' split
    all_goals simp
  have hescaped (cs : List Char) : cs.length ≤ (cs.flatMap escapeChar).length := by
    induction cs with
    | nil => simp
    | cons c cs ih =>
      have hfirst := hescape c
      simp only [List.flatMap_cons, List.length_append, List.length_cons]
      omega
  have hs := hescaped s.toList
  rw [String.length_toList] at hs
  rw [quote, String.length_ofList, List.length_cons, List.length_append, List.length_singleton]
  omega

/-! ## Values -/

/-- Wherever a text stands in front of what no number goes on with, it is read as a value, and only blanks of it are
left over. -/
def ReadAs (text : String) (value : Datum) : Prop :=
  ∀ fuel depth tail, text.length < fuel → EndsNumber tail →
    ∃ rest, readValue fuel depth (text.toList ++ tail) = some (value, rest ++ tail) ∧ rest.all isSpace = true

/-- A blank in front of a value is passed over. -/
theorem readValue_cons_of_isSpace {c : Char} (hspace : isSpace c = true) (cs : List Char) :
    readValue fuel depth (c :: cs) = readValue fuel depth cs := by
  cases fuel with
  | zero => rw [readValue_zero, readValue_zero]
  | succ fuel => simp only [readValue, List.dropWhile_cons, hspace, if_true]

/-- A text in quotes is read as the text. -/
theorem readAs_quote (s : String) : ReadAs (quote s) (.text s) := by
  intro fuel depth tail hfuel _
  obtain ⟨fuel, rfl⟩ := Nat.exists_eq_add_one_of_ne_zero (Nat.ne_zero_of_lt hfuel)
  have hlength := length_le_length_quote s
  have hquoted : (quote s).toList ++ tail = '"' :: (s.toList.flatMap escapeChar ++ '"' :: tail) := by simp [quote]
  refine ⟨[], ?_, rfl⟩
  rw [hquoted]
  simp [readValue, isSpace, readText_quote s (show s.length < fuel by omega)]

/-- A truth value is read as it is written. -/
theorem readAs_bool (b : Bool) : ReadAs (scalarText (.bool b)) (.bool b) := by
  intro fuel depth tail hfuel _
  obtain ⟨fuel, rfl⟩ := Nat.exists_eq_add_one_of_ne_zero (Nat.ne_zero_of_lt hfuel)
  refine ⟨[], ?_, rfl⟩
  cases b <;> simp [scalarText, readValue, isSpace]

/-- What is written for no value is read as none. -/
theorem readAs_null : ReadAs "null" .null := by
  intro fuel depth tail hfuel _
  obtain ⟨fuel, rfl⟩ := Nat.exists_eq_add_one_of_ne_zero (Nat.ne_zero_of_lt hfuel)
  exact ⟨[], by simp [readValue, isSpace], rfl⟩

/-- What starts like a number is read as one. -/
theorem readValue_of_head {cs : List Char} {c : Char} {rest : List Char} (hcs : cs.dropWhile isSpace = c :: rest)
    (hc : c = '-' ∨ c.isDigit = true) : readValue (fuel + 1) depth cs = readNumber (c :: rest) := by
  have hother {d : Char} (h : c = d) : d = '-' ∨ d.isDigit = true := h ▸ hc
  rw [readValue, hcs]
  split
  case h_7 => rfl
  all_goals
    next h =>
      exact absurd (hother (List.cons.inj h).1) (by decide)

/-- Only a number is read as a number. -/
theorem readNumber_of_readValue {cs rest : List Char} {x : Float}
    (h : readValue fuel depth cs = some (.float x, rest)) :
    readNumber (cs.dropWhile isSpace) = some (.float x, rest) := by
  cases fuel with
  | zero => cases h
  | succ fuel =>
    rw [readValue] at h
    split at h
    case h_7 => exact h
    all_goals grind [Option.map_eq_some_iff]

/-- What is read as a number in front of blanks is read as that value in a document. -/
theorem readAs_of_readNumber {text : String} {value : Datum} {rest : List Char}
    (h : readNumber (text.toList.dropWhile isSpace) = some (value, rest)) (hrest : rest.all isSpace = true) :
    ReadAs text value := by
  intro fuel depth tail hfuel htail
  obtain ⟨fuel, rfl⟩ := Nat.exists_eq_add_one_of_ne_zero (Nat.ne_zero_of_lt hfuel)
  obtain ⟨c, digits, hdigits, hc⟩ := head_of_readNumber h
  have hcontinued : (text.toList ++ tail).dropWhile isSpace = c :: (digits ++ tail) := by
    rw [List.dropWhile_append, hdigits]
    rfl
  refine ⟨rest, ?_, hrest⟩
  rw [readValue_of_head hcontinued hc, ← List.cons_append, readNumber_append htail, ← hdigits, h]
  rfl

/-- A number that is read from a text is read from it in a document, too. -/
theorem readAs_of_read {text : String} {x : Float} (h : read text = some (.float x)) : ReadAs text (.float x) := by
  obtain ⟨rest, hread, hrest⟩ : ∃ rest,
      readValue (text.toList.length + 1) 0 text.toList = some (.float x, rest) ∧ rest.all isSpace = true := by
    simp only [read] at h
    split at h
    · next value rest hvalue =>
      split at h
      · next hrest =>
        cases h
        exact ⟨rest, hvalue, hrest⟩
      · cases h
    · cases h
  exact readAs_of_readNumber (readNumber_of_readValue hread) hrest

/-! ## Records -/

/-- Blanks in front of other text are passed over. -/
theorem dropWhile_blanks_append {blanks : List Char} (hblanks : blanks.all isSpace = true) (cs : List Char) :
    (blanks ++ cs).dropWhile isSpace = cs.dropWhile isSpace := by
  rw [List.dropWhile_append_of_pos (List.all_eq_true.mp hblanks)]

/-- Blanks in front of entries are passed over. -/
theorem readEntries_congr {cs others : List Char} (h : cs.dropWhile isSpace = others.dropWhile isSpace) :
    readEntries fuel depth cs = readEntries fuel depth others := by
  cases fuel with
  | zero => rw [readEntries_zero, readEntries_zero]
  | succ fuel => rw [readEntries, readEntries, h]

/-- An entry on a line of its own is read, and then what follows it. -/
theorem readEntries_line {text : String} {value : Datum} (hread : ReadAs text value) (level : Nat) (key : String)
    (hfuel : key.length + text.length < fuel) (htail : EndsNumber tail) :
    readEntries (fuel + 1) depth ((indentation level ++ (quote key ++ ": " ++ text)).toList ++ tail) =
      match tail.dropWhile isSpace with
      | '}' :: rest => some (some [(key, value)], rest)
      | ',' :: rest =>
        (readEntries fuel depth rest).map fun (entries, rest) => (entries.map ((key, value) :: ·), rest)
      | _ => none := by
  have hline : (indentation level ++ (quote key ++ ": " ++ text)).toList ++ tail =
      List.replicate (2 * level) ' ' ++
        '"' :: (key.toList.flatMap escapeChar ++ '"' :: ':' :: ' ' :: (text.toList ++ tail)) := by
    simp [indentation, quote]
  have hindentation : (List.replicate (2 * level) ' ').all isSpace = true := by simp [isSpace]
  have hquote : isSpace '"' = false := rfl
  have hcolon : isSpace ':' = false := rfl
  have hblank : isSpace ' ' = true := rfl
  have hkey : readText fuel [] true (key.toList.flatMap escapeChar ++ '"' :: ':' :: ' ' :: (text.toList ++ tail)) =
      some (some key, ':' :: ' ' :: (text.toList ++ tail)) := readText_quote key (by omega)
  obtain ⟨rest, hvalue, hrest⟩ := hread fuel depth tail (by omega) htail
  rw [hline, readEntries, dropWhile_blanks_append hindentation]
  simp only [List.dropWhile_cons, hquote, hcolon, Bool.false_eq_true, ↓reduceIte, hkey,
    readValue_cons_of_isSpace hblank, hvalue, dropWhile_blanks_append hrest, Option.map_eq_bind]
  rfl

/-- Entries over several lines are read up to the closing brace. -/
theorem readEntries_lines (level : Nat) (back : Datum → Datum) {entries : List (String × Datum)} (hne : entries ≠ [])
    (hback : ∀ entry ∈ entries, ReadAs (prettyAt level entry.2) (back entry.2)) {blanks : List Char}
    (hblanks : blanks.all isSpace = true) :
    let lines := ",\n".intercalate ((prettyEntries level entries).map (indentation level ++ ·))
    lines.length < fuel →
      readEntries fuel depth (lines.toList ++ '\n' :: (blanks ++ '}' :: tail)) =
        some (some (entries.map fun entry => (entry.1, back entry.2)), tail) := by
  induction entries generalizing fuel with
  | nil => exact absurd rfl hne
  | cons entry rest ih =>
    intro lines hfuel
    obtain ⟨fuel, rfl⟩ := Nat.exists_eq_add_one_of_ne_zero (Nat.ne_zero_of_lt hfuel)
    have hentry := hback entry List.mem_cons_self
    have hkey := length_le_length_quote entry.1
    let line := indentation level ++ (quote entry.1 ++ ": " ++ prettyAt level entry.2)
    have hline : entry.1.length + (prettyAt level entry.2).length < line.length := by
      simp only [line, String.length_append]
      omega
    cases rest with
    | nil =>
      have hlines : lines = line := by
        simp only [lines, line, prettyEntries, List.map_cons, List.map_nil, String.intercalate_singleton]
      have hends : EndsNumber ('\n' :: (blanks ++ '}' :: tail)) := ⟨rfl, by decide⟩
      rw [hlines] at hfuel ⊢
      rw [readEntries_line hentry level entry.1 (by omega) hends]
      simp [isSpace, dropWhile_blanks_append hblanks]
    | cons next rest =>
      let others := ",\n".intercalate ((prettyEntries level (next :: rest)).map (indentation level ++ ·))
      have hlines : lines = line ++ ",\n" ++ others := by
        simp only [lines, line, others, prettyEntries, List.map_cons, String.intercalate_cons_cons]
      have hlength : lines.length = line.length + 2 + others.length := by
        rw [hlines, String.length_append, String.length_append]
        rfl
      have hsplit (after : List Char) :
          lines.toList ++ after = line.toList ++ ',' :: '\n' :: (others.toList ++ after) := by
        simp [hlines]
      have hothers := ih (List.cons_ne_nil _ _) (fun other hother => hback other (List.mem_cons_of_mem _ hother))
        (show others.length < fuel by omega)
      have hends : EndsNumber (',' :: '\n' :: (others.toList ++ '\n' :: (blanks ++ '}' :: tail))) := ⟨rfl, by decide⟩
      rw [hsplit, readEntries_line hentry level entry.1 (by omega) hends]
      have hcomma : isSpace ',' = false := rfl
      simp only [List.dropWhile_cons, hcomma, Bool.false_eq_true, ↓reduceIte]
      rw [readEntries_congr (List.dropWhile_cons_of_pos rfl), hothers]
      rfl

/-- A record over several lines is read as the record of what its values are read as. -/
theorem read_pretty_record (back : Datum → Datum) {entries : List (String × Datum)}
    (hback : ∀ entry ∈ entries, ReadAs (prettyAt 1 entry.2) (back entry.2)) :
    read (pretty (.record entries)) = some (.record (entries.map fun entry => (entry.1, back entry.2))) := by
  cases entries with
  | nil => rfl
  | cons entry rest =>
    let lines := ",\n".intercalate ((prettyEntries 1 (entry :: rest)).map (indentation 1 ++ ·))
    let body := lines.toList ++ '\n' :: ([] ++ ['}'])
    have hpretty : (pretty (.record (entry :: rest))).toList = '{' :: '\n' :: body := by
      simp [pretty, prettyAt, block, body, lines, indentation, prettyEntries]
    have hentries : readEntries (body.length + 2) 1 body =
        some (some ((entry :: rest).map fun entry => (entry.1, back entry.2)), []) := by
      refine readEntries_lines 1 back (List.cons_ne_nil _ _) hback rfl ?_
      show lines.length < _
      simp only [body, List.length_cons, List.length_append, String.length_toList]
      omega
    -- The first line starts with a key, so the record is not taken for one without entries.
    obtain ⟨cs, hcs⟩ : ∃ cs, body.dropWhile isSpace = '"' :: cs := by
      cases rest <;> simp [body, lines, prettyEntries, String.intercalate_cons_cons, indentation, quote, isSpace]
    have hbody : readEntries (body.length + 2) 1 ('"' :: cs) = readEntries (body.length + 2) 1 body :=
      readEntries_congr (by rw [hcs]; rfl)
    simp only [read, hpretty, List.length_cons]
    simp [readValue, isSpace, hcs, hbody, hentries, maxDepth]

end SiteBuilder.Json
