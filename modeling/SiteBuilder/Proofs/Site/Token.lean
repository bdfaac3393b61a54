import Mathlib.Data.List.Basic
import SiteBuilder.Site.Placeholder

/-!
# Tokens

The grammar of placeholders, apart from the reader that looks for them. A token is put together from a
key, blanks and an optional fallback, each of which carries the proof that its characters are allowed, and
`Token.text` writes it down. What is written can be taken apart in one way only, whatever follows it.
-/

namespace SiteBuilder.Placeholder

/-! ## Runs of characters -/

/-- Characters of one class. -/
structure Run (p : Char → Bool) where
  chars : List Char
  all : ∀ c ∈ chars, p c = true

/-- A run of a class cannot go on here. -/
def Stops (p : Char → Bool) (text : List Char) : Prop := ∀ c ∈ text.head?, p c = false

section Run

variable {p : Char → Bool}

@[simp]
theorem stops_cons {c : Char} {text : List Char} : Stops p (c :: text) ↔ p c = false := by
  simp [Stops]

/-- The run at the start of a text, as long as it can be. -/
def Run.ofTakeWhile (p : Char → Bool) (text : List Char) : Run p :=
  ⟨text.takeWhile p, fun _ hc => List.all_eq_true.mp List.all_takeWhile _ hc⟩

variable (run : Run p) {rest : List Char} (hrest : Stops p rest)

include hrest

/-- A run is taken as a whole and no further than where it stops. -/
theorem Run.takeWhile_append : (run.chars ++ rest).takeWhile p = run.chars := by
  rw [List.takeWhile_append_of_pos run.all]
  cases rest with
  | nil => simp
  | cons c rest => simp [stops_cons.mp hrest]

/-- What a run is followed by is left when it is passed over. -/
theorem Run.dropWhile_append : (run.chars ++ rest).dropWhile p = rest := by
  rw [List.dropWhile_append_of_pos run.all]
  cases rest with
  | nil => rfl
  | cons c rest => simp [stops_cons.mp hrest]

/-- A text is taken apart in one way into a run and what stops it. -/
theorem Run.append_inj {other : Run p} {rest' : List Char} (hrest' : Stops p rest')
    (h : run.chars ++ rest = other.chars ++ rest') : run = other ∧ rest = rest' := by
  constructor
  · have hchars : run.chars = other.chars := by
      rw [← run.takeWhile_append hrest, ← other.takeWhile_append hrest', h]
    cases run
    cases other
    cases hchars
    rfl
  · rw [← run.dropWhile_append hrest, ← other.dropWhile_append hrest', h]

end Run

/-! ## Classes of characters -/

/-- A key may go on with any character it may start with. -/
theorem isKeyPart_of_isKeyStart {c : Char} (h : isKeyStart c = true) : isKeyPart c = true := by
  simp [isKeyPart, h]

/-- No key has a blank in it. -/
theorem isKeyPart_of_isBlank {c : Char} (h : Text.isBlank c = true) : isKeyPart c = false := by
  have hval : c.val.toNat = c.toNat := rfl
  simp only [Text.isBlank, Bool.or_eq_true, Bool.and_eq_true, decide_eq_true_eq, beq_iff_eq] at h
  simp only [isKeyPart, isKeyStart, Char.le_def, UInt32.le_iff_toNat_le, hval, ← Char.toNat_inj,
    Bool.or_eq_false_iff, Bool.and_eq_false_iff, decide_eq_false_iff_not, beq_eq_false_iff_ne, ne_eq,
    Char.reduceVal, UInt32.reduceToNat, Char.reduceToNat]
  omega

/-- A character that a key may start with is not blank. -/
theorem isBlank_of_isKeyStart {c : Char} (h : isKeyStart c = true) : Text.isBlank c = false := by
  cases hblank : Text.isBlank c with
  | false => rfl
  | true => cases (isKeyPart_of_isKeyStart h).symm.trans (isKeyPart_of_isBlank hblank)

/-! ## Keys and fallbacks -/

/-- The name of an answer: a letter or an underscore, then letters, digits, underscores and dashes. -/
structure Key where
  first : Char
  rest : Run isKeyPart
  isKeyStart_first : isKeyStart first = true

/-- The characters of a key. -/
def Key.chars (key : Key) : List Char := key.first :: key.rest.chars

/-- A fallback after its bar, or nothing without one. -/
def barred : Option (Run isFallbackPart) → List Char
  | none => []
  | some fallback => '|' :: fallback.chars

/-- The characters of a fallback, none without one. -/
def fallbackChars (fallback : Option (Run isFallbackPart)) : List Char := (fallback.map Run.chars).getD []

/-- The display text of the answer to a key or, where there is no answer or its text is empty, another. -/
def Key.fill (key : Key) (answers : AnswerSet) (otherwise : List Char) : List Char :=
  match answers.get? (String.ofList key.chars) with
  | some answer => if answer.display = "" then otherwise else answer.display.toList
  | none => otherwise

/-- A key is told from what stops it. -/
theorem Key.append_inj {key other : Key} {rest rest' : List Char} (hrest : Stops isKeyPart rest)
    (hrest' : Stops isKeyPart rest') (h : key.chars ++ rest = other.chars ++ rest') :
    key = other ∧ rest = rest' := by
  simp only [Key.chars, List.cons_append, List.cons.injEq] at h
  obtain ⟨hfirst, hchars⟩ := h
  obtain ⟨hrun, hsame⟩ := key.rest.append_inj hrest hrest' hchars
  cases key
  cases other
  cases hfirst
  cases hrun
  exact ⟨rfl, hsame⟩

/-- A fallback is told from the brace behind it. -/
theorem barred_append_inj {fallback other : Option (Run isFallbackPart)} {rest rest' : List Char}
    (h : barred fallback ++ '\x7d' :: rest = barred other ++ '\x7d' :: rest') :
    fallback = other ∧ rest = rest' := by
  cases fallback with
  | none =>
    cases other with
    | none => exact ⟨rfl, by simpa [barred] using h⟩
    | some other => simp [barred] at h
  | some fallback =>
    cases other with
    | none => simp [barred] at h
    | some other =>
      have hstop (tail : List Char) : Stops isFallbackPart ('\x7d' :: tail) := by simp [isFallbackPart]
      simp only [barred, List.cons_append, List.cons.injEq, true_and] at h
      obtain ⟨hrun, hrest⟩ := fallback.append_inj (hstop _) (hstop _) h
      exact ⟨congrArg some hrun, (List.cons.inj hrest).2⟩

/-- Neither a key nor blanks go on at a bar or at the closing brace. -/
theorem stops_barred {p : Char → Bool} (hbar : p '|' = false) (hbrace : p '\x7d' = false)
    (fallback : Option (Run isFallbackPart)) (rest : List Char) :
    Stops p (barred fallback ++ '\x7d' :: rest) := by
  cases fallback with
  | none => simpa [barred] using hbrace
  | some fallback => simpa [barred] using hbar

/-- A key does not go on at blanks, a bar or the closing brace. -/
theorem stops_blanks (blanks : Run Text.isBlank) (fallback : Option (Run isFallbackPart)) (rest : List Char) :
    Stops isKeyPart (blanks.chars ++ (barred fallback ++ '\x7d' :: rest)) := by
  obtain ⟨chars, hall⟩ := blanks
  cases chars with
  | nil => exact stops_barred rfl rfl fallback rest
  | cons c chars => simpa using isKeyPart_of_isBlank (hall c List.mem_cons_self)

/-! ## Tokens -/

/-- A placeholder as it is written. -/
inductive Token where
  /-- Double braces, with blanks before and after the key. -/
  | double (before : Run Text.isBlank) (key : Key) (after : Run Text.isBlank)
      (fallback : Option (Run isFallbackPart))
  /-- Single braces. -/
  | single (key : Key) (fallback : Option (Run isFallbackPart))
  /-- Single braces after a dollar sign. -/
  | escaped (key : Key) (fallback : Option (Run isFallbackPart))

namespace Token

/-- The characters of a token. -/
def text : Token → List Char
  | double before key after fallback =>
    '\x7b' :: '\x7b' :: (before.chars ++ (key.chars ++ (after.chars ++ (barred fallback ++ ['\x7d', '\x7d']))))
  | single key fallback => '\x7b' :: (key.chars ++ (barred fallback ++ ['\x7d']))
  | escaped key fallback => '$' :: '\x7b' :: (key.chars ++ (barred fallback ++ ['\x7d']))

/-- What takes the place of a token: the display text of the answer to its key or the fallback, which
double braces keep without the blanks around it. After a dollar sign the token stays as it is. -/
def value (answers : AnswerSet) : Token → List Char
  | double _ key _ fallback => key.fill answers (Text.trimBy Text.isBlank (fallbackChars fallback))
  | single key fallback => key.fill answers (fallbackChars fallback)
  | escaped key fallback => (escaped key fallback).text

/-- No token is empty. -/
theorem text_ne_nil (token : Token) : token.text ≠ [] := by
  cases token <;> exact List.cons_ne_nil _ _

/-- In single braces, the key and the fallback are told from what follows them. -/
theorem body_append_inj {key other : Key} {fallback otherFallback : Option (Run isFallbackPart)}
    {rest rest' : List Char}
    (h : key.chars ++ (barred fallback ++ '\x7d' :: rest) =
      other.chars ++ (barred otherFallback ++ '\x7d' :: rest')) :
    key = other ∧ fallback = otherFallback ∧ rest = rest' := by
  obtain ⟨hkey, htail⟩ := Key.append_inj (stops_barred rfl rfl _ _) (stops_barred rfl rfl _ _) h
  exact ⟨hkey, barred_append_inj htail⟩

/-- A key starts with no blank, so blanks before it stop there. -/
theorem stops_key (key : Key) (rest : List Char) : Stops Text.isBlank (key.chars ++ rest) :=
  stops_cons.mpr (isBlank_of_isKeyStart key.isKeyStart_first)

/-- A text starts with at most one token, and what follows it is determined. -/
theorem text_append_inj {token other : Token} {rest rest' : List Char}
    (h : token.text ++ rest = other.text ++ rest') : token = other ∧ rest = rest' := by
  have hbrace (key : Key) : key.first ≠ '\x7b' := by
    intro hfirst
    have hstart := key.isKeyStart_first
    rw [hfirst] at hstart
    cases hstart
  cases token with
  | double before key after fallback =>
    cases other with
    | double before' key' after' fallback' =>
      simp only [text, List.cons_append, List.append_assoc, List.nil_append, List.cons.injEq, true_and] at h
      obtain ⟨rfl, hkey⟩ := before.append_inj (stops_key _ _) (stops_key _ _) h
      obtain ⟨rfl, hafter⟩ := Key.append_inj (stops_blanks after _ _) (stops_blanks after' _ _) hkey
      obtain ⟨rfl, hbarred⟩ := after.append_inj (stops_barred rfl rfl _ _) (stops_barred rfl rfl _ _) hafter
      obtain ⟨rfl, hrest⟩ := barred_append_inj hbarred
      exact ⟨rfl, (List.cons.inj hrest).2⟩
    | single key' fallback' =>
      simp only [text, Key.chars, List.cons_append, List.cons.injEq, true_and] at h
      exact absurd h.1.symm (hbrace key')
    | escaped key' fallback' => simp [text] at h
  | single key fallback =>
    cases other with
    | double before' key' after' fallback' =>
      simp only [text, Key.chars, List.cons_append, List.cons.injEq, true_and] at h
      exact absurd h.1 (hbrace key)
    | single key' fallback' =>
      simp only [text, List.cons_append, List.append_assoc, List.nil_append, List.cons.injEq, true_and] at h
      obtain ⟨rfl, rfl, rfl⟩ := body_append_inj h
      exact ⟨rfl, rfl⟩
    | escaped key' fallback' => simp [text] at h
  | escaped key fallback =>
    cases other with
    | double before' key' after' fallback' => simp [text] at h
    | single key' fallback' => simp [text] at h
    | escaped key' fallback' =>
      simp only [text, List.cons_append, List.append_assoc, List.nil_append, List.cons.injEq, true_and] at h
      obtain ⟨rfl, rfl, rfl⟩ := body_append_inj h
      exact ⟨rfl, rfl⟩

end Token

end SiteBuilder.Placeholder
