import SiteBuilder.Json.Number

/-!
# Reading JSON

`Json.read` accepts one value with nothing but spaces around it. What is well formed but has no
value is read as `unreadable`, so that it is refused only where a value is needed.
-/

namespace SiteBuilder.Json

/-- The four characters that may stand between tokens. -/
def isSpace (c : Char) : Bool := c == ' ' || c == '\n' || c == '\t' || c == '\r'

/-- The value of a hexadecimal digit. -/
def hexDigit? (c : Char) : Option Nat :=
  if '0' ≤ c ∧ c ≤ '9' then some (c.toNat - 48)
  else if 'a' ≤ c ∧ c ≤ 'f' then some (c.toNat - 87)
  else if 'A' ≤ c ∧ c ≤ 'F' then some (c.toNat - 55)
  else none

/-- The code unit that four hexadecimal digits denote. -/
def hexUnit? (a b c d : Char) : Option Nat := do
  return ((← hexDigit? a) * 16 + (← hexDigit? b)) * 256 + (← hexDigit? c) * 16 + (← hexDigit? d)

/-- The character a letter after a backslash stands for. -/
def escapedChar? : Char → Option Char
  | '"' => some '"'
  | '\\' => some '\\'
  | '/' => some '/'
  | 'b' => some '\x08'
  | 'f' => some '\x0c'
  | 'n' => some '\n'
  | 'r' => some '\r'
  | 't' => some '\t'
  | _ => none

/-- Read the rest of a text up to its closing quote. The first result is `none` if the text holds
half a surrogate pair. -/
def readText (fuel : Nat) (acc : List Char) (whole : Bool) (cs : List Char) :
    Option (Option String × List Char) :=
  match fuel, cs with
  | 0, _ => none
  | _, [] => none
  | _ + 1, '"' :: rest => some (if whole then some (String.ofList acc.reverse) else none, rest)
  | fuel + 1, '\\' :: 'u' :: a :: b :: c :: d :: rest =>
    match hexUnit? a b c d with
    | none => none
    | some unit =>
      if unit < 0xD800 ∨ 0xE000 ≤ unit then readText fuel (Char.ofNat unit :: acc) whole rest
      else
        match rest with
        | '\\' :: 'u' :: a' :: b' :: c' :: d' :: rest' =>
          match hexUnit? a' b' c' d' with
          | none => none
          | some low =>
            if unit < 0xDC00 ∧ 0xDC00 ≤ low ∧ low < 0xE000 then
              readText fuel (Char.ofNat (0x10000 + (unit - 0xD800) * 1024 + (low - 0xDC00)) :: acc) whole rest'
            else readText fuel acc false rest
        | rest => readText fuel acc false rest
  | fuel + 1, '\\' :: c :: rest =>
    match escapedChar? c with
    | none => none
    | some c => readText fuel (c :: acc) whole rest
  | fuel + 1, c :: rest => if c.toNat < 0x20 ∨ c = '\\' then none else readText fuel (c :: acc) whole rest

/-- The deepest nesting of lists and records that has a value. -/
def maxDepth : Nat := 127

mutual

/-- Read one value at the given depth of nesting. -/
def readValue (fuel : Nat) (depth : Nat) (cs : List Char) : Option (Datum × List Char) :=
  match fuel with
  | 0 => none
  | fuel + 1 =>
    match cs.dropWhile isSpace with
    | '{' :: rest =>
      match rest.dropWhile isSpace with
      | '}' :: rest => some (if depth < maxDepth then .record [] else .unreadable, rest)
      | rest =>
        (readEntries fuel (depth + 1) rest).map fun (entries, rest) =>
          (match entries with
            | some entries => if depth < maxDepth then .record entries else .unreadable
            | none => .unreadable, rest)
    | '[' :: rest =>
      match rest.dropWhile isSpace with
      | ']' :: rest => some (if depth < maxDepth then .list [] else .unreadable, rest)
      | rest =>
        (readItems fuel (depth + 1) rest).map fun (items, rest) =>
          (if depth < maxDepth then .list items else .unreadable, rest)
    | '"' :: rest =>
      (readText fuel [] true rest).map fun (s, rest) =>
        (match s with
          | some s => .text s
          | none => .unreadable, rest)
    | 't' :: 'r' :: 'u' :: 'e' :: rest => some (.bool true, rest)
    | 'f' :: 'a' :: 'l' :: 's' :: 'e' :: rest => some (.bool false, rest)
    | 'n' :: 'u' :: 'l' :: 'l' :: rest => some (.null, rest)
    | rest => readNumber rest

/-- Read the items of a list that has at least one, up to the closing bracket. -/
def readItems (fuel : Nat) (depth : Nat) (cs : List Char) : Option (List Datum × List Char) :=
  match fuel with
  | 0 => none
  | fuel + 1 =>
    match readValue fuel depth cs with
    | none => none
    | some (item, rest) =>
      match rest.dropWhile isSpace with
      | ']' :: rest => some ([item], rest)
      | ',' :: rest => (readItems fuel depth rest).map fun (items, rest) => (item :: items, rest)
      | _ => none

/-- Read the entries of a record that has at least one, up to the closing brace. The first result
is `none` if some key has no value. -/
def readEntries (fuel : Nat) (depth : Nat) (cs : List Char) :
    Option (Option (List (String × Datum)) × List Char) :=
  match fuel with
  | 0 => none
  | fuel + 1 =>
    match cs.dropWhile isSpace with
    | '"' :: rest =>
      match readText fuel [] true rest with
      | none => none
      | some (key, rest) =>
        match rest.dropWhile isSpace with
        | ':' :: rest =>
          match readValue fuel depth rest with
          | none => none
          | some (value, rest) =>
            let entry : Option (String × Datum) := key.map fun key => (key, value)
            match rest.dropWhile isSpace with
            | '}' :: rest => some (entry.map fun entry => [entry], rest)
            | ',' :: rest =>
              (readEntries fuel depth rest).map fun (entries, rest) =>
                ((do return (← entry) :: (← entries)), rest)
            | _ => none
        | _ => none
    | _ => none

end

/-- Without fuel, no value is read. -/
@[simp] theorem readValue_zero (depth : Nat) (cs : List Char) : readValue 0 depth cs = none := by rw [readValue]

/-- Without fuel, no items are read. -/
@[simp] theorem readItems_zero (depth : Nat) (cs : List Char) : readItems 0 depth cs = none := by rw [readItems]

/-- Without fuel, no entries are read. -/
@[simp] theorem readEntries_zero (depth : Nat) (cs : List Char) : readEntries 0 depth cs = none := by rw [readEntries]

/-- The value of a JSON text. -/
def read (s : String) : Option Datum :=
  let cs := s.toList
  match readValue (cs.length + 1) 0 cs with
  | some (value, rest) => if rest.all isSpace then some value else none
  | none => none

end SiteBuilder.Json
