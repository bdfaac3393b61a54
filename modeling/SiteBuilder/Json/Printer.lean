import SiteBuilder.Datum.Basic
import SiteBuilder.Decimal.Layout

/-!
# Writing JSON

`Json.compact` writes a value without spaces; `Json.pretty` gives every item and entry a line of
its own, indented by two spaces a level. Entries keep their order. A float that is not finite is
written as `null`.
-/

namespace SiteBuilder.Json

open Decimal

/-- A digit below sixteen, in small letters. -/
def hexChar (n : Nat) : Char := if n < 10 then Char.ofNat (48 + n) else Char.ofNat (87 + n)

/-- A character inside quotes: only the quote, the backslash and controls are escaped. -/
def escapeChar (c : Char) : List Char :=
  if c = '"' then ['\\', '"']
  else if c = '\\' then ['\\', '\\']
  else if c = '\x08' then ['\\', 'b']
  else if c = '\x0c' then ['\\', 'f']
  else if c = '\n' then ['\\', 'n']
  else if c = '\r' then ['\\', 'r']
  else if c = '\t' then ['\\', 't']
  else if c.toNat < 0x20 then ['\\', 'u', '0', '0', hexChar (c.toNat / 16), hexChar (c.toNat % 16)]
  else [c]

/-- A text in quotes. -/
def quote (s : String) : String := String.ofList ('"' :: (s.toList.flatMap escapeChar ++ ['"']))

/-- A whole number. -/
def intText (n : Int) : String :=
  String.ofList (if n < 0 then '-' :: digitsOf n.natAbs else digitsOf n.natAbs)

/-- The text of a value that is not a list or a record. -/
def scalarText : Datum → String
  | .bool b => if b then "true" else "false"
  | .int n => intText n
  | .float x => Layout.json.text x
  | .text s => quote s
  | .plain s => quote s
  | _ => "null"

mutual

/-- A value without spaces. -/
def compact : Datum → String
  | .list items => "[" ++ ",".intercalate (compactItems items) ++ "]"
  | .sequence items => "[" ++ ",".intercalate (compactItems items) ++ "]"
  | .record entries => "\x7b" ++ ",".intercalate (compactEntries entries) ++ "\x7d"
  | value => scalarText value

/-- The items of a list without spaces. -/
def compactItems : List Datum → List String
  | [] => []
  | item :: items => compact item :: compactItems items

/-- The entries of a record without spaces. -/
def compactEntries : List (String × Datum) → List String
  | [] => []
  | (key, value) :: entries => (quote key ++ ":" ++ compact value) :: compactEntries entries

end

/-- Two spaces a level. -/
def indentation (level : Nat) : String := String.ofList (List.replicate (2 * level) ' ')

/-- Lines between an opening and a closing bracket; no lines if there is nothing between. -/
def block (level : Nat) (opening closing : String) (lines : List String) : String :=
  if lines.isEmpty then opening ++ closing
  else
    opening ++ "\n" ++ ",\n".intercalate (lines.map (indentation (level + 1) ++ ·)) ++ "\n" ++
      indentation level ++ closing

mutual

/-- A value over several lines, at a level of indentation. -/
def prettyAt (level : Nat) : Datum → String
  | .list items => block level "[" "]" (prettyItems (level + 1) items)
  | .sequence items => block level "[" "]" (prettyItems (level + 1) items)
  | .record entries => block level "\x7b" "\x7d" (prettyEntries (level + 1) entries)
  | value => scalarText value

/-- The items of a list over several lines. -/
def prettyItems (level : Nat) : List Datum → List String
  | [] => []
  | item :: items => prettyAt level item :: prettyItems level items

/-- The entries of a record over several lines. -/
def prettyEntries (level : Nat) : List (String × Datum) → List String
  | [] => []
  | (key, value) :: entries => (quote key ++ ": " ++ prettyAt level value) :: prettyEntries level entries

end

/-- A value over several lines. -/
def pretty (value : Datum) : String := prettyAt 0 value

end SiteBuilder.Json
