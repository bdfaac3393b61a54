/-!
# Positions in a YAML text

A `Cursor` is what is left of a text together with the line and the column reached. Lines end at a
line feed, a carriage return or both, and at the Unicode line separators.
-/

namespace SiteBuilder.Yaml

/-- The characters a YAML text may hold: no controls but tabs and line ends. -/
def isAllowed (c : Char) : Bool :=
  let n := c.toNat
  n == 9 || n == 10 || n == 13 || (0x20 ≤ n && n ≤ 0x7E) || n == 0x85 ||
  (0xA0 ≤ n && n ≤ 0xFFFD && n != 0xFEFF) || 0x10000 ≤ n

/-- A space or a tab. -/
def isSpacing (c : Char) : Bool := c == ' ' || c == '\t'

/-- A character that ends a line. -/
def isBreak (c : Char) : Bool :=
  c == '\n' || c == '\r' || c.toNat == 0x85 || c.toNat == 0x2028 || c.toNat == 0x2029

/-- What is left to read, and where it starts. -/
structure Cursor where
  /-- The text from here on. -/
  rest : List Char
  /-- The number of characters before. -/
  index : Nat
  /-- The number of lines before. -/
  line : Nat
  /-- The number of characters before on this line. -/
  column : Nat

namespace Cursor

/-- The next character. -/
def head? (c : Cursor) : Option Char := c.rest.head?

/-- The character `n` places ahead. -/
def ahead? (c : Cursor) (n : Nat) : Option Char := c.rest[n]?

/-- Whether the text ends, or has a character that satisfies `p`, `n` places ahead. -/
def endsOr (c : Cursor) (p : Char → Bool) (n : Nat) : Bool := (c.ahead? n).all p

/-- Whether the character `n` places ahead separates words: a space, a tab, a line end or the end
of the text. -/
def separates (c : Cursor) (n : Nat) : Bool := c.endsOr (fun ch => isSpacing ch || isBreak ch) n

/-- Move over one character of a line. -/
def skip (c : Cursor) : Cursor := { c with rest := c.rest.tail, index := c.index + 1, column := c.column + 1 }

/-- Move over `n` characters of a line. -/
def skipBy (c : Cursor) : Nat → Cursor
  | 0 => c
  | n + 1 => c.skip.skipBy n

/-- Move over the characters of a line that satisfy `p`. -/
def skipWhile (c : Cursor) (p : Char → Bool) : Cursor := c.skipBy (c.rest.takeWhile p).length

/-- Move over a line end. -/
def skipLine (c : Cursor) : Cursor :=
  match c.rest with
  | '\r' :: '\n' :: rest => ⟨rest, c.index + 2, c.line + 1, 0⟩
  | ch :: rest => if isBreak ch then ⟨rest, c.index + 1, c.line + 1, 0⟩ else c
  | [] => c

/-- What a line end contributes to a text: a line feed, or the separator itself. -/
def lineEnd (c : Cursor) : List Char :=
  match c.rest with
  | ch :: _ =>
    if ch.toNat == 0x2028 || ch.toNat == 0x2029 then [ch] else if isBreak ch then ['\n'] else []
  | [] => []

/-- Whether a line starts here with `---` or `...` as a word. -/
def atDocumentMark (c : Cursor) : Bool :=
  c.column == 0 && (c.rest.take 3 == ['-', '-', '-'] || c.rest.take 3 == ['.', '.', '.']) && c.separates 3

end Cursor

end SiteBuilder.Yaml
