import SiteBuilder.Decimal.Reading
import SiteBuilder.Json.Reader
import SiteBuilder.Page.Fault
import SiteBuilder.Text.Blank

/-!
# Parts of a template

A template is cut into text, printed expressions in double braces, and tags in braces with percent
signs; comments are dropped. A hyphen next to a mark takes away the blanks on its outer side. Inside
the marks a part is a list of tokens.

The readers go from left to right and count lines. `fuel` bounds the number of their steps; the length
of what they read suffices.
-/

namespace SiteBuilder.Page

/-- A token of an expression or a tag. -/
inductive Token where
  /-- A name or a keyword. -/
  | word (s : String)
  /-- A text in quotes. -/
  | quoted (s : String)
  | int (n : Nat)
  | float (x : Float)
  /-- An operator or a bracket. -/
  | mark (s : String)
  deriving DecidableEq

/-- A token and the line it is on. -/
structure Lexeme where
  token : Token
  line : Nat
  deriving DecidableEq

/-- A part of a template. -/
inductive Part where
  /-- Text that is printed as it is. -/
  | text (s : List Char)
  /-- An expression whose value is printed. -/
  | print (tokens : List Lexeme)
  /-- A tag. -/
  | tag (tokens : List Lexeme)
  deriving DecidableEq

namespace Part

/-- A character a name may start with. -/
def isWordStart (c : Char) : Bool := c.isAlpha || c == '_'

/-- A character a name may go on with. -/
def isWordPart (c : Char) : Bool := c.isAlphanum || c == '_'

/-- The number of line breaks. -/
def lineBreaks (cs : List Char) : Nat := cs.count '\n'

/-- Read a text up to its closing quote. The result is the text and the rest. -/
def readQuoted (quote : Char) : Nat → List Char → List Char → Except FaultKind (List Char × List Char)
  | 0, _, _ => .error .malformed
  | _, _, [] => .error .malformed
  | fuel + 1, acc, '\\' :: c :: rest =>
    if c = 'u' then
      match rest with
      | a :: b :: c :: d :: rest =>
        match Json.hexUnit? a b c d with
        | some unit => readQuoted quote fuel (Char.ofNat unit :: acc) rest
        | none => .error .badEscape
      | _ => .error .badEscape
    else
      match Json.escapedChar? c with
      | some c => readQuoted quote fuel (c :: acc) rest
      | none => if c = '\'' then readQuoted quote fuel (c :: acc) rest else .error .badEscape
  | fuel + 1, acc, c :: rest =>
    if c = quote then .ok (acc.reverse, rest) else readQuoted quote fuel (c :: acc) rest

/-- The exponent at the start, with its letter, and the rest. -/
def readExponent (cs : List Char) : List Char × List Char :=
  match cs with
  | c :: sign :: rest =>
    if c = 'e' ∨ c = 'E' then
      if (sign = '+' ∨ sign = '-') ∧ (rest.head?.any Char.isDigit) then
        (c :: sign :: rest.takeWhile Char.isDigit, rest.dropWhile Char.isDigit)
      else if sign.isDigit then
        (c :: (sign :: rest).takeWhile Char.isDigit, (sign :: rest).dropWhile Char.isDigit)
      else ([], cs)
    else ([], cs)
  | _ => ([], cs)

/-- Read a number. Underscores may stand between the digits before the point. -/
def readNumber (cs : List Char) : Option (Token × List Char) :=
  let isPart (c : Char) : Bool := c.isDigit || c == '_'
  let whole := (cs.takeWhile isPart).filter Char.isDigit
  let rest := cs.dropWhile isPart
  let (fraction, rest) :=
    match rest with
    | '.' :: d :: more =>
      if d.isDigit then
        ('.' :: (d :: more).takeWhile Char.isDigit, (d :: more).dropWhile Char.isDigit)
      else ([], rest)
    | _ => ([], rest)
  let (exponent, rest) := readExponent rest
  if fraction.isEmpty ∧ exponent.isEmpty then some (.int (Decimal.digitsValue whole), rest)
  else (Decimal.readFloat (whole ++ fraction ++ exponent)).map fun x => (.float x, rest)

/-- Operators of two characters. -/
def longMarks : List String := ["//", "**", "==", "!=", ">=", "<="]

/-- Operators and brackets of one character. -/
def shortMarks : List Char := "+-*/%.,:~|=><()[]\x7b\x7d".toList

/-- The first token of what starts with no blank, and the rest. -/
def nextToken : List Char → Except FaultKind (Token × List Char)
  | [] => .error .malformed
  | c :: rest =>
    if isWordStart c then
      .ok (.word (String.ofList (c :: rest.takeWhile isWordPart)), rest.dropWhile isWordPart)
    else if c.isDigit then
      match readNumber (c :: rest) with
      | some found => .ok found
      | none => .error .malformed
    else if c = '"' ∨ c = '\'' then
      (readQuoted c (rest.length + 1) [] rest).map fun (inner, rest) => (.quoted (String.ofList inner), rest)
    else if rest.head?.any fun d => longMarks.contains (String.ofList [c, d]) then
      .ok (.mark (String.ofList (c :: rest.take 1)), rest.drop 1)
    else if shortMarks.contains c then .ok (.mark (String.singleton c), rest)
    else .error .malformed

/-- What follows the end of a part, if it starts here, and whether blanks after it are dropped. -/
def afterEnd? (closing : List Char) (cs : List Char) : Option (Bool × List Char) :=
  match cs with
  | '-' :: rest => (Text.afterStart? closing rest).map (true, ·)
  | '+' :: rest => (Text.afterStart? closing rest).map (false, ·)
  | cs => (Text.afterStart? closing cs).map (false, ·)

/-- The change in the number of open brackets that a token makes. -/
def depthAfter (depth : Nat) : Token → Nat
  | .mark "(" => depth + 1
  | .mark "[" => depth + 1
  | .mark "\x7b" => depth + 1
  | .mark ")" => depth - 1
  | .mark "]" => depth - 1
  | .mark "\x7d" => depth - 1
  | _ => depth

/-- The tokens of a part. -/
structure Inside where
  tokens : List Lexeme
  /-- Whether blanks after the part are dropped. -/
  trims : Bool
  /-- What follows the part. -/
  rest : List Char
  /-- The line it starts on. -/
  line : Nat

/-- Read the tokens of a part up to its end, which does not count inside brackets. -/
def readInside (closing : List Char) : Nat → Nat → Nat → List Lexeme → List Char → Except FaultKind Inside
  | 0, _, _, _, _ => .error .malformed
  | fuel + 1, depth, line, acc, cs =>
    let inner := cs.dropWhile Char.isWhitespace
    let line := line + lineBreaks (cs.takeWhile Char.isWhitespace)
    match if depth = 0 then afterEnd? closing inner else none with
    | some (trims, rest) => .ok ⟨acc.reverse, trims, rest, line⟩
    | none =>
      match nextToken inner with
      | .error kind => .error kind
      | .ok (token, rest) =>
        let read := inner.take (inner.length - rest.length)
        readInside closing fuel (depthAfter depth token) (line + lineBreaks read) (⟨token, line⟩ :: acc) rest

/-- What follows a tag that is nothing but a word, if it starts here, with whether blanks before and
after it are dropped. -/
def afterBareTag? (word : String) (cs : List Char) : Option (Bool × Bool × List Char) := do
  let rest ← Text.afterStart? ['\x7b', '%'] cs
  let (trimsBefore, rest) :=
    match rest with
    | '-' :: rest => (true, rest)
    | '+' :: rest => (false, rest)
    | rest => (false, rest)
  let rest ← Text.afterStart? word.toList (rest.dropWhile Char.isWhitespace)
  let (trimsAfter, rest) ← afterEnd? ['%', '\x7d'] (rest.dropWhile Char.isWhitespace)
  return (trimsBefore, trimsAfter, rest)

/-- The text up to the end of a part that is taken as it is, the result of its end, and the number of
characters before it. -/
def untilBareTag? (word : String) : List Char → Option (List Char × Bool × Bool × List Char)
  | [] => none
  | c :: cs =>
    match afterBareTag? word (c :: cs) with
    | some found => some ([], found)
    | none => (untilBareTag? word cs).map fun (before, found) => (c :: before, found)

/-- Whether a mark of a part starts here. -/
def startsPart : List Char → Bool
  | '\x7b' :: c :: _ => c == '\x7b' || c == '%' || c == '#'
  | _ => false

/-- The text before the first mark and what starts with the mark. -/
def untilPart : List Char → List Char × List Char
  | [] => ([], [])
  | c :: cs =>
    if startsPart (c :: cs) then ([], c :: cs)
    else
      let (before, rest) := untilPart cs
      (c :: before, rest)

/-- A text without blanks at its start or its end, if they are to be dropped. -/
def trimmed (atStart atEnd : Bool) (cs : List Char) : List Char :=
  let cs := if atStart then cs.dropWhile Text.isBlank else cs
  if atEnd then Text.dropEndWhile Text.isBlank cs else cs

/-- Put a text in front of parts, unless it is empty. -/
def withText (before : List Char) (parts : List Part) : List Part :=
  if before.isEmpty then parts else .text before :: parts

/-- Cut a template into parts. `trims` tells whether blanks at its start are dropped. -/
def readFrom : Nat → Bool → Nat → List Char → Except FaultKind (List Part)
  | 0, _, _, _ => .error .malformed
  | fuel + 1, trims, line, cs =>
    let (before, rest) := untilPart cs
    let line := line + lineBreaks before
    match rest with
    | '\x7b' :: kind :: inner =>
      match afterBareTag? "raw" rest with
      | some (trimsBefore, trimsStart, body) =>
        match untilBareTag? "endraw" body with
        | none => .error .malformed
        | some (raw, trimsEnd, trimsAfter, after) =>
          let read := rest.take (rest.length - after.length)
          (readFrom fuel trimsAfter (line + lineBreaks read) after).map fun parts =>
            withText (trimmed trims trimsBefore before) (withText (trimmed trimsStart trimsEnd raw) parts)
      | none =>
        let (trimsBefore, inner) :=
          match inner with
          | '-' :: inner => (true, inner)
          | '+' :: inner => (false, inner)
          | inner => (false, inner)
        let before := trimmed trims trimsBefore before
        if kind = '#' then
          match Text.cutAt? ['#', '\x7d'] inner with
          | none => .error .malformed
          | some (comment, after) =>
            let trimsAfter := comment.getLast? = some '-'
            (readFrom fuel trimsAfter (line + lineBreaks comment) after).map (withText before)
        else
          let closing := if kind = '%' then ['%', '\x7d'] else ['\x7d', '\x7d']
          match readInside closing (inner.length + 1) 0 line [] inner with
          | .error kind => .error kind
          | .ok inside =>
            let part := if kind = '%' then Part.tag inside.tokens else .print inside.tokens
            (readFrom fuel inside.trims inside.line inside.rest).map fun parts => withText before (part :: parts)
    | _ => .ok (withText (trimmed trims false before) [])

/-- Drop one line break at the end of a template. -/
def withoutLastBreak (cs : List Char) : List Char :=
  match cs.reverse with
  | '\n' :: '\r' :: rest => rest.reverse
  | '\n' :: rest => rest.reverse
  | '\r' :: rest => rest.reverse
  | _ => cs

/-- The parts of a template. -/
def read (template : String) : Except FaultKind (List Part) :=
  readFrom (template.length + 1) false 1 (withoutLastBreak template.toList)

end Part

end SiteBuilder.Page
