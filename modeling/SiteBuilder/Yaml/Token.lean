import SiteBuilder.Yaml.Scalar

/-!
# YAML tokens

`tokens` turns a text into the marks and scalars of its structure. Indentation becomes explicit:
a block collection has a token at its start and one at its end. A key of a block mapping is known
only once its `:` is met, so the key token is put in front of the tokens read since; such a simple
key must lie on one line and within 1024 characters.
-/

namespace SiteBuilder.Yaml

/-- One token of a YAML text. -/
inductive Token where
  | directive
  | documentStart
  | documentEnd
  | blockSequenceStart
  | blockMappingStart
  | blockEnd
  | flowSequenceStart
  | flowSequenceEnd
  | flowMappingStart
  | flowMappingEnd
  | entry
  | flowEntry
  | key
  | value
  | alias (name : String)
  | anchor (name : String)
  | tag (name : String)
  | plain (text : String)
  | quoted (text : String)
  deriving DecidableEq

/-- A place where a simple key may have started. -/
structure KeyStart where
  /-- Whether the place can only hold a key. -/
  required : Bool
  /-- The number of tokens before it. -/
  position : Nat
  /-- Where it is in the text. -/
  index : Nat
  line : Nat
  column : Nat

/-- The state between two tokens. -/
structure Scanner where
  /-- What is left of the text. -/
  cursor : Cursor
  /-- The tokens so far, last first. -/
  tokens : List Token
  /-- The columns of the open block collections, innermost first; below them is column -1. -/
  indents : List Int
  /-- For the block level and each open flow collection, innermost first, where a key may have started. -/
  keyStarts : List (Option KeyStart)
  /-- Whether a simple key may start here. -/
  keyAllowed : Bool

namespace Scanner

/-- The number of open flow collections. -/
def flowDepth (s : Scanner) : Nat := s.keyStarts.length - 1

/-- Whether a flow collection is open. -/
def inFlow (s : Scanner) : Bool := 0 < s.flowDepth

/-- The column of the innermost open block collection. -/
def indent (s : Scanner) : Int := s.indents.headD (-1)

/-- Add a token. -/
def push (s : Scanner) (t : Token) : Scanner := { s with tokens := t :: s.tokens }

/-- Put a token in front of the tokens from a position on. -/
def insertAt (s : Scanner) (position : Nat) (t : Token) : Scanner :=
  let later := s.tokens.length - position
  { s with tokens := s.tokens.take later ++ t :: s.tokens.drop later }

/-- Forget the key that may have started at this level; a required one must not be lost. -/
def dropKey (s : Scanner) : Option Scanner :=
  match s.keyStarts with
  | some k :: rest => if k.required then none else some { s with keyStarts := none :: rest }
  | _ => some s

/-- Note that a key may start here. -/
def saveKey (s : Scanner) : Option Scanner :=
  if s.keyAllowed then do
    let required := !s.inFlow && s.indent == s.cursor.column
    let s ← s.dropKey
    let start : KeyStart := ⟨required, s.tokens.length, s.cursor.index, s.cursor.line, s.cursor.column⟩
    return { s with keyStarts := some start :: s.keyStarts.tail }
  else some s

/-- Forget the keys that have become too long or run over a line end. -/
def dropStaleKeys (s : Scanner) : Option Scanner := do
  let kept ← s.keyStarts.mapM fun start =>
    match start with
    | none => some none
    | some k =>
      if k.line < s.cursor.line ∨ k.index + 1024 < s.cursor.index then
        (if k.required then none else some none)
      else some (some k)
  return { s with keyStarts := kept }

/-- Open a block collection at a column, unless one is open there. Its token goes to the given
position. -/
def openBlock (s : Scanner) (column : Nat) (position : Nat) (t : Token) : Scanner :=
  if s.inFlow then s
  else if s.indent < column then { s.insertAt position t with indents := (column : Int) :: s.indents }
  else s

/-- Close the block collections that lie further right than a column. -/
def closeBlocks (s : Scanner) (column : Int) : Scanner :=
  if s.inFlow then s
  else
    let closed := (s.indents.takeWhile (column < ·)).length
    { s with tokens := List.replicate closed .blockEnd ++ s.tokens, indents := s.indents.drop closed }

/-- Move over spaces, comments and line ends to the next token. A tab may not start a line of a
block, or follow the mark of an entry or a key there. -/
def toNextToken : Nat → Scanner → Scanner
  | 0, s => s
  | fuel + 1, s =>
    let tabs := s.inFlow || !s.keyAllowed
    let c := s.cursor.skipWhile fun ch => ch == ' ' || (tabs && ch == '\t')
    let c := if c.head? = some '#' then c.skipWhile (!isBreak ·) else c
    if c.head?.any isBreak then
      toNextToken fuel { s with cursor := c.skipLine, keyAllowed := s.keyAllowed || !s.inFlow }
    else { s with cursor := c }

/-- Move over a mark of `size` characters and add its token. -/
def mark (s : Scanner) (size : Nat) (t : Token) (keyAllowed : Bool) : Scanner :=
  { s.push t with cursor := s.cursor.skipBy size, keyAllowed := keyAllowed }

/-- A mark at the start of a line that ends all block collections. -/
def topLevelMark (s : Scanner) (size : Nat) (t : Token) : Option Scanner := do
  let s ← (s.closeBlocks (-1)).dropKey
  return s.mark size t false

/-- The start of a flow collection. -/
def openFlow (s : Scanner) (t : Token) : Option Scanner := do
  let s ← s.saveKey
  return { s.mark 1 t true with keyStarts := none :: s.keyStarts }

/-- The end of a flow collection. -/
def closeFlow (s : Scanner) (t : Token) : Option Scanner := do
  let s ← s.dropKey
  let keyStarts := if s.inFlow then s.keyStarts.tail else s.keyStarts
  return { s.mark 1 t false with keyStarts }

/-- The mark of an entry of a block sequence. -/
def blockEntry (s : Scanner) : Option Scanner :=
  if !s.inFlow && !s.keyAllowed then none
  else do
    let s ← (s.openBlock s.cursor.column s.tokens.length .blockSequenceStart).dropKey
    return s.mark 1 .entry true

/-- The mark of a key that is not simple. -/
def explicitKey (s : Scanner) : Option Scanner :=
  if !s.inFlow && !s.keyAllowed then none
  else do
    let s ← (s.openBlock s.cursor.column s.tokens.length .blockMappingStart).dropKey
    return s.mark 1 .key (!s.inFlow)

/-- The mark of a value, which turns what was read since a possible key into a key. -/
def valueMark (s : Scanner) : Option Scanner :=
  match s.keyStarts with
  | some k :: rest =>
    let s := (s.insertAt k.position .key).openBlock k.column k.position .blockMappingStart
    some { s.mark 1 .value false with keyStarts := none :: rest }
  | _ =>
    if !s.inFlow && !s.keyAllowed then none
    else
      some ((s.openBlock s.cursor.column s.tokens.length .blockMappingStart).mark 1 .value (!s.inFlow))

/-- The characters of anchors. -/
def isAnchorChar (c : Char) : Bool := c.isAlphanum || c == '_' || c == '-'

/-- An anchor or an alias. -/
def reference (s : Scanner) (t : String → Token) : Option Scanner := do
  let s ← s.saveKey
  let name := s.cursor.rest.tail.takeWhile isAnchorChar
  let next := s.cursor.skipBy (name.length + 1)
  if name.isEmpty then none
  else if next.separates 0 || next.head?.any ("?:,]\x7d%@\x60".toList.contains ·) then
    some { s.push (t (String.ofList name)) with cursor := next, keyAllowed := false }
  else none

/-- The characters of tags. -/
def isTagChar (c : Char) : Bool := c.isAlphanum || "-_;/?:@&=+$.!~*'()%".toList.contains c

/-- The name of a tag from its text behind the first `!`: a second `!` stands for the tags of the
language itself, and pointed brackets enclose a name in full. No other abbreviations are known. -/
def tagName? (cs : List Char) : Option String :=
  match cs with
  | '<' :: rest =>
    let name := rest.takeWhile (· != '>')
    if name.isEmpty ∨ name.length = rest.length then none else some (String.ofList name)
  | '!' :: rest => if rest.isEmpty then none else some ("tag:yaml.org,2002:" ++ String.ofList rest)
  | rest => if rest.contains '!' then none else some ("!" ++ String.ofList rest)

/-- A tag. -/
def tagMark (s : Scanner) : Option Scanner := do
  let s ← s.saveKey
  let behind := s.cursor.rest.tail
  let cs :=
    if behind.head? = some '<' then behind.takeWhile (· != '>') ++ (behind.dropWhile (· != '>')).take 1
    else behind.takeWhile isTagChar
  let next := s.cursor.skipBy (cs.length + 1)
  let name ← tagName? cs
  if next.separates 0 || (s.inFlow && next.head? == some ',') then
    some { s.push (.tag name) with cursor := next, keyAllowed := false }
  else none

/-- A quoted scalar. -/
def quotedScalar (s : Scanner) (fuel : Nat) (double : Bool) : Option Scanner := do
  let s ← s.saveKey
  let (text, next) ← readQuoted double fuel s.cursor.skip []
  return { s.push (.quoted (String.ofList text)) with cursor := next, keyAllowed := false }

/-- A plain scalar. -/
def plainScalar (s : Scanner) (fuel : Nat) : Option Scanner := do
  let s ← s.saveKey
  let (text, next, broken) ← readPlain s.inFlow (s.indent + 1).toNat fuel s.cursor Gap.none []
  return { s.push (.plain (String.ofList text)) with cursor := next, keyAllowed := broken }

/-- A block scalar. -/
def blockScalar (s : Scanner) (fuel : Nat) (literal : Bool) : Option Scanner := do
  let s ← s.dropKey
  let (text, next) ← readBlock literal s.indent fuel s.cursor.skip
  return { s.push (.quoted (String.ofList text)) with cursor := next, keyAllowed := true }

/-- A directive: only the version of the language is known, from 1.1 to 1.2. -/
def directive (s : Scanner) : Option Scanner := do
  let s ← (s.closeBlocks (-1)).dropKey
  let line := s.cursor.rest.takeWhile (!isBreak ·)
  let words := ((String.ofList (line.takeWhile (· != '#'))).splitOn " ").filter (· != "")
  if words = ["%YAML", "1.1"] ∨ words = ["%YAML", "1.2"] then
    some { s.push .directive with cursor := s.cursor.skipBy line.length, keyAllowed := false }
  else none

/-- The characters that cannot start a plain scalar. -/
def isIndicator (c : Char) : Bool := "-?:,[]\x7b\x7d#&*!|>'\"%@\x60".toList.contains c

/-- Read one token that starts with the given character. -/
def token (s : Scanner) (fuel : Nat) (ch : Char) : Option Scanner :=
  let c := s.cursor
  if c.column = 0 ∧ ch = '%' then s.directive
  else if c.atDocumentMark then s.topLevelMark 3 (if ch = '-' then .documentStart else .documentEnd)
  else if ch = '[' then s.openFlow .flowSequenceStart
  else if ch = '\x7b' then s.openFlow .flowMappingStart
  else if ch = ']' then s.closeFlow .flowSequenceEnd
  else if ch = '\x7d' then s.closeFlow .flowMappingEnd
  else if ch = ',' then s.dropKey.map fun s => s.mark 1 .flowEntry true
  else if ch = '-' ∧ c.separates 1 then s.blockEntry
  else if ch = '?' ∧ (s.inFlow ∨ c.separates 1) then s.explicitKey
  else if ch = ':' ∧ (s.inFlow ∨ c.separates 1) then s.valueMark
  else if ch = '*' then s.reference .alias
  else if ch = '&' then s.reference .anchor
  else if ch = '!' then s.tagMark
  else if ch = '|' ∧ ¬ s.inFlow then s.blockScalar fuel true
  else if ch = '>' ∧ ¬ s.inFlow then s.blockScalar fuel false
  else if ch = '\'' then s.quotedScalar fuel false
  else if ch = '"' then s.quotedScalar fuel true
  else if !(isIndicator ch || isSpacing ch) || (ch == '-' && !(c.ahead? 1).any isSpacing) ||
      (!s.inFlow && (ch == '?' || ch == ':') && !c.separates 1) then
    s.plainScalar fuel
  else none

/-- Read all tokens. -/
def run : Nat → Nat → Scanner → Option (List Token)
  | 0, _, _ => none
  | steps + 1, fuel, s => do
    let s := s.toNextToken fuel
    let s ← s.dropStaleKeys
    let s := s.closeBlocks s.cursor.column
    match s.cursor.head? with
    | some ch => run steps fuel (← s.token fuel ch)
    | none =>
      let s ← (s.closeBlocks (-1)).dropKey
      return s.tokens.reverse

end Scanner

/-- The tokens of a text, with no tokens for its start and end. A byte order mark may come first. -/
def tokens? (text : String) : Option (List Token) :=
  let cs := text.toList
  let cs := if cs.head? = some (Char.ofNat 0xFEFF) then cs.tail else cs
  if cs.all isAllowed then
    Scanner.run (cs.length + 2) (cs.length + 2) ⟨⟨cs, 0, 0, 0⟩, [], [], [none], true⟩
  else none

end SiteBuilder.Yaml
