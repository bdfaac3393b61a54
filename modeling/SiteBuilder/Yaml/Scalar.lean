import SiteBuilder.Yaml.Cursor

/-!
# The text of a YAML scalar

Each function reads one scalar from the cursor on and returns its text and the cursor behind it:
quoted scalars, plain scalars that may run over several lines, and block scalars. A single line
end inside a flowing scalar becomes a space; of several, the first is dropped.
-/

namespace SiteBuilder.Yaml

/-- Line ends and spaces met since the last character of a flowing scalar. -/
structure Gap where
  /-- Spaces on the same line, last first. -/
  spaces : List Char
  /-- Whether a line has ended. -/
  broken : Bool
  /-- The first line end. -/
  first : List Char
  /-- The line ends after it, last first. -/
  later : List Char

namespace Gap

/-- Nothing between two characters. -/
def none : Gap := ⟨[], false, [], []⟩

/-- What the gap contributes to the text, last character first. -/
def folded (g : Gap) : List Char :=
  if g.broken then
    if g.first = ['\n'] then (if g.later.isEmpty then [' '] else g.later)
    else g.later ++ g.first
  else g.spaces

/-- Read the spaces and line ends at the cursor. With a least indentation, a tab before that column
on a later line is refused. -/
def read (least : Option Nat) : Nat → Cursor → Gap → Option (Gap × Cursor)
  | 0, _, _ => .none
  | fuel + 1, c, g =>
    match c.rest with
    | ch :: _ =>
      if isSpacing ch then
        if g.broken && ch == '\t' && least.any (c.column < ·) then .none
        else if g.broken then read least fuel c.skip g
        else read least fuel c.skip { g with spaces := ch :: g.spaces }
      else if isBreak ch then
        if g.broken then read least fuel c.skipLine { g with later := c.lineEnd ++ g.later }
        else read least fuel c.skipLine ⟨[], true, c.lineEnd, []⟩
      else some (g, c)
    | [] => some (g, c)

end Gap

/-- The value of hexadecimal digits. -/
def hexValue? (digits : List Char) : Option Nat :=
  digits.foldl (fun acc c => acc.bind fun n =>
    if '0' ≤ c ∧ c ≤ '9' then some (16 * n + (c.toNat - 48))
    else if 'a' ≤ c ∧ c ≤ 'f' then some (16 * n + (c.toNat - 87))
    else if 'A' ≤ c ∧ c ≤ 'F' then some (16 * n + (c.toNat - 55))
    else none) (some 0)

/-- The number of a character given by `size` hexadecimal digits. -/
def numberedChar? (size : Nat) (rest : List Char) : Option Char :=
  if rest.length < size then none
  else
    match hexValue? (rest.take size) with
    | some n => if h : n.isValidChar then some (Char.ofNatAux n h) else none
    | none => none

/-- The character after a backslash in double quotes, and the number of characters it takes. -/
def escape? : List Char → Option (Char × Nat)
  | [] => none
  | c :: rest =>
    match c with
    | '0' => some (Char.ofNat 0, 1)
    | 'a' => some ('\x07', 1)
    | 'b' => some ('\x08', 1)
    | 't' => some ('\t', 1)
    | '\t' => some ('\t', 1)
    | 'n' => some ('\n', 1)
    | 'v' => some ('\x0b', 1)
    | 'f' => some ('\x0c', 1)
    | 'r' => some ('\r', 1)
    | 'e' => some ('\x1b', 1)
    | ' ' => some (' ', 1)
    | '"' => some ('"', 1)
    | '/' => some ('/', 1)
    | '\\' => some ('\\', 1)
    | 'N' => some (Char.ofNat 0x85, 1)
    | '_' => some (Char.ofNat 0xA0, 1)
    | 'L' => some (Char.ofNat 0x2028, 1)
    | 'P' => some (Char.ofNat 0x2029, 1)
    | 'x' => (numberedChar? 2 rest).map (·, 3)
    | 'u' => (numberedChar? 4 rest).map (·, 5)
    | 'U' => (numberedChar? 8 rest).map (·, 9)
    | _ => none

/-- Read a quoted scalar behind its opening quote. The text so far is held last character first. -/
def readQuoted (double : Bool) : Nat → Cursor → List Char → Option (List Char × Cursor)
  | 0, _, _ => none
  | fuel + 1, c, acc =>
    if c.atDocumentMark then none
    else
      match c.rest with
      | [] => none
      | ch :: more =>
        if isSpacing ch || isBreak ch then
          match Gap.read none fuel c Gap.none with
          | some (gap, c) => readQuoted double fuel c (gap.folded ++ acc)
          | none => none
        else if !double && ch == '\'' then
          if more.head? = some '\'' then readQuoted double fuel (c.skipBy 2) ('\'' :: acc)
          else some (acc.reverse, c.skip)
        else if double && ch == '"' then some (acc.reverse, c.skip)
        else if double && ch == '\\' then
          if more.head?.any isBreak then
            match Gap.read none fuel c.skip.skipLine ⟨[], true, [], []⟩ with
            | some (gap, c) => readQuoted double fuel c (gap.folded ++ acc)
            | none => none
          else
            match escape? more with
            | some (ch, size) => readQuoted double fuel (c.skipBy (size + 1)) (ch :: acc)
            | none => none
        else readQuoted double fuel c.skip (ch :: acc)

/-- The characters that structure a flow collection. -/
def isFlowMark (c : Char) : Bool := c == ',' || c == '[' || c == ']' || c == '\x7b' || c == '\x7d'

/-- Read the characters of a plain scalar up to the next gap or to its end. -/
def readPlainWord (inFlow : Bool) : Nat → Cursor → List Char → Option (List Char × Cursor)
  | 0, _, _ => none
  | fuel + 1, c, acc =>
    match c.rest with
    | [] => some (acc, c)
    | ch :: more =>
      if isSpacing ch || isBreak ch then some (acc, c)
      else if inFlow && ch == ':' && more.head?.any (fun next => isFlowMark next || next == '?') then none
      else if ch == ':' && c.separates 1 then some (acc, c)
      else if inFlow && isFlowMark ch then some (acc, c)
      else readPlainWord inFlow fuel c.skip (ch :: acc)

/-- Read a plain scalar. The last result tells whether a line has ended behind it. -/
def readPlain (inFlow : Bool) (indent : Nat) :
    Nat → Cursor → Gap → List Char → Option (List Char × Cursor × Bool)
  | 0, _, _, _ => none
  | fuel + 1, c, gap, acc =>
    if c.atDocumentMark || c.head? == some '#' then some (acc.reverse, c, gap.broken)
    else
      match readPlainWord inFlow fuel c [] with
      | none => none
      | some (word, next) =>
        let (acc, gap) := if word.isEmpty then (acc, gap) else (word ++ gap.folded ++ acc, Gap.none)
        if next.head?.any (fun ch => isSpacing ch || isBreak ch) then
          match Gap.read (some indent) fuel next gap with
          | none => none
          | some (gap, next) =>
            if !inFlow && next.column < indent then some (acc.reverse, next, gap.broken)
            else readPlain inFlow indent fuel next gap acc
        else some (acc.reverse, next, gap.broken)

/-- What happens to the line ends at the end of a block scalar. -/
inductive Chomping where
  /-- All are dropped. -/
  | strip
  /-- One is kept. -/
  | clip
  /-- All are kept. -/
  | keep
  deriving DecidableEq

/-- The header of a block scalar: chomping and indentation in either order. -/
def readBlockHeader (c : Cursor) : Option (Chomping × Option Nat × Cursor) :=
  let chomping (c : Cursor) : Option (Chomping × Cursor) :=
    match c.head? with
    | some '+' => some (.keep, c.skip)
    | some '-' => some (.strip, c.skip)
    | _ => none
  let increment (c : Cursor) : Option (Option Nat × Cursor) :=
    match c.head? with
    | some d => if d = '0' then none else if d.isDigit then some (some (d.toNat - 48), c.skip) else some (none, c)
    | none => some (none, c)
  match chomping c with
  | some (mode, c) => (increment c).map fun (n, c) => (mode, n, c)
  | none =>
    match increment c with
    | none => none
    | some (none, c) => some (.clip, none, c)
    | some (some n, c) =>
      match chomping c with
      | some (mode, c) => some (mode, some n, c)
      | none => some (.clip, some n, c)

/-- Read the empty lines and the indentation before a line of a block scalar. While the
indentation is not known, the deepest line seen is returned. -/
def readBlockBreaks (indent : Option Nat) : Nat → Cursor → Nat → List Char → Option (Nat × List Char × Cursor)
  | 0, _, _, _ => none
  | fuel + 1, c, deepest, breaks =>
    let inMargin (c : Cursor) : Bool := indent.all (c.column < ·)
    match c.rest with
    | ch :: _ =>
      if inMargin c && ch == ' ' then readBlockBreaks indent fuel c.skip deepest breaks
      else
        let deepest := max deepest c.column
        if inMargin c && ch == '\t' then none
        else if isBreak ch then readBlockBreaks indent fuel c.skipLine deepest (c.lineEnd ++ breaks)
        else some (deepest, breaks, c)
    | [] => some (max deepest c.column, breaks, c)

/-- Read the lines of a block scalar at its indentation. `first` is the line end before the line,
`later` the line ends after that one, last first. -/
def readBlockLines (literal : Bool) (indent : Nat) (mode : Chomping) :
    Nat → Cursor → (first later : List Char) → (wasSpaced : Bool) → List Char → Option (List Char × Cursor)
  | 0, _, _, _, _, _ => none
  | fuel + 1, c, first, later, wasSpaced, acc =>
    if c.column = indent ∧ ¬ c.rest.isEmpty then
      let spaced := c.head?.any isSpacing
      let joined :=
        if !literal && first == ['\n'] && !wasSpaced && !spaced then
          (if later.isEmpty then ' ' :: acc else later ++ acc)
        else later ++ first ++ acc
      let line := c.rest.takeWhile (!isBreak ·)
      let next := c.skipBy line.length
      match readBlockBreaks (some indent) fuel next.skipLine 0 [] with
      | some (_, breaks, after) =>
        readBlockLines literal indent mode fuel after next.lineEnd breaks spaced (line.reverse ++ joined)
      | none => none
    else
      let acc := if mode = .strip then acc else first ++ acc
      let acc := if mode = .keep then later ++ acc else acc
      some (acc.reverse, c)

/-- Read a block scalar behind its `|` or `>`. -/
def readBlock (literal : Bool) (parentIndent : Int) (fuel : Nat) (c : Cursor) :
    Option (List Char × Cursor) := do
  let (mode, increment, c) ← readBlockHeader c
  let c := c.skipWhile isSpacing
  let c := if c.head? = some '#' then c.skipWhile (!isBreak ·) else c
  if c.head?.any (!isBreak ·) then none
  else
    let c := c.skipLine
    let given : Option Nat := increment.map fun n => (max parentIndent 0).toNat + n
    let (deepest, breaks, c) ← readBlockBreaks given fuel c 0 []
    let indent := given.getD (max (max deepest (parentIndent + 1).toNat) 1)
    readBlockLines literal indent mode fuel c [] breaks false []

end SiteBuilder.Yaml
