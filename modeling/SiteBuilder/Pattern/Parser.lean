import SiteBuilder.Pattern.Basic

/-!
# The notation of patterns

`Pattern.parse?` reads the notation of regular expressions without look-around and without
references to groups. Flags in force change what the marks stand for and reach to the end of the
group they are set in. A notation is refused when it is not well formed, when it nests more than 250
levels, when it names a set that does not exist, or when it asks for a byte that is no character.
-/

namespace SiteBuilder.Pattern

/-- The flags in force. -/
structure Flags where
  /-- Case makes no difference. -/
  ignoreCase : Bool
  /-- The marks for starts and ends mean those of lines. -/
  multiLine : Bool
  /-- The mark for any character includes line ends. -/
  dotAll : Bool
  /-- Classes and case are those of Unicode. -/
  unicode : Bool
  /-- A carriage return ends a line. -/
  returns : Bool
  /-- Blanks and comments are passed over. -/
  spaced : Bool

/-- The state between two parts of a notation. -/
structure Reading where
  /-- What is left. -/
  rest : List Char
  /-- The flags in force. -/
  flags : Flags
  /-- The names of groups so far. -/
  names : List (List Char)

namespace Reading

/-- Without the blanks and comments in front, where these are passed over. -/
def skipSpaceFrom : Nat → List Char → List Char
  | 0, cs => cs
  | fuel + 1, cs =>
    match cs with
    | c :: rest =>
      if Text.isBlank c then skipSpaceFrom fuel rest
      else if c = '#' then skipSpaceFrom fuel ((rest.dropWhile (· != '\n')).drop 1)
      else cs
    | [] => []

/-- Move to the next character that is not passed over. -/
def settle (r : Reading) : Reading :=
  if r.flags.spaced then { r with rest := skipSpaceFrom r.rest.length r.rest } else r

/-- Move over one character. -/
def drop (r : Reading) : Reading := { r with rest := r.rest.tail }

/-- Move over one character and what is passed over behind it. -/
def next (r : Reading) : Reading := r.drop.settle

end Reading

/-- The characters that have a meaning of their own, and stand for themselves behind a backslash. -/
def isMeta (c : Char) : Bool := "\\.+*?()|[]\x7b\x7d^$#&-~".toList.contains c

/-- Whether a backslash may stand in front of a character without a meaning. -/
def isEscapable (c : Char) : Bool :=
  isMeta c || (c.toNat < 128 && !c.isAlphanum && c != '<' && c != '>')

/-- What a single position of a notation denotes. -/
inductive Unit where
  /-- A character. -/
  | char (c : Char)
  /-- A byte given by two hexadecimal digits. -/
  | byte (n : Nat)
  /-- A set that has a name. -/
  | set (s : CharSet)
  /-- A condition on the place. -/
  | place (p : Place)

/-- The value of hexadecimal digits. -/
def hexDigits? (cs : List Char) : Option Nat :=
  if cs.isEmpty then none
  else
    cs.foldl (fun acc c => acc.bind fun n =>
      if c.isDigit then some (16 * n + (c.toNat - 48))
      else if 'a' ≤ c ∧ c ≤ 'f' then some (16 * n + (c.toNat - 87))
      else if 'A' ≤ c ∧ c ≤ 'F' then some (16 * n + (c.toNat - 55))
      else none) (some 0)

/-- The character with a number. -/
def charOf? (n : Nat) : Option Char := if h : n.isValidChar then some (Char.ofNatAux n h) else none

/-- Take `n` characters, passing over what is passed over between them. -/
def takeSettled : Nat → Reading → Option (List Char × Reading)
  | 0, r => some ([], r)
  | n + 1, r =>
    match r.rest with
    | c :: _ => (takeSettled n r.next).map fun (cs, r) => (c :: cs, r)
    | [] => none

/-- Take characters up to a closing brace, passing over what is passed over between them. -/
def takeBraced : Nat → Reading → Option (List Char × Reading)
  | 0, _ => none
  | fuel + 1, r =>
    match r.rest with
    | '\x7d' :: _ => some ([], r.next)
    | c :: _ => (takeBraced fuel r.next).map fun (cs, r) => (c :: cs, r)
    | [] => none

/-- Read a number of a character behind `\x`, `\u` or `\U`. -/
def readHex (size : Nat) (r : Reading) : Option (Unit × Reading) :=
  let r := r.next
  match r.rest with
  | '\x7b' :: _ => do
    let (digits, r) ← takeBraced r.rest.length r.next
    let n ← hexDigits? digits
    return (.char (← charOf? n), r)
  | _ => do
    let (digits, r) ← takeSettled size r
    let n ← hexDigits? digits
    if size = 2 then return (if n < 128 then .char (Char.ofNat n) else .byte n, r)
    else return (.char (← charOf? n), r)

/-- Read the name of a set behind `\p` or `\P`. -/
def readNamedSet (negated : Bool) (r : Reading) : Option (CharSet × Bool × Reading) :=
  let r := r.next
  match r.rest with
  | '\x7b' :: _ => do
    let (name, r) ← takeBraced r.rest.length r.next
    match Text.cutAt? ['!', '='] name with
    | some (property, value) =>
      return (← CharSet.valued? (String.ofList property) (String.ofList value), !negated, r)
    | none =>
      match (Text.cutAt? [':'] name).orElse fun _ => Text.cutAt? ['='] name with
      | some (property, value) =>
        return (← CharSet.valued? (String.ofList property) (String.ofList value), negated, r)
      | none => return (← CharSet.named? (String.ofList name), negated, r)
  | c :: _ => if c = '\\' then none else (CharSet.named? (String.singleton c)).map (·, negated, r.next)
  | [] => none

/-- A set under the flags: closed under case if that makes no difference, then negated. -/
def closeSet (flags : Flags) (negated : Bool) (set : CharSet) : CharSet :=
  let set :=
    if flags.ignoreCase then (if flags.unicode then set.foldClosure else set.asciiFoldClosure) else set
  if negated then set.complement else set

/-- The sets behind `\d`, `\s` and `\w` and their complements. Without Unicode a complement would
hold bytes that are no characters. -/
def classSet? (flags : Flags) (c : Char) : Option CharSet :=
  let set? : Option (CharSet × CharSet) :=
    if c = 'd' ∨ c = 'D' then some (CharSet.digits, CharSet.asciiDigits)
    else if c = 's' ∨ c = 'S' then some (CharSet.spaces, CharSet.asciiSpaces)
    else if c = 'w' ∨ c = 'W' then some (CharSet.words, CharSet.asciiWords)
    else none
  match set? with
  | none => none
  | some (wide, ascii) =>
    if flags.unicode then some (if c.isUpper then wide.complement else wide)
    else if c.isUpper then none else some ascii

/-- The words in braces behind `\b`. -/
def wordPlace? (ascii : Bool) (name : String) : Option Place :=
  if name = "start" then some (.wordStart ascii)
  else if name = "end" then some (.wordEnd ascii)
  else if name = "start-half" then some (.noWordBefore ascii)
  else if name = "end-half" then some (.noWordAfter ascii)
  else none

/-- Read the condition behind `\b`: an edge of a word, or one named in braces. Braces that hold no
name are left for a repetition. -/
def readWordEdge (r : Reading) : Option (Unit × Reading) :=
  let ascii := !r.flags.unicode
  match r.rest with
  | '\x7b' :: _ =>
    let inside := r.next
    match inside.rest with
    | [] => none
    | c :: _ =>
      if c.isAlpha ∨ c = '-' then do
        let (name, r) ← takeBraced inside.rest.length inside
        return (.place (← wordPlace? ascii (String.ofList name)), r)
      else some (.place (.wordEdge ascii), r)
  | _ => some (.place (.wordEdge ascii), r)

/-- Read what a backslash introduces. -/
def readEscape (r : Reading) : Option (Unit × Reading) :=
  let ascii := !r.flags.unicode
  let r := r.drop
  match r.rest with
  | [] => none
  | c :: _ =>
    if c.isDigit then none
    else if c = 'x' then readHex 2 r
    else if c = 'u' then readHex 4 r
    else if c = 'U' then readHex 8 r
    else if c = 'p' ∨ c = 'P' then
      if r.flags.unicode then
        (readNamedSet (c = 'P') r).map fun (set, negated, next) => (.set (closeSet r.flags negated set), next)
      else none
    else
      match classSet? r.flags c with
      | some set => some (.set set, r.drop)
      | none =>
        let next := r.drop
        if isEscapable c then some (.char c, next)
        else if c = 'a' then some (.char '\x07', next)
        else if c = 'f' then some (.char '\x0c', next)
        else if c = 't' then some (.char '\t', next)
        else if c = 'n' then some (.char '\n', next)
        else if c = 'r' then some (.char '\r', next)
        else if c = 'v' then some (.char '\x0b', next)
        else if c = 'A' then some (.place .textStart, next)
        else if c = 'z' then some (.place .textEnd, next)
        else if c = 'b' then readWordEdge next
        else if c = 'B' then some (.place (.noWordEdge ascii), next)
        else if c = '<' then some (.place (.wordStart ascii), next)
        else if c = '>' then some (.place (.wordEnd ascii), next)
        else none

/-! ## Sets in brackets -/

/-- Read one position inside brackets. -/
def readSetUnit (r : Reading) : Option (Unit × Reading) :=
  match r.rest with
  | [] => none
  | '\\' :: _ => readEscape r
  | c :: _ => some (.char c, r.drop)

/-- The code point that may bound a range: without Unicode it must be below 128. -/
def bound? (flags : Flags) : Unit → Option Nat
  | .char c => if flags.unicode ∨ c.toNat < 128 then some c.toNat else none
  | .byte n => if flags.unicode then some n else none
  | _ => none

/-- The set a position inside brackets stands for. -/
def unitSet? (flags : Flags) : Unit → Option CharSet
  | .set s => some s
  | .place _ => none
  | u => (bound? flags u).map fun n => [(n, n)]

/-- The class of ASCII at the front, such as `[:alpha:]`, whether it is negated, and what is left. -/
def asciiClassAt? (cs : List Char) : Option (CharSet × Bool × List Char) :=
  match cs with
  | '[' :: ':' :: rest =>
    let negated := rest.head? == some '^'
    let rest := if negated then rest.tail else rest
    let name := rest.takeWhile (· != ':')
    match rest.drop name.length with
    | ':' :: ']' :: rest => (CharSet.asciiClass? (String.ofList name)).map (·, negated, rest)
    | _ => none
  | _ => none

/-- The operations between sets. -/
inductive SetOp where
  | inter
  | diff
  | symmDiff

/-- Apply an operation to two sets, each closed under case if that makes no difference. -/
def SetOp.apply (flags : Flags) (op : SetOp) (a b : CharSet) : CharSet :=
  let a := closeSet flags false a
  let b := closeSet flags false b
  match op with
  | .inter => a.inter b
  | .diff => a.diff b
  | .symmDiff => a.symmDiff b

/-- What was read of a set in brackets: the operation that waits for its second set, with the first,
and the ranges read since. -/
structure OpenSet where
  waiting : Option (CharSet × SetOp)
  ranges : List (Nat × Nat)

/-- The set when no more ranges follow. -/
def OpenSet.close (flags : Flags) (o : OpenSet) : CharSet :=
  match o.waiting with
  | none => .ofRanges o.ranges
  | some (first, op) => op.apply flags first (.ofRanges o.ranges)

/-- Move over the dashes at the start of a set, which stand for themselves. -/
def leadingDashes : Nat → Reading → List (Nat × Nat) → List (Nat × Nat) × Reading
  | 0, r, acc => (acc, r)
  | fuel + 1, r, acc =>
    if r.rest.head? = some '-' then leadingDashes fuel r.next (('-'.toNat, '-'.toNat) :: acc) else (acc, r)

/-- Read a set behind its opening bracket, at a depth of nesting. The depth of the deepest part is
returned. -/
def readSet : Nat → Nat → Reading → Option (CharSet × Nat × Reading)
  | 0, _, _ => none
  | fuel + 1, depth, r =>
    let r := r.settle
    let negated := r.rest.head? == some '^'
    let r := if negated then r.next else r
    let (ranges, r) := leadingDashes fuel r []
    let (ranges, r) :=
      if ranges.isEmpty ∧ r.rest.head? = some ']' then ([(']'.toNat, ']'.toNat)], r.next) else (ranges, r)
    match readSetItems fuel (depth + 1) ⟨none, ranges⟩ r with
    | none => none
    | some (set, deepest, r) => some (closeSet r.flags negated set, deepest, r)
where
  /-- Read the items of a set up to its closing bracket. -/
  readSetItems : Nat → Nat → OpenSet → Reading → Option (CharSet × Nat × Reading)
  | 0, _, _, _ => none
  | fuel + 1, depth, acc, r =>
    let r := r.settle
    match r.rest with
    | [] => none
    | ']' :: _ => some (acc.close r.flags, depth, r.drop)
    | '[' :: _ =>
      match asciiClassAt? r.rest with
      | some (set, negated, rest) =>
        readSetItems fuel depth { acc with ranges := closeSet r.flags negated set ++ acc.ranges }
          { r with rest }
      | none =>
        match readSet fuel depth r.drop with
        | none => none
        | some (set, deepest, r) =>
          (readSetItems fuel depth { acc with ranges := set ++ acc.ranges } r).map fun (set, deep, r) =>
            (set, max deep deepest, r)
    | '&' :: '&' :: rest =>
      readSetItems fuel depth ⟨some (acc.close r.flags, .inter), []⟩ { r with rest }
    | '-' :: '-' :: rest =>
      readSetItems fuel depth ⟨some (acc.close r.flags, .diff), []⟩ { r with rest }
    | '~' :: '~' :: rest =>
      readSetItems fuel depth ⟨some (acc.close r.flags, .symmDiff), []⟩ { r with rest }
    | _ =>
      match readSetUnit r with
      | none => none
      | some (first, r) =>
        let r := r.settle
        let following := r.next.rest.head?
        if r.rest.isEmpty then none
        else if r.rest.head? ≠ some '-' ∨ following = some ']' ∨ following = some '-' then
          match unitSet? r.flags first with
          | some set => readSetItems fuel depth { acc with ranges := set ++ acc.ranges } r
          | none => none
        else
          match readSetUnit r.next with
          | none => none
          | some (last, r) =>
            match bound? r.flags first, bound? r.flags last with
            | some a, some b =>
              if a ≤ b then readSetItems fuel depth { acc with ranges := (a, b) :: acc.ranges } r else none
            | _, _ => none

/-! ## Repetitions -/

/-- Read a decimal number and the blanks around it; `none` if there are no digits. -/
def readCount (r : Reading) : Option (Option Nat × Reading) :=
  let r := { r with rest := r.rest.dropWhile Text.isBlank }
  let rec digits : Nat → Reading → List Char → List Char × Reading
    | 0, r, acc => (acc.reverse, r)
    | fuel + 1, r, acc =>
      match r.rest with
      | c :: _ => if c.isDigit then digits fuel r.next (c :: acc) else (acc.reverse, r)
      | [] => (acc.reverse, r)
  let (ds, r) := digits r.rest.length r []
  let r := { r with rest := r.rest.dropWhile Text.isBlank }
  if ds.isEmpty then some (none, r)
  else
    let n := ds.foldl (fun n c => 10 * n + (c.toNat - 48)) 0
    if n < Nat.pow 2 32 then some (some n, r) else none

/-- Read the bounds of a repetition behind the opening brace. -/
def readBounds (r : Reading) : Option (Nat × Option Nat × Reading) :=
  let r := r.settle
  match r.rest with
  | [] => none
  | _ =>
    match readCount r with
    | none => none
    | some (least, r) =>
      match r.rest, least with
      | '\x7d' :: _, some n => some (n, some n, r.next)
      | ',' :: _, some n =>
        let r := r.next
        match r.rest with
        | [] => none
        | '\x7d' :: _ => some (n, none, r.next)
        | _ =>
          match readCount r with
          | some (some m, r) =>
            if r.rest.head? = some '\x7d' ∧ n ≤ m then some (n, some m, r.next) else none
          | _ => none
      | _, _ => none

/-- Move over the mark of a lazy repetition. -/
def skipLazy (r : Reading) : Reading := if r.rest.head? = some '?' then r.drop else r

/-! ## Groups and flags -/

/-- Whether a character may stand in the name of a group. -/
def isNameChar (isFirst : Bool) (c : Char) : Bool :=
  c == '_' || (if isFirst then Text.isAlphabetic c else
    c == '.' || c == '[' || c == ']' || Text.isAlphanumeric c)

/-- Read the name of a group up to its closing bracket. -/
def readName (r : Reading) : Option Reading :=
  let name := r.rest.takeWhile (· != '>')
  let behind := r.rest.drop name.length
  match name, behind with
  | c :: cs, '>' :: rest =>
    if isNameChar true c ∧ cs.all (isNameChar false) ∧ ¬ r.names.contains name then
      some { r with rest, names := name :: r.names }
    else none
  | _, _ => none

/-- Set one flag. -/
def Flags.set? (f : Flags) (c : Char) (on : Bool) : Option Flags :=
  if c = 'i' then some { f with ignoreCase := on }
  else if c = 'm' then some { f with multiLine := on }
  else if c = 's' then some { f with dotAll := on }
  else if c = 'U' then some f
  else if c = 'u' then some { f with unicode := on }
  else if c = 'R' then some { f with returns := on }
  else if c = 'x' then some { f with spaced := on }
  else none

/-- Read flags up to the colon or the bracket behind them. Each may be given once, and those behind
a dash are turned off. -/
def readFlags : Nat → List Char → (on : Bool) → (seen : List Char) → Flags → Option (Flags × Bool × List Char)
  | 0, _, _, _, _ => none
  | fuel + 1, cs, on, seen, flags =>
    match cs with
    | [] => none
    | ':' :: rest => if seen.head? = some '-' then none else some (flags, true, rest)
    | ')' :: rest => if seen.head? = some '-' ∨ seen.isEmpty then none else some (flags, false, rest)
    | '-' :: rest => if on then readFlags fuel rest false ('-' :: seen) flags else none
    | c :: rest =>
      if seen.contains c then none
      else
        match flags.set? c on with
        | some flags => readFlags fuel rest on (c :: seen) flags
        | none => none

/-- The deepest nesting of a notation. -/
def maxNesting : Nat := 250

/-- One part of a sequence, with the depth of its nesting. -/
inductive Part where
  /-- A pattern, which may be repeated. -/
  | pattern (p : Pattern) (depth : Nat)
  /-- A change of flags, which may not. -/
  | flags

/-- The pattern of parts in their order, with its depth. -/
def sequenceOf (parts : List Part) : Pattern × Nat :=
  let inner := parts.filterMap fun part =>
    match part with
    | .pattern p depth => some (p, depth)
    | .flags => none
  let deepest := (inner.map (·.2)).foldl max 0
  (sequence (inner.map (·.1)), if parts.length ≤ 1 then deepest else deepest + 1)

/-- The pattern of one position under the flags. -/
def unitPattern? (flags : Flags) : Unit → Option Pattern
  | .char c => some (.chars (if flags.ignoreCase then closeSet flags false (.single c) else .single c))
  | .byte n => if flags.unicode then some (.chars (closeSet flags false [(n, n)])) else none
  | .set s => some (.chars s)
  | .place p => some (.place p)

/-- The characters that the mark for any character stands for. -/
def dotSet (flags : Flags) : CharSet :=
  if flags.dotAll then .everything
  else if flags.returns then CharSet.complement [(10, 10), (13, 13)]
  else CharSet.complement [(10, 10)]

/-- Repeat the last part. Nothing and a change of flags cannot be repeated. -/
def repeatLast (parts : List Part) (least : Nat) (most : Option Nat) : Option (List Part) :=
  match parts with
  | .pattern p depth :: rest => some (.pattern (.times p least most) (depth + 1) :: rest)
  | _ => none

/-- Read alternatives up to a closing bracket or the end. The branches read so far and the parts of
the current one are held last first; the flags are those in force at the end. -/
def readAlternatives : Nat → Reading → (branches : List (Pattern × Nat)) → (parts : List Part) →
    Option (Pattern × Nat × Reading)
  | 0, _, _, _ => none
  | fuel + 1, r, branches, parts =>
    let r := r.settle
    let finish (r : Reading) : Pattern × Nat × Reading :=
      let branch := sequenceOf parts.reverse
      if branches.isEmpty then (branch.1, branch.2, r)
      else
        let all := (branch :: branches).reverse
        (choice (all.map (·.1)), (all.map (·.2)).foldl max 0 + 1, r)
    match r.rest with
    | [] => some (finish r)
    | ')' :: _ => some (finish r)
    | '|' :: _ => readAlternatives fuel r.drop (sequenceOf parts.reverse :: branches) []
    | '(' :: _ =>
      let outer := r.flags
      let group (r : Reading) : Option (Pattern × Nat × Reading) :=
        match readAlternatives fuel r [] [] with
        | some (p, depth, r) =>
          if r.rest.head? = some ')' then some (p, depth + 1, { r.drop with flags := outer }) else none
        | none => none
      let inside := r.next
      let entered : Option (Reading × Bool) :=
        match inside.rest with
        | '?' :: '=' :: _ => none
        | '?' :: '!' :: _ => none
        | '?' :: '<' :: '=' :: _ => none
        | '?' :: '<' :: '!' :: _ => none
        | '?' :: 'P' :: '<' :: rest => (readName { inside with rest }).map (·, true)
        | '?' :: '<' :: rest => (readName { inside with rest }).map (·, true)
        | '?' :: rest =>
          (readFlags (rest.length + 1) rest true [] outer).map fun (flags, isGroup, rest) =>
            ({ inside with rest, flags }, isGroup)
        | _ => some (inside, true)
      match entered with
      | none => none
      | some (r, false) => readAlternatives fuel r branches (.flags :: parts)
      | some (r, true) =>
        match group r with
        | some (p, depth, r) => readAlternatives fuel r branches (.pattern p depth :: parts)
        | none => none
    | '[' :: _ =>
      match readSet (r.rest.length + 1) 0 r.drop with
      | some (set, depth, r) =>
        if r.flags.unicode || set.isAscii then
          readAlternatives fuel r branches (.pattern (.chars set) depth :: parts)
        else none
      | none => none
    | '?' :: _ => (repeatLast parts 0 (some 1)).bind (readAlternatives fuel (skipLazy r.drop) branches)
    | '*' :: _ => (repeatLast parts 0 none).bind (readAlternatives fuel (skipLazy r.drop) branches)
    | '+' :: _ => (repeatLast parts 1 none).bind (readAlternatives fuel (skipLazy r.drop) branches)
    | '\x7b' :: _ =>
      match readBounds r.drop with
      | some (least, most, next) =>
        (repeatLast parts least most).bind (readAlternatives fuel (skipLazy next) branches)
      | none => none
    | '.' :: _ =>
      if r.flags.unicode then
        readAlternatives fuel r.drop branches (.pattern (.chars (dotSet r.flags)) 0 :: parts)
      else none
    | '^' :: _ =>
      let place := if r.flags.multiLine then Place.lineStart r.flags.returns else .textStart
      readAlternatives fuel r.drop branches (.pattern (.place place) 0 :: parts)
    | '$' :: _ =>
      let place := if r.flags.multiLine then Place.lineEnd r.flags.returns else .textEnd
      readAlternatives fuel r.drop branches (.pattern (.place place) 0 :: parts)
    | '\\' :: _ =>
      match readEscape r with
      | some (unit, next) =>
        match unitPattern? r.flags unit with
        | some p => readAlternatives fuel next branches (.pattern p 0 :: parts)
        | none => none
      | none => none
    | c :: _ =>
      match unitPattern? r.flags (.char c) with
      | some p => readAlternatives fuel r.drop branches (.pattern p 0 :: parts)
      | none => none

/-- The pattern of a notation, if it is well formed and not too large. -/
def parse? (notation_ : String) : Option Pattern :=
  let cs := notation_.toList
  match readAlternatives (cs.length + 1) ⟨cs, ⟨false, false, false, true, false, false⟩, []⟩ [] [] with
  | some (p, depth, r) =>
    if r.rest.isEmpty ∧ depth ≤ maxNesting ∧ p.weight ≤ maxWeight then some p else none
  | none => none

end SiteBuilder.Pattern
