import SiteBuilder.Yaml.Token
import SiteBuilder.Datum.Typed

/-!
# Reading YAML

`Yaml.read` accepts a text with at most one document. A plain scalar stays plain, so that its kind
is decided where it is used; an alias is replaced by what its anchor names. A text without a
document is read as an empty plain scalar.
-/

namespace SiteBuilder.Yaml

/-- What the anchors so far name. -/
abbrev Anchors := List (String × Datum)

/-- A value read from tokens, the tokens after it, and the anchors known then. -/
abbrev Parsed (α : Type) := Option (α × List Token × Anchors)

/-- The properties in front of a node: an anchor, a tag, or both in either order. -/
def properties (ts : List Token) : Option String × Option String × List Token :=
  match ts with
  | .anchor a :: .tag t :: rest => (some a, some t, rest)
  | .tag t :: .anchor a :: rest => (some a, some t, rest)
  | .anchor a :: rest => (some a, none, rest)
  | .tag t :: rest => (none, some t, rest)
  | rest => (none, none, rest)

/-- What the name of a tag says. -/
def tagOf (name : String) : Tag :=
  match name.toList with
  | '!' :: rest => .named (String.ofList rest)
  | _ =>
    if name = "tag:yaml.org,2002:null" then .null
    else if name = "tag:yaml.org,2002:bool" then .bool
    else if name = "tag:yaml.org,2002:int" then .int
    else if name = "tag:yaml.org,2002:float" then .float
    else .other

/-- A value with the tag in front of it, if there is one. -/
def tagged (tag : Option String) (value : Datum) : Datum :=
  match tag with
  | none => value
  | some name => .tagged (tagOf name) value

/-- The deepest nesting that has a value. -/
def maxDepth : Nat := 128

/-- A collection at a depth of nesting. -/
def nested (depth : Nat) (value : Datum) : Datum := if depth < maxDepth then value else .unreadable

/-- The record of key and value pairs. A key that is no scalar leaves it without a value. -/
def recordOf (entries : List (Datum × Datum)) : Datum :=
  match entries.mapM fun (key, value) => key.text?.map (·, value) with
  | some entries => .record entries
  | none => .unreadable

/-- Where a node stands, which decides what may leave it out. -/
inductive Place where
  /-- An item or a value of a block collection. -/
  | block
  /-- A key or a value of a block mapping, where a sequence needs no deeper indentation. -/
  | blockMapping
  /-- A part of a flow collection. -/
  | flow
  deriving DecidableEq

/-- Whether a part is left out in front of this token, so that it is an empty scalar. -/
def isAbsentBefore (closers : List Token) (ts : List Token) : Bool :=
  match ts with
  | [] => true
  | t :: _ => closers.contains t

mutual

/-- Read a node. -/
def readNode (fuel depth : Nat) (place : Place) (ts : List Token) (anchors : Anchors) : Parsed Datum :=
  match fuel with
  | 0 => none
  | fuel + 1 =>
    match ts with
    | .alias name :: rest => (anchors.lookup name).map fun value => (value, rest, anchors)
    | ts =>
      let (anchor, tag, rest) := properties ts
      let known : Anchors :=
        match anchor with
        | some name => (name, .unreadable) :: anchors
        | none => anchors
      match readContent fuel depth place (anchor.isSome || tag.isSome) rest known with
      | none => none
      | some (value, rest, anchors) =>
        let value := tagged tag value
        match anchor with
        | some name => some (value, rest, (name, value) :: anchors)
        | none => some (value, rest, anchors)

/-- Read a node behind its properties. With properties it may be empty. -/
def readContent (fuel depth : Nat) (place : Place) (mayBeEmpty : Bool) (ts : List Token)
    (anchors : Anchors) : Parsed Datum :=
  match fuel with
  | 0 => none
  | fuel + 1 =>
    match ts, place with
    | .entry :: _, .blockMapping =>
      (readIndentless fuel (depth + 1) ts anchors).map fun (items, rest, anchors) =>
        (nested depth (.sequence items), rest, anchors)
    | .plain s :: rest, _ => some (.plain s, rest, anchors)
    | .quoted s :: rest, _ => some (.text s, rest, anchors)
    | .flowSequenceStart :: rest, _ =>
      (readFlowItems fuel (depth + 1) true rest anchors).map fun (items, rest, anchors) =>
        (nested depth (.sequence items), rest, anchors)
    | .flowMappingStart :: rest, _ =>
      (readFlowEntries fuel (depth + 1) true rest anchors).map fun (entries, rest, anchors) =>
        (nested depth (recordOf entries), rest, anchors)
    | t :: rest, place =>
      if t = .blockSequenceStart ∧ place ≠ .flow then
        (readBlockItems fuel (depth + 1) rest anchors).map fun (items, rest, anchors) =>
          (nested depth (.sequence items), rest, anchors)
      else if t = .blockMappingStart ∧ place ≠ .flow then
        (readBlockEntries fuel (depth + 1) rest anchors).map fun (entries, rest, anchors) =>
          (nested depth (recordOf entries), rest, anchors)
      else if mayBeEmpty then some (.plain "", ts, anchors)
      else none
    | [], _ => if mayBeEmpty then some (.plain "", [], anchors) else none

/-- Read a node that may be left out in front of certain tokens. -/
def readOptional (fuel depth : Nat) (place : Place) (closers : List Token) (ts : List Token)
    (anchors : Anchors) : Parsed Datum :=
  match fuel with
  | 0 => none
  | fuel + 1 =>
    if isAbsentBefore closers ts then some (.plain "", ts, anchors)
    else readNode fuel depth place ts anchors

/-- Read the entries of a block sequence up to its end. -/
def readBlockItems (fuel depth : Nat) (ts : List Token) (anchors : Anchors) : Parsed (List Datum) :=
  match fuel with
  | 0 => none
  | fuel + 1 =>
    match ts with
    | .entry :: rest =>
      match readOptional fuel depth .block [.entry, .blockEnd] rest anchors with
      | none => none
      | some (item, rest, anchors) =>
        (readBlockItems fuel depth rest anchors).map fun (items, rest, anchors) => (item :: items, rest, anchors)
    | .blockEnd :: rest => some ([], rest, anchors)
    | _ => none

/-- Read the entries of a sequence that is not indented more than the mapping around it. -/
def readIndentless (fuel depth : Nat) (ts : List Token) (anchors : Anchors) : Parsed (List Datum) :=
  match fuel with
  | 0 => none
  | fuel + 1 =>
    match ts with
    | .entry :: rest =>
      match readOptional fuel depth .block [.entry, .key, .value, .blockEnd] rest anchors with
      | none => none
      | some (item, rest, anchors) =>
        (readIndentless fuel depth rest anchors).map fun (items, rest, anchors) => (item :: items, rest, anchors)
    | ts => some ([], ts, anchors)

/-- Read the entries of a block mapping up to its end. -/
def readBlockEntries (fuel depth : Nat) (ts : List Token) (anchors : Anchors) :
    Parsed (List (Datum × Datum)) :=
  match fuel with
  | 0 => none
  | fuel + 1 =>
    match ts with
    | .blockEnd :: rest => some ([], rest, anchors)
    | .key :: rest =>
      match readOptional fuel depth .blockMapping [.key, .value, .blockEnd] rest anchors with
      | none => none
      | some (key, rest, anchors) =>
        match readBlockValue fuel depth rest anchors with
        | none => none
        | some (value, rest, anchors) =>
          (readBlockEntries fuel depth rest anchors).map fun (entries, rest, anchors) =>
            ((key, value) :: entries, rest, anchors)
    | .value :: _ =>
      match readBlockValue fuel depth ts anchors with
      | none => none
      | some (value, rest, anchors) =>
        (readBlockEntries fuel depth rest anchors).map fun (entries, rest, anchors) =>
          ((.plain "", value) :: entries, rest, anchors)
    | _ => none

/-- Read the value of a block mapping's key; without a mark it is empty. -/
def readBlockValue (fuel depth : Nat) (ts : List Token) (anchors : Anchors) : Parsed Datum :=
  match fuel with
  | 0 => none
  | fuel + 1 =>
    match ts with
    | .value :: rest => readOptional fuel depth .blockMapping [.key, .value, .blockEnd] rest anchors
    | ts => some (.plain "", ts, anchors)

/-- Read the items of a flow sequence up to its end. An item may be a single key and value. -/
def readFlowItems (fuel depth : Nat) (isFirst : Bool) (ts : List Token) (anchors : Anchors) :
    Parsed (List Datum) :=
  match fuel with
  | 0 => none
  | fuel + 1 =>
    match ts with
    | .flowSequenceEnd :: rest => some ([], rest, anchors)
    | ts =>
      match (if isFirst then some ts else if ts.head? = some .flowEntry then some ts.tail else none) with
      | none => none
      | some (.flowSequenceEnd :: rest) => some ([], rest, anchors)
      | some (.key :: rest) =>
        match readOptional fuel depth .flow [.value, .flowEntry, .flowSequenceEnd] rest anchors with
        | none => none
        | some (key, rest, anchors) =>
          match readFlowValue fuel depth .flowSequenceEnd rest anchors with
          | none => none
          | some (value, rest, anchors) =>
            (readFlowItems fuel depth false rest anchors).map fun (items, rest, anchors) =>
              (nested depth (recordOf [(key, value)]) :: items, rest, anchors)
      | some ts =>
        match readNode fuel depth .flow ts anchors with
        | none => none
        | some (item, rest, anchors) =>
          (readFlowItems fuel depth false rest anchors).map fun (items, rest, anchors) =>
            (item :: items, rest, anchors)

/-- Read the value of a flow key; without a mark it is empty. -/
def readFlowValue (fuel depth : Nat) (closer : Token) (ts : List Token) (anchors : Anchors) : Parsed Datum :=
  match fuel with
  | 0 => none
  | fuel + 1 =>
    match ts with
    | .value :: rest => readOptional fuel depth .flow [.flowEntry, closer] rest anchors
    | ts => some (.plain "", ts, anchors)

/-- Read the entries of a flow mapping up to its end. A node alone is a key with an empty value. -/
def readFlowEntries (fuel depth : Nat) (isFirst : Bool) (ts : List Token) (anchors : Anchors) :
    Parsed (List (Datum × Datum)) :=
  match fuel with
  | 0 => none
  | fuel + 1 =>
    match ts with
    | .flowMappingEnd :: rest => some ([], rest, anchors)
    | ts =>
      match (if isFirst then some ts else if ts.head? = some .flowEntry then some ts.tail else none) with
      | none => none
      | some (.flowMappingEnd :: rest) => some ([], rest, anchors)
      | some (.key :: rest) =>
        match readOptional fuel depth .flow [.value, .flowEntry, .flowMappingEnd] rest anchors with
        | none => none
        | some (key, rest, anchors) =>
          match readFlowValue fuel depth .flowMappingEnd rest anchors with
          | none => none
          | some (value, rest, anchors) =>
            (readFlowEntries fuel depth false rest anchors).map fun (entries, rest, anchors) =>
              ((key, value) :: entries, rest, anchors)
      | some ts =>
        match readNode fuel depth .flow ts anchors with
        | none => none
        | some (key, rest, anchors) =>
          (readFlowEntries fuel depth false rest anchors).map fun (entries, rest, anchors) =>
            ((key, .plain "") :: entries, rest, anchors)

end

/-- Whether only ends of documents are left. -/
def isAtEnd (ts : List Token) : Bool := ts.all (· == .documentEnd)

/-- The document of a token list: its content, or what stands between the marks of its start and
its end, which may be nothing. -/
def document? (fuel : Nat) (ts : List Token) : Option Datum :=
  let started := ts.dropWhile (· == .directive)
  let directives := ts.length - started.length
  match started with
  | [] => if directives = 0 then some (.plain "") else none
  | .documentStart :: content =>
    if 1 < directives then none
    else if isAbsentBefore [.directive, .documentStart, .documentEnd] content then
      (if isAtEnd content then some (.plain "") else none)
    else
      match readNode fuel 0 .block content [] with
      | some (value, rest, _) => if isAtEnd rest then some value else none
      | none => none
  | content =>
    if 0 < directives then none
    else
      match readNode fuel 0 .block content [] with
      | some (value, rest, _) => if isAtEnd rest then some value else none
      | none => none

/-- The value of a YAML text. -/
def read (text : String) : Option Datum :=
  match tokens? text with
  | some ts => document? (4 * ts.length + 8) ts
  | none => none

end SiteBuilder.Yaml
