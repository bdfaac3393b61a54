import SiteBuilder.Pattern.CharSet

/-!
# Patterns

A `Pattern` describes texts: characters from a set, conditions on the place between two
characters, sequences, alternatives and repetitions. Greed and groups make no difference to which
texts match, so a pattern has neither.
-/

namespace SiteBuilder

/-- A condition on a place in a text. -/
inductive Pattern.Place where
  /-- The start of the text. -/
  | textStart
  /-- The end of the text. -/
  | textEnd
  /-- The start of a line; a carriage return counts as a line end if asked for. -/
  | lineStart (returns : Bool)
  /-- The end of a line. -/
  | lineEnd (returns : Bool)
  /-- A word on exactly one side. -/
  | wordEdge (ascii : Bool)
  /-- No edge of a word. -/
  | noWordEdge (ascii : Bool)
  /-- A word behind and none in front. -/
  | wordStart (ascii : Bool)
  /-- A word in front and none behind. -/
  | wordEnd (ascii : Bool)
  /-- No word in front. -/
  | noWordBefore (ascii : Bool)
  /-- No word behind. -/
  | noWordAfter (ascii : Bool)
  deriving DecidableEq

/-- What texts look like. -/
inductive Pattern where
  /-- The empty text. -/
  | empty
  /-- One character of a set. -/
  | chars (set : Pattern.CharSet)
  /-- The empty text at a place that satisfies a condition. -/
  | place (condition : Pattern.Place)
  /-- One text after the other. -/
  | seq (first second : Pattern)
  /-- Either text. -/
  | alt (first second : Pattern)
  /-- At least `least` and at most `most` texts one after the other. -/
  | times (body : Pattern) (least : Nat) (most : Option Nat)

namespace Pattern

/-- The patterns of a list one after the other. -/
def sequence : List Pattern → Pattern
  | [] => .empty
  | [p] => p
  | p :: ps => .seq p (sequence ps)

/-- One of the patterns of a list. -/
def choice : List Pattern → Pattern
  | [] => .chars []
  | [p] => p
  | p :: ps => .alt p (choice ps)

/-- The number of bytes of a character in UTF-8. -/
def utf8Size (n : Nat) : Nat := if n < 0x80 then 1 else if n < 0x800 then 2 else if n < 0x10000 then 3 else 4

/-- The memory that a set takes in a compiled pattern: a state for each byte of a single character,
and about sixty bytes for each range beyond ASCII. -/
def setWeight (set : CharSet) : Nat :=
  match set with
  | [(a, b)] => if a = b then 32 * utf8Size a else if b < 128 then 32 else 60 * 4
  | set => if set.isAscii then 32 + 8 * set.length else 32 + 60 * set.length

/-- The memory that a compiled pattern takes. A repetition takes its body as often as it is bounded. -/
def weight : Pattern → Nat
  | .empty => 32
  | .chars set => setWeight set
  | .place _ => 32
  | .seq a b => a.weight + b.weight
  | .alt a b => a.weight + b.weight + 32
  | .times body least none => (max least 1) * body.weight + 32
  | .times body least (some most) => least * body.weight + (most - least) * (body.weight + 32) + 32

/-- The memory a compiled pattern may take: ten mebibytes. -/
def maxWeight : Nat := 10 * Nat.pow 2 20

end Pattern

end SiteBuilder
