import SiteBuilder.Pattern.Parser

/-!
# Searching a text for a pattern

A pattern becomes a list of instructions, each of which reads a character, branches, or checks the
place between two characters. The search keeps the set of instructions that some start of the text
has led to, so its time is bounded by the sizes of pattern and text.
-/

namespace SiteBuilder.Pattern

/-- One step of a search; the numbers are those of the instructions that follow. -/
inductive Instr where
  /-- Read a character of a set. -/
  | read (set : Text.Ranges) (next : Nat)
  /-- Go on at either instruction. -/
  | branch (a b : Nat)
  /-- Go on if the place satisfies a condition. -/
  | check (condition : Place) (next : Nat)
  /-- The pattern has been found. -/
  | found

/-- Add the instructions of a pattern in front of `next`; the number of its first one is returned. -/
def compile : Pattern → Nat → Array Instr → Nat × Array Instr
  | .empty, next, code => (next, code)
  | .chars set, next, code =>
    (code.size, code.push (.read ⟨(set.map (·.1)).toArray, (set.map (·.2)).toArray⟩ next))
  | .place condition, next, code => (code.size, code.push (.check condition next))
  | .seq a b, next, code =>
    let (start, code) := compile b next code
    compile a start code
  | .alt a b, next, code =>
    let (first, code) := compile a next code
    let (second, code) := compile b next code
    (code.size, code.push (.branch first second))
  | .times body least most, next, code =>
    let (start, code) :=
      match most with
      | none =>
        let loop := code.size
        let (first, code) := compile body loop (code.push (.branch next next))
        (loop, code.set! loop (.branch first next))
      | some most =>
        (List.range (most - least)).foldl (fun (start, code) _ =>
          let (first, code) := compile body start code
          (code.size, code.push (.branch first next))) (next, code)
    (List.range least).foldl (fun (start, code) _ => compile body start code) (start, code)

/-- Whether a character belongs to a word. -/
def isWordChar (ascii : Bool) : Option Char → Bool
  | none => false
  | some c =>
    if ascii || c.toNat < 128 then c.isAlphanum || c == '_'
    else
      Text.isAlphabetic c || c.toNat == 0x200C || c.toNat == 0x200D ||
        ["Mn", "Mc", "Me", "Nd", "Pc"].contains (Text.categoryOf c.toNat)

/-- Whether a condition holds between two characters; `none` stands for the ends of the text. -/
def Place.holds (p : Place) (before after : Option Char) : Bool :=
  match p with
  | .textStart => before.isNone
  | .textEnd => after.isNone
  | .lineStart false => before.all (· == '\n')
  | .lineStart true =>
    before.all (· == '\n') || (before == some '\r' && after != some '\n')
  | .lineEnd false => after.all (· == '\n')
  | .lineEnd true => after.all (· == '\r') || (after == some '\n' && before != some '\r')
  | .wordEdge ascii => isWordChar ascii before != isWordChar ascii after
  | .noWordEdge ascii => isWordChar ascii before == isWordChar ascii after
  | .wordStart ascii => !isWordChar ascii before && isWordChar ascii after
  | .wordEnd ascii => isWordChar ascii before && !isWordChar ascii after
  | .noWordBefore ascii => !isWordChar ascii before
  | .noWordAfter ascii => !isWordChar ascii after

/-- The instructions that read a character and can be reached at a place, and whether the pattern
has been found there. -/
structure Reached where
  /-- Which instructions have been reached. -/
  seen : Array Bool
  /-- Those that read a character. -/
  readers : List (Text.Ranges × Nat)
  /-- Whether the pattern has been found. -/
  found : Bool

/-- Follow all instructions that read nothing. Each instruction is followed once. -/
def follow (code : Array Instr) (before after : Option Char) : Nat → List Nat → Reached → Reached
  | 0, _, reached => reached
  | _, [], reached => reached
  | fuel + 1, i :: rest, reached =>
    if reached.seen.getD i true then follow code before after fuel rest reached
    else
      let reached := { reached with seen := reached.seen.set! i true }
      match code[i]? with
      | some (.read set next) =>
        follow code before after fuel rest { reached with readers := (set, next) :: reached.readers }
      | some (.branch a b) => follow code before after fuel (a :: b :: rest) reached
      | some (.check condition next) =>
        if condition.holds before after then follow code before after fuel (next :: rest) reached
        else follow code before after fuel rest reached
      | some .found => { reached with found := true }
      | none => follow code before after fuel rest reached

/-- Search the text from a place on, given the instructions that earlier starts have led to. -/
def search (code : Array Instr) (start : Nat) : Option Char → List Char → List Nat → Bool
  | before, cs, waiting =>
    let fuel := 3 * (code.size + waiting.length) + 3
    let reached :=
      follow code before cs.head? fuel (start :: waiting) ⟨Array.replicate code.size false, [], false⟩
    reached.found ||
      match cs with
      | [] => false
      | c :: rest =>
        search code start (some c) rest
          (reached.readers.filterMap fun (set, next) => if set.contains c.toNat then some next else none)

/-- Whether some part of a text matches a pattern. -/
def occursIn (p : Pattern) (text : String) : Bool :=
  let (start, code) := compile p 0 #[.found]
  search code start none text.toList []

end SiteBuilder.Pattern
