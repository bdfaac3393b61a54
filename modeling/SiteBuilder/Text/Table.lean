/-!
# Tables of code points

Tables over all code points are written as texts of words between blanks, with hexadecimal numbers
in capital letters, and read once into arrays that are searched by halving.
-/

namespace SiteBuilder.Text

/-- The number of a hexadecimal word in capital letters. -/
def hexNumber (cs : List Char) : Nat :=
  cs.foldl (fun n c => 16 * n + (if c.isDigit then c.toNat - 48 else c.toNat - 55)) 0

/-- The parts of a list between the places where `p` holds. -/
def partsAt (p : Char → Bool) : List Char → List (List Char)
  | [] => [[]]
  | c :: cs =>
    match partsAt p cs with
    | part :: parts => if p c then [] :: part :: parts else (c :: part) :: parts
    | [] => [[c]]

/-- The words of a table. -/
def tableWords (text : String) : List (List Char) := partsAt (· == ' ') text.toList

/-- The last index in `low .. high` whose key is at most `n`, found by halving; `low` if there is
none. -/
def halve (keys : Array Nat) (n : Nat) : Nat → Nat → Nat → Nat
  | 0, low, _ => low
  | steps + 1, low, high =>
    if high ≤ low + 1 then low
    else
      let middle := (low + high) / 2
      if keys.getD middle 0 ≤ n then halve keys n steps middle high else halve keys n steps low middle

/-- The last index whose key is at most `n`. -/
def lastAtMost (keys : Array Nat) (n : Nat) : Nat := halve keys n 32 0 keys.size

/-- Runs of code points with one value each. -/
structure Runs where
  /-- Where the runs start. -/
  starts : Array Nat
  /-- Their values. -/
  values : Array String

/-- Runs given by their lengths from zero on. -/
def Runs.ofLengths (text : String) : Runs :=
  let step (acc : Nat × Array Nat × Array String) (word : List Char) :=
    let size := hexNumber (word.takeWhile (· != ':'))
    let value := String.ofList ((word.dropWhile (· != ':')).drop 1)
    (acc.1 + size, acc.2.1.push acc.1, acc.2.2.push value)
  let (_, starts, values) := (tableWords text).foldl step (0, #[], #[])
  ⟨starts, values⟩

/-- The value of the run a code point lies in. -/
def Runs.value (runs : Runs) (n : Nat) : String := runs.values.getD (lastAtMost runs.starts n) ""

/-- The runs with a value that satisfies `p`, as first and last code points. -/
def Runs.rangesOf (runs : Runs) (p : String → Bool) : List (Nat × Nat) :=
  let ends := (runs.starts.toList.drop 1).map (· - 1) ++ [0x10FFFF]
  ((runs.starts.toList.zip ends).zip runs.values.toList).filterMap fun (range, value) =>
    if p value then some range else none

/-- A set of code points as ascending ranges. -/
structure Ranges where
  /-- Where the ranges start. -/
  starts : Array Nat
  /-- Where they end, inclusive. -/
  ends : Array Nat

/-- Ranges given by their first and last code points. -/
def Ranges.ofText (text : String) : Ranges :=
  let bounds := (tableWords text).map fun word =>
    match partsAt (· == '-') word with
    | [first, last] => (hexNumber first, hexNumber last)
    | _ => (hexNumber word, hexNumber word)
  ⟨(bounds.map (·.1)).toArray, (bounds.map (·.2)).toArray⟩

/-- Whether a code point lies in one of the ranges. -/
def Ranges.contains (ranges : Ranges) (n : Nat) : Bool :=
  let i := lastAtMost ranges.starts n
  ranges.starts.getD i 0 ≤ n && n ≤ ranges.ends.getD i 0

/-- The ranges, as first and last code points. -/
def Ranges.toList (ranges : Ranges) : List (Nat × Nat) := ranges.starts.toList.zip ranges.ends.toList

/-- Some code points at equal distances, and where the first of them is moved. -/
structure Move where
  first : Nat
  count : Nat
  stride : Nat
  target : Nat
  deriving Inhabited

/-- A partial map of code points that moves runs of them. -/
structure Moves where
  /-- Where the runs start. -/
  starts : Array Nat
  /-- The runs. -/
  moves : Array Move

/-- Moves given by first code point, number, distance and first target. -/
def Moves.ofText (text : String) : Moves :=
  let moves := (tableWords text).filterMap fun word =>
    match partsAt (· == ',') word with
    | [first, count, stride, target] =>
      some (Move.mk (hexNumber first) (hexNumber count) (hexNumber stride) (hexNumber target))
    | _ => none
  ⟨(moves.map (·.first)).toArray, moves.toArray⟩

/-- Where a move takes a code point, if it lies in its run. -/
def Move.target? (move : Move) (n : Nat) : Option Nat :=
  let distance := n - move.first
  if move.first ≤ n ∧ distance < move.count * move.stride ∧ distance % move.stride = 0 then
    some (move.target + distance)
  else none

/-- Where a code point is moved; most stay. A run with gaps may enclose the start of the next. -/
def Moves.target (moves : Moves) (n : Nat) : Nat :=
  let i := lastAtMost moves.starts n
  let at? (i : Nat) : Option Nat := (moves.moves[i]?).bind (·.target? n)
  ((at? i).orElse fun _ => at? (i - 1)).getD n

/-- A partial map from code points to several characters. -/
structure Expansions where
  /-- The code points. -/
  starts : Array Nat
  /-- What each becomes. -/
  values : Array (List Char)

/-- Expansions given by a code point and the code points it becomes. -/
def Expansions.ofText (text : String) : Expansions :=
  let pairs := (tableWords text).filterMap fun word =>
    match partsAt (· == ',') word with
    | first :: rest => some (hexNumber first, rest.map fun part => Char.ofNat (hexNumber part))
    | [] => none
  ⟨(pairs.map (·.1)).toArray, (pairs.map (·.2)).toArray⟩

/-- What a code point becomes. -/
def Expansions.expand? (table : Expansions) (n : Nat) : Option (List Char) :=
  let i := lastAtMost table.starts n
  if table.starts.getD i 0 = n then table.values[i]? else none

/-- Pairs of a code and a name. -/
def namedCodes (text : String) : List (String × String) :=
  (tableWords text).map fun word =>
    (String.ofList (word.takeWhile (· != ':')), String.ofList ((word.dropWhile (· != ':')).drop 1))

end SiteBuilder.Text
