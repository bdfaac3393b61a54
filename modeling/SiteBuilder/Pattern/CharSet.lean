import SiteBuilder.Text.Letter
import SiteBuilder.Text.Case
import SiteBuilder.Text.Script

/-!
# Sets of characters

A `CharSet` lists ascending ranges of code points that neither overlap nor touch. The named sets are
those that patterns know: general categories, scripts, a few binary properties, the classes of
digits, words and spaces, and the classes of ASCII.
-/

namespace SiteBuilder.Pattern

open SiteBuilder.Text

/-- Ascending ranges of code points, as first and last members. -/
abbrev CharSet := List (Nat × Nat)

namespace CharSet

/-- The greatest code point. -/
def top : Nat := 0x10FFFF

/-- All characters. -/
def everything : CharSet := [(0, top)]

/-- Join ranges, sorted by their starts, that overlap or touch. -/
def join : CharSet → CharSet
  | [] => []
  | range :: rest =>
    match join rest with
    | [] => [range]
    | next :: later =>
      if next.1 ≤ range.2 + 1 then (range.1, max range.2 next.2) :: later else range :: next :: later

/-- The set of the given ranges, in any order. -/
def ofRanges (ranges : List (Nat × Nat)) : CharSet := join (ranges.mergeSort fun a b => a.1 ≤ b.1)

/-- The set of one character. -/
def single (c : Char) : CharSet := [(c.toNat, c.toNat)]

/-- The members of either set. -/
def union (a b : CharSet) : CharSet := ofRanges (a ++ b)

/-- The gaps of ranges from a code point on. -/
def gaps : Nat → CharSet → CharSet
  | from_, [] => if from_ ≤ top then [(from_, top)] else []
  | from_, (first, last) :: rest =>
    if from_ < first then (from_, first - 1) :: gaps (last + 1) rest else gaps (last + 1) rest

/-- The characters that are no members. -/
def complement (set : CharSet) : CharSet := gaps 0 set

/-- The members of both sets. -/
def inter (a b : CharSet) : CharSet := complement (union (complement a) (complement b))

/-- The members of the first set that are not in the second. -/
def diff (a b : CharSet) : CharSet := inter a (complement b)

/-- The members of exactly one of the sets. -/
def symmDiff (a b : CharSet) : CharSet := union (diff a b) (diff b a)

/-- Whether a code point is a member. -/
def contains (set : CharSet) (n : Nat) : Bool := set.any fun range => range.1 ≤ n && n ≤ range.2

/-- The code points that some other code point folds to, each with all that fold to it. -/
def foldGroups : List (List Nat) :=
  let moved := foldMoves.moves.toList.flatMap fun move =>
    (List.range move.count).map fun i => (move.target + i * move.stride, move.first + i * move.stride)
  let sorted := moved.mergeSort fun a b => a.1 ≤ b.1
  sorted.foldr (fun (target, n) groups =>
    match groups with
    | (head :: rest) :: later =>
      if head = target then (head :: n :: rest) :: later else [target, n] :: (head :: rest) :: later
    | groups => [target, n] :: groups) []

/-- Add the characters that differ from a member only in case. -/
def foldClosure (set : CharSet) : CharSet :=
  let added := foldGroups.flatMap fun group =>
    if group.any set.contains then group.map fun n => (n, n) else []
  ofRanges (set ++ added)

/-- Add the letters `A` to `Z` that differ from a member only in case. -/
def asciiFoldClosure (set : CharSet) : CharSet :=
  let added := (List.range 26).flatMap fun i =>
    if set.contains (65 + i) || set.contains (97 + i) then [(65 + i, 65 + i), (97 + i, 97 + i)] else []
  ofRanges (set ++ added)

/-- Whether all members are below 128. -/
def isAscii (set : CharSet) : Bool := List.all set (·.2 < 128)

/-! ## Named sets -/

/-- The code points of the general categories that satisfy `p`. The runs in which capital and small
letters alternate are split. -/
def ofCategories (p : String → Bool) : CharSet :=
  let whole := categoryRuns.rangesOf fun value => value != "Le" && value != "La" && p value
  let alternating (marker even odd : String) : List (Nat × Nat) :=
    (categoryRuns.rangesOf (· == marker)).flatMap fun (first, last) =>
      (List.range (last + 1 - first)).filterMap fun i =>
        let n := first + i
        if p (if n % 2 = 0 then even else odd) then some (n, n) else none
  ofRanges (whole ++ alternating "Le" "Lu" "Ll" ++ alternating "La" "Ll" "Lu")

/-- Decimal digits of all scripts. -/
def digits : CharSet := ofCategories (· == "Nd")

/-- Blank characters. -/
def spaces : CharSet :=
  [(9, 13), (0x20, 0x20), (0x85, 0x85), (0xA0, 0xA0), (0x1680, 0x1680), (0x2000, 0x200A),
    (0x2028, 0x2029), (0x202F, 0x202F), (0x205F, 0x205F), (0x3000, 0x3000)]

/-- Alphabetic characters. -/
def alphabetic : CharSet :=
  union (ofCategories fun k => ["Lu", "Ll", "Lt", "Lm", "Lo", "Nl"].contains k) otherAlphabetic.toList

/-- The characters of words: letters, marks, decimal digits, connectors and joiners. -/
def words : CharSet :=
  union alphabetic
    (ofRanges ((0x200C, 0x200D) :: ofCategories fun k => ["Mn", "Mc", "Me", "Nd", "Pc"].contains k))

/-- Decimal digits of ASCII. -/
def asciiDigits : CharSet := [(48, 57)]

/-- Blank characters of ASCII. -/
def asciiSpaces : CharSet := [(9, 13), (32, 32)]

/-- The characters of words in ASCII. -/
def asciiWords : CharSet := [(48, 57), (65, 90), (95, 95), (97, 122)]

/-- A class of ASCII by its name. -/
def asciiClass? : String → Option CharSet
  | "alnum" => some [(48, 57), (65, 90), (97, 122)]
  | "alpha" => some [(65, 90), (97, 122)]
  | "ascii" => some [(0, 127)]
  | "blank" => some [(9, 9), (32, 32)]
  | "cntrl" => some [(0, 31), (127, 127)]
  | "digit" => some [(48, 57)]
  | "graph" => some [(33, 126)]
  | "lower" => some [(97, 122)]
  | "print" => some [(32, 126)]
  | "punct" => some [(33, 47), (58, 64), (91, 96), (123, 126)]
  | "space" => some [(9, 13), (32, 32)]
  | "upper" => some [(65, 90)]
  | "word" => some asciiWords
  | "xdigit" => some [(48, 57), (65, 70), (97, 102)]
  | _ => none

/-- The general categories and groups of them, by their short and their long names. -/
def categoryNames : List (List String × List String) :=
  [(["l", "letter"], ["Lu", "Ll", "Lt", "Lm", "Lo"]), (["lc", "casedletter"], ["Lu", "Ll", "Lt"]),
    (["lu", "uppercaseletter"], ["Lu"]), (["ll", "lowercaseletter"], ["Ll"]),
    (["lt", "titlecaseletter"], ["Lt"]), (["lm", "modifierletter"], ["Lm"]), (["lo", "otherletter"], ["Lo"]),
    (["m", "mark", "combiningmark"], ["Mn", "Mc", "Me"]), (["mn", "nonspacingmark"], ["Mn"]),
    (["mc", "spacingmark"], ["Mc"]), (["me", "enclosingmark"], ["Me"]),
    (["n", "number"], ["Nd", "Nl", "No"]), (["nd", "decimalnumber", "digit"], ["Nd"]),
    (["nl", "letternumber"], ["Nl"]), (["no", "othernumber"], ["No"]),
    (["p", "punctuation", "punct"], ["Pc", "Pd", "Ps", "Pe", "Pi", "Pf", "Po"]),
    (["pc", "connectorpunctuation"], ["Pc"]), (["pd", "dashpunctuation"], ["Pd"]),
    (["ps", "openpunctuation"], ["Ps"]), (["pe", "closepunctuation"], ["Pe"]),
    (["pi", "initialpunctuation"], ["Pi"]), (["pf", "finalpunctuation"], ["Pf"]),
    (["po", "otherpunctuation"], ["Po"]),
    (["s", "symbol"], ["Sm", "Sc", "Sk", "So"]), (["sm", "mathsymbol"], ["Sm"]),
    (["sc", "currencysymbol"], ["Sc"]), (["sk", "modifiersymbol"], ["Sk"]), (["so", "othersymbol"], ["So"]),
    (["z", "separator"], ["Zs", "Zl", "Zp"]), (["zs", "spaceseparator"], ["Zs"]),
    (["zl", "lineseparator"], ["Zl"]), (["zp", "paragraphseparator"], ["Zp"]),
    (["c", "other"], ["Cc", "Cf", "Cs", "Co", "Cn"]), (["cc", "control", "cntrl"], ["Cc"]),
    (["cf", "format"], ["Cf"]), (["co", "privateuse"], ["Co"]), (["cn", "unassigned"], ["Cn"])]

/-- The set of a general category. Three more names stand for all of ASCII, for all characters and for
all assigned ones. -/
def category? (name : String) : Option CharSet :=
  if name = "any" then some everything
  else if name = "ascii" then some [(0, 127)]
  else if name = "assigned" then some (ofCategories (· != "Cn"))
  else (categoryNames.find? (·.1.contains name)).map fun entry => ofCategories entry.2.contains

/-- The set of a script, by its code or its name in small letters. -/
def script? (name : String) : Option CharSet :=
  (scriptNames.find? fun entry => asciiLower entry.1 == name || asciiLower entry.2 == name).map fun entry =>
    ofRanges (scriptRuns.rangesOf (· == entry.1))

/-- The set of a binary property. -/
def property? : String → Option CharSet
  | "alphabetic" | "alpha" => some alphabetic
  | "lowercase" | "lower" => some (union (ofCategories (· == "Ll")) otherLowercase.toList)
  | "uppercase" | "upper" => some (union (ofCategories (· == "Lu")) otherUppercase.toList)
  | "whitespace" | "wspace" | "space" => some spaces
  | "asciihexdigit" | "ahex" => some [(48, 57), (65, 70), (97, 102)]
  | "hexdigit" | "hex" =>
    some [(48, 57), (65, 70), (97, 102), (0xFF10, 0xFF19), (0xFF21, 0xFF26), (0xFF41, 0xFF46)]
  | "joincontrol" | "joinc" => some [(0x200C, 0x200D)]
  | _ => none

/-- The name of a property or a value without what makes no difference: case, blanks, dashes,
underscores, and the word `is` in front. -/
def looseName (name : String) : String :=
  let cs := ((name.toList.filter fun c => c != ' ' && c != '-' && c != '_').map Char.toLower)
  let cs :=
    match cs with
    | 'i' :: 's' :: rest => if rest.isEmpty ∨ rest = ['c'] then cs else rest
    | cs => cs
  String.ofList cs

/-- The set a name alone stands for: a property, a general category or a script. The names `cf`,
`sc` and `lc` are general categories. -/
def named? (name : String) : Option CharSet :=
  let name := looseName name
  ((property? name).orElse fun _ => category? name).orElse fun _ => script? name

/-- The set of a property with a value. -/
def valued? (property value : String) : Option CharSet :=
  let value := looseName value
  match looseName property with
  | "generalcategory" | "gc" => category? value
  | "script" | "sc" => script? value
  | "scriptextensions" | "scx" => script? value
  | _ => none

end CharSet

end SiteBuilder.Pattern
