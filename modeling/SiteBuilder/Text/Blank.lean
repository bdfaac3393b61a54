/-!
# Blank characters

`isBlank` is the Unicode property White_Space. Trimming and the reading of words are stated on
lists of characters; the functions on `String` wrap them.
-/

namespace SiteBuilder.Text

/-- Unicode White_Space: controls 9 to 13, next line, and the space separators. -/
def isBlank (c : Char) : Bool :=
  (9 ≤ c.toNat && c.toNat ≤ 13) || c.toNat == 0x20 || c.toNat == 0x85 || c.toNat == 0xA0 ||
  c.toNat == 0x1680 || (0x2000 ≤ c.toNat && c.toNat ≤ 0x200A) || c.toNat == 0x2028 ||
  c.toNat == 0x2029 || c.toNat == 0x202F || c.toNat == 0x205F || c.toNat == 0x3000

/-- The list without the elements at its end that satisfy `p`. -/
def dropEndWhile (p : Char → Bool) (cs : List Char) : List Char :=
  (cs.reverse.dropWhile p).reverse

/-- The list without the elements at either end that satisfy `p`. -/
def trimBy (p : Char → Bool) (cs : List Char) : List Char :=
  dropEndWhile p (cs.dropWhile p)

/-- The text without blanks at either end. -/
def trim (s : String) : String := String.ofList (trimBy isBlank s.toList)

/-- Whether a text has no character that is not blank. -/
def isAllBlank (s : String) : Bool := s.toList.all isBlank

/-- Split at every character that satisfies `p`; `n` such characters give `n + 1` pieces. -/
def splitBy (p : Char → Bool) : List Char → List (List Char)
  | [] => [[]]
  | c :: rest =>
    if p c then [] :: splitBy p rest
    else
      match splitBy p rest with
      | [] => [[c]]
      | piece :: pieces => (c :: piece) :: pieces

/-- The pieces of a text between the occurrences of a character. -/
def pieces (separator : Char) (s : String) : List String :=
  (splitBy (· == separator) s.toList).map String.ofList

/-- What follows `start`, if the list starts with it. -/
def afterStart? : List Char → List Char → Option (List Char)
  | [], cs => some cs
  | _ :: _, [] => none
  | p :: ps, c :: cs => if p = c then afterStart? ps cs else none

/-- The parts before and after the first occurrence of `target`. -/
def cutAt? (target : List Char) : List Char → Option (List Char × List Char)
  | [] => if target.isEmpty then some ([], []) else none
  | c :: cs =>
    match afterStart? target (c :: cs) with
    | some rest => some ([], rest)
    | none => (cutAt? target cs).map fun (before, after) => (c :: before, after)

/-- Replace from left to right, passing over as many characters as are left of an occurrence that
was replaced. -/
def replaceFrom (target replacement : List Char) : Nat → List Char → List Char
  | _, [] => []
  | skip + 1, _ :: cs => replaceFrom target replacement skip cs
  | 0, c :: cs =>
    if (afterStart? target (c :: cs)).isSome then
      replacement ++ replaceFrom target replacement (target.length - 1) cs
    else c :: replaceFrom target replacement 0 cs

/-- Every occurrence of a non-empty `target`, from left to right without overlap, replaced. -/
def replaceAll (target replacement : String) (s : String) : String :=
  String.ofList (replaceFrom target.toList replacement.toList 0 s.toList)

/-- A letter `A` to `Z` becomes small; all else stays. -/
def asciiLower (s : String) : String := s.map Char.toLower

/-- Whether two texts differ at most in the case of the letters `A` to `Z`. -/
def sameIgnoringAsciiCase (a b : String) : Bool := asciiLower a == asciiLower b

end SiteBuilder.Text
