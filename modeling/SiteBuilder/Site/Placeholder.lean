import SiteBuilder.Form.Answer
import SiteBuilder.Site.Files

/-!
# Placeholders

A site's files name the answers they want in braces: `{key}` or `{{ key }}`, with a fallback after a
bar. `render` puts the answers in, from left to right, and does not look at what it has put in.
`${key}` is left alone, so that scripts may have placeholders of their own.
-/

namespace SiteBuilder.Placeholder

/-- A character a key may start with. -/
def isKeyStart (c : Char) : Bool :=
  ('A' ≤ c && c ≤ 'Z') || ('a' ≤ c && c ≤ 'z') || c == '_'

/-- A character a key may go on with. -/
def isKeyPart (c : Char) : Bool := isKeyStart c || ('0' ≤ c && c ≤ '9') || c == '-'

/-- A character a fallback may hold. -/
def isFallbackPart (c : Char) : Bool := c != '\x7b' && c != '\x7d'

/-- What a pair of braces asks for. -/
structure Request where
  /-- The name of the answer. -/
  key : List Char
  /-- The text in place of an answer that is missing or empty. -/
  fallback : List Char
  deriving DecidableEq

/-- The key at the start and the rest after it. -/
def readKey? : List Char → Option (List Char × List Char)
  | c :: cs => if isKeyStart c then some (c :: cs.takeWhile isKeyPart, cs.dropWhile isKeyPart) else none
  | [] => none

/-- The fallback at the start, which is empty without a bar, and the rest after it. -/
def readFallback : List Char → List Char × List Char
  | '|' :: cs => (cs.takeWhile isFallbackPart, cs.dropWhile isFallbackPart)
  | cs => ([], cs)

/-- The request in double braces at the start. Blanks may stand around the key and the fallback. -/
def readDouble? : List Char → Option (Request × List Char)
  | '\x7b' :: '\x7b' :: cs =>
    match readKey? (cs.dropWhile Text.isBlank) with
    | some (key, rest) =>
      match readFallback (rest.dropWhile Text.isBlank) with
      | (fallback, '\x7d' :: '\x7d' :: rest) => some (⟨key, Text.trimBy Text.isBlank fallback⟩, rest)
      | _ => none
    | none => none
  | _ => none

/-- The request in single braces at the start. -/
def readSingle? : List Char → Option (Request × List Char)
  | '\x7b' :: cs =>
    match readKey? cs with
    | some (key, rest) =>
      match readFallback rest with
      | (fallback, '\x7d' :: rest) => some (⟨key, fallback⟩, rest)
      | _ => none
    | none => none
  | _ => none

/-- The request at the start, double braces before single ones. -/
def read? (cs : List Char) : Option (Request × List Char) :=
  match readDouble? cs with
  | some found => some found
  | none => readSingle? cs

/-- A part of a text with placeholders. -/
inductive Segment where
  /-- A character outside placeholders. -/
  | char (c : Char)
  /-- A placeholder. -/
  | request (r : Request)
  /-- A placeholder after a dollar sign, with the sign. -/
  | escaped (text : List Char)
  deriving DecidableEq

/-- The first segment of a text and the rest after it. -/
def nextSegment (c : Char) (cs : List Char) : Segment × List Char :=
  match read? (c :: cs) with
  | some (request, rest) => (.request request, rest)
  | none =>
    if c = '$' then
      match readSingle? cs with
      | some (_, rest) => (.escaped (c :: cs.take (cs.length - rest.length)), rest)
      | none => (.char c, cs)
    else (.char c, cs)

/-- What is left after a key is shorter. -/
theorem length_of_readKey? {cs key rest : List Char} (h : readKey? cs = some (key, rest)) :
    rest.length < cs.length := by
  cases cs with
  | nil => simp [readKey?] at h
  | cons c cs =>
    rw [readKey?] at h
    split at h
    · have eq : cs.dropWhile isKeyPart = rest := (Prod.mk.inj (Option.some.inj h)).2
      subst eq
      exact Nat.lt_succ_of_le (List.dropWhile_sublist _).length_le
    · cases h

/-- What is left after a fallback is no longer. -/
theorem length_of_readFallback (cs : List Char) : (readFallback cs).2.length ≤ cs.length := by
  unfold readFallback
  split
  · exact Nat.le_succ_of_le (List.dropWhile_sublist _).length_le
  · exact Nat.le_refl _

/-- What is left after double braces is shorter. -/
theorem length_of_readDouble? {cs rest : List Char} {request : Request}
    (h : readDouble? cs = some (request, rest)) : rest.length < cs.length := by
  unfold readDouble? at h
  split at h
  case h_2 => cases h
  case h_1 tail =>
    split at h
    case h_2 => cases h
    case h_1 key afterKey found =>
      split at h
      case h_2 => cases h
      case h_1 fallback left eq =>
        have inner : left = rest := (Prod.mk.inj (Option.some.inj h)).2
        have one := length_of_readFallback (afterKey.dropWhile Text.isBlank)
        have two := length_of_readKey? found
        have three := (List.dropWhile_sublist (l := afterKey) Text.isBlank).length_le
        have four := (List.dropWhile_sublist (l := tail) Text.isBlank).length_le
        rw [eq] at one
        simp only [List.length_cons] at one ⊢
        subst inner
        omega

/-- What is left after single braces is shorter. -/
theorem length_of_readSingle? {cs rest : List Char} {request : Request}
    (h : readSingle? cs = some (request, rest)) : rest.length < cs.length := by
  unfold readSingle? at h
  split at h
  case h_2 => cases h
  case h_1 tail =>
    split at h
    case h_2 => cases h
    case h_1 key afterKey found =>
      split at h
      case h_2 => cases h
      case h_1 fallback left eq =>
        have inner : left = rest := (Prod.mk.inj (Option.some.inj h)).2
        have one := length_of_readFallback afterKey
        have two := length_of_readKey? found
        rw [eq] at one
        simp only [List.length_cons] at one ⊢
        subst inner
        omega

/-- What is left after a request is shorter. -/
theorem length_of_read? {cs rest : List Char} {request : Request}
    (h : read? cs = some (request, rest)) : rest.length < cs.length := by
  unfold read? at h
  split at h
  · next found eq => cases h; exact length_of_readDouble? eq
  · exact length_of_readSingle? h

/-- What is left after a segment is no longer than what follows its first character. -/
theorem length_of_nextSegment (c : Char) (cs : List Char) :
    (nextSegment c cs).2.length ≤ cs.length := by
  unfold nextSegment
  split
  · next eq => exact Nat.le_of_lt_succ (length_of_read? eq)
  · split
    · split
      · next eq => exact Nat.le_of_lt (length_of_readSingle? eq)
      · exact Nat.le_refl _
    · exact Nat.le_refl _

/-- The segments of a text. -/
def segments : List Char → List Segment
  | [] => []
  | c :: cs => (nextSegment c cs).1 :: segments (nextSegment c cs).2
termination_by cs => cs.length
decreasing_by exact Nat.lt_succ_of_le (length_of_nextSegment c cs)

/-- The text a request stands for: the answer's, unless it is empty, or else the fallback. -/
def Request.value (request : Request) (answers : AnswerSet) : List Char :=
  match answers.display? (String.ofList request.key) with
  | some text => if text = "" then request.fallback else text.toList
  | none => request.fallback

/-- The text of a segment. -/
def Segment.text (answers : AnswerSet) : Segment → List Char
  | .char c => [c]
  | .request r => r.value answers
  | .escaped text => text

end SiteBuilder.Placeholder

namespace SiteBuilder

/-- Put answers into a text. -/
def render (source : String) (answers : AnswerSet) : String :=
  String.ofList ((Placeholder.segments source.toList).flatMap (Placeholder.Segment.text answers))

/-- Put answers into every file. -/
def FileSet.render (files : FileSet) (answers : AnswerSet) : FileSet :=
  files.mapWithName fun _ content => SiteBuilder.render content answers

end SiteBuilder
