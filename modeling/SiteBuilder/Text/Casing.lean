import SiteBuilder.Text.Blank
import SiteBuilder.Text.Case
import SiteBuilder.Text.Letter

/-!
# Words and casings

A text is cut into words at every character that is no letter or digit, between a small letter and a
capital, and before the last capital of a run that a small letter follows. The casings write these
words in small letters or with a capital at the start, with a separator between them.
-/

namespace SiteBuilder.Text

/-- The case of a letter. -/
inductive LetterCase where
  | small
  | capital
  deriving DecidableEq

/-- The case of the last cased letter of a word, given the one before its last character. -/
def lastCase (before : Option LetterCase) (c : Char) : Option LetterCase :=
  if isLowercase c then some .small
  else if isUppercase c then some .capital
  else before

/-- Cut a run of letters and digits into words. `word` holds the characters of the word so far, the
last one first, and `before` the case of its last cased letter since the last cut. -/
def cutWords (before : Option LetterCase) (word : List Char) : List Char → List (List Char)
  | [] => []
  | [c] => [(c :: word).reverse]
  | c :: next :: rest =>
    if lastCase before c = some .small ∧ isUppercase next then
      (c :: word).reverse :: cutWords none [] (next :: rest)
    else if before = some .capital ∧ isUppercase c ∧ isLowercase next then
      word.reverse :: cutWords none [c] (next :: rest)
    else cutWords (lastCase before c) (c :: word) (next :: rest)

/-- The words of a text. -/
def wordsOf (s : String) : List (List Char) :=
  (splitBy (!isAlphanumeric ·) s.toList).flatMap (cutWords none [])

/-- A word in small letters. A sigma at the end has its final form. -/
def smallWord : List Char → List Char
  | [] => []
  | [c] => if c = 'Σ' then ['ς'] else lower c
  | c :: rest => lower c ++ smallWord rest

/-- A word with a capital at its start. -/
def capitalWord : List Char → List Char
  | [] => []
  | c :: rest => upper c ++ smallWord rest

/-- Write words one after the other with a separator between them. -/
def joinWords (separator : List Char) (words : List (List Char)) : String :=
  String.ofList (separator.intercalate words)

/-- Words after the first one start with a capital, as in `mySiteName`. -/
def camelCase (s : String) : String :=
  match wordsOf s with
  | [] => ""
  | word :: words => joinWords [] (smallWord word :: words.map capitalWord)

/-- Every word starts with a capital, as in `MySiteName`. -/
def pascalCase (s : String) : String := joinWords [] ((wordsOf s).map capitalWord)

/-- Small words joined by underscores. -/
def snakeCase (s : String) : String := joinWords ['_'] ((wordsOf s).map smallWord)

/-- Small words joined by hyphens. -/
def kebabCase (s : String) : String := joinWords ['-'] ((wordsOf s).map smallWord)

/-- Words with a capital at their start, joined by spaces. -/
def titleCase (s : String) : String := joinWords [' '] ((wordsOf s).map capitalWord)

end SiteBuilder.Text
