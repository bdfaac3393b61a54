import SiteBuilder.Text.Blank
import SiteBuilder.Url.Basic

/-!
# Formats of texts

The formats that fields and named predicates ask for, each as a test of the characters.
-/

namespace SiteBuilder.Format

open SiteBuilder.Text

/-- An email address: one `@` with something on both sides, no blanks, and behind the `@` a dot that
is neither the first nor the last character. -/
def isEmail (s : String) : Bool :=
  match splitBy (· == '@') s.toList with
  | [user, domain] =>
    !user.isEmpty && (user ++ domain).all (!isBlank ·) && (domain.drop 1).dropLast.contains '.'
  | _ => false

/-- A hexadecimal digit of ASCII. -/
def isHexDigit (c : Char) : Bool :=
  c.isDigit || ('a' ≤ c && c ≤ 'f') || ('A' ≤ c && c ≤ 'F')

/-- A color: a number sign and three or six hexadecimal digits. -/
def isHexColor (s : String) : Bool :=
  match s.toList with
  | '#' :: digits => (digits.length == 3 || digits.length == 6) && digits.all isHexDigit
  | _ => false

/-- A slug: words of small letters and digits with single dashes between them. -/
def isSlug (s : String) : Bool :=
  (splitBy (· == '-') s.toList).all fun word => !word.isEmpty && word.all fun c => c.isLower || c.isDigit

/-- The address of a web page, without the blanks around it. -/
def isWebUrl (s : String) : Bool :=
  match Url.parse (trim s) with
  | .ok url => url.isWeb
  | .error _ => false

end SiteBuilder.Format
