import SiteBuilder.Text.Category

/-!
# Quoted texts

A text in messages stands in double quotes. Quotes, backslashes and line breaks in it are escaped, and
so is every character that cannot be seen by itself, by its number.
-/

namespace SiteBuilder.Text

/-- Whether a character cannot be seen by itself: controls, unassigned numbers, marks that belong to
the character before, and blanks other than the space. -/
def isInvisible (c : Char) : Bool :=
  if c.toNat < 127 then c.toNat < 32
  else
    match categoryOf c.toNat with
    | "Cc" | "Cf" | "Cn" | "Co" | "Zl" | "Zp" | "Zs" | "Mn" | "Me" => true
    | _ => false

/-- A character inside quotes. -/
def quotedChar (c : Char) : List Char :=
  if c = '"' then ['\\', '"']
  else if c = '\\' then ['\\', '\\']
  else if c = '\n' then ['\\', 'n']
  else if c = '\r' then ['\\', 'r']
  else if c = '\t' then ['\\', 't']
  else if c.toNat = 0 then ['\\', '0']
  else if isInvisible c then '\\' :: 'u' :: '\x7b' :: (Nat.toDigits 16 c.toNat ++ ['\x7d'])
  else [c]

/-- A text in quotes. -/
def quoted (s : String) : String := String.ofList ('"' :: (s.toList.flatMap quotedChar ++ ['"']))

/-- A path in quotes. An apostrophe is escaped too. -/
def quotedPath (path : String) : String :=
  let escaped := path.toList.flatMap fun c => if c = '\'' then ['\\', '\''] else quotedChar c
  String.ofList ('"' :: (escaped ++ ['"']))

end SiteBuilder.Text
