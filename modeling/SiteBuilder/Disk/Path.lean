import SiteBuilder.Text.Blank

/-!
# Paths

A path is a text whose names are separated by slashes. Read as a list of parts, slashes in a row count
once and a dot stands for nothing unless it comes first; what two dots stand for depends on the disk, so
they stay.
-/

namespace SiteBuilder.Path

/-- A part of a path. -/
inductive Part where
  /-- The root, at the start of an absolute path. -/
  | root
  /-- A dot at the start. -/
  | here
  /-- Two dots. -/
  | up
  /-- A name. -/
  | name (s : String)
  deriving DecidableEq

/-- The text of a part. -/
def Part.text : Part → String
  | .root => "/"
  | .here => "."
  | .up => ".."
  | .name s => s

/-- Whether a path starts at the root. -/
def isAbsolute (path : String) : Bool := path.toList.head? = some '/'

/-- The part of a piece between slashes. -/
def partOf? (piece : String) : Option Part :=
  if piece = "" ∨ piece = "." then none
  else if piece = ".." then some .up
  else some (.name piece)

/-- The parts of a path. -/
def parts (path : String) : List Part :=
  let pieces := Text.pieces '/' path
  let first : List Part :=
    if isAbsolute path then [.root] else if pieces.head? = some "." then [.here] else []
  first ++ pieces.filterMap partOf?

/-- A path continued by another, which replaces it if it is absolute. -/
def join (path next : String) : String :=
  if isAbsolute next then next
  else if path.toList.getLast?.all (· == '/') then path ++ next
  else path ++ "/" ++ next

/-- The name a path ends with. -/
def fileName? (path : String) : Option String :=
  match (parts path).getLast? with
  | some (.name s) => some s
  | _ => none

/-- What follows the last dot of a name. A dot at the start of a name does not count. -/
def extensionOf? (name : List Char) : Option (List Char) :=
  if name.contains '.' then
    let extension := (name.reverse.takeWhile (· != '.')).reverse
    if extension.length + 1 = name.length then none else some extension
  else none

/-- The extension of the name a path ends with. -/
def extension? (path : String) : Option String :=
  (fileName? path).bind fun name => (extensionOf? name.toList).map String.ofList

/-- The rest of a list after the parts of another one. -/
def stripPrefix? : List Part → List Part → Option (List Part)
  | [], path => some path
  | _ :: _, [] => none
  | a :: root, b :: path => if a = b then stripPrefix? root path else none

/-- Parts as a path. -/
def ofParts (parts : List Part) : String := "/".intercalate (parts.map Part.text)

end SiteBuilder.Path
