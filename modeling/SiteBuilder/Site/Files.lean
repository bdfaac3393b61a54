import SiteBuilder.NameMap
import SiteBuilder.Text.Blank

/-!
# File sets

The files of a site are texts by their paths, which are relative to the site and use `/` between
folders. They are always listed in the order of their paths.
-/

namespace SiteBuilder

/-- The texts of the files of a site by their paths. -/
abbrev FileSet := NameMap String

namespace FileSet

/-- The part of a path after its last `/`. -/
def fileName (path : String) : String := (Text.pieces '/' path).getLastD path

/-- Whether a path ends in a dot and an extension, in any case of the letters `A` to `Z`. -/
def hasExtension (path extension : String) : Bool :=
  match (Text.pieces '.' (fileName path)).reverse with
  | last :: _ :: _ => Text.sameIgnoringAsciiCase last extension
  | _ => false

/-- The file a name denotes: the one with that path, or else the first with that file name. -/
def find? (files : FileSet) (name : String) : Option (String × String) :=
  match files.get? name with
  | some content => some (name, content)
  | none => files.entries.find? fun file => fileName file.1 == name

end FileSet

end SiteBuilder
