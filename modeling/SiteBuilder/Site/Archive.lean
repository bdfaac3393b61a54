import SiteBuilder.Site.Checksum
import SiteBuilder.Site.Files
import SiteBuilder.Text.Blank

/-!
# Archives

An archive lists the files of a site in the order of their paths, each compressed and with the same
date, so that equal sites give equal archives. Its own file name is made of a suggested one without
blanks and path separators.
-/

namespace SiteBuilder

/-- A site packed into one file. -/
structure Archive where
  /-- The file name to offer it under. -/
  filename : String
  /-- The paths and texts of its entries, in order. -/
  entries : List (String × String)
  deriving DecidableEq

namespace Archive

/-- The name in place of one that has nothing left. -/
def defaultName : String := "website"

/-- A character that no archive name holds. -/
def isSeparator (c : Char) : Bool := Text.isBlank c || c == '/' || c == '\\'

/-- Replace every run of separators by one hyphen. `inRun` tells whether the character before was a
separator. -/
def joinRuns (inRun : Bool) : List Char → List Char
  | [] => []
  | c :: cs =>
    if isSeparator c then if inRun then joinRuns true cs else '-' :: joinRuns true cs
    else c :: joinRuns false cs

/-- The name of an archive made of a suggested one: runs of separators become hyphens, and hyphens at
either end are dropped. -/
def sanitizeName (suggested : String) : String :=
  let name := Text.trimBy (· == '-') (joinRuns false (Text.trimBy Text.isBlank suggested.toList))
  if name.isEmpty then defaultName else String.ofList name

/-- Pack files under a suggested name. -/
def ofFiles (files : FileSet) (suggested : String) : Archive :=
  ⟨sanitizeName suggested ++ ".zip", files.entries⟩

/-- The time every entry is dated to, the earliest there is in archives. -/
def modified : String := "1980-01-01 00:00:00"

/-- How every entry is stored. -/
def method : String := "Deflated"

/-- The number of bytes of an entry before it is compressed. -/
def size (content : String) : Nat := (Text.Utf8.encodeText content).length

/-- The checksum of an entry. -/
def checksum (content : String) : UInt32 := Checksum.crc32 (Text.Utf8.encodeText content)

/-- Whether an entry stands for a folder. -/
def isFolder (name : String) : Bool := name.toList.getLast? = some '/'

end Archive

end SiteBuilder
