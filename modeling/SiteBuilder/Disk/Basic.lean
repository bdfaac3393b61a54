import SiteBuilder.Disk.Node
import SiteBuilder.Disk.Path

/-!
# Disks

A disk is a tree of folders with a working folder, at which paths that are not absolute start. A path is
followed one piece after the other, and only folders can be walked through. What fails leaves the disk as
it is.
-/

namespace SiteBuilder

/-- Why an operation on a disk fails. -/
inductive DiskError where
  | notFound
  | exists_
  | notFolder
  | isFolder
  | nameTooLong
  /-- A file's bytes are no text. -/
  | notText
  /-- A path holds a character that no name can have. -/
  | badName
  deriving DecidableEq

/-- The wording of a cause. -/
def DiskError.message : DiskError → String
  | .notFound => "No such file or directory (os error 2)"
  | .exists_ => "File exists (os error 17)"
  | .notFolder => "Not a directory (os error 20)"
  | .isFolder => "Is a directory (os error 21)"
  | .nameTooLong => "File name too long (os error 36)"
  | .notText => "stream did not contain valid UTF-8"
  | .badName => "file name contained an unexpected NUL byte"

/-- A tree of folders. -/
structure Disk where
  root : Node
  /-- The location of the working folder. -/
  working : List String

namespace Disk

/-- A disk whose working folder is its root. -/
def ofNode (root : Node) : Disk := ⟨root, []⟩

/-- The most bytes a name may have. -/
def maxNameLength : Nat := 255

/-- Whether a name has more bytes than a name may have. -/
def isTooLong (name : String) : Bool := maxNameLength < name.utf8ByteSize

/-- Walk from a location along the pieces of a path. -/
def walk (disk : Disk) (location : List String) : List String → Except DiskError (List String)
  | [] => .ok location
  | piece :: pieces =>
    match disk.root.at? location with
    | none => .error .notFound
    | some node =>
      if !node.isFolder then .error .notFolder
      else if piece = "" ∨ piece = "." then disk.walk location pieces
      else if piece = ".." then disk.walk location.dropLast pieces
      else if isTooLong piece then .error .nameTooLong
      else if (node.child? piece).isSome then disk.walk (location ++ [piece]) pieces
      else .error .notFound

/-- The location a path starts at. -/
def startOf (disk : Disk) (path : String) : List String := if Path.isAbsolute path then [] else disk.working

/-- The location of a path. -/
def locate (disk : Disk) (path : String) : Except DiskError (List String) :=
  if path = "" then .error .notFound
  else if path.toList.contains (Char.ofNat 0) then .error .badName
  else disk.walk (disk.startOf path) (Text.pieces '/' path)

/-- The node at a path. -/
def find (disk : Disk) (path : String) : Except DiskError Node :=
  (disk.locate path).bind fun location =>
    match disk.root.at? location with
    | some node => .ok node
    | none => .error .notFound

/-- Whether there is something at a path. -/
def exists? (disk : Disk) (path : String) : Bool := (disk.find path).toOption.isSome

/-- Whether there is a folder at a path. -/
def isFolder (disk : Disk) (path : String) : Bool := (disk.find path).toOption.any Node.isFolder

/-- The text of the file at a path. -/
def readText (disk : Disk) (path : String) : Except DiskError String := do
  let node ← disk.find path
  if node.isFolder then .error .isFolder
  match node.text? with
  | some text => .ok text
  | none => .error .notText

/-- Where something is to be made: its location, whether the path says that it is a folder, and whether it
has a name of its own. -/
structure Place where
  folder : List String
  name : String
  /-- Whether slashes follow the name. -/
  endsInSlash : Bool

/-- Whether the last piece of a path is no name of its own. -/
def Place.isNameless (place : Place) : Bool := place.name = "." || place.name = ".." || place.name = ""

/-- The place of a path, whose folder has to be there. -/
def place (disk : Disk) (path : String) : Except DiskError Place := do
  if path = "" then .error .notFound
  if path.toList.contains (Char.ofNat 0) then .error .badName
  let pieces := Text.pieces '/' path
  let named := (pieces.reverse.dropWhile (· == "")).reverse
  let folder ← disk.walk (disk.startOf path) named.dropLast
  match disk.root.at? folder with
  | some node => if !node.isFolder then .error .notFolder
  | none => .error .notFound
  return ⟨folder, named.getLastD "", named.length < pieces.length⟩

/-- The node that stands at a place. -/
def at? (disk : Disk) (place : Place) : Option Node := disk.root.at? (place.folder ++ [place.name])

/-- Put a node at a place. -/
def put (disk : Disk) (place : Place) (node : Option Node) : Disk :=
  { disk with root := disk.root.set node (place.folder ++ [place.name]) }

/-- Write a file, in place of one that is there. -/
def write (disk : Disk) (path : String) (file : Node) : Except DiskError Disk := do
  let place ← disk.place path
  if place.isNameless || place.endsInSlash then .error .isFolder
  if isTooLong place.name then .error .nameTooLong
  if (disk.at? place).any Node.isFolder then .error .isFolder
  return disk.put place (some file)

/-- Remove a file. -/
def remove (disk : Disk) (path : String) : Except DiskError Disk := do
  let place ← disk.place path
  if place.isNameless then .error .isFolder
  match disk.at? place with
  | none => .error .notFound
  | some (.folder _) => .error .isFolder
  | some _ => if place.endsInSlash then .error .notFolder else return disk.put place none

/-- Make a folder in a folder that is there. -/
def makeFolder (disk : Disk) (path : String) : Except DiskError Disk := do
  let place ← disk.place path
  if place.isNameless then .error .exists_
  if isTooLong place.name then .error .nameTooLong
  if (disk.at? place).isSome then .error .exists_
  return disk.put place (some (.folder []))

/-- Make a folder and the folders on the way to it. `parts` are those of the path, last part first. -/
def makeFoldersAt (disk : Disk) (path : String) : (parts : List Path.Part) → Except DiskError Disk
  | [] => .ok disk
  | _ :: before =>
    let settle (result : Except DiskError Disk) (disk : Disk) : Except DiskError Disk :=
      match result with
      | .ok disk => .ok disk
      | .error cause => if disk.isFolder path then .ok disk else .error cause
    match disk.makeFolder path with
    | .error .notFound => do
      let disk ← disk.makeFoldersAt (Path.ofParts before.reverse) before
      settle (disk.makeFolder path) disk
    | result => settle result disk

/-- Make a folder and the folders on the way to it. One that is there will do. -/
def makeFolders (disk : Disk) (path : String) : Except DiskError Disk :=
  disk.makeFoldersAt path (Path.parts path).reverse

/-- The path inside a folder of what is at another path, as names on the disk, or else as the paths have
it. The folder itself has none. -/
def pathWithin (disk : Disk) (folder path : String) : Option String :=
  let onDisk : Option (List Path.Part) :=
    match disk.locate folder, disk.locate path with
    | .ok folder, .ok path => Path.stripPrefix? (folder.map .name) (path.map .name)
    | _, _ => none
  match onDisk.or (Path.stripPrefix? (Path.parts folder) (Path.parts path)) with
  | none => none
  | some [] => none
  | some rest => some (Path.ofParts rest)

end Disk

end SiteBuilder
