import SiteBuilder.Disk.Basic
import SiteBuilder.Site.Zip

/-!
# Changes of a disk

What has to be done to a disk in one state to bring it into another one. Folders are made before what is
in them, and files that stay the same are left alone.
-/

namespace SiteBuilder

/-- Something to be done to a disk. -/
inductive DiskChange where
  /-- Make a folder. -/
  | makeFolder (path : String)
  /-- Write a file. -/
  | write (path : String) (bytes : List UInt8)
  /-- Remove a file. -/
  | remove (path : String)
  deriving DecidableEq

namespace Node

/-- The bytes of a file. -/
def bytes : Node → List UInt8
  | .file bytes => bytes
  | .archive contents => Zip.bytes contents
  | .folder _ => []

mutual

/-- The locations of a node's folders, each before those in it. -/
def folders : Node → List (List String)
  | .folder entries => [] :: entryFolders entries
  | _ => []

/-- The locations of the folders among a folder's entries. -/
def entryFolders : List (String × Node) → List (List String)
  | [] => []
  | (name, node) :: entries => node.folders.map (name :: ·) ++ entryFolders entries

end

mutual

/-- What two looks at a node have seen of it. -/
def union (seen : Node) : Node → Node
  | .folder entries => .folder (unionEntries seen.entries entries)
  | node => node

/-- What two looks at the entries of a folder have seen of them. -/
def unionEntries (seen : List (String × Node)) : List (String × Node) → List (String × Node)
  | [] => seen
  | (name, node) :: entries =>
    let whole :=
      match seen.lookup name with
      | some known => known.union node
      | none => node
    setEntry name (some whole) (unionEntries seen entries)

end

/-- Whether a node stays what it was. -/
def isSame (old new : Node) : Bool := old.isFolder == new.isFolder && old.bytes == new.bytes

end Node

namespace Disk

/-- The absolute path of a location. -/
def pathOf (location : List String) : String := "/" ++ "/".intercalate location

/-- What to do to get from one state of a disk to another. -/
def changes (before after : Disk) : List DiskChange :=
  let removed := before.root.files.filter fun file => (after.root.at? file.1).isNone
  let made := after.root.folders.filter fun location => !(before.root.at? location).any Node.isFolder
  let written := after.root.files.filter fun file => !(before.root.at? file.1).any (·.isSame file.2)
  removed.map (fun file => .remove (pathOf file.1)) ++ made.map (fun location => .makeFolder (pathOf location)) ++
    written.map fun file => .write (pathOf file.1) file.2.bytes

/-- The location of a path, taken as it is written. -/
def locationOf (disk : Disk) (path : String) : List String :=
  (Path.parts path).foldl (fun location part =>
    match part with
    | .root => []
    | .here => location
    | .up => location.dropLast
    | .name s => location ++ [s]) (disk.startOf path)

/-- Add what is seen at a location, with folders on the way to it where there are none. -/
def graft (disk : Disk) (location : List String) (node : Node) : Disk :=
  let onTheWay := (List.range location.length).map location.take
  let root := onTheWay.foldl (fun root place =>
    if (root.at? place).any Node.isFolder then root else root.set (some (.folder [])) place) disk.root
  let whole := ((root.at? location).map (·.union node)).getD node
  { disk with root := if location.isEmpty then whole else root.set (some whole) location }

end Disk

end SiteBuilder
