import SiteBuilder.Site.Archive

/-!
# Folders and files

A `Node` is what stands under a name on a disk: a file of bytes, an archive that has been written, or a
folder of further nodes. A location is the list of the names on the way to a node.
-/

namespace SiteBuilder

/-- A file or a folder. -/
inductive Node where
  /-- A file. -/
  | file (bytes : List UInt8)
  /-- A file that is an archive. -/
  | archive (contents : Archive)
  /-- A folder. -/
  | folder (entries : List (String × Node))
  deriving Inhabited

namespace Node

/-- The file of a text. -/
def ofText (s : String) : Node := .file (Text.Utf8.encodeText s)

/-- Whether a node is a folder. -/
def isFolder : Node → Bool
  | .folder _ => true
  | _ => false

/-- What a folder holds; a file holds nothing. -/
def entries : Node → List (String × Node)
  | .folder entries => entries
  | _ => []

/-- The text of a file, if it has one. -/
def text? : Node → Option String
  | .file bytes => Text.Utf8.decodeText? bytes
  | _ => none

/-- The node under a name. -/
def child? (node : Node) (name : String) : Option Node := node.entries.lookup name

/-- The node at a location. -/
def at? (node : Node) : List String → Option Node
  | [] => some node
  | name :: location => (node.child? name).bind (·.at? location)

/-- Put a node under a name, in place of what is there, or take away what is there. -/
def setEntry (name : String) (value : Option Node) : List (String × Node) → List (String × Node)
  | [] => (value.map (name, ·)).toList
  | entry :: entries =>
    if entry.1 = name then (value.map (name, ·)).toList ++ entries
    else entry :: setEntry name value entries

/-- Put a node at a location, or take away what is there. Without the folders on the way nothing
changes. -/
def set (node : Node) (value : Option Node) : List String → Node
  | [] => node
  | [name] => .folder (setEntry name value node.entries)
  | name :: location =>
    match node.child? name with
    | some inner => .folder (setEntry name (some (inner.set value location)) node.entries)
    | none => node

mutual

/-- The files of a node with their locations. -/
def files : Node → List (List String × Node)
  | .folder entries => entryFiles entries
  | node => [([], node)]

/-- The files of the nodes of a folder. -/
def entryFiles : List (String × Node) → List (List String × Node)
  | [] => []
  | (name, node) :: entries =>
    node.files.map (fun file => (name :: file.1, file.2)) ++ entryFiles entries

end

end Node

end SiteBuilder
