import SiteBuilder.Disk.Basic
import SiteBuilder.Template.Catalog
import SiteBuilder.Template.Content
import SiteBuilder.Text.Quoted

/-!
# Templates on a disk

A template on a disk is a folder: the document that defines its form and, in it and the folders below it,
its files. What has a name that starts with a dot is passed over, and so is a file that is no text or that
is to be left out.
-/

namespace SiteBuilder

namespace LocalFolder

/-- The path of a name in a folder, as seen from the template. -/
def below (folder name : String) : String := if folder = "" then name else folder ++ "/" ++ name

mutual

/-- The files of a folder's entries, with their paths as seen from the template. -/
def filesOf (configFile : String) (excluded : List String) (folder : String) :
    List (String × Node) → List (String × String)
  | [] => []
  | (name, node) :: entries =>
    let rest := filesOf configFile excluded folder entries
    if name.toList.head? = some '.' then rest
    else fileOrFolder configFile excluded folder name node ++ rest

/-- The files of an entry that is not passed over. -/
def fileOrFolder (configFile : String) (excluded : List String) (folder name : String) :
    Node → List (String × String)
  | .folder entries => filesOf configFile excluded (below folder name) entries
  | .archive _ => []
  | .file bytes =>
    if folder = "" ∧ name = configFile then []
    else if excluded.contains (below folder name) then []
    else ((Text.Utf8.decodeText? bytes).map (below folder name, ·)).toList

end

/-- Paths as they are compared: with slashes for backslashes. -/
def normalized (path : String) : String := Text.replaceAll "\\" "/" path

/-- Read a template from its folder under a root. -/
def read (disk : Disk) (root configFile : String) (excluded : List String) (descriptor : Descriptor) :
    Except LoadError TemplateContent := do
  let folder := Path.join root descriptor.folder
  if !disk.isFolder folder then .error (.notFound (Text.quotedPath folder))
  let configPath := Path.join folder configFile
  match disk.readText configPath with
  | .error cause => .error (.notFound (Text.quotedPath configPath ++ ": " ++ cause.message))
  | .ok text =>
    let config ← TemplateConfig.ofNamedText configFile text
    let entries := ((disk.find folder).toOption.map Node.entries).getD []
    return ⟨config, .ofList (filesOf configFile (excluded.map normalized) "" entries)⟩

end LocalFolder

/-- Read a catalog. It is YAML if the extension of its file says so and JSON otherwise. -/
def Catalog.load (disk : Disk) (path : String) : Except LoadError Catalog :=
  match disk.readText path with
  | .error cause => .error (.notFound (Text.quotedPath path ++ ": " ++ cause.message))
  | .ok text =>
    match Path.extension? path with
    | some "yaml" => ofYaml text
    | some "yml" => ofYaml text
    | _ => ofJson text

end SiteBuilder
