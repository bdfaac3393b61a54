import SiteBuilder.Repository.Host
import SiteBuilder.Template.Content
import SiteBuilder.Template.Descriptor
import SiteBuilder.Text.Utf8

/-!
# Templates in repositories

A template in a repository is a folder on a branch: the document that defines its form and, in it and the
folders below it, its files. What has a name that starts with a dot is passed over, and so is a file that
is no text.
-/

namespace SiteBuilder.RemoteFolder

/-- A path without slashes at either end. -/
def trimSlashes (path : String) : String := String.ofList (Text.trimBy (· == '/') path.toList)

/-- A path as seen from a folder. A path that does not start with the folder's stays whole. -/
def relativeTo (folder path : String) : String :=
  if folder = "" then path
  else
    match Text.afterStart? folder.toList path.toList with
    | some rest => String.ofList (rest.dropWhile (· == '/'))
    | none => path

/-- Why a template cannot be had if the service does not answer a request. -/
def loadError : ServiceError → LoadError
  | .status 404 reason => .notFound reason
  | cause => .fetch cause.message

/-- Where a template is, and which of its files defines the form. -/
structure Place where
  repository : RepositoryName
  folder : String
  branch : String
  configFile : String

/-- What has been read of a template. -/
structure Found where
  config : Option TemplateConfig
  files : FileSet
  /-- Folders that have not been read, the next one first. -/
  folders : List String

variable {m : Type → Type} [Monad m]

/-- Read the entries of a folder one after the other. -/
def readEntries (contents : RepositoryContents m) (place : Place) (found : Found) :
    List FolderEntry → m (Except LoadError Found)
  | [] => return .ok found
  | entry :: entries => do
    if entry.name.toList.head? = some '.' then readEntries contents place found entries
    else if entry.kind = "dir" then
      readEntries contents place { found with folders := entry.path :: found.folders } entries
    else if entry.kind = "file" then
      match ← contents.file place.repository.owner place.repository.name entry.path place.branch with
      | .error cause => return .error (loadError cause)
      | .ok bytes =>
        let path := relativeTo place.folder entry.path
        match Text.Utf8.decodeText? bytes with
        | none => readEntries contents place found entries
        | some text =>
          if path = place.configFile then
            match TemplateConfig.ofNamedText place.configFile text with
            | .error cause => return .error cause
            | .ok config => readEntries contents place { found with config := some config } entries
          else readEntries contents place { found with files := found.files.insert path text } entries
    else readEntries contents place found entries

/-- Read folders, the one found last first, until none is left. A repository that does not end is given up
after `fuel` folders. -/
def readFolders (contents : RepositoryContents m) (place : Place) :
    (fuel : Nat) → Found → m (Except LoadError Found)
  | 0, _ => return .error (.fetch "too many folders")
  | fuel + 1, found =>
    match found.folders with
    | [] => return .ok found
    | folder :: folders => do
      match ← contents.folder place.repository.owner place.repository.name folder place.branch with
      | .error cause => return .error (loadError cause)
      | .ok entries =>
        match ← readEntries contents place { found with folders } entries with
        | .error cause => return .error cause
        | .ok found => readFolders contents place fuel found

/-- Read a template from its repository. One with `limit` folders or more is given up. -/
def fetch (contents : RepositoryContents m) (configFile : String) (limit : Nat) (descriptor : Descriptor) :
    m (Except LoadError TemplateContent) := do
  match descriptor.repository? with
  | none => return .error (.notFound ("'" ++ descriptor.id ++ "' has no GitHub repository"))
  | some repository =>
    let folder := trimSlashes descriptor.folder
    let place : Place := ⟨repository, folder, descriptor.branch, configFile⟩
    match ← readFolders contents place limit ⟨none, ∅, [folder]⟩ with
    | .error cause => return .error cause
    | .ok found =>
      match found.config with
      | some config => return .ok ⟨config, found.files⟩
      | none =>
        return .error (.notFound
          (configFile ++ " in " ++ repository.owner ++ "/" ++ repository.name ++ "/" ++ folder))

end SiteBuilder.RemoteFolder
