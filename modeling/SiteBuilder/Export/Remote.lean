import SiteBuilder.Export.Error
import SiteBuilder.Identity
import SiteBuilder.Site.Files

/-!
# Exporting to a repository

An export makes a repository and uploads every file into it. The uploads are under way at the same time: the
host may take them in any order, and what they come to is gathered in the order of their paths. An upload that
fails does not stop the others, and the repository stays.
-/

namespace SiteBuilder

/-- An order in which uploads that are under way at the same time are taken. -/
structure UploadOrder where
  arrange : List (String × String) → List (String × String)
  /-- Every upload is taken once. -/
  perm : ∀ files, (arrange files).Perm files

/-- The order in which uploads were begun. -/
def UploadOrder.asBegun : UploadOrder := ⟨id, List.Perm.refl⟩

/-- Where and how a site is exported. -/
structure RemoteExporter (m : Type → Type) where
  host : RepositoryHost m
  identity : Identity
  settings : ExportSettings

namespace RemoteExporter

variable {m : Type → Type} [Monad m]

/-- What an export says about a repository that was not made. -/
def creationError : ServiceError → ExportError
  | .nameConflict name => .nameConflict name
  | .unauthorized => .authRequired
  | cause => .createRepository cause.message

/-- What stands for the path of a file in a message. -/
def pathMark : String := "\x7bpath\x7d"

/-- The message an upload is noted with. -/
def commitMessage (settings : ExportSettings) (path : String) : String :=
  Text.replaceAll pathMark path settings.commitMessage

/-- Upload files, each with the answer to it. -/
def uploadEach (exporter : RemoteExporter m) (repository : RemoteRepository) :
    List (String × String) → m (List (String × Except ServiceError Unit))
  | [] => return []
  | (path, content) :: files => do
    let note := commitMessage exporter.settings path
    let answer ← exporter.host.upload repository.owner repository.name path content note
    let answers ← exporter.uploadEach repository files
    return (path, answer) :: answers

/-- The uploads that failed, by the answers to all of them. -/
def failures (answers : NameMap (Except ServiceError Unit)) : List UploadFailure :=
  answers.entries.filterMap fun
    | (path, .error cause) => some ⟨path, cause.message⟩
    | (_, .ok ()) => none

/-- Upload the files of a site in some order. Those that fail are listed by their paths. -/
def uploadAll (exporter : RemoteExporter m) (repository : RemoteRepository) (files : FileSet)
    (order : UploadOrder) : m (List UploadFailure) := do
  return failures (.ofList (← exporter.uploadEach repository (order.arrange files.entries)))

/-- Export files to a new repository. -/
def run (exporter : RemoteExporter m) (files : FileSet) (name description : String)
    (order : UploadOrder := .asBegun) : m (Except ExportError RemoteRepository) := do
  if !exporter.identity.isAuthenticated then return .error .authRequired
  let name := Text.trim name
  if name = "" then return .error (.createRepository "Repository name is required")
  match ← exporter.host.create name description exporter.settings.privateRepository with
  | .error cause => return .error (creationError cause)
  | .ok created =>
    match ← exporter.host.user with
    | .error cause => return .error (.identity cause.message)
    | .ok owner =>
      let repository : RemoteRepository := ⟨created.pageUrl, owner, created.name⟩
      let failures ← exporter.uploadAll repository files order
      if failures.isEmpty then return .ok repository
      else return .error (.upload repository failures)

end RemoteExporter

end SiteBuilder
