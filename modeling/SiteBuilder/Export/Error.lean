import SiteBuilder.Page.Evaluation
import SiteBuilder.Repository.Host

/-!
# Export errors

Why a site cannot be exported. An export that could not upload all files tells which ones and where the
repository is, since that is left in place.
-/

namespace SiteBuilder

/-- A repository that a site was exported to. -/
structure RemoteRepository where
  /-- Where it is shown. -/
  url : String
  owner : String
  name : String
  deriving DecidableEq

/-- A file that could not be uploaded. -/
structure UploadFailure where
  path : String
  reason : String
  deriving DecidableEq

/-- Why a site cannot be exported. -/
inductive ExportError where
  /-- Nobody is signed in. -/
  | authRequired
  /-- There is a repository of that name. -/
  | nameConflict (name : String)
  /-- The repository cannot be made. -/
  | createRepository (reason : String)
  /-- It is not known who is signed in. -/
  | identity (reason : String)
  /-- Files could not be uploaded. -/
  | upload (repository : RemoteRepository) (failures : List UploadFailure)
  /-- A file that is generated cannot be filled in. -/
  | document (path : String) (fault : Page.RenderFault)
  deriving DecidableEq

/-- The paths that could not be uploaded, each with its reason. -/
def UploadFailure.list (failures : List UploadFailure) : String :=
  ", ".intercalate (failures.map fun failure => failure.path ++ " (" ++ failure.reason ++ ")")

/-- The wording of a cause. -/
def ExportError.message : ExportError → String
  | .authRequired => "Sign in to GitHub before exporting to a repository"
  | .nameConflict name => "A repository named '" ++ name ++ "' already exists"
  | .createRepository reason => "Failed to create repository: " ++ reason
  | .identity reason => "Failed to read the authenticated user: " ++ reason
  | .upload repository failures =>
    "Failed to upload " ++ UploadFailure.list failures ++ ". The repository " ++ repository.url ++
      " was created and left in place; retry or delete it manually"
  | .document path fault => "Failed to generate " ++ path ++ ": " ++ fault.kind.label

end SiteBuilder
