/-!
# Repository hosts

A host keeps repositories. An export asks it for three things: a new repository, who it is that asks, and
to take a file into a repository. Who reads a repository asks for its folders and its files.
-/

namespace SiteBuilder

/-- Why a host does not do what it is asked for. -/
inductive ServiceError where
  /-- The token is not accepted. -/
  | unauthorized
  /-- There is a repository of that name. -/
  | nameConflict (name : String)
  /-- Any other answer that is no success. -/
  | status (code : Nat) (reason : String)
  /-- The address of the host is none. -/
  | invalidUrl (reason : String)
  /-- A file that is not encoded as it should be. -/
  | undecodable (path reason : String)
  /-- There is no answer, or none that can be read. -/
  | transport (reason : String)
  deriving DecidableEq

/-- The wording of a cause. -/
def ServiceError.message : ServiceError → String
  | .unauthorized => "GitHub rejected the credentials"
  | .nameConflict name => "Repository '" ++ name ++ "' already exists"
  | .status code reason => "GitHub returned " ++ toString code ++ ": " ++ reason
  | .invalidUrl reason => "Invalid GitHub URL: " ++ reason
  | .undecodable path reason => "Invalid file content for " ++ path ++ ": " ++ reason
  | .transport reason => "GitHub request failed: " ++ reason

/-- A repository that a host has just made. -/
structure CreatedRepository where
  name : String
  /-- Where it is shown. -/
  pageUrl : String
  deriving DecidableEq

/-- A place for repositories, whose answers are effects in `m`. -/
structure RepositoryHost (m : Type → Type) where
  /-- Make a repository. -/
  create (name description : String) ( isPrivate : Bool) : m (Except ServiceError CreatedRepository)
  /-- The name of who asks. -/
  user : m (Except ServiceError String)
  /-- Put a file into a repository, in place of one at the same path. -/
  upload (owner repository path content note : String) : m (Except ServiceError Unit)

/-- One entry of a folder in a repository. -/
structure FolderEntry where
  name : String
  path : String
  /-- What it is: `file`, `dir` or something else. -/
  kind : String
  deriving DecidableEq

/-- What repositories hold. The answers are effects in `m`. -/
structure RepositoryContents (m : Type → Type) where
  /-- The entries of a folder on a branch. -/
  folder (owner repository path branch : String) : m (Except ServiceError (List FolderEntry))
  /-- The bytes of a file on a branch. -/
  file (owner repository path branch : String) : m (Except ServiceError (List UInt8))

end SiteBuilder
