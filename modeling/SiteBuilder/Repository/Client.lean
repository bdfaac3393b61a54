import SiteBuilder.Datum.Typed
import SiteBuilder.Identity
import SiteBuilder.Json.Reader
import SiteBuilder.Repository.Host
import SiteBuilder.Text.Base64
import SiteBuilder.Text.Utf8

/-!
# A client of a repository service

The service is asked over HTTP, and its answers are JSON. What carries a request to the service is a
parameter, so a client can be run over any transport. Every request names the format and the version of
the answers it wants and, if there is one, gives the access token.
-/

namespace SiteBuilder

/-- A request to a web service. -/
structure Request where
  method : String
  url : Url
  /-- The headers, with names in lower case. -/
  headers : List (String × String)
  /-- The value that is sent along, as JSON. -/
  body : Option Datum

/-- The answer of a web service. -/
structure Response where
  status : Nat
  body : String
  deriving DecidableEq

/-- What carries requests. Without an answer it gives the reason. -/
abbrev Transport (m : Type → Type) := Request → m (Except String Response)

/-- Whether a response tells of success. -/
def Response.isSuccess (response : Response) : Bool := 200 ≤ response.status && response.status < 300

/-- A client of a repository service. -/
structure RepositoryClient (m : Type → Type) where
  transport : Transport m
  /-- The address that all resources are under. -/
  apiBase : String
  /-- The access token. -/
  token : Option String

namespace RepositoryClient

/-! ## Answers -/

/-- The message of an answer that tells of an error, with its details. -/
def errorMessage? (value : Datum) : Option String := do
  let detailOf? (value : Datum) : Option (Option String) := do
    let fields ← value.fields? ["message"]
    Datum.absent? fields "message" Datum.text?
  let fields ← value.fields? ["message", "errors"]
  let message ← Datum.defaulted? fields "message" "" Datum.text?
  let errors ← Datum.defaulted? fields "errors" [] (Datum.items? detailOf?)
  let details := errors.filterMap id
  return if details.isEmpty then message else message ++ " (" ++ "; ".intercalate details ++ ")"

/-- The body of a response that tells of success, or the error that it tells of. -/
def check (response : Response) : Except ServiceError String :=
  if response.isSuccess then .ok response.body
  else if response.status = 401 then .error .unauthorized
  else
    .error (.status response.status (((Json.read response.body).bind errorMessage?).getD response.body))

/-- The value of a body. -/
def decode {α : Type} (f : Datum → Option α) (body : String) : Except ServiceError α :=
  match (Json.read body).bind f with
  | some a => .ok a
  | none => .error (.transport "error decoding response body")

/-- A field of a body's record. -/
def textField? (name : String) (value : Datum) : Option String := do
  Datum.required? (← value.fields? [name]) name Datum.text?

/-- The repository that a value describes. -/
def createdOfDatum? (value : Datum) : Option CreatedRepository := do
  let fields ← value.fields? ["name", "html_url"]
  return ⟨← Datum.required? fields "name" Datum.text?, ← Datum.required? fields "html_url" Datum.text?⟩

/-- The entry of a folder that a value describes. -/
def entryOfDatum? (value : Datum) : Option FolderEntry := do
  let fields ← value.fields? ["name", "path", "type"]
  return ⟨← Datum.required? fields "name" Datum.text?, ← Datum.required? fields "path" Datum.text?,
    ← Datum.required? fields "type" Datum.text?⟩

/-! ## Requests -/

/-- Whether a text may stand in a header: it has no control characters but tabs. -/
def isHeaderText (s : String) : Bool := s.toList.all fun c => c == '\t' || (32 ≤ c.toNat && c.toNat != 127)

/-- The credentials of a user that an address names. -/
def basicCredentials? (url : Url) : Option String := do
  let authority ← url.authority
  if authority.user = "" ∧ authority.password = "" then none
  let user ← Text.Utf8.decode? (Url.percentDecode authority.user.toList)
  let password := (Text.Utf8.decode? (Url.percentDecode authority.password.toList)).getD []
  return "Basic " ++ String.ofList (Text.Base64.encode (Text.Utf8.encode (user ++ ':' :: password)))

/-- The credentials of a request: the token, or else a user that the address names. -/
def credentials? (token : Option String) (url : Url) : Option String :=
  match token with
  | some token => some ("Bearer " ++ token)
  | none => basicCredentials? url

/-- The headers of a request. -/
def headers (token : Option String) (url : Url) (body : Option Datum) : List (String × String) :=
  [("accept", "application/vnd.github+json"), ("x-github-api-version", "2022-11-28"),
    ("user-agent", "sitestudio/0.1.0")] ++
  ((credentials? token url).map fun s => ("authorization", s)).toList ++
  (body.map fun _ => ("content-type", "application/json")).toList

/-- The address of a resource, by the names on its way. -/
def endpoint (apiBase : String) (names : List String) : Except ServiceError Url :=
  match Url.parse apiBase with
  | .error cause => .error (.invalidUrl cause.message)
  | .ok base =>
    match base.extend? names with
    | some url => .ok url
    | none => .error (.invalidUrl apiBase)

/-- The names on the way to the contents of a path in a repository. -/
def contentNames (owner repository path : String) : List String :=
  ["repos", owner, repository, "contents"] ++ (Text.pieces '/' path).filter (· != "")

variable {m : Type → Type} [Monad m]

/-- Send a request, if it can be sent, and check the response. -/
def send (client : RepositoryClient m) (method : String) (url : Url) (body : Option Datum) :
    m (Except ServiceError String) := do
  if !url.isWeb || !(client.token.getD "" |> isHeaderText) then return .error (.transport "builder error")
  match ← client.transport ⟨method, url, headers client.token url body, body⟩ with
  | .error reason => return .error (.transport reason)
  | .ok response => return check response

/-- Ask for a resource. -/
def ask {α : Type} (client : RepositoryClient m) (names : List String) (branch : Option String)
    (f : Datum → Option α) : m (Except ServiceError α) := do
  match endpoint client.apiBase names with
  | .error cause => return .error cause
  | .ok url =>
    let url :=
      match branch with
      | some branch => url.addParameter "ref" branch
      | none => url
    return (← client.send "GET" url none).bind (decode f)

/-- The entries of a folder on a branch. -/
def listFolder (client : RepositoryClient m) (owner repository path branch : String) :
    m (Except ServiceError (List FolderEntry)) :=
  client.ask (contentNames owner repository path) (some branch) (Datum.items? entryOfDatum?)

/-- The bytes of a file on a branch. Blanks in the encoded text are passed over. -/
def fileContent (client : RepositoryClient m) (owner repository path branch : String) :
    m (Except ServiceError (List UInt8)) := do
  match ← client.ask (contentNames owner repository path) (some branch) (textField? "content") with
  | .error cause => return .error cause
  | .ok encoded =>
    let symbols := encoded.toList.filter fun c => !Text.isBlank c
    return (Text.Base64.decode (Text.Utf8.encode symbols)).mapError fun fault =>
      .undecodable path fault.message

/-! ## The client as a host -/

/-- Whether a piece occurs in a text. -/
def mentions (piece s : String) : Bool := (Text.cutAt? piece.toList s.toList).isSome

/-- What the creation of a repository came to. A name that is taken is told by the service in words. -/
def createdOrConflict (name : String) : Except ServiceError String → Except ServiceError CreatedRepository
  | .ok body => decode createdOfDatum? body
  | .error (.status 422 reason) =>
    if mentions "already exists" reason then .error (.nameConflict name) else .error (.status 422 reason)
  | .error cause => .error cause

/-- Make a repository for the user. -/
def create (client : RepositoryClient m) (name description : String) ( isPrivate : Bool) :
    m (Except ServiceError CreatedRepository) := do
  match endpoint client.apiBase ["user", "repos"] with
  | .error cause => return .error cause
  | .ok url =>
    let body := Datum.record [("name", .text name), ("description", .text description),
      ("private", .bool isPrivate), ("auto_init", .bool false)]
    return createdOrConflict name (← client.send "POST" url (some body))

/-- The name of the user. -/
def user (client : RepositoryClient m) : m (Except ServiceError String) :=
  client.ask ["user"] none (textField? "login")

/-- Put a file into a repository. -/
def upload (client : RepositoryClient m) (owner repository path content note : String) :
    m (Except ServiceError Unit) := do
  match endpoint client.apiBase (contentNames owner repository path) with
  | .error cause => return .error cause
  | .ok url =>
    let encoded := String.ofList (Text.Base64.encode (Text.Utf8.encodeText content))
    let body := Datum.record [("message", .text note), ("content", .text encoded)]
    return (← client.send "PUT" url (some body)).map fun _ => ()

/-- The service as a host of repositories. -/
def host (client : RepositoryClient m) : RepositoryHost m := ⟨client.create, client.user, client.upload⟩

/-- The service as a place to read repositories from. -/
def contents (client : RepositoryClient m) : RepositoryContents m := ⟨client.listFolder, client.fileContent⟩

end RepositoryClient

end SiteBuilder
