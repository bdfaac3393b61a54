import SiteBuilder.Settings
import SiteBuilder.Text.Blank
import SiteBuilder.Url.Basic

/-!
# Identities

Someone who has an access token is signed in; a blank token is none. Others are sent to an address where
they can get one.
-/

namespace SiteBuilder

/-- Who is at work. -/
structure Identity where
  /-- The access token. -/
  token : Option String
  /-- How to sign in. -/
  oauth : OAuthSettings
  deriving DecidableEq

/-- Why nobody can sign in. -/
inductive LoginError where
  /-- There is no client id. -/
  | missingClientId
  /-- The address is none. -/
  | invalidUrl (cause : Url.ParseError)
  deriving DecidableEq

/-- The wording of a cause. -/
def LoginError.message : LoginError → String
  | .missingClientId => "OAuth client id is not configured"
  | .invalidUrl cause => "Invalid authorize URL: " ++ cause.message

namespace Identity

/-- The identity of a token, unless that is blank. -/
def ofToken (token : Option String) (oauth : OAuthSettings) : Identity :=
  ⟨token.filter fun token => !Text.isAllBlank token, oauth⟩

/-- Whether there is a token. -/
def isAuthenticated (identity : Identity) : Bool := identity.token.isSome

/-- The address to sign in at. `state` comes back with the answer. -/
def login (identity : Identity) (state : String) : Except LoginError Url :=
  if identity.oauth.clientId = "" then .error .missingClientId
  else
    match Url.parse identity.oauth.authorizeUrl with
    | .error cause => .error (.invalidUrl cause)
    | .ok url =>
      .ok ((((url.addParameter "client_id" identity.oauth.clientId).addParameter
        "redirect_uri" identity.oauth.redirectUri).addParameter
        "scope" identity.oauth.scope).addParameter "state" state)

end Identity

end SiteBuilder
