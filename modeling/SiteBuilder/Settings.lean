import SiteBuilder.Datum.Typed
import SiteBuilder.Yaml.Reader

/-!
# Settings

What can be set is grouped by the part of the program it is for. A settings document is YAML; a group
or an entry that it leaves out keeps its standard value, and entries with other names are passed over.
Times are in milliseconds.
-/

namespace SiteBuilder

/-- Settings of the form. -/
structure FormSettings where
  /-- The time in which writes are gathered into one change. -/
  coalesceWindow : Nat := 16
  deriving DecidableEq

/-- Settings of the preview. -/
structure PreviewSettings where
  /-- The time without an edit after which the preview is brought up to date. -/
  debounce : Nat := 800
  /-- The file that is shown. -/
  entryFile : String := "index.html"
  deriving DecidableEq

/-- Settings of templates. -/
structure TemplateSettings where
  /-- The name of the file that defines the form, in the folder of a template. -/
  configFile : String := "config.json"
  deriving DecidableEq

/-- Settings of exports. -/
structure ExportSettings where
  /-- Whether a README is written for a site without one. -/
  generateReadme : Bool := true
  /-- The name of an archive if nothing suggests one. -/
  defaultArchiveName : String := "website"
  /-- Whether repositories are private. -/
  privateRepository : Bool := false
  /-- The description of a site that gives none. -/
  defaultDescription : String := "Website created with sitestudio"
  /-- The message of an upload, with a placeholder for the path. -/
  commitMessage : String := "Add \x7bpath\x7d"
  deriving DecidableEq

/-- Settings of signing in. -/
structure OAuthSettings where
  clientId : String := ""
  redirectUri : String := ""
  scope : String := "repo"
  authorizeUrl : String := "https://github.com/login/oauth/authorize"
  deriving DecidableEq

/-- Settings of the repository service. -/
structure GitHubSettings where
  /-- The address its resources are under. -/
  apiBase : String := "https://api.github.com"
  /-- The environment variable that holds an access token. -/
  tokenVariable : String := "GITHUB_TOKEN"
  oauth : OAuthSettings := {}
  deriving DecidableEq

/-- Settings of drafts. -/
structure DraftSettings where
  /-- The folder drafts are kept in; without one they stay in memory. -/
  folder : Option String := none
  deriving DecidableEq

/-- All settings. -/
structure Settings where
  form : FormSettings := {}
  preview : PreviewSettings := {}
  template : TemplateSettings := {}
  export_ : ExportSettings := {}
  github : GitHubSettings := {}
  drafts : DraftSettings := {}
  deriving DecidableEq

namespace Settings

open Datum

/-- The form's group. -/
def formOf? (value : Datum) : Option FormSettings := do
  let fields ← value.fields? ["coalesce_window_ms"]
  return ⟨← defaulted? fields "coalesce_window_ms" ({} : FormSettings).coalesceWindow size?⟩

/-- The preview's group. -/
def previewOf? (value : Datum) : Option PreviewSettings := do
  let standard : PreviewSettings := {}
  let fields ← value.fields? ["debounce_ms", "entry_file"]
  let debounce ← defaulted? fields "debounce_ms" standard.debounce size?
  let entryFile ← defaulted? fields "entry_file" standard.entryFile text?
  return { debounce, entryFile }

/-- The templates' group. -/
def templateOf? (value : Datum) : Option TemplateSettings := do
  let fields ← value.fields? ["config_file"]
  return ⟨← defaulted? fields "config_file" ({} : TemplateSettings).configFile text?⟩

/-- The exports' group. -/
def exportOf? (value : Datum) : Option ExportSettings := do
  let standard : ExportSettings := {}
  let fields ← value.fields? ["generate_readme", "default_archive_name", "private_repository",
    "default_description", "commit_message"]
  let generateReadme ← defaulted? fields "generate_readme" standard.generateReadme bool?
  let defaultArchiveName ← defaulted? fields "default_archive_name" standard.defaultArchiveName text?
  let privateRepository ← defaulted? fields "private_repository" standard.privateRepository bool?
  let defaultDescription ← defaulted? fields "default_description" standard.defaultDescription text?
  let commitMessage ← defaulted? fields "commit_message" standard.commitMessage text?
  return { generateReadme, defaultArchiveName, privateRepository, defaultDescription, commitMessage }

/-- The group of signing in. -/
def oauthOf? (value : Datum) : Option OAuthSettings := do
  let standard : OAuthSettings := {}
  let fields ← value.fields? ["client_id", "redirect_uri", "scope", "authorize_url"]
  let clientId ← defaulted? fields "client_id" standard.clientId text?
  let redirectUri ← defaulted? fields "redirect_uri" standard.redirectUri text?
  let scope ← defaulted? fields "scope" standard.scope text?
  let authorizeUrl ← defaulted? fields "authorize_url" standard.authorizeUrl text?
  return { clientId, redirectUri, scope, authorizeUrl }

/-- The group of the repository service. -/
def githubOf? (value : Datum) : Option GitHubSettings := do
  let standard : GitHubSettings := {}
  let fields ← value.fields? ["api_base", "token_env", "oauth"]
  let apiBase ← defaulted? fields "api_base" standard.apiBase text?
  let tokenVariable ← defaulted? fields "token_env" standard.tokenVariable text?
  let oauth ← defaulted? fields "oauth" standard.oauth oauthOf?
  return { apiBase, tokenVariable, oauth }

/-- The drafts' group. A list in its place has to give the folder. -/
def draftsOf? (value : Datum) : Option DraftSettings := do
  let fields ← value.fields? ["dir"]
  match value, fields.get? "dir" with
  | .list _, none => none
  | _, _ => return ⟨← absent? fields "dir" text?⟩

/-- The settings a value holds. -/
def ofDatum? (value : Datum) : Option Settings := do
  let fields ← value.fields? ["form", "preview", "template", "export", "github", "drafts"]
  let form ← defaulted? fields "form" {} formOf?
  let preview ← defaulted? fields "preview" {} previewOf?
  let template ← defaulted? fields "template" {} templateOf?
  let export_ ← defaulted? fields "export" {} exportOf?
  let github ← defaulted? fields "github" {} githubOf?
  let drafts ← defaulted? fields "drafts" {} draftsOf?
  return { form, preview, template, export_, github, drafts }

/-- The settings of a YAML text. -/
def ofYaml? (text : String) : Option Settings := (Yaml.read text).bind ofDatum?

end Settings

end SiteBuilder
