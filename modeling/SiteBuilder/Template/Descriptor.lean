import SiteBuilder.Datum.Typed
import SiteBuilder.Template.LoadError
import SiteBuilder.Url.Basic

/-!
# Template descriptors

A descriptor says where a template lives and how it is listed. Only templates of the kind `html` can be
rendered; others may be listed. The repository of a template is named by the first two segments of its
address.
-/

namespace SiteBuilder

/-- A repository of a service: its owner and its name. -/
structure RepositoryName where
  owner : String
  name : String
  deriving DecidableEq

/-- What a catalog says about a template. -/
structure Descriptor where
  id : String
  name : String
  description : Option String := none
  category : String := ""
  /-- What the template is made of. -/
  kind : String := "html"
  /-- The address of its repository. -/
  repositoryUrl : String := ""
  branch : String := "main"
  /-- Its folder in the repository or under the local root. -/
  folder : String := ""
  featured : Bool := false
  enabled : Bool := true
  tags : List String := []
  deriving DecidableEq

namespace Descriptor

/-- The kind of templates that can be rendered. -/
def supportedKind : String := "html"

/-- The descriptor of a template in a local folder. -/
def inFolder (id folder : String) : Descriptor := { id, name := id, folder }

/-- Refuse a template that cannot be rendered. -/
def ensureSupported (descriptor : Descriptor) : Except LoadError Unit :=
  if descriptor.kind = supportedKind then .ok ()
  else .error (.unsupportedType descriptor.id descriptor.kind)

/-- The ending that the address of a repository may have. -/
def repositorySuffix : List Char := ".git".toList

/-- A name without the ending of a repository's address. -/
def withoutSuffix (name : String) : String :=
  let cs := name.toList
  if repositorySuffix.isSuffixOf cs then String.ofList (cs.take (cs.length - repositorySuffix.length)) else name

/-- The repository that the address names. Empty segments are passed over. -/
def repository? (descriptor : Descriptor) : Option RepositoryName :=
  match Url.parse descriptor.repositoryUrl with
  | .error _ => none
  | .ok url =>
    match url.path with
    | .opaque_ _ => none
    | .segments segments =>
      match segments.filter (· != "") with
      | owner :: name :: _ => some ⟨owner, withoutSuffix name⟩
      | _ => none

/-! ## Documents -/

/-- The descriptor a value holds. -/
def ofDatum? (value : Datum) : Option Descriptor := do
  let fields ← value.fields? ["id", "name", "description", "category", "type", "repoUrl", "branch", "folder",
    "featured", "enabled", "tags"]
  let id ← Datum.required? fields "id" Datum.text?
  let name ← Datum.required? fields "name" Datum.text?
  let description ← Datum.absent? fields "description" Datum.text?
  let category ← Datum.defaulted? fields "category" "" Datum.text?
  let kind ← Datum.defaulted? fields "type" "html" Datum.text?
  let repositoryUrl ← Datum.defaulted? fields "repoUrl" "" Datum.text?
  let branch ← Datum.defaulted? fields "branch" "main" Datum.text?
  let folder ← Datum.defaulted? fields "folder" "" Datum.text?
  let featured ← Datum.defaulted? fields "featured" false Datum.bool?
  let enabled ← Datum.defaulted? fields "enabled" true Datum.bool?
  let tags ← Datum.defaulted? fields "tags" [] (Datum.items? Datum.text?)
  return { id, name, description, category, kind, repositoryUrl, branch, folder, featured, enabled, tags }

/-- The value of a descriptor. -/
def toDatum (descriptor : Descriptor) : Datum :=
  .record [("id", .text descriptor.id), ("name", .text descriptor.name),
    ("description", .ofOption .text descriptor.description), ("category", .text descriptor.category),
    ("type", .text descriptor.kind), ("repoUrl", .text descriptor.repositoryUrl),
    ("branch", .text descriptor.branch), ("folder", .text descriptor.folder),
    ("featured", .bool descriptor.featured), ("enabled", .bool descriptor.enabled),
    ("tags", .list (descriptor.tags.map .text))]

end Descriptor

end SiteBuilder
