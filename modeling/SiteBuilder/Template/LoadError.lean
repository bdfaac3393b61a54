import SiteBuilder.Form.Config

/-!
# Load errors

Why a template, or the catalog it is listed in, cannot be had.
-/

namespace SiteBuilder

/-- Why a template or a catalog cannot be loaded. -/
inductive LoadError where
  /-- There is nothing at the place it should be at. -/
  | notFound (place : String)
  /-- Its form is refused. -/
  | malformed (cause : SchemaError)
  /-- The catalog cannot be read. -/
  | unreadableCatalog
  /-- It is of a kind that cannot be rendered. -/
  | unsupportedType (id kind : String)
  /-- The place it is at does not give it. -/
  | fetch (reason : String)
  deriving DecidableEq

/-- The wording of a cause; what a reader of documents or patterns would add is left out. -/
def LoadError.message : LoadError → String
  | .notFound place => "Template config not found: " ++ place
  | .malformed cause => "Malformed template config: " ++ cause.message
  | .unreadableCatalog => "Malformed template config: "
  | .unsupportedType id kind =>
    "Template '" ++ id ++ "' has unsupported type '" ++ kind ++ "': only html templates can be rendered"
  | .fetch reason => "Failed to fetch template content: " ++ reason

end SiteBuilder
