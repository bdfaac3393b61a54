import SiteBuilder.Json.Reader
import SiteBuilder.Template.Descriptor
import SiteBuilder.Yaml.Reader

/-!
# Catalogs

A catalog lists the templates that are enabled, in the order of its document. An identifier may occur
more than once; it names the first template that has it.
-/

namespace SiteBuilder

/-- Which templates are wanted. The word `all` wants every category or every kind. -/
structure CatalogFilter where
  category : String := "all"
  kind : String := "all"
  deriving DecidableEq

/-- Whether a word of a filter wants a name. -/
def CatalogFilter.wants (wanted name : String) : Bool := wanted == "all" || name == wanted

/-- Whether a filter wants a template. -/
def CatalogFilter.admits (filter : CatalogFilter) (template : Descriptor) : Bool :=
  wants filter.category template.category && wants filter.kind template.kind

/-- The enabled templates, in order. -/
structure Catalog where
  templates : List Descriptor
  deriving DecidableEq

namespace Catalog

/-- The catalog of descriptors; those that are not enabled are dropped. -/
def ofDescriptors (descriptors : List Descriptor) : Catalog := ⟨descriptors.filter (·.enabled)⟩

/-- The first template with an identifier. -/
def get? (catalog : Catalog) (id : String) : Option Descriptor := catalog.templates.find? (·.id == id)

/-- The templates a filter wants. -/
def filtered (catalog : Catalog) (filter : CatalogFilter) : List Descriptor :=
  catalog.templates.filter filter.admits

/-- The templates that are put forward. -/
def featured (catalog : Catalog) : List Descriptor := catalog.templates.filter (·.featured)

/-- The templates of a category. -/
def inCategory (catalog : Catalog) (category : String) : List Descriptor :=
  catalog.templates.filter (·.category == category)

/-! ## Documents -/

/-- The catalog a value holds, under `templates`. -/
def ofDatum? (value : Datum) : Option Catalog := do
  let fields ← value.fields? ["templates"]
  let templates ← Datum.defaulted? fields "templates" [] (Datum.items? Descriptor.ofDatum?)
  return ofDescriptors templates

/-- The catalog of a document that may not be readable. -/
def ofDocument (value : Option Datum) : Except LoadError Catalog :=
  match value.bind ofDatum? with
  | some catalog => .ok catalog
  | none => .error .unreadableCatalog

/-- The catalog of a JSON text. -/
def ofJson (text : String) : Except LoadError Catalog := ofDocument (Json.read text)

/-- The catalog of a YAML text. -/
def ofYaml (text : String) : Except LoadError Catalog := ofDocument (Yaml.read text)

end Catalog

end SiteBuilder
