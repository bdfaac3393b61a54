import SiteBuilder.Form.Document
import SiteBuilder.Site.Files
import SiteBuilder.Template.LoadError

/-!
# Template contents

A template is a form together with the files its answers are put into. Its form is kept in a document of
its own, which is YAML if its name says so and JSON otherwise.
-/

namespace SiteBuilder

/-- A template's form and files. -/
structure TemplateContent where
  config : TemplateConfig
  files : FileSet
  deriving DecidableEq

/-- Whether a name is that of a YAML document. -/
def isYamlName (name : String) : Bool :=
  ".yaml".toList.isSuffixOf name.toList || ".yml".toList.isSuffixOf name.toList

/-- The form of a document, by the name of its file. -/
def TemplateConfig.ofNamedText (name text : String) : Except LoadError TemplateConfig :=
  (if isYamlName name then TemplateConfig.ofYaml text else TemplateConfig.ofJson text).mapError .malformed

namespace TemplateContent

/-- The value of files: each path with the path and the text of its file. -/
def filesToDatum (files : FileSet) : Datum :=
  .record [("files", .record (files.entries.map fun file =>
    (file.1, .record [("path", .text file.1), ("content", .text file.2)])))]

/-- The value of a template. -/
def toDatum (content : TemplateContent) : Datum :=
  .record [("config", content.config.toDatum), ("files", filesToDatum content.files)]

/-- The JSON text of a template, without spaces. -/
def toJson (content : TemplateContent) : String := Json.compact content.toDatum

/-- The text of a file that a value holds. -/
def fileOfDatum? (value : Datum) : Option (String × String) := do
  let fields ← value.fields? ["path", "content"]
  return (← Datum.required? fields "path" Datum.text?, ← Datum.required? fields "content" Datum.text?)

/-- The files a value holds. -/
def filesOfDatum? (value : Datum) : Option FileSet := do
  let fields ← value.fields? ["files"]
  match fields.get? "files" with
  | some (.record entries) => (entries.mapM fun entry : String × Datum => fileOfDatum? entry.2).map .ofList
  | _ => none

/-- The form a written value holds. Its steps stand at the top, and nothing is checked again. -/
def configOfDatum? (value : Datum) : Option TemplateConfig := do
  let fields ← value.fields? ["name", "description", "steps"]
  let name ← Datum.absent? fields "name" Datum.text?
  let description ← Datum.absent? fields "description" Datum.text?
  let steps ← Datum.required? fields "steps" (Datum.items? Step.ofDatum?)
  return ⟨name, description, steps⟩

/-- The template a value holds. -/
def ofDatum? (value : Datum) : Option TemplateContent := do
  let fields ← value.fields? ["config", "files"]
  return ⟨← Datum.required? fields "config" configOfDatum?, ← Datum.required? fields "files" filesOfDatum?⟩

/-- The template of a JSON text. -/
def ofJson? (text : String) : Option TemplateContent := (Json.read text).bind ofDatum?

end TemplateContent

end SiteBuilder
