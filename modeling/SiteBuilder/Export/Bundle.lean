import SiteBuilder.Export.Error
import SiteBuilder.Export.Readme
import SiteBuilder.Site.Files
import SiteBuilder.Text.Casing

/-!
# Bundles

A bundle is what an export hands over: the rendered files, with a README, and the answers they were
rendered with. The answers suggest a name and a description for it.
-/

namespace SiteBuilder

/-- The name of a repository that the answer to `name` suggests. -/
def suggestRepositoryName (answers : AnswerSet) : Option String :=
  ((AnswerSet.filled? answers "name").map Text.kebabCase).filter (· != "")

/-- A rendered site that is ready to be exported. -/
structure Bundle where
  files : FileSet
  answers : AnswerSet
  deriving DecidableEq

namespace Bundle

/-- Whether files include a README, in whatever case it is written. -/
def shipsReadme (files : FileSet) : Bool :=
  files.names.any (Text.sameIgnoringAsciiCase · Readme.path)

/-- Make rendered files a bundle. A README is added unless there is one or none is wanted. -/
def prepare (files : FileSet) (answers : AnswerSet) (config : TemplateConfig) (settings : ExportSettings) :
    Except ExportError Bundle :=
  if settings.generateReadme && !shipsReadme files then
    match Readme.text answers config settings with
    | .ok readme => .ok ⟨files.insert Readme.path readme, answers⟩
    | .error fault => .error (.document Readme.path fault)
  else .ok ⟨files, answers⟩

/-- The name the answers suggest. -/
def suggestedName (bundle : Bundle) : Option String := suggestRepositoryName bundle.answers

/-- What the site is about. -/
def description (bundle : Bundle) (settings : ExportSettings) : String := siteDescription bundle.answers settings

end Bundle

end SiteBuilder
