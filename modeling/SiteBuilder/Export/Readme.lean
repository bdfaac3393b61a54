import SiteBuilder.Form.Config
import SiteBuilder.Page.Evaluation
import SiteBuilder.Settings
import SiteBuilder.Text.Blank

/-!
# The README of a site

A site that brings no README gets one: its title, a summary, the answers that are not blank, and a line
about where it comes from. It is filled in from a page template.
-/

namespace SiteBuilder

/-- The answer to a name, without blanks around it, unless nothing is left. -/
def AnswerSet.filled? (answers : AnswerSet) (name : String) : Option String :=
  ((AnswerSet.display? answers name).map Text.trim).filter (· != "")

/-- What a site is about: the answer to `bio`, or else to `description`, or else the standard one. -/
def siteDescription (answers : AnswerSet) (settings : ExportSettings) : String :=
  ((AnswerSet.filled? answers "bio").or (AnswerSet.filled? answers "description")).getD settings.defaultDescription

namespace Readme

/-- Where the README stands. -/
def path : String := "README.md"

/-- The name of the program, which the README ends with. -/
def tool : String := "sitestudio"

/-- The page template of the README. -/
def template : String :=
  "# \x7b\x7b title \x7d\x7d\n\n\x7b\x7b summary \x7d\x7d\n\x7b% if details %\x7d\n## Details\n\n" ++
  "\x7b% for item in details -%\x7d\n- **\x7b\x7b item.label \x7d\x7d:** \x7b\x7b item.value \x7d\x7d\n" ++
  "\x7b% endfor -%\x7d\n\x7b% endif %\x7d\n" ++
  "Built from the \x7b\x7b template | titlecase \x7d\x7d template with \x7b\x7b tool \x7d\x7d.\n"

/-- The fields that are filled in, each with its label and its answer. -/
def details (answers : AnswerSet) (config : TemplateConfig) : List (String × String) :=
  config.fields.filterMap fun field =>
    (AnswerSet.filled? answers field.name).map fun value => (field.shownLabel, value)

/-- The name of the template, which is `website` if it has none. -/
def templateName (config : TemplateConfig) : String := config.name.getD "website"

/-- The title: the answer to `name`, or else the name of the template. -/
def title (answers : AnswerSet) (config : TemplateConfig) : String :=
  (AnswerSet.filled? answers "name").getD (templateName config)

/-- What the template is filled in with. -/
def context (answers : AnswerSet) (config : TemplateConfig) (settings : ExportSettings) :
    List (String × Page.Value) :=
  [("title", .text (title answers config)), ("summary", .text (siteDescription answers settings)),
    ("details", .list ((details answers config).map fun entry =>
      .record [("label", .text entry.1), ("value", .text entry.2)])),
    ("template", .text (templateName config))]

/-- The README of a site. -/
def text (answers : AnswerSet) (config : TemplateConfig) (settings : ExportSettings) :
    Except Page.RenderFault String :=
  Page.render template (context answers config settings) [("tool", .text tool)]

end Readme

end SiteBuilder
