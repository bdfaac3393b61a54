import SiteBuilder.Export.Bundle
import SiteBuilder.Export.Remote
import SiteBuilder.Form.Session
import SiteBuilder.Preview.Scheduler
import SiteBuilder.Site.Archive
import SiteBuilder.Template.Content

/-!
# The studio

The studio joins the form of the selected template to its preview: what changes the committed answers is
told to the preview, which brings itself up to date after its own delay. An export submits the form and
renders the files with the answers it was accepted with.
-/

namespace SiteBuilder

/-- Why the studio does not export. -/
inductive StudioError where
  /-- No template is selected. -/
  | noTemplate
  /-- The selected template has not been loaded. -/
  | notLoaded
  /-- The form has problems. -/
  | invalid (problems : ValidationErrors)
  /-- The export failed. -/
  | exporting (cause : ExportError)

/-- The wording of a cause. -/
def StudioError.message : StudioError → String
  | .noTemplate => "No template selected"
  | .notLoaded => "Template content has not been loaded"
  | .invalid problems => "The form has " ++ toString problems.size ++ " invalid field(s)"
  | .exporting cause => cause.message

/-- A form and its preview. -/
structure Studio (σ : Type) where
  form : FormSession σ
  preview : Preview.Scheduler
  /-- The files of the selected template, once they are known. -/
  files : Option FileSet
  settings : Settings

namespace Studio

variable {σ : Type}

/-- A studio without a template. -/
def start (settings : Settings) (drafts : σ) (host : Preview.Host) : Studio σ :=
  ⟨.start drafts settings.form, .start host settings.preview, none, settings⟩

/-- Tell the preview the committed answers. -/
def answersChanged (studio : Studio σ) (now : Nat) : Studio σ :=
  { studio with preview := studio.preview.answersChanged now studio.form.answers }

/-- Select a template. -/
def selectTemplate [DraftStore σ] (studio : Studio σ) (id : String) : Studio σ :=
  { studio with form := studio.form.selectTemplate id, preview := studio.preview.open_ id, files := none }

/-- Take up the contents of a template, unless it is no longer selected. Tells whether it is. -/
def contentLoaded (studio : Studio σ) (now : Nat) (id : String) (content : TemplateContent) :
    Bool × Studio σ :=
  if studio.form.templateId = some id then
    let form := studio.form.applyConfig now content.config
    let preview := (studio.preview.filesChanged content.files form.effectiveAnswers).2
    (true, { studio with form, preview, files := some content.files })
  else (false, studio)

/-- Queue writes. -/
def update (studio : Studio σ) (now : Nat) (batch : AnswerSet) : Except Mismatch Unit × Studio σ :=
  let (result, form) := studio.form.update now batch
  (result, { studio with form })

/-- Commit writes at once. -/
def updateNow [DraftStore σ] (studio : Studio σ) (now : Nat) (batch : AnswerSet) :
    Except Mismatch Unit × Studio σ :=
  match studio.form.updateNow batch with
  | (.ok (), form) => (.ok (), { studio with form }.answersChanged now)
  | (.error mismatch, form) => (.error mismatch, { studio with form })

/-- Go back to the answers the form starts with. -/
def resetForm [DraftStore σ] (studio : Studio σ) (now : Nat) : Studio σ :=
  { studio with form := studio.form.resetForm }.answersChanged now

/-- Commit writes that are due, then render answers that are due. Tells whether a render started. -/
def tick [DraftStore σ] (studio : Studio σ) (now : Nat) : Bool × Studio σ :=
  let (flushed, form) := studio.form.flushDue now
  let studio := if flushed then { studio with form }.answersChanged now else { studio with form }
  let (rendered, preview) := studio.preview.tick now
  (rendered, { studio with preview })

/-- The time until something is due. -/
def nextDeadline? (studio : Studio σ) (now : Nat) : Option Nat :=
  match studio.form.nextFlush? now, studio.preview.nextUpdate? now with
  | some a, some b => some (min a b)
  | some a, none => some a
  | none, b => b

/-- The files rendered with the latest answers, those in the queue too. -/
def renderedFiles? (studio : Studio σ) : Option FileSet :=
  studio.files.map (·.render studio.form.effectiveAnswers)

/-! ## Export -/

/-- Submit the form and prepare the rendered files for an export. -/
def exportBundle [DraftStore σ] (studio : Studio σ) (now : Nat) : Except StudioError Bundle × Studio σ :=
  if studio.form.templateId.isNone then (.error .noTemplate, studio)
  else
    match studio.files, studio.form.config with
    | some files, some config =>
      let (submitted, form) := studio.form.submit
      let changed := form.revision != studio.form.revision
      let studio := { studio with form }
      let studio := if changed then studio.answersChanged now else studio
      match submitted with
      | .error problems => (.error (.invalid problems), studio)
      | .ok answers =>
        ((Bundle.prepare (files.render answers) answers config studio.settings.export_).mapError .exporting, studio)
    | _, _ => (.error .notLoaded, studio)

/-- Export an archive. Its name is the given one, or else the one the answers suggest, or else the
standard one. -/
def exportArchive [DraftStore σ] (studio : Studio σ) (now : Nat) (name : Option String) :
    Except StudioError Archive × Studio σ :=
  let (result, studio) := studio.exportBundle now
  (result.map fun bundle =>
    .ofFiles bundle.files ((name.or bundle.suggestedName).getD studio.settings.export_.defaultArchiveName), studio)

/-- Export to a repository. Its name is the given one, or else the one the answers suggest; its
description is the given one, or else what the site is about. -/
def exportRemote [DraftStore σ] {m : Type → Type} [Monad m] (studio : Studio σ) (now : Nat)
    (exporter : RemoteExporter m) (name description : Option String) (order : UploadOrder := .asBegun) :
    m (Except StudioError RemoteRepository × Studio σ) := do
  match studio.exportBundle now with
  | (.error cause, studio) => return (.error cause, studio)
  | (.ok bundle, studio) =>
    let result ← exporter.run bundle.files ((name.or bundle.suggestedName).getD "")
      (description.getD (bundle.description studio.settings.export_)) order
    return (result.mapError .exporting, studio)

end Studio

end SiteBuilder
