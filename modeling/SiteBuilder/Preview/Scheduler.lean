import SiteBuilder.Preview.Host
import SiteBuilder.Schedule.Timer
import SiteBuilder.Settings
import SiteBuilder.Site.Document

/-!
# Preview scheduling

The preview follows the form. New files are shown at once; new answers wait until no others have come
for a while. Every render makes a target of its own: the one on show stays until its host confirms
that the new one has loaded, and a render that fails leaves it there.
-/

namespace SiteBuilder.Preview

/-- Why a render failed. -/
inductive Failure where
  /-- There is no document. -/
  | document (cause : EntryMissing)
  /-- The host refused the document. -/
  | refused (reason : String)
  deriving DecidableEq

/-- The wording of a failure. -/
def Failure.message : Failure → String
  | .document cause => cause.message
  | .refused reason => "Failed to mount preview: " ++ reason

/-- What the preview is at. -/
inductive Stage where
  /-- There is nothing to show. -/
  | idle
  /-- A target has been made and not been confirmed. -/
  | rendering
  /-- The target on show is the latest. -/
  | ready
  /-- The latest render failed. -/
  | failed
  deriving DecidableEq

/-- The name of a stage. -/
def Stage.label : Stage → String
  | .idle => "Idle"
  | .rendering => "Rendering"
  | .ready => "Ready"
  | .failed => "Error"

/-- A preview of one template at a time. -/
structure Scheduler where
  /-- Where documents are shown. -/
  host : Host
  /-- The template that is open. -/
  templateId : Option String
  /-- Its files, once they are known. -/
  files : Option FileSet
  /-- The answers given last. -/
  answers : AnswerSet
  /-- Answers that wait to be rendered. -/
  updates : Timer AnswerSet
  /-- The time without new answers after which they are rendered. -/
  delay : Nat
  /-- The file that is shown. -/
  entryFile : String
  /-- The target on show. -/
  active : Option Target
  /-- The target that waits to be confirmed. -/
  waiting : Option Target
  /-- The number of the latest render. -/
  generation : Nat
  /-- How many renders were started. -/
  renders : Nat
  /-- The files and the answers of the latest render of the template that is open. -/
  latest : Option (FileSet × AnswerSet)
  /-- What the preview is at. -/
  stage : Stage
  /-- Why a render failed, until one is confirmed. -/
  failure : Option Failure
  deriving DecidableEq

namespace Scheduler

/-- A preview with nothing open. -/
def start (host : Host) (settings : PreviewSettings) : Scheduler where
  host := host
  templateId := none
  files := none
  answers := ∅
  updates := .idle
  delay := settings.debounce
  entryFile := settings.entryFile
  active := none
  waiting := none
  generation := 0
  renders := 0
  latest := none
  stage := .idle
  failure := none

/-- Close the template that is open and give all targets back. -/
def close (preview : Scheduler) : Scheduler :=
  { preview with
    host := (preview.host.releaseAll preview.waiting).releaseAll preview.active
    updates := .idle
    waiting := none
    active := none
    templateId := none
    files := none
    answers := ∅
    latest := none
    stage := .idle
    failure := none }

/-- Open a template in place of the one that is open. -/
def open_ (preview : Scheduler) (template : String) : Scheduler :=
  { preview.close with templateId := some template }

/-- Note that a render failed. -/
def fail (preview : Scheduler) (failure : Failure) : Scheduler :=
  { preview with stage := .failed, failure := some failure }

/-- Render answers, unless there are no files or nothing is open. The target that waits is given
back first. -/
def recompute (preview : Scheduler) (answers : AnswerSet) : Scheduler :=
  match preview.templateId, preview.files with
  | some template, some files =>
    let preview : Scheduler :=
      { preview with
        generation := preview.generation + 1
        renders := preview.renders + 1
        latest := some (files, answers)
        stage := .rendering
        host := preview.host.releaseAll preview.waiting
        waiting := none }
    match Document.compose files answers preview.entryFile with
    | .error cause => preview.fail (.document cause)
    | .ok document =>
      match preview.host.mount template preview.generation document with
      | (.ok target, host) => { preview with host, waiting := some target }
      | (.error reason, host) => { preview with host }.fail (.refused reason)
  | _, _ => preview

/-- Take up files and render them with answers at once, unless they are the files there are. Tells
whether they are new. -/
def filesChanged (preview : Scheduler) (files : FileSet) (answers : AnswerSet) : Bool × Scheduler :=
  if preview.files = some files then (false, preview)
  else (true, { preview with files := some files, answers, updates := .idle }.recompute answers)

/-- Take up answers and let them be rendered after the delay. Without files nothing is scheduled. -/
def answersChanged (preview : Scheduler) (now : Nat) (answers : AnswerSet) : Scheduler :=
  match preview.files with
  | none => { preview with answers }
  | some _ => { preview with answers, updates := (preview.updates.schedule now preview.delay answers).2 }

/-- Render the answers that wait if they are due. Tells whether they were. -/
def tick (preview : Scheduler) (now : Nat) : Bool × Scheduler :=
  match preview.updates.poll now with
  | (some answers, updates) => (true, { preview with updates }.recompute answers)
  | (none, updates) => (false, { preview with updates })

/-- Render the latest answers again after a failure. Tells whether there was one. -/
def retry (preview : Scheduler) : Bool × Scheduler :=
  if preview.stage = .failed then (true, { preview with updates := .idle }.recompute preview.answers)
  else (false, preview)

/-- Show the target that waits now that its host has loaded it. A confirmation of any other target
is passed over. Tells whether it was the one. -/
def targetLoaded (preview : Scheduler) (generation : Nat) : Bool × Scheduler :=
  match preview.waiting with
  | none => (false, preview)
  | some target =>
    if target.generation = generation ∧ preview.templateId = some target.template then
      (true,
        { preview with
          host := preview.host.releaseAll preview.active
          waiting := none
          active := some target
          stage := .ready
          failure := none })
    else (false, preview)

/-- The time until waiting answers are to be rendered. -/
def nextUpdate? (preview : Scheduler) (now : Nat) : Option Nat := preview.updates.remaining? now

end Scheduler

end SiteBuilder.Preview
