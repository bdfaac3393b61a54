import SiteBuilder.Drafts.Store
import SiteBuilder.Form.Validation
import SiteBuilder.Schedule.Timer
import SiteBuilder.Settings

/-!
# Form sessions

A `FormSession` owns the answers of the template that is being filled in. Writes are not applied one
by one: they gather in a queue that is committed once no write has come for a while, so that a burst
of keystrokes makes one change and saves one draft. What needs the time is given it; the session has
no clock of its own.

Drafts are kept in any `DraftStore`. An operation on drafts that fails is passed over.
-/

namespace SiteBuilder

/-- What a request to move to another step came to. -/
inductive StepMove where
  /-- The position moved to. -/
  | moved (position : Nat)
  /-- There is no such step. -/
  | atBoundary
  /-- The current step has problems. -/
  | blocked (problems : ValidationErrors)

/-- A form being filled in. -/
structure FormSession (σ : Type) where
  /-- The template that is selected. -/
  templateId : Option String
  /-- Its form, once that is known. -/
  config : Option TemplateConfig
  /-- The committed answers. -/
  answers : AnswerSet
  /-- The position of the current step; the first is at one. -/
  position : Nat
  /-- The fields the user has been at. -/
  touched : NameMap Unit
  /-- The problems that were found last, by field. -/
  errors : ValidationErrors
  /-- Whether the form was submitted. -/
  submitted : Bool
  /-- Writes that wait to be committed. -/
  queue : Timer AnswerSet
  /-- The time without a write after which the queue is committed. -/
  window : Nat
  /-- Where drafts are kept. -/
  drafts : σ
  /-- Rules that fields refer to by name. -/
  predicates : Predicates
  /-- How many changes there have been. -/
  revision : Nat

/-- The answers that fit the kinds of their fields, in stored form. -/
def retype (config : TemplateConfig) (answers : AnswerSet) : AnswerSet :=
  answers.filterMap fun name answer => (config.coerce name answer).toOption

/-- Type every answer, or say which is the first that does not fit its field. -/
def coerceAll (config : Option TemplateConfig) (answers : AnswerSet) : Except Mismatch AnswerSet :=
  match config with
  | none => .ok answers
  | some config =>
    (answers.entries.mapM fun entry : String × Answer =>
      (config.coerce entry.1 entry.2).map (entry.1, ·)).map .ofList

namespace FormSession

variable {σ : Type}

/-- A session without a template. -/
def start (drafts : σ) (settings : FormSettings) : FormSession σ where
  templateId := none
  config := none
  answers := ∅
  position := 1
  touched := ∅
  errors := ∅
  submitted := false
  queue := .idle
  window := settings.coalesceWindow
  drafts := drafts
  predicates := .builtIn
  revision := 0

/-! ## What a session shows -/

/-- The committed answers with the queued writes over them. -/
def effectiveAnswers (session : FormSession σ) : AnswerSet :=
  match session.queue.task? with
  | some batch => session.answers.overlay batch
  | none => session.answers

/-- The number of steps; none without a form. -/
def stepCount (session : FormSession σ) : Nat :=
  match session.config with
  | some config => config.stepCount
  | none => 0

/-- The step at the current position. -/
def currentStep? (session : FormSession σ) : Option Step :=
  session.config.bind (·.stepAt? session.position)

/-- Whether writes wait to be committed. -/
def hasPendingWrites (session : FormSession σ) : Bool := session.queue.isPending

/-- The time until the queue is to be committed. -/
def nextFlush? (session : FormSession σ) (now : Nat) : Option Nat := session.queue.remaining? now

/-- Whether the user has been at a field. -/
def isTouched (session : FormSession σ) (name : String) : Bool := session.touched.contains name

/-- The problem to show at a field: none before the user has been there or has submitted the form. -/
def visibleError? (session : FormSession σ) (name : String) : Option String :=
  if session.submitted || session.isTouched name then session.errors.get? name else none

/-- Whether no problem of a field is known. -/
def isFieldValid (session : FormSession σ) (name : String) : Bool := !session.errors.contains name

/-! ## Writes -/

/-- The problems without those of the names that `batch` writes. -/
def withoutErrorsOf (errors : ValidationErrors) (batch : AnswerSet) : ValidationErrors :=
  batch.names.foldl NameMap.erase errors

/-- Write a batch over the answers and save them as a draft. An empty batch changes nothing. -/
def commit [DraftStore σ] (session : FormSession σ) (batch : AnswerSet) : FormSession σ :=
  if batch.isEmpty then session
  else
    let answers := session.answers.overlay batch
    let drafts :=
      match session.templateId with
      | some id => (DraftStore.save session.drafts id answers).2
      | none => session.drafts
    { session with answers, drafts, revision := session.revision + 1 }

/-- Commit the queue if it is due. Tells whether there was one. -/
def flushDue [DraftStore σ] (session : FormSession σ) (now : Nat) : Bool × FormSession σ :=
  match session.queue.poll now with
  | (some batch, queue) => (true, { session with queue }.commit batch)
  | (none, queue) => (false, { session with queue })

/-- Commit the queue. Tells whether there was one. -/
def flushNow [DraftStore σ] (session : FormSession σ) : Bool × FormSession σ :=
  match session.queue.cancel with
  | (some batch, queue) => (true, { session with queue }.commit batch)
  | (none, queue) => (false, { session with queue })

/-- Queue writes and let the window start again. -/
def enqueue (session : FormSession σ) (now : Nat) (batch : AnswerSet) : FormSession σ :=
  let queued := (session.queue.task?.getD ∅).overlay batch
  { session with
    errors := withoutErrorsOf session.errors batch
    queue := (session.queue.schedule now session.window queued).2 }

/-- Queue writes. Nothing is queued if one of them does not fit its field. -/
def update (session : FormSession σ) (now : Nat) (batch : AnswerSet) :
    Except Mismatch Unit × FormSession σ :=
  match coerceAll session.config batch with
  | .ok typed => (.ok (), session.enqueue now typed)
  | .error mismatch => (.error mismatch, session)

/-- Commit the queue together with further writes, unless one of these does not fit its field. -/
def updateNow [DraftStore σ] (session : FormSession σ) (batch : AnswerSet) :
    Except Mismatch Unit × FormSession σ :=
  match coerceAll session.config batch with
  | .ok typed =>
    let queued := (session.queue.task?.getD ∅).overlay typed
    (.ok (), { session with queue := .idle, errors := withoutErrorsOf session.errors typed }.commit queued)
  | .error mismatch => (.error mismatch, session)

/-! ## Templates -/

/-- Start on a template with the answers of its draft. What is queued is committed first. -/
def selectTemplate [DraftStore σ] (session : FormSession σ) (id : String) : FormSession σ :=
  let session := session.flushNow.2
  let draft :=
    match DraftStore.load session.drafts id with
    | .ok draft => draft
    | .error _ => none
  { session with
    templateId := some id
    config := none
    answers := draft.getD ∅
    position := 1
    touched := ∅
    errors := ∅
    submitted := false
    revision := session.revision + 1 }

/-- Take up a form: type the answers and the queue by it, and fill in its defaults. What is left of
the queue keeps its due time, or is due at once if that has passed. -/
def applyConfig (session : FormSession σ) (now : Nat) (config : TemplateConfig) : FormSession σ :=
  let queue :=
    match session.queue.slot with
    | none => .idle
    | some scheduled =>
      let typed := retype config scheduled.task
      if typed.isEmpty then .idle
      else (Timer.idle.schedule now (scheduled.due - now) typed).2
  { session with
    answers := mergeWithDefaults config.defaults (retype config session.answers)
    position := min (max session.position 1) (max config.stepCount 1)
    queue
    config := some config
    revision := session.revision + 1 }

/-- Go back to the answers the form starts with and forget the queue and the draft. -/
def resetForm [DraftStore σ] (session : FormSession σ) : FormSession σ :=
  let answers : AnswerSet :=
    match session.config with
    | some config => config.defaults
    | none => ∅
  let drafts :=
    match session.templateId with
    | some id => (DraftStore.clear session.drafts id).2
    | none => session.drafts
  { session with
    queue := .idle
    answers
    touched := ∅
    errors := ∅
    submitted := false
    drafts
    revision := session.revision + 1 }

/-- Leave the template. What is queued is forgotten. -/
def clearTemplate (session : FormSession σ) : FormSession σ :=
  { session with
    queue := .idle
    templateId := none
    config := none
    answers := ∅
    position := 1
    touched := ∅
    errors := ∅
    submitted := false
    revision := session.revision + 1 }

/-! ## Validation and steps -/

/-- Note that the user has been at a field. -/
def touch (session : FormSession σ) (name : String) : FormSession σ :=
  { session with touched := session.touched.insert name () }

/-- Replace the known problems of fields by the ones that were found. -/
def recordProblems (found : ValidationErrors) (fields : List Field) (errors : ValidationErrors) :
    ValidationErrors :=
  fields.foldl (fun errors field =>
    match found.get? field.name with
    | some problem => errors.insert field.name problem
    | none => errors.erase field.name) errors

/-- Look for problems in a step. A step that does not exist has none. -/
def validateStep (session : FormSession σ) (id : String) : ValidationErrors × FormSession σ :=
  match session.config.bind (·.step? id) with
  | none => (∅, session)
  | some step =>
    let found := step.problems session.effectiveAnswers session.predicates
    (found, { session with errors := recordProblems found step.fields session.errors })

/-- Look for problems in the whole form. -/
def validateAll (session : FormSession σ) : ValidationErrors × FormSession σ :=
  let found : ValidationErrors :=
    match session.config with
    | some config => config.problems session.effectiveAnswers session.predicates
    | none => ∅
  (found, { session with errors := found })

/-- Go to the next step, unless the current one has problems. -/
def advanceStep (session : FormSession σ) : StepMove × FormSession σ :=
  if session.stepCount ≤ session.position then (.atBoundary, session)
  else
    match session.currentStep? with
    | none => (.atBoundary, session)
    | some step =>
      let (problems, session) := session.validateStep step.id
      if problems.isEmpty then
        (.moved (session.position + 1), { session with position := session.position + 1 })
      else (.blocked problems, session)

/-- Go to the step before. -/
def retreatStep (session : FormSession σ) : StepMove × FormSession σ :=
  if session.position ≤ 1 then (.atBoundary, session)
  else (.moved (session.position - 1), { session with position := session.position - 1 })

/-- Go to a step. Tells whether there is one at that position. -/
def goToStep (session : FormSession σ) (position : Nat) : Bool × FormSession σ :=
  if 1 ≤ position ∧ position ≤ session.stepCount then (true, { session with position })
  else (false, session)

/-- Commit the queue, show all problems and look for them in the whole form. Without problems, the
answers are handed out. -/
def submit [DraftStore σ] (session : FormSession σ) : Except ValidationErrors AnswerSet × FormSession σ :=
  let (problems, session) := { session.flushNow.2 with submitted := true }.validateAll
  (if problems.isEmpty then .ok session.answers else .error problems, session)

/-- Register a rule under a name. -/
def register (session : FormSession σ) (name : String) (predicate : Predicate) : FormSession σ :=
  { session with predicates := session.predicates.insert name predicate }

end FormSession

end SiteBuilder
