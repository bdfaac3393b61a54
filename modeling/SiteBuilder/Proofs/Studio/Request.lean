import SiteBuilder.Proofs.Form.Alike
import SiteBuilder.Proofs.Preview.Since
import SiteBuilder.Proofs.Studio.Form

/-!
# Requests to a studio

A request is anything that the owner of a studio can ask it: its own operations, those of its form and of its preview,
and what it tells without changing. Each has an answer. An export to a repository is answered by what the host of
repositories comes to, in whatever monad that runs; the studio it leaves is that of the bundle.
-/

namespace SiteBuilder

/-- Anything that can be asked of a studio. -/
inductive StudioRequest (σ : Type) (m : Type → Type) where
  /-- An operation of the studio, or something that happens to it. -/
  | act (action : StudioAction σ)
  /-- An operation of its form. -/
  | form (action : FormAction σ)
  /-- An operation of its preview. -/
  | preview (action : Preview.PreviewAction)
  /-- When something is due. -/
  | nextDeadline
  /-- The rendered files. -/
  | renderedFiles
  | exportArchive (name : Option String)
  | exportRemote (exporter : RemoteExporter m) (name description : Option String) (order : UploadOrder)

/-- The answer to a request. -/
inductive StudioReply (m : Type → Type) where
  | done
  | told (answer : Bool)
  | written (result : Except Mismatch Unit)
  | form (reply : FormReply)
  | preview (answer : Option Bool)
  | due (span : Option Nat)
  | rendered (files : Option FileSet)
  | bundled (result : Except StudioError Bundle)
  | archived (result : Except StudioError Archive)
  | uploaded (result : m (Except StudioError RemoteRepository))

namespace Studio

variable {σ : Type} [DraftStore σ] {m : Type → Type} [Monad m]

/-- Whatever becomes of an export to a repository, the studio it leaves is that of the bundle. -/
theorem exportRemote_eq [LawfulMonad m] (studio : Studio σ) (now : Nat) (exporter : RemoteExporter m)
    (name description : Option String) (order : UploadOrder) :
    studio.exportRemote now exporter name description order =
      (·, (studio.exportBundle now).2) <$> (Prod.fst <$> studio.exportRemote now exporter name description order) := by
  unfold exportRemote
  rcases studio.exportBundle now with ⟨cause | bundle, after⟩
  · simp only [map_pure]
  · simp only [map_bind, map_pure]

end Studio

namespace TimedStudio

variable {σ : Type} [DraftStore σ] {m : Type → Type}

/-- A studio after a request. -/
def next (state : TimedStudio σ) : StudioRequest σ m → TimedStudio σ
  | .act action => state.step action
  | .form action =>
    let form := (TimedForm.step state.timedForm action).2
    ⟨form.clock, { state.studio with form := form.session }⟩
  | .preview action =>
    let preview := Preview.TimedPreview.step ⟨state.clock, state.studio.preview⟩ action
    ⟨preview.clock, { state.studio with preview := preview.preview }⟩
  | .nextDeadline => state
  | .renderedFiles => state
  | .exportArchive name => { state with studio := (state.studio.exportArchive state.clock.now name).2 }
  | .exportRemote _ _ _ _ => { state with studio := (state.studio.exportBundle state.clock.now).2 }

/-- The answer of a studio to a request. -/
def reply [Monad m] (state : TimedStudio σ) : StudioRequest σ m → StudioReply m
  | .act (.contentLoaded id content) => .told (state.studio.contentLoaded state.clock.now id content).1
  | .act (.update batch) => .written (state.studio.update state.clock.now batch).1
  | .act (.updateNow batch) => .written (state.studio.updateNow state.clock.now batch).1
  | .act .tick => .told (state.studio.tick state.clock.now).1
  | .act .exportBundle => .bundled (state.studio.exportBundle state.clock.now).1
  | .act (.targetLoaded generation) => .told (state.studio.preview.targetLoaded generation).1
  | .act .retry => .told state.studio.preview.retry.1
  | .act _ => .done
  | .form action => .form (TimedForm.step state.timedForm action).1
  | .preview action => .preview (Preview.TimedPreview.reply ⟨state.clock, state.studio.preview⟩ action)
  | .nextDeadline => .due (state.studio.nextDeadline? state.clock.now)
  | .renderedFiles => .rendered state.studio.renderedFiles?
  | .exportArchive name => .archived (state.studio.exportArchive state.clock.now name).1
  | .exportRemote exporter name description order =>
    .uploaded (Prod.fst <$> state.studio.exportRemote state.clock.now exporter name description order)

/-- A studio after requests, one after the other. -/
def after (state : TimedStudio σ) (requests : List (StudioRequest σ m)) : TimedStudio σ :=
  requests.foldl next state

/-- The answers of a studio to requests, one after the other. -/
def replies [Monad m] (state : TimedStudio σ) : List (StudioRequest σ m) → List (StudioReply m)
  | [] => []
  | request :: rest => state.reply request :: (state.next request).replies rest

/-! ## What requests keep -/

variable {state : TimedStudio σ}

/-- What every action of a form keeps, every request keeps of the form of a studio. -/
theorem form_next_induction (Holds : FormSession σ → Prop)
    (hstep : ∀ form : TimedForm σ, ∀ action, Holds form.session → Holds (form.step action).2.session)
    (h : Holds state.studio.form) (request : StudioRequest σ m) : Holds (state.next request).studio.form := by
  have hact (action : StudioAction σ) : Holds (state.step action).studio.form := by
    have hform : (state.step action).studio.form = (state.step action).timedForm.session := rfl
    rw [hform, timedForm_step]
    cases state.formAction? action with
    | none => exact h
    | some formAction => exact hstep state.timedForm formAction h
  cases request with
  | act action => exact hact action
  | form action => exact hstep state.timedForm action h
  | preview action => exact h
  | nextDeadline => exact h
  | renderedFiles => exact h
  | exportArchive name => exact hact .exportBundle
  | exportRemote exporter name description order => exact hact .exportBundle

/-- What every action of a preview keeps, every request keeps of the preview of a studio. -/
theorem preview_next_induction (Holds : Preview.Scheduler → Prop)
    (hstep : ∀ preview : Preview.TimedPreview, ∀ action, Holds preview.preview → Holds (preview.step action).preview)
    (h : Holds state.studio.preview) (request : StudioRequest σ m) : Holds (state.next request).studio.preview := by
  have hbundle : Holds (state.step .exportBundle).studio.preview := by
    rw [step, Studio.exportBundle_eq]
    by_cases hexports : state.studio.exports
    · rw [if_pos hexports]
      split
      · exact hstep ⟨state.clock, state.studio.preview⟩ (.answersChanged _) h
      · exact h
    · rw [if_neg hexports]
      exact h
  cases request with
  | act action =>
    cases action with
    | selectTemplate id => exact hstep ⟨state.clock, state.studio.preview⟩ (.open_ id) h
    | contentLoaded id content =>
      simp only [next, step, Studio.contentLoaded]
      split
      · exact hstep ⟨state.clock, state.studio.preview⟩ (.filesChanged content.files _) h
      · exact h
    | update batch => exact h
    | updateNow batch =>
      simp only [next, step, Studio.updateNow]
      rcases state.studio.form.updateNow batch with ⟨_ | _, form⟩
      · exact h
      · exact hstep ⟨state.clock, state.studio.preview⟩ (.answersChanged form.answers) h
    | resetForm => exact hstep ⟨state.clock, state.studio.preview⟩ (.answersChanged _) h
    | tick =>
      simp only [next, step, Studio.tick]
      rcases state.studio.form.flushDue state.clock.now with ⟨_ | _, form⟩
      · exact hstep ⟨state.clock, state.studio.preview⟩ .tick h
      · have htold := hstep ⟨state.clock, state.studio.preview⟩ (.answersChanged form.answers) h
        exact hstep ⟨state.clock, state.studio.preview.answersChanged state.clock.now form.answers⟩ .tick htold
    | exportBundle => exact hbundle
    | targetLoaded generation => exact hstep ⟨state.clock, state.studio.preview⟩ (.targetLoaded generation) h
    | retry => exact hstep ⟨state.clock, state.studio.preview⟩ .retry h
    | changeRefusal refusal => exact hstep ⟨state.clock, state.studio.preview⟩ (.changeRefusal refusal) h
    | advanceClock span => exact h
    | changeDrafts drafts => exact h
  | form action => exact h
  | preview action => exact hstep ⟨state.clock, state.studio.preview⟩ action h
  | nextDeadline => exact h
  | renderedFiles => exact h
  | exportArchive name => exact hbundle
  | exportRemote exporter name description order => exact hbundle

/-- No request changes the settings. -/
theorem settings_next (request : StudioRequest σ m) : (state.next request).studio.settings = state.studio.settings := by
  have hbundle : (state.step .exportBundle).studio.settings = state.studio.settings := by
    rw [step, Studio.exportBundle_eq]
    split
    · split <;> rfl
    · rfl
  cases request with
  | act action =>
    cases action with
    | contentLoaded id content =>
      simp only [next, step, Studio.contentLoaded]
      split <;> rfl
    | updateNow batch =>
      simp only [next, step, Studio.updateNow]
      rcases state.studio.form.updateNow batch with ⟨_ | _, form⟩ <;> rfl
    | tick =>
      simp only [next, step, Studio.tick]
      rcases state.studio.form.flushDue state.clock.now with ⟨_ | _, form⟩ <;> rfl
    | exportBundle => exact hbundle
    | _ => rfl
  | exportArchive name => exact hbundle
  | exportRemote exporter name description order => exact hbundle
  | _ => rfl

/-! ## Studios that come about -/

/-- A studio whose parts go by its settings and whose preview accounts for its targets. -/
structure Sound (given : Settings) (studio : Studio σ) : Prop where
  settings : studio.settings = given
  form : studio.form.settings = given.form
  preview : studio.preview.settings = given.preview
  accounted : studio.preview.Accounted

variable {settings : Settings}

omit [DraftStore σ] in
/-- Every new studio is sound. -/
theorem sound_initial (clock : Clock) (settings : Settings) (drafts : σ) :
    Sound settings (initial clock settings drafts .empty).studio where
  settings := rfl
  form := rfl
  preview := rfl
  accounted := Preview.Scheduler.accounted_start settings.preview

/-- Every request keeps a studio sound. -/
theorem Sound.next (h : Sound settings state.studio) (request : StudioRequest σ m) :
    Sound settings (state.next request).studio where
  settings := (settings_next request).trans h.settings
  form := form_next_induction (·.settings = settings.form)
    (fun form action hform => (form.settings_step action).trans hform) h.form request
  preview := preview_next_induction (·.settings = settings.preview)
    (fun preview action hpreview => (preview.settings_step action).trans hpreview) h.preview request
  accounted :=
    preview_next_induction Preview.Scheduler.Accounted Preview.TimedPreview.accounted_step h.accounted request

/-- Requests keep a studio sound. -/
theorem Sound.after (h : Sound settings state.studio) (requests : List (StudioRequest σ m)) :
    Sound settings (state.after requests).studio := by
  induction requests generalizing state with
  | nil => exact h
  | cons request rest ih => exact ih (h.next request)

end TimedStudio

end SiteBuilder
