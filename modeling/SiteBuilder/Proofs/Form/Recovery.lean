import SiteBuilder.Proofs.Form.Commits
import SiteBuilder.Proofs.Form.Typing

/-!
# Drafts bring answers back

What a session shows is not what it stores. Until the form arrives, raw answers are committed and stored; when
it arrives, answers are typed and defaults filled in, and nothing is stored; a reset stores nothing but forgets
the draft. What is kept throughout is that the stored draft, treated as a draft is when its template is opened,
gives the committed answers. Opening a template commits the queue first, so queued writes come back, too.
-/

namespace SiteBuilder

namespace FormAction

variable {σ : Type}

/-- The action stays on the template, takes up no other form than the given one, and leaves the store of drafts
to the session. -/
def StaysWith (config : TemplateConfig) : FormAction σ → Prop
  | .applyConfig other => other = config
  | .selectTemplate _ | .clearTemplate | .changeDrafts _ => False
  | _ => True

end FormAction

namespace FormSession

/-- The answers that a draft gives under a form: typed, with the defaults of what it lacks. Without a form they
are those of the draft. -/
def restored (config : Option TemplateConfig) (draft : AnswerSet) : AnswerSet :=
  match config with
  | none => draft
  | some config => mergeWithDefaults config.defaults (retype config draft)

/-- The answers after taking up a form are those it restores. -/
theorem answers_applyConfig {σ : Type} (session : FormSession σ) (now : Nat) (config : TemplateConfig) :
    (session.applyConfig now config).answers = restored (some config) session.answers := rfl

/-- The answers of a well typed session would be restored as they are. -/
theorem WellTyped.restored_answers {σ : Type} {session : FormSession σ} (h : session.WellTyped) :
    restored session.config session.answers = session.answers := by
  cases hconfig : session.config with
  | none => rfl
  | some config =>
    have htyped : session.TypedBy config := h config hconfig
    rw [← session.answers_applyConfig 0]
    exact htyped.answers_applyConfig 0

/-- A form without a draft starts with its defaults. -/
theorem restored_empty (config : TemplateConfig) : restored (some config) ∅ = config.defaults :=
  NameMap.overlay_empty config.defaults

/-- A session has a draft in working memory that restores its answers, under its form if it has taken it up. -/
structure Recoverable (session : FormSession MemoryDrafts) (id : String) (config : TemplateConfig) : Prop where
  template : session.templateId = some id
  works : session.drafts.working = true
  config : session.config = none ∨ session.config = some config
  typed : session.WellTyped
  restored : restored session.config ((session.drafts.held id).getD ∅) = session.answers

variable {session : FormSession MemoryDrafts} {id : String} {config : TemplateConfig}

/-- Memory that works goes on working when a batch is committed. -/
theorem working_commit (session : FormSession MemoryDrafts) (hworks : session.drafts.working = true)
    (batch : AnswerSet) : (session.commit batch).drafts.working = true := by
  unfold commit
  split
  · exact hworks
  · cases session.templateId with
    | none => exact hworks
    | some id => simp only [DraftStore.save, hworks, ↓reduceIte]

/-- While memory works, every batch that is not empty is saved. -/
theorem saves_of_working (htemplate : session.templateId = some id) (hworks : session.drafts.working = true)
    {batch : AnswerSet} (hbatch : batch.isEmpty = false) : session.Saves id batch :=
  ⟨htemplate, hbatch, by simp only [DraftStore.save, hworks, ↓reduceIte]⟩

/-- Opening a template takes over its draft and keeps the memory working. -/
theorem recoverable_selectTemplate (hworks : session.drafts.working = true) :
    (session.selectTemplate id).Recoverable id config := by
  have hflushed : session.flushNow.2.drafts.working = true := by
    rw [flushNow_eq]
    exact working_commit { session with queue := .idle } hworks session.queued
  refine ⟨rfl, hflushed, .inl rfl, wellTyped_of_config_none rfl, ?_⟩
  simp only [selectTemplate, restored, DraftStore.load, hflushed, ↓reduceIte]
  rfl

/-- Taking up the form types the draft's answers, or leaves them if they are typed already. -/
theorem Recoverable.applyConfig (h : session.Recoverable id config) (haccepted : config.Accepted) (now : Nat) :
    (session.applyConfig now config).Recoverable id config where
  template := h.template
  works := h.works
  config := .inr rfl
  typed := wellTyped_applyConfig session now haccepted
  restored := by
    change FormSession.restored (some config) ((session.drafts.held id).getD ∅) = _
    have hrestored := h.restored
    rcases h.config with hconfig | hconfig
    · rw [hconfig] at hrestored
      rw [answers_applyConfig, ← hrestored]
      rfl
    · rw [hconfig] at hrestored
      rw [hrestored, (h.typed config hconfig).answers_applyConfig]

/-- A reset leaves no draft and the answers that are restored from none. -/
theorem Recoverable.resetForm (h : session.Recoverable id config) : session.resetForm.Recoverable id config := by
  have hclear : DraftStore.clear session.drafts id =
      (.ok (), { session.drafts with drafts := session.drafts.drafts.erase id }) := by
    simp only [DraftStore.clear, h.works, ↓reduceIte]
  have hdrafts : session.resetForm.drafts = { session.drafts with drafts := session.drafts.drafts.erase id } := by
    simp only [FormSession.resetForm, h.template, hclear]
  have hheld : session.resetForm.drafts.held id = none := by
    rw [hdrafts, MemoryDrafts.held, NameMap.get?_erase, if_pos rfl]
  refine ⟨h.template, by rw [hdrafts]; exact h.works, h.config, h.typed.resetForm, ?_⟩
  rw [hheld]
  rcases h.config with hconfig | hconfig
  · simp only [FormSession.resetForm, hconfig, Option.getD_none, FormSession.restored]
  · simp only [FormSession.resetForm, hconfig, Option.getD_none, restored_empty]

end FormSession

namespace TimedForm

variable {state : TimedForm MemoryDrafts} {id : String} {config : TemplateConfig}

/-- What is committed is saved with all answers, and well typed answers are restored as they are. -/
theorem recoverable_step_editing (h : state.session.Recoverable id config) {action : FormAction MemoryDrafts}
    (haction : action.Editing) (htyped : (state.step action).2.session.WellTyped) :
    (state.step action).2.session.Recoverable id config := by
  let batch := state.session.committed state.clock.now action
  have hselection := state.selection_step haction
  have htemplate : (state.step action).2.session.templateId = some id :=
    (congrArg Prod.fst hselection).trans h.template
  have hconfig : (state.step action).2.session.config = state.session.config := congrArg Prod.snd hselection
  have hanswers : (state.step action).2.session.answers = state.session.answers.overlay batch :=
    state.answers_step haction
  have hdrafts : (state.step action).2.session.drafts = (state.session.commit batch).drafts :=
    state.drafts_step_editing haction
  refine ⟨htemplate, ?_, hconfig ▸ h.config, htyped, ?_⟩
  · rw [hdrafts]
    exact FormSession.working_commit state.session h.works batch
  · cases hbatch : batch.isEmpty with
    | true =>
      have hempty : batch = ∅ := NameMap.isEmpty_iff.mp hbatch
      rw [hanswers, hdrafts, hempty, hconfig, NameMap.overlay_empty]
      exact h.restored
    | false =>
      have hheld : (state.step action).2.session.drafts.held id = some (state.step action).2.session.answers := by
        rw [hdrafts, hanswers]
        exact FormSession.held_commit_of_saves MemoryDrafts.faithful
          (FormSession.saves_of_working h.template h.works hbatch)
      rw [hheld, Option.getD_some]
      exact htyped.restored_answers

/-- Whatever is done with one form and no hand in the drafts, the draft restores the answers. -/
theorem recoverable_step (haccepted : config.Accepted) (state : TimedForm MemoryDrafts)
    (action : FormAction MemoryDrafts) (haction : action.StaysWith config)
    (h : state.session.Recoverable id config) : (state.step action).2.session.Recoverable id config := by
  have htyped : action.Accepted → (state.step action).2.session.WellTyped :=
    fun hform => wellTyped_step state action hform h.typed
  cases action with
  | selectTemplate | clearTemplate | changeDrafts => exact haction.elim
  | applyConfig other =>
    obtain rfl : other = config := haction
    exact h.applyConfig haccepted state.clock.now
  | resetForm => exact h.resetForm
  | _ => exact recoverable_step_editing h trivial (htyped trivial)

/-- Whatever was done before a template was opened and in whichever way its answers came about since then, under
one form and with a memory that works and that nobody else writes to: opening the template again and taking up
the form brings back all answers, the queued ones too, and leaves no queue. -/
theorem answers_recovered_of_run (start : TimedForm MemoryDrafts) (hworks : start.session.drafts.working = true)
    (id : String) (config : TemplateConfig) (haccepted : config.Accepted)
    (since : List (FormAction MemoryDrafts)) (hsince : ∀ action ∈ since, action.StaysWith config)
    (hconfig : (start.run (.selectTemplate id :: since)).session.config = some config) (now : Nat) :
    let session := (start.run (.selectTemplate id :: since)).session
    let recovered := (session.selectTemplate id).applyConfig now config
    recovered.answers = session.effectiveAnswers ∧ recovered.queue = .idle := by
  intro session recovered
  have hopened : (start.step (.selectTemplate id)).2.session.Recoverable id config :=
    FormSession.recoverable_selectTemplate hworks
  have hrun : session.Recoverable id config :=
    @run_induction _ _ (·.Recoverable id config) _ (recoverable_step haccepted) _ hopened since hsince
  -- Opening the template again flushes first, which is one more action of the run.
  have hflushed : session.flushNow.2.Recoverable id config :=
    recoverable_step haccepted ⟨start.clock, session⟩ .flushNow trivial hrun
  have hkept : session.flushNow.2.config = some config :=
    (congrArg Prod.snd session.selection_flushNow).trans hconfig
  have hloaded : (session.selectTemplate id).answers = (session.flushNow.2.drafts.held id).getD ∅ := by
    simp only [FormSession.selectTemplate, DraftStore.load, hflushed.works, ↓reduceIte]
    rfl
  constructor
  · calc recovered.answers
        = FormSession.restored (some config) (session.selectTemplate id).answers := rfl
      _ = FormSession.restored session.flushNow.2.config ((session.flushNow.2.drafts.held id).getD ∅) := by
          rw [hloaded, hkept]
      _ = session.flushNow.2.answers := hflushed.restored
      _ = session.effectiveAnswers := session.answers_flushNow
  · have hidle : (session.selectTemplate id).queue = .idle := session.queue_flushNow
    simp only [recovered, FormSession.applyConfig, hidle]
    rfl

/-- A raw answer that was stored before the form does not fit it; its default, and a write that still waits, are
brought back. -/
theorem answers_recovered_of_dropped_draft :
    let form := TemplateConfig.simple [("age", .number), ("bio", .text)]
    let start : TimedForm MemoryDrafts := ⟨.start, .start .empty {}⟩
    let since : List (FormAction MemoryDrafts) :=
      [.updateNow (.singleton "age" (.text "old")), .applyConfig form, .update (.singleton "bio" (.text "Ada"))]
    let session := (start.run (.selectTemplate "t" :: since)).session
    let recovered := (session.selectTemplate "t").applyConfig 7 form
    start.session.drafts.working = true ∧ form.Accepted ∧ (∀ action ∈ since, action.StaysWith form) ∧
      session.config = some form ∧ session.hasPendingWrites = true ∧
      recovered.answers = session.effectiveAnswers ∧ recovered.queue = .idle := by
  intro form start since session recovered
  have hworks : start.session.drafts.working = true := rfl
  have haccepted : form.Accepted := TemplateConfig.accepted_simple (by decide)
  have hsince : ∀ action ∈ since, action.StaysWith form := by simp [since, FormAction.StaysWith]
  have hconfig : session.config = some form := rfl
  exact ⟨hworks, haccepted, hsince, hconfig, rfl,
    answers_recovered_of_run start hworks "t" form haccepted since hsince hconfig 7⟩

end TimedForm

end SiteBuilder
