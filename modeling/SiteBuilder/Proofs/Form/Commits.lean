import SiteBuilder.Proofs.Drafts.Faithful
import SiteBuilder.Proofs.Form.Coalescing

/-!
# What is committed and saved

Every action commits one batch, which may be empty: writes at once and flushes commit the queue, and so does
leaving a template for another one. Apart from a reset, answers change and drafts are saved by these commits
alone. A draft that is saved holds all committed answers, not just the batch.
-/

namespace SiteBuilder

variable {σ : Type}

namespace FormSession

/-- The batch that an action commits. -/
def committed (session : FormSession σ) (now : Nat) : FormAction σ → AnswerSet
  | .updateNow batch =>
    match coerceAll session.config batch with
    | .ok typed => session.queued.overlay typed
    | .error _ => ∅
  | .flushDue => (session.queue.poll now).1.getD ∅
  | .flushNow | .submit | .selectTemplate _ => session.queued
  | _ => ∅

variable [DraftStore σ]

/-- A batch is saved in the draft of a template when it is committed. -/
def Saves (session : FormSession σ) (id : String) (batch : AnswerSet) : Prop :=
  session.templateId = some id ∧ batch.isEmpty = false ∧
    (DraftStore.save session.drafts id (session.answers.overlay batch)).1 = .ok ()

/-- A flush that waits for the due time commits what is due. -/
theorem flushDue_eq_commit (session : FormSession σ) (now : Nat) :
    (session.flushDue now).2 =
      { session with queue := (session.queue.poll now).2 }.commit ((session.queue.poll now).1.getD ∅) := by
  unfold flushDue
  cases session.queue.poll now with
  | mk due queue => cases due <;> rfl

/-- What a commit saves has nothing to do with the queue and the known problems. -/
theorem drafts_commit_withQueue (session : FormSession σ) (queue : Timer AnswerSet) (errors : ValidationErrors)
    (batch : AnswerSet) : ({ session with queue, errors }.commit batch).drafts = (session.commit batch).drafts := by
  unfold commit
  split <;> rfl

section Held

variable {held : σ → String → Option AnswerSet} {session : FormSession σ} {id : String} {batch : AnswerSet}

/-- A batch that is saved is saved with all answers before it. -/
theorem held_commit_of_saves (hstore : DraftStore.Faithful held) (h : session.Saves id batch) :
    held (session.commit batch).drafts id = some (session.answers.overlay batch) := by
  obtain ⟨htemplate, hbatch, hsave⟩ := h
  unfold commit
  simp only [hbatch, Bool.false_eq_true, ↓reduceIte, htemplate]
  exact hstore.saved _ _ _ hsave

/-- A batch that is not saved leaves the draft alone. -/
theorem held_commit_of_not_saves (hstore : DraftStore.Faithful held) (h : ¬session.Saves id batch) :
    held (session.commit batch).drafts id = held session.drafts id := by
  unfold commit
  split
  · rfl
  · next hbatch =>
    cases htemplate : session.templateId with
    | none => rfl
    | some other =>
      dsimp only
      by_cases hid : id = other
      · subst hid
        exact hstore.unsaved _ _ _ fun hsave => h ⟨htemplate, by simpa using hbatch, hsave⟩
      · exact hstore.save_other _ _ _ _ hid

end Held

end FormSession

namespace TimedForm

variable [DraftStore σ]

/-- Apart from a reset and changes from outside, drafts change by commits. -/
theorem drafts_step (state : TimedForm σ) (action : FormAction σ) :
    (state.step action).2.session.drafts =
      match action with
      | .resetForm => state.session.resetForm.drafts
      | .changeDrafts drafts => drafts
      | action => (state.session.commit (state.session.committed state.clock.now action)).drafts := by
  have hflush : state.session.flushNow.2.drafts = (state.session.commit state.session.queued).drafts := by
    rw [FormSession.flushNow_eq]
    exact state.session.drafts_commit_withQueue .idle state.session.errors _
  cases action with
  | update batch =>
    simp only [step, FormSession.update]
    split <;> rfl
  | updateNow batch =>
    simp only [step, FormSession.updateNow, FormSession.committed]
    cases coerceAll state.session.config batch with
    | ok typed => exact state.session.drafts_commit_withQueue _ _ _
    | error mismatch => rfl
  | flushDue =>
    simp only [step, FormSession.flushDue_eq_commit]
    exact state.session.drafts_commit_withQueue _ state.session.errors _
  | flushNow => exact hflush
  | submit => exact hflush
  | selectTemplate id => exact hflush
  | validateStep id => exact congrArg FormSession.Contents.drafts (state.session.contents_validateStep id)
  | advanceStep => exact congrArg FormSession.Contents.drafts state.session.contents_advanceStep
  | retreatStep => exact congrArg FormSession.Contents.drafts state.session.contents_retreatStep
  | goToStep position => exact congrArg FormSession.Contents.drafts (state.session.contents_goToStep position)
  | _ => rfl

/-- An action that keeps the template and the form changes the drafts by what it commits. -/
theorem drafts_step_editing (state : TimedForm σ) {action : FormAction σ} (haction : action.Editing) :
    (state.step action).2.session.drafts =
      (state.session.commit (state.session.committed state.clock.now action)).drafts := by
  rw [drafts_step]
  cases action with
  | resetForm | changeDrafts => exact haction.elim
  | _ => rfl

/-- An action that saves a batch changes the drafts by it. -/
theorem drafts_step_of_saves {state : TimedForm σ} {action : FormAction σ} {id : String}
    (h : state.session.Saves id (state.session.committed state.clock.now action)) :
    (state.step action).2.session.drafts =
      (state.session.commit (state.session.committed state.clock.now action)).drafts := by
  rw [drafts_step]
  cases action with
  | resetForm | changeDrafts => exact Bool.noConfusion h.2.1
  | _ => rfl

/-- An action that keeps the template and the form changes the answers by what it commits. -/
theorem answers_step (state : TimedForm σ) {action : FormAction σ} (haction : action.Editing) :
    (state.step action).2.session.answers =
      state.session.answers.overlay (state.session.committed state.clock.now action) := by
  have hflush : state.session.flushNow.2.answers = state.session.answers.overlay state.session.queued := by
    rw [FormSession.answers_flushNow, FormSession.effectiveAnswers_eq]
  cases action with
  | selectTemplate | applyConfig | resetForm | clearTemplate | changeDrafts => exact haction.elim
  | update batch =>
    simp only [step, FormSession.update]
    split <;> rfl
  | updateNow batch =>
    simp only [step, FormSession.updateNow, FormSession.committed]
    cases coerceAll state.session.config batch with
    | ok typed => exact FormSession.answers_commit _ _
    | error mismatch => rfl
  | flushDue =>
    simp only [step, FormSession.flushDue_eq_commit]
    exact FormSession.answers_commit _ _
  | flushNow => exact hflush
  | submit => exact hflush
  | validateStep id => exact congrArg FormSession.Contents.answers (state.session.contents_validateStep id)
  | advanceStep => exact congrArg FormSession.Contents.answers state.session.contents_advanceStep
  | retreatStep => exact congrArg FormSession.Contents.answers state.session.contents_retreatStep
  | goToStep position => exact congrArg FormSession.Contents.answers (state.session.contents_goToStep position)
  | _ => rfl

/-- An action that keeps the template and the form does so. -/
theorem selection_step (state : TimedForm σ) {action : FormAction σ} (haction : action.Editing) :
    (state.step action).2.session.selection = state.session.selection := by
  have hkeep {after : FormSession σ} (hcontents : after.contents = state.session.contents) :
      after.selection = state.session.selection :=
    congrArg (fun contents => (contents.templateId, contents.config)) hcontents
  cases action with
  | selectTemplate | applyConfig | resetForm | clearTemplate | changeDrafts => exact haction.elim
  | update batch => exact state.session.selection_update state.clock.now batch
  | updateNow batch => exact state.session.selection_updateNow batch
  | flushDue =>
    rcases state.session.flushDue_eq state.clock.now with hflush | hflush
    · simp only [step, hflush]
      exact state.session.selection_flushNow
    · simp only [step, hflush]
  | flushNow => exact state.session.selection_flushNow
  | submit => exact state.session.selection_flushNow
  | validateStep id => exact hkeep (state.session.contents_validateStep id)
  | advanceStep => exact hkeep state.session.contents_advanceStep
  | retreatStep => exact hkeep state.session.contents_retreatStep
  | goToStep position => exact hkeep (state.session.contents_goToStep position)
  | _ => rfl

end TimedForm

end SiteBuilder
