import SiteBuilder.Proofs.Form.Typing
import SiteBuilder.Proofs.Studio.Run

/-!
# The form of a studio

Whatever happens to a studio happens to its form as an action of the form, or does not concern it. What
runs of a form keep is therefore kept by the form of a studio.
-/

namespace SiteBuilder

namespace Studio

variable {σ : Type}

/-- Whether an export gets as far as submitting the form. -/
def exports (studio : Studio σ) : Bool :=
  studio.form.templateId.isSome && studio.files.isSome && studio.form.config.isSome

/-- An export that submits the form tells the preview the answers if the form was changed by it. -/
theorem exportBundle_eq [DraftStore σ] (studio : Studio σ) (now : Nat) :
    (studio.exportBundle now).2 =
      if studio.exports then
        if studio.form.submit.2.revision ≠ studio.form.revision then
          { studio with form := studio.form.submit.2 }.answersChanged now
        else { studio with form := studio.form.submit.2 }
      else studio := by
  unfold exportBundle exports
  cases htemplate : studio.form.templateId with
  | none => rfl
  | some template =>
    cases hfiles : studio.files with
    | none => rfl
    | some files =>
      cases hconfig : studio.form.config with
      | none => rfl
      | some config =>
        simp only [Option.isNone_some, Bool.false_eq_true, ↓reduceIte, Option.isSome_some, Bool.and_self,
          bne_iff_ne]
        cases studio.form.submit.1 <;> rfl

end Studio

namespace TimedStudio

variable {σ : Type}

/-- The form of a studio and the clock it goes by. -/
def timedForm (state : TimedStudio σ) : TimedForm σ := ⟨state.clock, state.studio.form⟩

/-- What an action of the studio is to its form. -/
def formAction? (state : TimedStudio σ) : StudioAction σ → Option (FormAction σ)
  | .selectTemplate id => some (.selectTemplate id)
  | .contentLoaded id content =>
    if state.studio.form.templateId = some id then some (.applyConfig content.config) else none
  | .update batch => some (.update batch)
  | .updateNow batch => some (.updateNow batch)
  | .resetForm => some .resetForm
  | .tick => some .flushDue
  | .exportBundle => if state.studio.exports then some .submit else none
  | .targetLoaded _ => none
  | .retry => none
  | .changeRefusal _ => none
  | .advanceClock span => some (.advanceClock span)
  | .changeDrafts drafts => some (.changeDrafts drafts)

/-- Every form that arrives is an accepted one. -/
def Accepts : StudioAction σ → Prop
  | .contentLoaded _ content => content.config.Accepted
  | _ => True

/-- A form that the studio accepts is one that the form session accepts. -/
theorem accepted_formAction {state : TimedStudio σ} {action : StudioAction σ} {formAction : FormAction σ}
    (haction : Accepts action) (hfound : state.formAction? action = some formAction) : formAction.Accepted := by
  cases action with
  | contentLoaded id content =>
    rw [formAction?] at hfound
    split at hfound
    · cases hfound
      exact haction
    · cases hfound
  | exportBundle =>
    rw [formAction?] at hfound
    split at hfound
    · cases hfound
      trivial
    · cases hfound
  | _ => cases hfound <;> trivial

variable [DraftStore σ]

/-- The form does what an action is to it, and nothing if it is nothing to it. -/
theorem timedForm_step (state : TimedStudio σ) (action : StudioAction σ) :
    (state.step action).timedForm =
      match state.formAction? action with
      | some formAction => (state.timedForm.step formAction).2
      | none => state.timedForm := by
  cases action with
  | contentLoaded id content =>
    by_cases hselected : state.studio.form.templateId = some id
    · simp only [formAction?, step, Studio.contentLoaded, if_pos hselected]
      rfl
    · simp only [formAction?, step, Studio.contentLoaded, if_neg hselected]
  | updateNow batch =>
    simp only [formAction?, step, Studio.updateNow, timedForm, TimedForm.step]
    cases hwritten : state.studio.form.updateNow batch with
    | mk result form => cases result <;> rfl
  | tick =>
    simp only [formAction?, step, Studio.tick, timedForm, TimedForm.step]
    cases hflush : state.studio.form.flushDue state.clock.now with
    | mk flushed form => cases flushed <;> rfl
  | exportBundle =>
    rw [formAction?, step, Studio.exportBundle_eq]
    by_cases hexports : state.studio.exports
    · rw [if_pos hexports, if_pos hexports]
      split <;> rfl
    · rw [if_neg hexports, if_neg hexports]
  | _ => rfl

/-- Whether an action is about which template is open and what it contains. -/
def Loads : StudioAction σ → Prop
  | .selectTemplate _ => True
  | .contentLoaded _ _ => True
  | _ => False

/-- All other actions keep the template, its form and its files. -/
theorem kept_step {state : TimedStudio σ} {action : StudioAction σ} (haction : ¬Loads action) :
    (state.step action).studio.files = state.studio.files ∧
      (state.step action).studio.form.selection = state.studio.form.selection := by
  cases action with
  | selectTemplate id => exact absurd trivial haction
  | contentLoaded id content => exact absurd trivial haction
  | update batch => exact ⟨rfl, state.studio.form.selection_update state.clock.now batch⟩
  | updateNow batch =>
    have hselection := state.studio.form.selection_updateNow batch
    simp only [step, Studio.updateNow]
    cases hwritten : state.studio.form.updateNow batch with
    | mk result form =>
      rw [hwritten] at hselection
      cases result <;> exact ⟨rfl, hselection⟩
  | tick =>
    rcases state.studio.form.flushDue_eq state.clock.now with hflush | hflush
    · rw [step, Studio.tick, hflush]
      exact ⟨rfl, state.studio.form.selection_flushNow⟩
    · rw [step, Studio.tick, hflush]
      exact ⟨rfl, rfl⟩
  | exportBundle =>
    rw [step, Studio.exportBundle_eq]
    by_cases hexports : state.studio.exports
    · rw [if_pos hexports]
      split <;> exact ⟨rfl, state.studio.form.selection_flushNow⟩
    · rw [if_neg hexports]
      exact ⟨rfl, rfl⟩
  | _ => exact ⟨rfl, rfl⟩

/-- While accepted forms arrive, the form of a studio stays well typed. -/
theorem wellTyped_form_step {state : TimedStudio σ} {action : StudioAction σ} (haction : Accepts action)
    (h : state.studio.form.WellTyped) : (state.step action).studio.form.WellTyped := by
  have hform : (state.step action).studio.form = (state.step action).timedForm.session := rfl
  rw [hform, timedForm_step]
  cases hfound : state.formAction? action with
  | none => exact h
  | some formAction =>
    exact TimedForm.wellTyped_step state.timedForm formAction (accepted_formAction haction hfound) h

end TimedStudio

end SiteBuilder
