import SiteBuilder.Proofs.Form.Advance
import SiteBuilder.Proofs.Form.Commits
import SiteBuilder.Proofs.Form.Submission

/-!
# Where a session can be

A session is always at a position of its form, and at the first one as long as it has no form. Its position moves by
one at a time when it goes on or back, anywhere in the form when it is told to go to a step, and to a step that is
still there when a form with fewer steps is taken up. Forms need not be accepted for that: one without any step keeps
the session at the first position.
-/

namespace SiteBuilder

/-- The actions that may move a session to another position. -/
def FormAction.MayMove {σ : Type} : FormAction σ → Prop
  | .advanceStep | .retreatStep | .goToStep _ | .selectTemplate _ | .clearTemplate | .applyConfig _ => True
  | _ => False

/-- The number of steps of the form after an action. -/
def FormAction.stepsAfter {σ : Type} (count : Nat) : FormAction σ → Nat
  | .selectTemplate _ | .clearTemplate => 0
  | .applyConfig config => config.stepCount
  | _ => count

/-- An action that leaves the position alone leaves the form alone. -/
theorem FormAction.stepsAfter_of_not_mayMove {σ : Type} {action : FormAction σ} (count : Nat) (h : ¬action.MayMove) :
    action.stepsAfter count = count := by
  cases action with
  | selectTemplate | clearTemplate | applyConfig => exact absurd trivial h
  | _ => rfl

namespace FormSession

variable {σ : Type}

/-- What an action hands back, and the position that it leads to. -/
inductive Moves (session : FormSession σ) : FormAction σ → FormReply → Nat → Prop
  /-- Going on leads to the next step. -/
  | forward (h : session.position < session.stepCount) :
    Moves session .advanceStep (.stepped (.moved (session.position + 1))) (session.position + 1)
  /-- Problems are in the way of the next step. -/
  | blocked (problems : ValidationErrors) (h : session.position < session.stepCount) :
    Moves session .advanceStep (.stepped (.blocked problems)) session.position
  /-- There is no next step. -/
  | atEnd (h : session.stepCount ≤ session.position) :
    Moves session .advanceStep (.stepped .atBoundary) session.position
  /-- Going back leads to the step before. -/
  | back (h : 1 < session.position) :
    Moves session .retreatStep (.stepped (.moved (session.position - 1))) (session.position - 1)
  /-- There is no step before. -/
  | atStart (h : session.position ≤ 1) : Moves session .retreatStep (.stepped .atBoundary) session.position
  /-- Any step that there is can be gone to. -/
  | jump (target : Nat) (h : 1 ≤ target ∧ target ≤ session.stepCount) :
    Moves session (.goToStep target) (.placed true) target
  /-- Other steps cannot be gone to. -/
  | noStep (target : Nat) (h : ¬(1 ≤ target ∧ target ≤ session.stepCount)) :
    Moves session (.goToStep target) (.placed false) session.position
  /-- A template is started on at its first step. -/
  | select (id : String) : Moves session (.selectTemplate id) .done 1
  /-- Without a template, there is only the first position. -/
  | clear : Moves session .clearTemplate .done 1
  /-- A form with fewer steps brings the session to its last one. -/
  | clamp (config : TemplateConfig) :
    Moves session (.applyConfig config) .done (min session.position (max config.stepCount 1))
  /-- All else leaves the position alone. -/
  | stay (action : FormAction σ) (reply : FormReply) (h : ¬action.MayMove) : Moves session action reply session.position

/-- The position is one of the form that is loaded, and the first one if there is no form, or none with steps. -/
structure InForm (session : FormSession σ) : Prop where
  first : 1 ≤ session.position
  last : session.position ≤ max session.stepCount 1

/-! ## The position -/

variable {session : FormSession σ}

/-- Looking for problems in a step leaves the position alone. -/
theorem position_validateStep (session : FormSession σ) (id : String) :
    (session.validateStep id).2.position = session.position := by
  unfold validateStep
  split <;> rfl

/-- At a position before the last step, there is a step. -/
theorem exists_currentStep? (hfirst : 1 ≤ session.position) (hlast : session.position ≤ session.stepCount) :
    ∃ step, session.currentStep? = some step := by
  cases hconfig : session.config with
  | none =>
    rw [stepCount, hconfig] at hlast
    exact absurd (Nat.le_trans hfirst hlast) (Nat.not_succ_le_zero 0)
  | some config =>
    rw [stepCount, hconfig] at hlast
    have hindex : session.position - 1 < config.steps.length := by
      have hcount : session.position ≤ config.steps.length := hlast
      omega
    refine ⟨config.steps[session.position - 1], ?_⟩
    rw [currentStep?, hconfig, Option.bind_some, TemplateConfig.stepAt?, if_neg (by omega)]
    exact List.getElem?_eq_getElem hindex

/-- Going on leads one step further, or nowhere. -/
theorem moves_advanceStep (hfirst : 1 ≤ session.position) :
    session.Moves .advanceStep (.stepped session.advanceStep.1) session.advanceStep.2.position := by
  unfold advanceStep
  split
  · next hend => exact .atEnd hend
  · next hbefore =>
    have hlast : session.position < session.stepCount := Nat.lt_of_not_le hbefore
    obtain ⟨step, hstep⟩ := exists_currentStep? hfirst (Nat.le_of_lt hlast)
    rw [hstep]
    dsimp only
    have hstays := session.position_validateStep step.id
    split
    · rw [hstays]
      exact .forward hlast
    · rw [hstays]
      exact .blocked _ hlast

/-- Going back leads one step back, or nowhere. -/
theorem moves_retreatStep (session : FormSession σ) :
    session.Moves .retreatStep (.stepped session.retreatStep.1) session.retreatStep.2.position := by
  unfold retreatStep
  split
  · next hstart => exact .atStart hstart
  · next hlater => exact .back (Nat.lt_of_not_le hlater)

/-- Going to a step leads there if it exists. -/
theorem moves_goToStep (session : FormSession σ) (target : Nat) :
    session.Moves (.goToStep target) (.placed (session.goToStep target).1) (session.goToStep target).2.position := by
  unfold goToStep
  split
  · next hthere => exact .jump target hthere
  · next hmissing => exact .noStep target hmissing

/-- Moving leads to a position of the form that is loaded then. -/
theorem Moves.inForm {after : FormSession σ} {action : FormAction σ} {reply : FormReply}
    (hmoves : session.Moves action reply after.position)
    (hcount : after.stepCount = action.stepsAfter session.stepCount) (h : session.InForm) : after.InForm := by
  obtain ⟨hfirst, hlast⟩ := h
  suffices hbounds : 1 ≤ after.position ∧ after.position ≤ max (action.stepsAfter session.stepCount) 1 by
    rw [← hcount] at hbounds
    exact ⟨hbounds.1, hbounds.2⟩
  generalize after.position = position at hmoves
  cases hmoves with
  | select | clear => exact ⟨Nat.le_refl 1, Nat.le_max_right _ 1⟩
  | clamp config => exact ⟨Nat.le_min.mpr ⟨hfirst, Nat.le_max_right _ 1⟩, Nat.min_le_right _ _⟩
  | stay action reply hstay =>
    rw [FormAction.stepsAfter_of_not_mayMove _ hstay]
    exact ⟨hfirst, hlast⟩
  | forward hbefore | blocked problems hbefore | atEnd hend | back hlater | atStart hstart | jump target hthere
  | noStep target hmissing => dsimp only [FormAction.stepsAfter]; omega

end FormSession

namespace TimedForm

variable {σ : Type} [DraftStore σ]

/-- Only some actions move a session. -/
theorem position_step_of_not_mayMove (state : TimedForm σ) {action : FormAction σ} (haction : ¬action.MayMove) :
    (state.step action).2.session.position = state.session.position := by
  have hflush : state.session.flushNow.2.position = state.session.position :=
    congrArg FormSession.Progress.position state.session.progress_flushNow
  cases action with
  | advanceStep | retreatStep | goToStep | selectTemplate | clearTemplate | applyConfig => exact absurd trivial haction
  | update batch =>
    simp only [step, FormSession.update]
    split <;> rfl
  | updateNow batch =>
    simp only [step, FormSession.updateNow]
    split
    · exact congrArg FormSession.Progress.position (FormSession.progress_commit _ _)
    · rfl
  | flushDue =>
    rcases state.session.flushDue_eq state.clock.now with h | h
    · simp only [step, h]
      exact hflush
    · simp only [step, h]
  | flushNow => exact hflush
  | submit => exact hflush
  | validateStep id => exact state.session.position_validateStep id
  | resetForm | validateAll | touch | register | advanceClock | changeDrafts => rfl

/-- Every action moves a session as it should. -/
theorem moves_step (state : TimedForm σ) (action : FormAction σ) (h : 1 ≤ state.session.position) :
    state.session.Moves action (state.step action).1 (state.step action).2.session.position := by
  by_cases haction : action.MayMove
  · cases action with
    | advanceStep => exact FormSession.moves_advanceStep h
    | retreatStep => exact state.session.moves_retreatStep
    | goToStep target => exact state.session.moves_goToStep target
    | selectTemplate id => exact .select id
    | clearTemplate => exact .clear
    | applyConfig config =>
      have hclamped : (state.session.applyConfig state.clock.now config).position =
          min state.session.position (max config.stepCount 1) := by
        rw [FormSession.applyConfig, Nat.max_eq_left h]
      simp only [step, hclamped]
      exact .clamp config
    | _ => exact haction.elim
  · rw [position_step_of_not_mayMove state haction]
    exact .stay _ _ haction

/-- The number of steps changes with the form alone. -/
theorem stepCount_step (state : TimedForm σ) (action : FormAction σ) :
    (state.step action).2.session.stepCount = action.stepsAfter state.session.stepCount := by
  have hkeep (hediting : action.Editing) : (state.step action).2.session.stepCount = state.session.stepCount := by
    have hconfig : (state.step action).2.session.config = state.session.config :=
      congrArg Prod.snd (state.selection_step hediting)
    rw [FormSession.stepCount, hconfig]
    rfl
  cases action with
  | selectTemplate | clearTemplate | applyConfig | resetForm | changeDrafts => rfl
  | _ => exact hkeep trivial

/-- Every action keeps a session in its form. -/
theorem inForm_step (state : TimedForm σ) (action : FormAction σ) (h : state.session.InForm) :
    (state.step action).2.session.InForm :=
  (state.moves_step action h.first).inForm (state.stepCount_step action) h

/-- In every state that a new session with any rules comes to, whatever forms it has taken up, the position is that of
a step: the first position without a form, and one of an accepted form. Every action moves it as it should. -/
theorem position_in_form_of_run (clock : Clock) (drafts : σ) (settings : FormSettings) (predicates : Predicates)
    (actions : List (FormAction σ)) :
    let state := run ⟨clock, { FormSession.start drafts settings with predicates }⟩ actions
    1 ≤ state.session.position ∧ (state.session.config = none → state.session.position = 1) ∧
      (∀ config, state.session.config = some config → config.Accepted →
        state.session.position ≤ config.stepCount ∧ ∃ step, state.session.currentStep? = some step) ∧
      ∀ action, state.session.Moves action (state.step action).1 (state.step action).2.session.position := by
  intro state
  have hstart : { FormSession.start drafts settings with predicates }.InForm := ⟨Nat.le_refl 1, Nat.le_refl 1⟩
  have hin : state.session.InForm :=
    run_induction (fun state action _ => state.inForm_step action) hstart fun _ _ => trivial
  refine ⟨hin.first, fun hconfig => ?_, fun config hconfig haccepted => ?_, fun action => ?_⟩
  · have hlast : state.session.position ≤ 1 := by
      have h := hin.last
      rwa [FormSession.stepCount, hconfig] at h
    exact Nat.le_antisymm hlast hin.first
  · have hcount : state.session.stepCount = config.stepCount := by rw [FormSession.stepCount, hconfig]
    have hlast : state.session.position ≤ state.session.stepCount := by
      have hsteps := haccepted.checked.1
      have h := hin.last
      omega
    exact ⟨hcount ▸ hlast, FormSession.exists_currentStep? hin.first hlast⟩
  · exact state.moves_step action hin.first

/-- A session at the third step of a form is at the second step of a form with two, and cannot go on from there. -/
theorem position_in_form_of_shorter_form :
    let state := run ⟨.start, .start (.empty : MemoryDrafts) {}⟩
      [.applyConfig clashingForm, .goToStep 3, .applyConfig twoStepForm]
    state.session.config = some twoStepForm ∧ twoStepForm.Accepted ∧ state.session.position ≤ twoStepForm.stepCount ∧
      (∃ step, state.session.currentStep? = some step) ∧ state.session.position = 2 ∧
      state.session.Moves .advanceStep (.stepped .atBoundary) 2 := by
  intro state
  have hconfig : state.session.config = some twoStepForm := rfl
  obtain ⟨-, -, hin, hmoves⟩ := position_in_form_of_run .start (.empty : MemoryDrafts) {} .builtIn
    [.applyConfig clashingForm, .goToStep 3, .applyConfig twoStepForm]
  obtain ⟨hlast, hstep⟩ := hin twoStepForm hconfig accepted_twoStepForm
  exact ⟨hconfig, accepted_twoStepForm, hlast, hstep, rfl, hmoves .advanceStep⟩

end TimedForm

end SiteBuilder
