import SiteBuilder.Proofs.Form.Problems
import SiteBuilder.Proofs.Form.Run
import SiteBuilder.Proofs.Form.Writes

/-!
# Going on to the next step

A session of an accepted form is always at one of its steps. A request to go on is decided by the fields
of a step: the position rises by one if none of them has a problem, and otherwise their problems are
handed back and the position stays. The step whose fields decide is looked up by the identifier of the
current step. It is the current step itself if no earlier step has that identifier, and otherwise the
first step that has it, whose problems may be others.
-/

namespace SiteBuilder

namespace FormSession

variable {σ : Type}

/-! ## The position -/

/-- While a form is loaded, it is an accepted one and the position is that of one of its steps. -/
def AtStep (session : FormSession σ) : Prop :=
  ∀ config, session.config = some config →
    config.Accepted ∧ 1 ≤ session.position ∧ session.position ≤ config.stepCount

/-- A session without a form is at no step. -/
theorem atStep_of_config_none {session : FormSession σ} (h : session.config = none) : session.AtStep := by
  intro config hconfig
  rw [h] at hconfig
  cases hconfig

/-- Whether a session is at a step depends on its form and its position alone. -/
theorem AtStep.congr {session other : FormSession σ} (h : session.AtStep)
    (hconfig : other.config = session.config) (hposition : other.position = session.position) :
    other.AtStep := by
  unfold AtStep
  rw [hconfig, hposition]
  exact h

/-- Taking up an accepted form brings the position to one of its steps. -/
theorem atStep_applyConfig (session : FormSession σ) (now : Nat) {config : TemplateConfig}
    (haccepted : config.Accepted) : (session.applyConfig now config).AtStep := by
  intro config' hconfig
  obtain rfl : config = config' := Option.some.inj hconfig
  have hsteps := haccepted.checked.1
  have hposition : (session.applyConfig now config).position =
      min (max session.position 1) (max config.stepCount 1) := rfl
  refine ⟨haccepted, ?_, ?_⟩ <;> omega

/-- Queueing writes leaves a session where it is. -/
theorem AtStep.update {session : FormSession σ} (h : session.AtStep) (now : Nat) (batch : AnswerSet) :
    (session.update now batch).2.AtStep := by
  unfold FormSession.update
  split <;> exact h.congr rfl rfl

/-- Looking for problems in a step leaves a session where it is. -/
theorem AtStep.validateStep {session : FormSession σ} (h : session.AtStep) (id : String) :
    (session.validateStep id).2.AtStep := by
  unfold FormSession.validateStep
  split <;> exact h.congr rfl rfl

section Stored

variable [DraftStore σ] {session : FormSession σ}

/-- Committing a batch leaves a session where it is. -/
theorem AtStep.commit (h : session.AtStep) (batch : AnswerSet) : (session.commit batch).AtStep :=
  h.congr (config_commit session batch) (congrArg Progress.position (progress_commit session batch))

/-- Flushing leaves a session where it is. -/
theorem AtStep.flushNow (h : session.AtStep) : session.flushNow.2.AtStep := by
  rw [flushNow_eq]
  have hidle : { session with queue := .idle }.AtStep := h.congr rfl rfl
  exact hidle.commit session.queued

/-- A flush that waits for the due time leaves a session where it is. -/
theorem AtStep.flushDue (h : session.AtStep) (now : Nat) : (session.flushDue now).2.AtStep := by
  rcases session.flushDue_eq now with hflush | hflush
  · rw [hflush]
    exact h.flushNow
  · rw [hflush]
    exact h

/-- Writes that are committed at once leave a session where it is. -/
theorem AtStep.updateNow (h : session.AtStep) (batch : AnswerSet) : (session.updateNow batch).2.AtStep := by
  unfold FormSession.updateNow
  split
  · next typed _ =>
    have hidle : { session with queue := .idle, errors := withoutErrorsOf session.errors typed }.AtStep :=
      h.congr rfl rfl
    exact hidle.commit _
  · exact h

end Stored

/-- Going to a step that exists leads to a step. -/
theorem AtStep.goToStep {session : FormSession σ} (h : session.AtStep) (position : Nat) :
    (session.goToStep position).2.AtStep := by
  unfold FormSession.goToStep
  split
  · next hrange =>
    intro config hconfig
    have hloaded : session.config = some config := hconfig
    rw [stepCount, hloaded] at hrange
    exact ⟨(h config hloaded).1, hrange⟩
  · exact h

/-- Going back leads to a step. -/
theorem AtStep.retreatStep {session : FormSession σ} (h : session.AtStep) : session.retreatStep.2.AtStep := by
  unfold FormSession.retreatStep
  split
  · exact h
  · next hlater =>
    intro config hconfig
    obtain ⟨haccepted, -, hlast⟩ := h config hconfig
    refine ⟨haccepted, ?_, ?_⟩ <;> dsimp only <;> omega

/-! ## What going on does -/

/-- A session with a form is at a step, and a step is found by the identifier of that step. -/
theorem AtStep.exists_steps {session : FormSession σ} (h : session.AtStep) {config : TemplateConfig}
    (hconfig : session.config = some config) :
    ∃ step checked, session.currentStep? = some step ∧ step ∈ config.steps ∧
      config.step? step.id = some checked ∧ checked ∈ config.steps := by
  obtain ⟨-, hfirst, hlast⟩ := h config hconfig
  have hindex : session.position - 1 < config.steps.length := by
    unfold TemplateConfig.stepCount at hlast
    omega
  let step := config.steps[session.position - 1]
  have hstep : step ∈ config.steps := List.getElem_mem hindex
  have hcurrent : session.currentStep? = some step := by
    rw [currentStep?, hconfig, Option.bind_some, TemplateConfig.stepAt?, if_neg (by omega)]
    exact List.getElem?_eq_getElem hindex
  cases hfound : config.step? step.id with
  | none => exact absurd (BEq.refl step.id) (List.find?_eq_none.mp hfound step hstep)
  | some checked => exact ⟨step, checked, hcurrent, hstep, hfound, List.mem_of_find?_eq_some hfound⟩

/-- The problems of the answers to a step, as the session would show them now. -/
def problemsIn (session : FormSession σ) (step : Step) : ValidationErrors :=
  step.problems session.effectiveAnswers session.predicates

/-- What is wrong with the answer to a field now. -/
def problemAt? (session : FormSession σ) (field : Field) : Option String :=
  field.problem? (session.effectiveAnswers.get? field.name) session.predicates

/-- A request to go on stays at the last step, and elsewhere goes by the problems of the step that is found
by the identifier of the current one. -/
theorem AtStep.advanceStep_eq {session : FormSession σ} (h : session.AtStep) {config : TemplateConfig}
    (hconfig : session.config = some config) {step checked : Step} (hcurrent : session.currentStep? = some step)
    (hchecked : config.step? step.id = some checked) :
    session.advanceStep =
      if session.position = config.stepCount then (.atBoundary, session)
      else
        let errors := recordProblems (session.problemsIn checked) checked.fields session.errors
        if session.problemsIn checked = ∅ then
          (.moved (session.position + 1), { session with errors, position := session.position + 1 })
        else (.blocked (session.problemsIn checked), { session with errors }) := by
  obtain ⟨-, -, hlast⟩ := h config hconfig
  have hcount : session.stepCount = config.stepCount := by rw [stepCount, hconfig]
  have hvalidate : session.validateStep step.id = (session.problemsIn checked,
      { session with errors := recordProblems (session.problemsIn checked) checked.fields session.errors }) := by
    rw [FormSession.validateStep, hconfig, Option.bind_some, hchecked]
    rfl
  unfold FormSession.advanceStep
  rw [hcount, hcurrent]
  dsimp only
  rw [hvalidate]
  by_cases hend : session.position = config.stepCount
  · rw [if_pos hend, if_pos (Nat.le_of_eq hend.symm)]
  · rw [if_neg hend, if_neg (by omega)]
    simp only [NameMap.isEmpty_iff]

/-- Going on leads to a step. -/
theorem AtStep.advanceStep {session : FormSession σ} (h : session.AtStep) : session.advanceStep.2.AtStep := by
  intro config hafter
  have hconfig : session.config = some config :=
    (congrArg Contents.config session.contents_advanceStep).symm.trans hafter
  obtain ⟨haccepted, hfirst, hlast⟩ := h config hconfig
  obtain ⟨step, checked, hcurrent, -, hchecked, -⟩ := h.exists_steps hconfig
  rw [h.advanceStep_eq hconfig hcurrent hchecked]
  refine ⟨haccepted, ?_⟩
  split
  · exact ⟨hfirst, hlast⟩
  · split
    · dsimp only
      omega
    · exact ⟨hfirst, hlast⟩

/-- The fields of a step decide what a request to go on comes to: at the last step nothing happens, and
elsewhere the position rises by one if no field of the step has a problem, and otherwise their problems are
handed back and the position stays. -/
def DecidedBy (session : FormSession σ) (step : Step) : Prop :=
  match session.advanceStep with
  | (.atBoundary, after) => session.position = session.stepCount ∧ after = session
  | (.moved position, after) =>
    position = session.position + 1 ∧ after.position = position ∧
      ∀ field ∈ step.fields, session.problemAt? field = none
  | (.blocked problems, after) =>
    after.position = session.position ∧ problems ≠ ∅ ∧
      ∀ name message, problems.get? name = some message ↔
        ∃ field ∈ step.fields, field.name = name ∧ session.problemAt? field = some message

/-- The steps that decide are those with the problems of the step that is found by the identifier. -/
theorem AtStep.decidedBy_iff {session : FormSession σ} (h : session.AtStep) {config : TemplateConfig}
    (hconfig : session.config = some config) {step checked other : Step}
    (hcurrent : session.currentStep? = some step) (hchecked : config.step? step.id = some checked)
    (hother : other ∈ config.steps) :
    session.DecidedBy other ↔
      session.position = config.stepCount ∨ session.problemsIn other = session.problemsIn checked := by
  have hcount : session.stepCount = config.stepCount := by rw [stepCount, hconfig]
  have hnames := (h config hconfig).1.nodup_step_names hother
  unfold DecidedBy
  rw [h.advanceStep_eq hconfig hcurrent hchecked]
  by_cases hend : session.position = config.stepCount
  · simp [hend, hcount]
  rw [if_neg hend]
  by_cases hpass : session.problemsIn checked = ∅
  · have hnone : session.problemsIn other = ∅ ↔ ∀ field ∈ other.fields, session.problemAt? field = none :=
      problemsOf_eq_empty_iff
    simp [hend, hpass, hnone]
  · have hsome (name message : String) : (session.problemsIn other).get? name = some message ↔
        ∃ field ∈ other.fields, field.name = name ∧ session.problemAt? field = some message :=
      get?_problemsOf_eq_some_iff hnames
    have hsame : (session.problemsIn other = session.problemsIn checked) ↔
        ∀ name message, (session.problemsIn checked).get? name = some message ↔
          ∃ field ∈ other.fields, field.name = name ∧ session.problemAt? field = some message := by
      refine ⟨fun heq => heq ▸ hsome, fun hall => NameMap.ext fun name => Option.ext fun message => ?_⟩
      rw [hsome, hall]
    simp only [hpass, hend, if_false, false_or, hsame]
    exact ⟨fun hdecided => hdecided.2.2, fun hall => ⟨trivial, hpass, hall⟩⟩

/-- If no earlier step has the identifier of the current step, that is the step that is found. -/
theorem step?_of_no_earlier {session : FormSession σ} {config : TemplateConfig}
    (hconfig : session.config = some config) {step : Step} (hcurrent : session.currentStep? = some step)
    (hearlier : ∀ earlier ∈ config.steps.take (session.position - 1), earlier.id ≠ step.id) :
    config.step? step.id = some step := by
  rw [currentStep?, hconfig, Option.bind_some, TemplateConfig.stepAt?] at hcurrent
  split at hcurrent
  · cases hcurrent
  · obtain ⟨hindex, hstep⟩ := List.getElem?_eq_some_iff.mp hcurrent
    have hsplit := List.take_append_drop (session.position - 1) config.steps
    rw [List.drop_eq_getElem_cons hindex, hstep] at hsplit
    rw [TemplateConfig.step?, ← hsplit, List.find?_append, List.find?_eq_none.mpr, Option.none_or,
      List.find?_cons_of_pos]
    · exact BEq.refl step.id
    intro earlier hmem
    simpa using hearlier earlier hmem

end FormSession

namespace TimedForm

variable {σ : Type} [DraftStore σ]

/-- Every action leaves a session at a step. -/
theorem atStep_step (state : TimedForm σ) (action : FormAction σ) (haction : action.Accepted)
    (h : state.session.AtStep) : (state.step action).2.session.AtStep := by
  cases action with
  | selectTemplate id => exact FormSession.atStep_of_config_none rfl
  | applyConfig config => exact FormSession.atStep_applyConfig state.session state.clock.now haction
  | update batch => exact h.update state.clock.now batch
  | updateNow batch => exact h.updateNow batch
  | flushDue => exact h.flushDue state.clock.now
  | flushNow => exact h.flushNow
  | resetForm => exact h.congr rfl rfl
  | clearTemplate => exact FormSession.atStep_of_config_none rfl
  | submit => exact h.flushNow.congr rfl rfl
  | validateStep id => exact h.validateStep id
  | validateAll => exact h.congr rfl rfl
  | advanceStep => exact h.advanceStep
  | retreatStep => exact h.retreatStep
  | goToStep position => exact h.goToStep position
  | touch name => exact h.congr rfl rfl
  | register name predicate => exact h.congr rfl rfl
  | advanceClock span => exact h
  | changeDrafts drafts => exact h.congr rfl rfl

/-- In every state that a new session with any rules comes to, a request to go on is decided by the step that
is found by the identifier of the current step, and so by the current step exactly if it is the last one or
has the same problems. If no earlier step has the identifier, the step that is found is the current one. -/
theorem advanceStep_decided_of_run (clock : Clock) (drafts : σ) (settings : FormSettings)
    (predicates : Predicates) (actions : List (FormAction σ)) (hactions : ∀ action ∈ actions, action.Accepted)
    (config : TemplateConfig)
    (hconfig :
      (run ⟨clock, { FormSession.start drafts settings with predicates }⟩ actions).session.config = some config) :
    let session := (run ⟨clock, { FormSession.start drafts settings with predicates }⟩ actions).session
    ∃ step checked, session.currentStep? = some step ∧ config.step? step.id = some checked ∧
      session.DecidedBy checked ∧
      (session.DecidedBy step ↔
        session.position = config.stepCount ∨ session.problemsIn step = session.problemsIn checked) ∧
      ((∀ earlier ∈ config.steps.take (session.position - 1), earlier.id ≠ step.id) → checked = step) := by
  intro session
  have hat : session.AtStep :=
    run_induction atStep_step (FormSession.atStep_of_config_none rfl) hactions
  obtain ⟨step, checked, hcurrent, hstep, hchecked, hmem⟩ := hat.exists_steps hconfig
  refine ⟨step, checked, hcurrent, hchecked, ?_, hat.decidedBy_iff hconfig hcurrent hchecked hstep, ?_⟩
  · exact (hat.decidedBy_iff hconfig hcurrent hchecked hmem).mpr (Or.inr rfl)
  · intro hearlier
    have hfound := FormSession.step?_of_no_earlier hconfig hcurrent hearlier
    exact Option.some.inj (hchecked.symm.trans hfound)

/-- Steps as they are written: the first has the identifier that the second, which has none, is given. -/
def clashingSteps : List Step :=
  [⟨"2", "", none, []⟩,
   ⟨"", "", none, [⟨"name", none, .text, none, none, none, [], true, .none⟩]⟩,
   ⟨"3", "", none, []⟩]

/-- The form of these steps. -/
def clashingForm : TemplateConfig := ⟨none, none, TemplateConfig.withIds 1 clashingSteps⟩

/-- The form of clashing steps is accepted. -/
theorem accepted_clashingForm : clashingForm.Accepted := ⟨⟨none, none, clashingSteps⟩, rfl⟩

/-- At the first of the clashing steps, it is the step that is found. -/
theorem advanceStep_decided_of_first_step :
    let session := (run ⟨.start, .start (⟨∅, 0, true⟩ : MemoryDrafts) {}⟩ [.applyConfig clashingForm]).session
    session.config = some clashingForm ∧
      ∃ step checked, session.currentStep? = some step ∧ clashingForm.step? step.id = some checked ∧
        session.DecidedBy checked ∧
        (session.DecidedBy step ↔
          session.position = clashingForm.stepCount ∨ session.problemsIn step = session.problemsIn checked) ∧
        ((∀ earlier ∈ clashingForm.steps.take (session.position - 1), earlier.id ≠ step.id) →
          checked = step) := by
  have hactions : ∀ action ∈ [(.applyConfig clashingForm : FormAction MemoryDrafts)], action.Accepted := by
    simpa [FormAction.Accepted] using accepted_clashingForm
  exact ⟨rfl, advanceStep_decided_of_run _ _ _ .builtIn _ hactions clashingForm rfl⟩

/-- A step is passed although its only field, which must be filled in, is blank: an earlier step has the
identifier that this one was given. -/
theorem moved_past_blank_required_field :
    let session := (run ⟨.start, .start (⟨∅, 0, true⟩ : MemoryDrafts) {}⟩
      [.applyConfig clashingForm, .advanceStep]).session
    clashingForm.Accepted ∧ session.config = some clashingForm ∧
      ∃ step field, session.currentStep? = some step ∧ field ∈ step.fields ∧
        session.problemAt? field = some "name is required" ∧ session.advanceStep.1 = .moved 3 := by
  refine ⟨accepted_clashingForm, rfl, _, _, rfl, List.mem_singleton.mpr rfl, by decide, rfl⟩

end TimedForm

end SiteBuilder
