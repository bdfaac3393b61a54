import SiteBuilder.Proofs.Form.Problems
import SiteBuilder.Proofs.Form.Typing

/-!
# Submissions

A submission commits the queue before it looks for problems, and it looks at the whole form. So what is judged, what is
handed out and what is committed are the same answers: those that were effective before. The problems of a form are
those of its steps taken together, as no two fields of an accepted form share a name.
-/

namespace SiteBuilder

variable {σ : Type}

namespace TemplateConfig

variable {config : TemplateConfig} {answers : AnswerSet} {predicates : Predicates}

/-- A form has no problems if none of its steps has one. -/
theorem problems_eq_empty_iff :
    config.problems answers predicates = ∅ ↔ ∀ step ∈ config.steps, step.problems answers predicates = ∅ := by
  simp only [problems, Step.problems, problemsOf_eq_empty_iff, fields, List.mem_flatMap]
  constructor
  · intro h step hstep field hfield
    exact h field ⟨step, hstep, hfield⟩
  · rintro h field ⟨step, hstep, hfield⟩
    exact h step hstep field hfield

/-- The problems of an accepted form are those of its steps. -/
theorem Accepted.get?_problems_iff (h : config.Accepted) {name message : String} :
    (config.problems answers predicates).get? name = some message ↔
      ∃ step ∈ config.steps, (step.problems answers predicates).get? name = some message := by
  rw [problems, get?_problemsOf_eq_some_iff h.nodup_names]
  constructor
  · rintro ⟨field, hfield, hname, hproblem⟩
    obtain ⟨step, hstep, hfield⟩ := List.mem_flatMap.mp hfield
    exact ⟨step, hstep, (get?_problemsOf_eq_some_iff (h.nodup_step_names hstep)).mpr ⟨field, hfield, hname, hproblem⟩⟩
  · rintro ⟨step, hstep, hproblem⟩
    obtain ⟨field, hfield, hname, hproblem⟩ := (get?_problemsOf_eq_some_iff (h.nodup_step_names hstep)).mp hproblem
    exact ⟨field, List.mem_flatMap.mpr ⟨step, hstep, hfield⟩, hname, hproblem⟩

end TemplateConfig

namespace FormSession

/-- Looking for problems in the form finds those of the effective answers. -/
theorem validateAll_of_config {session : FormSession σ} {config : TemplateConfig} (h : session.config = some config) :
    session.validateAll.1 = config.problems session.effectiveAnswers session.predicates := by
  simp only [validateAll, h]

/-- Looking for problems in a step finds those of the first step with its identifier. -/
theorem validateStep_of_step? {session : FormSession σ} {config : TemplateConfig} {id : String} {step : Step}
    (hconfig : session.config = some config) (hstep : config.step? id = some step) :
    (session.validateStep id).1 = step.problems session.effectiveAnswers session.predicates := by
  simp only [validateStep, hconfig, Option.bind_some, hstep]

variable [DraftStore σ]

/-- A flush makes no difference to the problems that are found. -/
theorem validateAll_flushNow (session : FormSession σ) : session.flushNow.2.validateAll.1 = session.validateAll.1 := by
  have hconfig : session.flushNow.2.config = session.config := congrArg Prod.snd session.selection_flushNow
  have hanswers : session.flushNow.2.effectiveAnswers = session.effectiveAnswers := session.effectiveAnswers_flushNow
  have hpredicates : session.flushNow.2.predicates = session.predicates :=
    congrArg Progress.predicates (progress_flushNow session)
  simp only [validateAll, hconfig, hanswers, hpredicates]

/-- Submitting hands out the effective answers unless the form has problems. -/
theorem submit_result (session : FormSession σ) :
    session.submit.1 =
      if session.validateAll.1.isEmpty then .ok session.effectiveAnswers else .error session.validateAll.1 := by
  rw [submit_eq, validateAll_flushNow, answers_flushNow]

/-- A form that has been submitted is left as it is by another submission. -/
theorem submit_submit (session : FormSession σ) : session.submit.2.submit.2 = session.submit.2 := by
  let submitted : FormSession σ := { session.flushNow.2 with submitted := true }
  have hidle : session.submit.2.queue = .idle := session.queue_flushNow
  have hflushed : session.submit.2.flushNow.2 = session.submit.2 := flushNow_of_idle hidle
  have hfirst : session.submit.2 = submitted.validateAll.2 := rfl
  have hsecond : session.submit.2.submit.2 = { session.submit.2.flushNow.2 with submitted := true }.validateAll.2 := rfl
  rw [hsecond, hflushed, hfirst]
  rfl

/-- Submitting registers no rules. -/
theorem predicates_submit (session : FormSession σ) : session.submit.2.predicates = session.predicates := by
  have hpredicates : session.submit.2.predicates = session.flushNow.2.predicates := rfl
  rw [hpredicates]
  exact congrArg Progress.predicates (progress_flushNow session)

/-- What is effective is what has been submitted. -/
theorem effectiveAnswers_submit (session : FormSession σ) :
    session.submit.2.effectiveAnswers = session.effectiveAnswers := by
  have hidle : session.submit.2.queue = .idle := session.queue_flushNow
  rw [effectiveAnswers_of_idle hidle]
  exact session.answers_flushNow

/-- What a submission found is recorded, and shown at every field. -/
theorem errors_submit (session : FormSession σ) :
    session.submit.2.errors = session.validateAll.1 ∧
      ∀ name, session.submit.2.visibleError? name = session.submit.2.errors.get? name := by
  refine ⟨session.validateAll_flushNow, fun name => ?_⟩
  have hsubmitted : session.submit.2.submitted = true := rfl
  rw [visibleError?, hsubmitted, Bool.true_or, if_pos rfl]

end FormSession

namespace TimedForm

variable [DraftStore σ]

/-- In every state that a new session comes to with a form loaded, with the answers that are effective in it, the
queued ones too:

* a submission hands out the answers if the form has no problems with them, and exactly the problems otherwise;
* afterwards nothing waits, the answers are committed, and the problems are recorded and shown at every field, whether
  the user has been there or not;
* the problems are those of all steps together, so the answers are handed out exactly if no step has a problem, and
  looking for problems in a step finds those of the first step with its identifier. -/
theorem submission_exact_of_run (clock : Clock) (drafts : σ) (settings : FormSettings)
    (actions : List (FormAction σ)) (hactions : ∀ action ∈ actions, action.Accepted) (config : TemplateConfig)
    (hconfig : (run ⟨clock, .start drafts settings⟩ actions).session.config = some config) :
    let session := (run ⟨clock, .start drafts settings⟩ actions).session
    let answers := session.effectiveAnswers
    let problems := config.problems answers session.predicates
    let after := session.submit.2
    session.submit.1 = (if problems = ∅ then .ok answers else .error problems) ∧
      (after.hasPendingWrites = false ∧ after.answers = answers ∧ after.errors = problems ∧
        ∀ name, after.visibleError? name = problems.get? name) ∧
      (∀ name message, problems.get? name = some message ↔
        ∃ step ∈ config.steps, (step.problems answers session.predicates).get? name = some message) ∧
      (session.submit.1 = .ok answers ↔ ∀ step ∈ config.steps, step.problems answers session.predicates = ∅) ∧
      ∀ id step, config.step? id = some step →
        (session.validateStep id).1 = step.problems answers session.predicates := by
  intro session answers problems after
  have htyped : session.TypedBy config :=
    run_induction wellTyped_step (FormSession.wellTyped_of_config_none rfl) hactions config hconfig
  have hfound : session.validateAll.1 = problems := FormSession.validateAll_of_config hconfig
  have hresult : session.submit.1 = if problems = ∅ then .ok answers else .error problems := by
    rw [session.submit_result, hfound]
    exact if_congr NameMap.isEmpty_iff rfl rfl
  obtain ⟨herrors, hvisible⟩ := session.errors_submit
  have hidle : after.queue = .idle := session.queue_flushNow
  refine ⟨hresult, ⟨?_, session.answers_flushNow, herrors.trans hfound, fun name => ?_⟩,
    fun name message => htyped.accepted.get?_problems_iff, ?_,
    fun id step hstep => FormSession.validateStep_of_step? hconfig hstep⟩
  · rw [FormSession.hasPendingWrites, hidle]
    rfl
  · rw [hvisible, herrors, hfound]
  · rw [hresult, ← TemplateConfig.problems_eq_empty_iff]
    by_cases hvalid : problems = ∅
    · rw [if_pos hvalid]
      exact ⟨fun _ => hvalid, fun _ => rfl⟩
    · rw [if_neg hvalid]
      exact ⟨nofun, fun h => absurd h hvalid⟩

/-- A form of two steps that each ask for one thing. -/
def twoStepForm : TemplateConfig :=
  ⟨none, none, [⟨"about", "About", none, [⟨"name", none, .text, none, none, none, [], true, .none⟩]⟩,
    ⟨"more", "More", none, [⟨"age", none, .number, none, none, none, [], false, .none⟩]⟩]⟩

/-- The form of two steps is accepted. -/
theorem accepted_twoStepForm : twoStepForm.Accepted := ⟨twoStepForm, rfl⟩

/-- The name is cleared in the queue after it was found to be right. The submission commits that and refuses it. -/
theorem submission_exact_of_cleared_name :
    let actions : List (FormAction MemoryDrafts) :=
      [.selectTemplate "t", .applyConfig twoStepForm, .updateNow (.singleton "name" (.text "Ada")), .validateAll,
        .update (.ofList [("age", .text "36"), ("name", .text "")])]
    let session := (run ⟨.start, .start .empty {}⟩ actions).session
    let answers : AnswerSet := .ofList [("age", .number 36.0), ("name", .text "")]
    session.config = some twoStepForm ∧ session.hasPendingWrites = true ∧ session.errors = ∅ ∧
      session.submit.1 = .error (.singleton "name" "name is required") ∧ session.submit.2.answers = answers ∧
      session.submit.2.hasPendingWrites = false ∧
      session.submit.2.visibleError? "name" = some "name is required" := by
  intro actions session answers
  have hactions : ∀ action ∈ actions, action.Accepted := by
    simpa [actions, FormAction.Accepted] using accepted_twoStepForm
  have hconfig : session.config = some twoStepForm := rfl
  have heffective : session.effectiveAnswers = answers := by decide +kernel
  have hproblems : twoStepForm.problems answers session.predicates = .singleton "name" "name is required" := by
    decide +kernel
  have hexact := submission_exact_of_run .start (.empty : MemoryDrafts) {} actions hactions twoStepForm hconfig
  obtain ⟨hresult, ⟨hidle, hanswers, -, hvisible⟩, -⟩ := hexact
  have hbefore : (run ⟨.start, .start (.empty : MemoryDrafts) {}⟩ actions).session.effectiveAnswers = answers :=
    heffective
  have hshown := hvisible "name"
  rw [hbefore, hproblems] at hshown
  rw [hbefore, hproblems, if_neg (by decide +kernel)] at hresult
  exact ⟨hconfig, rfl, by decide +kernel, hresult, hanswers.trans hbefore, hidle, hshown⟩

end TimedForm

end SiteBuilder
