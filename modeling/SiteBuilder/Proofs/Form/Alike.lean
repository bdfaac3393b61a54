import SiteBuilder.Proofs.Drafts.SameDraft
import SiteBuilder.Proofs.Form.Run
import SiteBuilder.Proofs.Form.Writes

/-!
# Forms that cannot be told apart

Two sessions are alike if they differ in nothing but their stores and in how many changes they have counted, and
their stores have the same drafts of the templates in question. Alike sessions answer every action alike and stay
alike, as long as only these templates are selected. What a session has done before it selects a template does not
show from then on, except in its store and in the rules that are registered.
-/

namespace SiteBuilder

namespace FormSession

variable {σ : Type}

/-! ## Settings -/

/-- The settings a session goes by. -/
def settings (session : FormSession σ) : FormSettings := ⟨session.window⟩

/-- Looking for problems in a step keeps the settings. -/
theorem settings_validateStep (session : FormSession σ) (id : String) :
    (session.validateStep id).2.settings = session.settings := by
  unfold validateStep
  split <;> rfl

/-- Going to the next step keeps the settings, also when it is refused. -/
theorem settings_advanceStep (session : FormSession σ) : session.advanceStep.2.settings = session.settings := by
  unfold advanceStep
  split
  · rfl
  · split
    · rfl
    · next step _ =>
      have hchecked := session.settings_validateStep step.id
      dsimp only
      split <;> exact hchecked

variable [DraftStore σ]

/-- A commit keeps the settings. -/
theorem settings_commit (session : FormSession σ) (batch : AnswerSet) :
    (session.commit batch).settings = session.settings := by
  unfold commit
  split <;> rfl

/-- A flush keeps the settings. -/
theorem settings_flushNow (session : FormSession σ) : session.flushNow.2.settings = session.settings := by
  rw [flushNow_eq, settings_commit]
  rfl

/-! ## What is seen -/

/-- What is seen of a session since the time of another: its changes are counted from there, and its store is
left out. -/
def since (session start : FormSession σ) : FormSession Unit where
  templateId := session.templateId
  config := session.config
  answers := session.answers
  position := session.position
  touched := session.touched
  errors := session.errors
  submitted := session.submitted
  queue := session.queue
  window := session.window
  drafts := ()
  predicates := session.predicates
  revision := session.revision - start.revision

/-- What is seen of a session that has done nothing but select a template, by the answers it starts with. -/
def opened (settings : FormSettings) (predicates : Predicates) (id : String) (answers : AnswerSet) :
    FormSession Unit :=
  { FormSession.start () settings with templateId := some id, answers, predicates }

/-- A template starts with the answers of its draft. -/
theorem answers_selectTemplate (session : FormSession σ) (id : String) :
    (session.selectTemplate id).answers = DraftStore.answers session.flushNow.2.drafts id := by
  unfold selectTemplate DraftStore.answers
  dsimp only
  cases DraftStore.load session.flushNow.2.drafts id <;> rfl

/-- From the time it selects a template on, a session looks as if it had done nothing else, registered rules
apart. -/
theorem since_selectTemplate (session : FormSession σ) (id : String) :
    (session.selectTemplate id).since (session.selectTemplate id) =
      opened session.settings (session.selectTemplate id).predicates id
        (DraftStore.answers (session.selectTemplate id).drafts id) := by
  have hqueue : session.flushNow.2.queue = .idle := session.queue_flushNow
  have hwindow : session.flushNow.2.window = session.window :=
    congrArg FormSettings.coalesceWindow session.settings_flushNow
  rw [since, session.answers_selectTemplate id]
  simp only [selectTemplate, opened, start, hqueue, hwindow, Nat.sub_self, settings]

/-! ## Sessions that cannot be told apart -/

/-- Two sessions are alike if the second is the first with a store of its own, which has the same drafts of some
templates, and with as many changes since a time of its own. -/
inductive Alike (ids : List String) (start start' : FormSession σ) (session : FormSession σ) : FormSession σ → Prop
  | intro (drafts : σ) (revision : Nat) (counted : start.revision ≤ session.revision)
      (changes : start'.revision + (session.revision - start.revision) = revision)
      (kept : ∀ id ∈ ids, DraftStore.SameDraft id session.drafts drafts) :
      Alike ids start start' session { session with drafts, revision }

variable {ids : List String} {start start' a b : FormSession σ}

/-- Alike sessions look the same since their times. -/
theorem Alike.since_eq (h : Alike ids start start' a b) : a.since start = b.since start' := by
  obtain ⟨drafts, revision, counted, rfl, kept⟩ := h
  simp only [since, Nat.add_sub_cancel_left]

/-- Sessions that look the same since their times are alike if their stores have the same drafts. -/
theorem alike_of_since_eq (hsame : a.since start = b.since start') (hcounted : start.revision ≤ a.revision)
    (hcounted' : start'.revision ≤ b.revision)
    (hkept : ∀ id ∈ ids, DraftStore.SameDraft id a.drafts b.drafts) : Alike ids start start' a b := by
  obtain ⟨templateId, config, answers, position, touched, errors, submitted, queue, window, drafts, predicates,
    revision⟩ := b
  have hchanges : start'.revision + (a.revision - start.revision) = revision := by
    have hsince : a.revision - start.revision = revision - start'.revision := congrArg FormSession.revision hsame
    dsimp only at hcounted'
    omega
  simp only [since, FormSession.mk.injEq] at hsame
  obtain ⟨rfl, rfl, rfl, rfl, rfl, rfl, rfl, rfl, rfl, -, rfl, -⟩ := hsame
  exact ⟨drafts, revision, hcounted, hchanges, hkept⟩

section Alike

variable (h : Alike ids start start' a b)

include h

/-- Alike sessions have the same template and the same form. -/
theorem Alike.selection_eq : a.selection = b.selection := by
  cases h
  rfl

/-- Alike sessions have the same answers. -/
theorem Alike.answers_eq : a.answers = b.answers := by
  cases h
  rfl

/-- Alike sessions have the same answers with what is queued. -/
theorem Alike.effectiveAnswers_eq : a.effectiveAnswers = b.effectiveAnswers := by
  cases h
  rfl

/-- Alike sessions have the same queue. -/
theorem Alike.queue_eq : a.queue = b.queue := by
  cases h
  rfl

/-- Alike sessions have counted as many changes since their times. -/
theorem Alike.revision_eq :
    start.revision ≤ a.revision ∧ b.revision = start'.revision + (a.revision - start.revision) := by
  obtain ⟨drafts, revision, counted, changes, kept⟩ := h
  exact ⟨counted, changes.symm⟩

end Alike

/-- Two results are alike if they answer the same and leave alike sessions. -/
structure AlikeResults {α : Type} (ids : List String) (start start' : FormSession σ)
    (result result' : α × FormSession σ) : Prop where
  answer : result.1 = result'.1
  alike : Alike ids start start' result.2 result'.2

/-! ## Writes -/

/-- Alike sessions commit writes alike. -/
theorem Alike.commit (h : Alike ids start start' a b) (batch : AnswerSet) :
    Alike ids start start' (a.commit batch) (b.commit batch) := by
  obtain ⟨drafts, revision, counted, changes, kept⟩ := h
  unfold FormSession.commit
  split
  · exact ⟨drafts, revision, counted, changes, kept⟩
  · refine ⟨_, _, Nat.le_succ_of_le counted, ?_, ?_⟩
    · dsimp only
      omega
    -- Both stores are asked to save the same answers, of whatever template.
    · cases a.templateId with
      | none => exact kept
      | some id => exact fun other hother => (kept other hother).after (.save id _)

/-- Alike sessions flush their queues alike. -/
theorem Alike.flushNow (h : Alike ids start start' a b) :
    AlikeResults ids start start' a.flushNow b.flushNow := by
  obtain ⟨drafts, revision, counted, changes, kept⟩ := h
  unfold FormSession.flushNow
  dsimp only
  rcases a.queue.cancel with ⟨_ | batch, queue⟩
  · exact ⟨rfl, drafts, revision, counted, changes, kept⟩
  · refine ⟨rfl, Alike.commit ?_ batch⟩
    exact ⟨drafts, revision, counted, changes, kept⟩

/-- Alike sessions commit what is due alike. -/
theorem Alike.flushDue (h : Alike ids start start' a b) (now : Nat) :
    AlikeResults ids start start' (a.flushDue now) (b.flushDue now) := by
  obtain ⟨drafts, revision, counted, changes, kept⟩ := h
  unfold FormSession.flushDue
  dsimp only
  rcases a.queue.poll now with ⟨_ | batch, queue⟩
  · exact ⟨rfl, drafts, revision, counted, changes, kept⟩
  · refine ⟨rfl, Alike.commit ?_ batch⟩
    exact ⟨drafts, revision, counted, changes, kept⟩

/-- Alike sessions queue writes alike. -/
theorem Alike.update (h : Alike ids start start' a b) (now : Nat) (batch : AnswerSet) :
    AlikeResults ids start start' (a.update now batch) (b.update now batch) := by
  obtain ⟨drafts, revision, counted, changes, kept⟩ := h
  unfold FormSession.update
  dsimp only
  cases coerceAll a.config batch <;> exact ⟨rfl, drafts, revision, counted, changes, kept⟩

/-- Alike sessions write at once alike. -/
theorem Alike.updateNow (h : Alike ids start start' a b) (batch : AnswerSet) :
    AlikeResults ids start start' (a.updateNow batch) (b.updateNow batch) := by
  obtain ⟨drafts, revision, counted, changes, kept⟩ := h
  unfold FormSession.updateNow
  dsimp only
  cases coerceAll a.config batch with
  | error mismatch => exact ⟨rfl, drafts, revision, counted, changes, kept⟩
  | ok typed =>
    refine ⟨rfl, Alike.commit ?_ _⟩
    exact ⟨drafts, revision, counted, changes, kept⟩

/-! ## Templates -/

/-- Alike sessions start alike on a template of which their stores have the same draft. -/
theorem Alike.selectTemplate (h : Alike ids start start' a b) {id : String} (hid : id ∈ ids) :
    Alike ids start start' (a.selectTemplate id) (b.selectTemplate id) := by
  have hflushed := h.flushNow.alike
  unfold FormSession.selectTemplate
  revert hflushed
  generalize a.flushNow.2 = flushed, b.flushNow.2 = flushed'
  rintro ⟨drafts, revision, counted, changes, kept⟩
  dsimp only
  rw [← (kept id hid).load_eq]
  refine ⟨drafts, _, Nat.le_succ_of_le counted, ?_, kept⟩
  dsimp only
  omega

/-- Alike sessions take up a form alike. -/
theorem Alike.applyConfig (h : Alike ids start start' a b) (now : Nat) (config : TemplateConfig) :
    Alike ids start start' (a.applyConfig now config) (b.applyConfig now config) := by
  obtain ⟨drafts, revision, counted, changes, kept⟩ := h
  refine ⟨drafts, _, Nat.le_succ_of_le counted, ?_, kept⟩
  dsimp only
  rw [FormSession.applyConfig]
  dsimp only
  omega

/-- Alike sessions go back to the answers they start with alike. -/
theorem Alike.resetForm (h : Alike ids start start' a b) : Alike ids start start' a.resetForm b.resetForm := by
  obtain ⟨drafts, revision, counted, changes, kept⟩ := h
  refine ⟨_, _, Nat.le_succ_of_le counted, ?_, ?_⟩
  · rw [FormSession.resetForm]
    dsimp only
    omega
  · rw [FormSession.resetForm]
    cases a.templateId with
    | none => exact kept
    | some id => exact fun other hother => (kept other hother).after (.clear id)

/-- Alike sessions leave their template alike. -/
theorem Alike.clearTemplate (h : Alike ids start start' a b) :
    Alike ids start start' a.clearTemplate b.clearTemplate := by
  obtain ⟨drafts, revision, counted, changes, kept⟩ := h
  refine ⟨drafts, _, Nat.le_succ_of_le counted, ?_, kept⟩
  dsimp only
  rw [FormSession.clearTemplate]
  dsimp only
  omega

/-! ## Validation and steps -/

/-- Alike sessions find the same problems in a step. -/
theorem Alike.validateStep (h : Alike ids start start' a b) (id : String) :
    AlikeResults ids start start' (a.validateStep id) (b.validateStep id) := by
  obtain ⟨drafts, revision, counted, changes, kept⟩ := h
  unfold FormSession.validateStep
  dsimp only
  cases a.config.bind (·.step? id) <;> exact ⟨rfl, drafts, revision, counted, changes, kept⟩

/-- Alike sessions find the same problems in the form. -/
theorem Alike.validateAll (h : Alike ids start start' a b) :
    AlikeResults ids start start' a.validateAll b.validateAll := by
  obtain ⟨drafts, revision, counted, changes, kept⟩ := h
  exact ⟨rfl, drafts, revision, counted, changes, kept⟩

/-- Alike sessions go to the next step alike. -/
theorem Alike.advanceStep (h : Alike ids start start' a b) :
    AlikeResults ids start start' a.advanceStep b.advanceStep := by
  have hchecked (id : String) := h.validateStep id
  obtain ⟨drafts, revision, counted, changes, kept⟩ := h
  have hcount : { a with drafts, revision }.stepCount = a.stepCount := rfl
  have hcurrent : { a with drafts, revision }.currentStep? = a.currentStep? := rfl
  unfold FormSession.advanceStep
  rw [hcount, hcurrent]
  dsimp only
  split
  · exact ⟨rfl, drafts, revision, counted, changes, kept⟩
  · cases a.currentStep? with
    | none => exact ⟨rfl, drafts, revision, counted, changes, kept⟩
    | some step =>
      -- The problems decide where to go, so they have to be the same before the cases are split.
      have hstep := hchecked step.id
      revert hstep
      dsimp only
      generalize a.validateStep step.id = checked, { a with drafts, revision }.validateStep step.id = checked'
      obtain ⟨problems, session⟩ := checked
      obtain ⟨problems', session'⟩ := checked'
      rintro ⟨rfl, drafts, revision, counted, changes, kept⟩
      dsimp only
      split <;> exact ⟨rfl, drafts, revision, counted, changes, kept⟩

/-- Alike sessions go to the step before alike. -/
theorem Alike.retreatStep (h : Alike ids start start' a b) :
    AlikeResults ids start start' a.retreatStep b.retreatStep := by
  obtain ⟨drafts, revision, counted, changes, kept⟩ := h
  unfold FormSession.retreatStep
  dsimp only
  split <;> exact ⟨rfl, drafts, revision, counted, changes, kept⟩

/-- Alike sessions go to a step alike. -/
theorem Alike.goToStep (h : Alike ids start start' a b) (position : Nat) :
    AlikeResults ids start start' (a.goToStep position) (b.goToStep position) := by
  obtain ⟨drafts, revision, counted, changes, kept⟩ := h
  unfold FormSession.goToStep
  have hcount : { a with drafts, revision }.stepCount = a.stepCount := rfl
  rw [hcount]
  split <;> exact ⟨rfl, drafts, revision, counted, changes, kept⟩

/-- Alike sessions are submitted alike. -/
theorem Alike.submit (h : Alike ids start start' a b) : AlikeResults ids start start' a.submit b.submit := by
  have hflushed := h.flushNow.alike
  unfold FormSession.submit
  revert hflushed
  generalize a.flushNow.2 = flushed, b.flushNow.2 = flushed'
  rintro ⟨drafts, revision, counted, changes, kept⟩
  exact ⟨rfl, drafts, revision, counted, changes, kept⟩

end FormSession

/-- The template that an action selects. -/
def FormAction.selected? {σ : Type} : FormAction σ → Option String
  | .selectTemplate id => some id
  | _ => none

namespace TimedForm

variable {σ : Type} [DraftStore σ] {ids : List String} {start start' a b : FormSession σ}

/-- No action changes the settings a session goes by. -/
theorem settings_step (state : TimedForm σ) (action : FormAction σ) :
    (state.step action).2.session.settings = state.session.settings := by
  have hflushed := state.session.settings_flushNow
  cases action with
  | selectTemplate id => exact hflushed
  | update batch =>
    simp only [step, FormSession.update]
    split <;> rfl
  | updateNow batch =>
    simp only [step, FormSession.updateNow]
    split
    · rw [FormSession.settings_commit]
      rfl
    · rfl
  | flushDue =>
    rcases state.session.flushDue_eq state.clock.now with hdue | hdue
    · rw [step, hdue]
      exact hflushed
    · rw [step, hdue]
  | flushNow => exact hflushed
  | submit => exact hflushed
  | validateStep id => exact state.session.settings_validateStep id
  | advanceStep => exact state.session.settings_advanceStep
  | retreatStep =>
    simp only [step, FormSession.retreatStep]
    split <;> rfl
  | goToStep position =>
    simp only [step, FormSession.goToStep]
    split <;> rfl
  | _ => rfl

/-- Alike sessions answer every action alike and stay alike, if it selects none but the templates in question. -/
theorem alike_step (h : FormSession.Alike ids start start' a b) (clock : Clock) (action : FormAction σ)
    (haction : ∀ id ∈ action.selected?, id ∈ ids) :
    (step ⟨clock, a⟩ action).1 = (step ⟨clock, b⟩ action).1 ∧
      (step ⟨clock, a⟩ action).2.clock = (step ⟨clock, b⟩ action).2.clock ∧
        FormSession.Alike ids start start' (step ⟨clock, a⟩ action).2.session (step ⟨clock, b⟩ action).2.session := by
  cases action with
  | selectTemplate id => exact ⟨rfl, rfl, h.selectTemplate (haction id rfl)⟩
  | applyConfig config => exact ⟨rfl, rfl, h.applyConfig clock.now config⟩
  | update batch =>
    obtain ⟨hanswer, halike⟩ := h.update clock.now batch
    exact ⟨congrArg FormReply.written hanswer, rfl, halike⟩
  | updateNow batch =>
    obtain ⟨hanswer, halike⟩ := h.updateNow batch
    exact ⟨congrArg FormReply.written hanswer, rfl, halike⟩
  | flushDue =>
    obtain ⟨hanswer, halike⟩ := h.flushDue clock.now
    exact ⟨congrArg FormReply.flushed hanswer, rfl, halike⟩
  | flushNow =>
    obtain ⟨hanswer, halike⟩ := h.flushNow
    exact ⟨congrArg FormReply.flushed hanswer, rfl, halike⟩
  | resetForm => exact ⟨rfl, rfl, h.resetForm⟩
  | clearTemplate => exact ⟨rfl, rfl, h.clearTemplate⟩
  | submit =>
    obtain ⟨hanswer, halike⟩ := h.submit
    exact ⟨congrArg FormReply.submitted hanswer, rfl, halike⟩
  | validateStep id =>
    obtain ⟨hanswer, halike⟩ := h.validateStep id
    exact ⟨congrArg FormReply.checked hanswer, rfl, halike⟩
  | validateAll =>
    obtain ⟨hanswer, halike⟩ := h.validateAll
    exact ⟨congrArg FormReply.checked hanswer, rfl, halike⟩
  | advanceStep =>
    obtain ⟨hanswer, halike⟩ := h.advanceStep
    exact ⟨congrArg FormReply.stepped hanswer, rfl, halike⟩
  | retreatStep =>
    obtain ⟨hanswer, halike⟩ := h.retreatStep
    exact ⟨congrArg FormReply.stepped hanswer, rfl, halike⟩
  | goToStep position =>
    obtain ⟨hanswer, halike⟩ := h.goToStep position
    exact ⟨congrArg FormReply.placed hanswer, rfl, halike⟩
  | touch name =>
    obtain ⟨drafts, revision, counted, changes, kept⟩ := h
    exact ⟨rfl, rfl, drafts, revision, counted, changes, kept⟩
  | register name predicate =>
    obtain ⟨drafts, revision, counted, changes, kept⟩ := h
    exact ⟨rfl, rfl, drafts, revision, counted, changes, kept⟩
  | advanceClock span => exact ⟨rfl, rfl, h⟩
  | changeDrafts drafts =>
    obtain ⟨_, revision, counted, changes, -⟩ := h
    exact ⟨rfl, rfl, drafts, revision, counted, changes, fun id _ => .refl id drafts⟩

end TimedForm

end SiteBuilder
