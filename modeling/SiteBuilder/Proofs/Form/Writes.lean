import SiteBuilder.Form.Session
import SiteBuilder.Proofs.Form.Accepted

/-!
# What writes do to a session

Every write ends in one of two ways: it joins the queue, or the queue is committed together with it.
The operations that commit are all reduced to `FormSession.commit` here, and typing a whole batch is
reduced to typing its entries.
-/

namespace SiteBuilder

/-! ## Typing batches -/

/-- A result with a value succeeded with it. -/
theorem ok_of_toOption {ε α : Type} {result : Except ε α} {value : α} (h : result.toOption = some value) :
    result = .ok value := by
  cases result with
  | error cause => cases h
  | ok found => exact congrArg Except.ok (Option.some.inj h)

/-- A traversal succeeds when every element does, and then collects what the elements give. -/
theorem mapM_eq_ok_iff {α β ε : Type} {f : α → Except ε β} {inputs : List α} {outputs : List β} :
    inputs.mapM f = .ok outputs ↔
      (∀ input ∈ inputs, ∃ output, f input = .ok output) ∧
        outputs = inputs.filterMap fun input => (f input).toOption := by
  induction inputs generalizing outputs with
  | nil => simp [pure, Except.pure, eq_comm]
  | cons input rest ih =>
    rw [List.mapM_cons, List.forall_mem_cons, List.filterMap_cons]
    cases hfirst : f input with
    | error cause =>
      constructor
      · intro h
        cases h
      · rintro ⟨⟨⟨output, houtput⟩, -⟩, -⟩
        cases houtput
    | ok output =>
      cases hrest : rest.mapM f with
      | error cause =>
        constructor
        · intro h
          cases h
        · rintro ⟨⟨-, hall⟩, -⟩
          cases hrest.symm.trans (ih.mpr ⟨hall, rfl⟩)
      | ok outputs' =>
        obtain ⟨hall, rfl⟩ := ih.mp hrest
        constructor
        · intro h
          cases h
          exact ⟨⟨⟨output, rfl⟩, hall⟩, rfl⟩
        · rintro ⟨-, rfl⟩
          rfl

/-- Typing a set of answers types each of them and drops those that do not fit. -/
@[simp]
theorem get?_retype (config : TemplateConfig) (answers : AnswerSet) (name : String) :
    (retype config answers).get? name =
      (answers.get? name).bind fun answer => (config.coerce name answer).toOption :=
  NameMap.get?_filterMap _ _ _

/-- Typing the entries of a batch gives the entries of the retyped batch, unless one does not fit. -/
theorem mapM_coerce_eq_ok_iff {config : TemplateConfig} {batch : AnswerSet} {pairs : List (String × Answer)} :
    (batch.entries.mapM fun entry : String × Answer => (config.coerce entry.1 entry.2).map (entry.1, ·)) =
        .ok pairs ↔
      (∀ name answer, batch.get? name = some answer → ∃ stored, config.coerce name answer = .ok stored) ∧
        pairs = (retype config batch).entries := by
  have hpair (entry : String × Answer) :
      ((config.coerce entry.1 entry.2).map (entry.1, ·)).toOption =
        (config.coerce entry.1 entry.2).toOption.map (entry.1, ·) := by
    cases config.coerce entry.1 entry.2 <;> rfl
  have hfits (entry : String × Answer) :
      (∃ pair, (config.coerce entry.1 entry.2).map (entry.1, ·) = .ok pair) ↔
        ∃ stored, config.coerce entry.1 entry.2 = .ok stored := by
    cases config.coerce entry.1 entry.2 <;> simp [Except.map]
  rw [mapM_eq_ok_iff]
  simp only [hpair, hfits, Prod.forall, NameMap.mem_entries_iff]
  rfl

/-- A typed batch is the batch with every answer typed, and no answer was dropped. -/
theorem coerceAll_eq_ok_iff {config : TemplateConfig} {batch typed : AnswerSet} :
    coerceAll (some config) batch = .ok typed ↔
      (∀ name answer, batch.get? name = some answer → ∃ stored, config.coerce name answer = .ok stored) ∧
        typed = retype config batch := by
  have hlist (map : AnswerSet) : NameMap.ofList map.entries = map := NameMap.empty_overlay map
  rw [coerceAll]
  cases hpass : batch.entries.mapM fun entry : String × Answer =>
      (config.coerce entry.1 entry.2).map (entry.1, ·) with
  | error mismatch =>
    constructor
    · intro h
      cases h
    · rintro ⟨hall, -⟩
      cases hpass.symm.trans (mapM_coerce_eq_ok_iff.mpr ⟨hall, rfl⟩)
  | ok pairs =>
    obtain ⟨hall, rfl⟩ := mapM_coerce_eq_ok_iff.mp hpass
    rw [Except.map, hlist]
    constructor
    · intro h
      cases h
      exact ⟨hall, rfl⟩
    · rintro ⟨-, rfl⟩
      rfl

/-- What comes from typing by a form is typed by it. -/
theorem types_retype (config : TemplateConfig) (answers : AnswerSet) :
    config.Types (retype config answers) := by
  refine TemplateConfig.types_of_coerce fun name stored hstored => ?_
  rw [get?_retype] at hstored
  obtain ⟨answer, -, hcoerce⟩ := Option.bind_eq_some_iff.mp hstored
  refine ⟨answer, ?_⟩
  cases hresult : config.coerce name answer with
  | error mismatch => simp [hresult, Except.toOption] at hcoerce
  | ok value => simpa [hresult, Except.toOption] using hcoerce

/-- Typing leaves typed answers as they are. -/
theorem retype_of_types {config : TemplateConfig} {answers : AnswerSet} (h : config.Types answers) :
    retype config answers = answers := by
  ext name answer
  rw [get?_retype]
  cases hfound : answers.get? name with
  | none => rfl
  | some found =>
    rw [Option.bind_some, h.coerce hfound]
    rfl

/-- Typing a batch by a form, when it succeeds, types it. -/
theorem types_of_coerceAll {config : TemplateConfig} {batch typed : AnswerSet}
    (h : coerceAll (some config) batch = .ok typed) : config.Types typed :=
  (coerceAll_eq_ok_iff.mp h).2 ▸ types_retype config batch

/-- Typing a batch, when it succeeds, drops nothing. -/
theorem isEmpty_of_coerceAll {loaded : Option TemplateConfig} {batch typed : AnswerSet}
    (h : coerceAll loaded batch = .ok typed) : typed.isEmpty = batch.isEmpty := by
  cases loaded with
  | none =>
    cases h
    rfl
  | some config =>
    obtain ⟨hfits, rfl⟩ := coerceAll_eq_ok_iff.mp h
    rw [Bool.eq_iff_iff, NameMap.isEmpty_iff, NameMap.isEmpty_iff]
    constructor
    · intro hempty
      ext name answer
      have hdropped := congrArg (NameMap.get? · name) hempty
      simp only [get?_retype, NameMap.get?_empty] at hdropped
      cases hanswer : batch.get? name with
      | none => simp
      | some found =>
        obtain ⟨stored, hstored⟩ := hfits name found hanswer
        simp [hanswer, hstored, Except.toOption] at hdropped
    · intro hempty
      rw [hempty]
      rfl

namespace FormSession

variable {σ : Type}

/-! ## Contents -/

/-- Where the user of a session is and what is known to be wrong. -/
structure Progress where
  position : Nat
  touched : NameMap Unit
  errors : ValidationErrors
  submitted : Bool
  predicates : Predicates

/-- Where the user of a session is and what is known to be wrong. -/
def progress (session : FormSession σ) : Progress :=
  ⟨session.position, session.touched, session.errors, session.submitted, session.predicates⟩

/-- What a session holds, besides where its user is and what is known to be wrong. -/
structure Contents (σ : Type) where
  templateId : Option String
  config : Option TemplateConfig
  answers : AnswerSet
  queue : Timer AnswerSet
  drafts : σ

/-- The contents of a session. -/
def contents (session : FormSession σ) : Contents σ :=
  ⟨session.templateId, session.config, session.answers, session.queue, session.drafts⟩

section Contents

variable (session : FormSession σ)

/-- Looking for problems in a step leaves the contents alone. -/
@[simp]
theorem contents_validateStep (id : String) : (session.validateStep id).2.contents = session.contents := by
  unfold validateStep
  split <;> rfl

/-- Looking for problems in the form leaves the contents alone. -/
@[simp]
theorem contents_validateAll : session.validateAll.2.contents = session.contents := rfl

/-- Going on to the next step leaves the contents alone, also when it is refused. -/
@[simp]
theorem contents_advanceStep : session.advanceStep.2.contents = session.contents := by
  unfold advanceStep
  split
  · rfl
  · split
    · rfl
    · next step _ =>
      dsimp only
      split
      · exact session.contents_validateStep step.id
      · exact session.contents_validateStep step.id

/-- Going back leaves the contents alone. -/
@[simp]
theorem contents_retreatStep : session.retreatStep.2.contents = session.contents := by
  unfold retreatStep
  split <;> rfl

/-- Going to a step leaves the contents alone. -/
@[simp]
theorem contents_goToStep (position : Nat) : (session.goToStep position).2.contents = session.contents := by
  unfold goToStep
  split <;> rfl

/-- Submitting changes the contents as a flush does. -/
@[simp]
theorem contents_submit [DraftStore σ] : session.submit.2.contents = session.flushNow.2.contents := rfl

end Contents

/-! ## The queue -/

/-- The writes that wait to be committed, as one batch. -/
def queued (session : FormSession σ) : AnswerSet := session.queue.task?.getD ∅

/-- The effective answers are the committed ones with the queued writes over them. -/
theorem effectiveAnswers_eq (session : FormSession σ) :
    session.effectiveAnswers = session.answers.overlay session.queued := by
  unfold effectiveAnswers queued
  cases session.queue.task? <;> rfl

/-- The effective answers depend on the contents alone. -/
theorem effectiveAnswers_congr {session other : FormSession σ} (h : other.contents = session.contents) :
    other.effectiveAnswers = session.effectiveAnswers := by
  simp only [contents, Contents.mk.injEq] at h
  simp only [effectiveAnswers, h]

/-- Without a queue, no writes wait. -/
theorem queued_of_idle {session : FormSession σ} (h : session.queue = .idle) : session.queued = ∅ := by
  rw [queued, h]
  rfl

/-- Without a queue, the effective answers are the committed ones. -/
theorem effectiveAnswers_of_idle {session : FormSession σ} (h : session.queue = .idle) :
    session.effectiveAnswers = session.answers := by
  rw [effectiveAnswers, h]
  rfl

/-- The template that is selected and its form. -/
def selection (session : FormSession σ) : Option String × Option TemplateConfig :=
  (session.templateId, session.config)

/-- Queueing writes keeps the template and its form. -/
@[simp]
theorem selection_update (session : FormSession σ) (now : Nat) (batch : AnswerSet) :
    (session.update now batch).2.selection = session.selection := by
  unfold update
  split <;> rfl

/-! ## Commits -/

section Commit

variable [DraftStore σ] (session : FormSession σ) (batch : AnswerSet)

/-- A commit writes the batch over the answers. -/
@[simp]
theorem answers_commit : (session.commit batch).answers = session.answers.overlay batch := by
  unfold commit
  split
  next hempty => rw [NameMap.isEmpty_iff.mp hempty, NameMap.overlay_empty]
  next => rfl

@[simp]
theorem config_commit : (session.commit batch).config = session.config := by
  unfold commit
  split <;> rfl

@[simp]
theorem templateId_commit : (session.commit batch).templateId = session.templateId := by
  unfold commit
  split <;> rfl

@[simp]
theorem queue_commit : (session.commit batch).queue = session.queue := by
  unfold commit
  split <;> rfl

/-- A commit is of no concern to where the user is and what is known to be wrong. -/
@[simp]
theorem progress_commit : (session.commit batch).progress = session.progress := by
  unfold commit
  split <;> rfl

/-- A commit is a change unless it writes nothing. -/
theorem revision_commit :
    (session.commit batch).revision = if batch.isEmpty then session.revision else session.revision + 1 := by
  unfold commit
  split <;> rfl

/-- What a commit makes of the contents depends on the contents alone. -/
theorem contents_commit_congr {session other : FormSession σ} (h : other.contents = session.contents) :
    (other.commit batch).contents = (session.commit batch).contents := by
  simp only [contents, Contents.mk.injEq] at h
  obtain ⟨htemplate, hconfig, hanswers, hqueue, hdrafts⟩ := h
  unfold commit
  split <;> simp only [contents, htemplate, hconfig, hanswers, hqueue, hdrafts]

/-- Committing writes keeps the template and its form. -/
@[simp]
theorem selection_commit : (session.commit batch).selection = session.selection := by
  rw [selection, templateId_commit, config_commit]
  rfl

/-- Writing at once keeps the template and its form. -/
@[simp]
theorem selection_updateNow : (session.updateNow batch).2.selection = session.selection := by
  unfold updateNow
  split
  · exact selection_commit _ _
  · rfl

/-- Writing at once what does not fit a field leaves the session as it is. -/
theorem eq_of_updateNow_error {session after : FormSession σ} {batch : AnswerSet} {mismatch : Mismatch}
    (h : session.updateNow batch = (.error mismatch, after)) : after = session := by
  unfold updateNow at h
  split at h
  · cases h
  · cases h
    rfl

/-- Flushing commits what is queued. -/
theorem flushNow_eq : session.flushNow.2 = { session with queue := .idle }.commit session.queued := by
  unfold flushNow Timer.cancel queued
  cases session.queue.task? <;> rfl

/-- After a flush, the answers are the ones that were effective before. -/
theorem answers_flushNow : session.flushNow.2.answers = session.effectiveAnswers := by
  rw [flushNow_eq, answers_commit, effectiveAnswers_eq]

/-- A flush leaves no queue. -/
theorem queue_flushNow : session.flushNow.2.queue = .idle := by
  rw [flushNow_eq, queue_commit]

/-- A flush makes no difference to the effective answers. -/
@[simp]
theorem effectiveAnswers_flushNow : session.flushNow.2.effectiveAnswers = session.effectiveAnswers := by
  rw [effectiveAnswers_of_idle session.queue_flushNow, answers_flushNow]

/-- A flush keeps the template and its form. -/
@[simp]
theorem selection_flushNow : session.flushNow.2.selection = session.selection := by
  rw [flushNow_eq, selection_commit]
  rfl

/-- Without a queue there is nothing to flush. -/
theorem flushNow_of_idle {session : FormSession σ} (h : session.queue = .idle) : session.flushNow.2 = session := by
  rw [flushNow_eq, queued_of_idle h, commit, if_pos (NameMap.isEmpty_iff.mpr rfl), ← h]

/-- A flush is of no concern to where the user is and what is known to be wrong. -/
theorem progress_flushNow : session.flushNow.2.progress = session.progress := by
  rw [flushNow_eq, progress_commit]
  rfl

/-- A flush that is no change had nothing to commit. -/
theorem queued_of_revision_flushNow (h : session.flushNow.2.revision = session.revision) :
    session.queued = ∅ := by
  rw [flushNow_eq, revision_commit] at h
  split at h
  next hempty => exact NameMap.isEmpty_iff.mp hempty
  next => exact absurd h (Nat.succ_ne_self session.revision)

/-- Submitting hands out the flushed answers unless the flushed form has problems. -/
theorem submit_eq :
    session.submit.1 =
      if session.flushNow.2.validateAll.1.isEmpty then .ok session.flushNow.2.answers
      else .error session.flushNow.2.validateAll.1 := rfl

/-- What a flush makes of the contents depends on the contents alone. -/
theorem contents_flushNow_congr {session other : FormSession σ} (h : other.contents = session.contents) :
    other.flushNow.2.contents = session.flushNow.2.contents := by
  have hqueue : other.queue = session.queue := congrArg Contents.queue h
  have hidle : { other with queue := .idle }.contents = { session with queue := .idle }.contents := by
    simp only [contents, Contents.mk.injEq] at h ⊢
    exact ⟨h.1, h.2.1, h.2.2.1, trivial, h.2.2.2.2⟩
  rw [flushNow_eq, flushNow_eq, queued, hqueue]
  exact contents_commit_congr _ hidle

/-- A flush that waits for the due time commits the whole queue or does nothing. -/
theorem flushDue_eq (now : Nat) :
    session.flushDue now = (true, session.flushNow.2) ∨ session.flushDue now = (false, session) := by
  unfold flushDue flushNow Timer.cancel
  rcases session.queue.poll_cases now with ⟨batch, htask, hpoll⟩ | hpoll
  · left
    rw [hpoll, htask]
  · right
    rw [hpoll]

end Commit

end FormSession

end SiteBuilder
