import SiteBuilder.Proofs.Drafts.Reliable
import SiteBuilder.Proofs.Form.Run
import SiteBuilder.Proofs.Form.Writes

/-!
# What a flush reports

A flush reports whether there was a queue to commit. If the batch it takes from the queue holds answers, it raises
the revision by one and saves one draft. A write of no answers is queued as well, though, and a flush that takes
nothing but such writes reports a commit that never was.

The store of drafts is arbitrary, so it may count its calls: a store that is the one before after one call to save
has been asked to save once.
-/

namespace SiteBuilder

variable {σ : Type}

namespace FormSession

variable [DraftStore σ]

/-- From one state of a session to another, one draft is saved, that of the answers of the latter, if a template is
selected. -/
def SavedOnce (before after : FormSession σ) : Prop :=
  after.drafts =
    match before.templateId with
    | some id => (DraftStore.save before.drafts id after.answers).2
    | none => before.drafts

/-- What becomes of a session when a batch is taken from its queue, or nothing, and whether that is reported. -/
def afterTaking (session : FormSession σ) : Option AnswerSet → Bool × FormSession σ
  | some batch => (true, { session with queue := .idle }.commit batch)
  | none => (false, session)

variable (session : FormSession σ)

/-- A flush that waits for the due time takes what is due. -/
theorem flushDue_eq_afterTaking (now : Nat) :
    session.flushDue now = session.afterTaking (session.queue.poll now).1 := by
  unfold flushDue
  rcases session.queue.poll_cases now with ⟨batch, -, hpoll⟩ | hpoll
  · rw [hpoll]
    rfl
  · rw [hpoll]
    rfl

/-- A flush that does not wait takes the queue. -/
theorem flushNow_eq_afterTaking : session.flushNow = session.afterTaking session.queue.task? := by
  unfold flushNow Timer.cancel
  cases htask : session.queue.task? with
  | some batch => rfl
  | none =>
    have hidle : session.queue = .idle := congrArg Timer.mk (Option.map_eq_none_iff.mp htask)
    dsimp only
    rw [afterTaking, ← hidle]

/-- A batch that holds answers is one change and one draft. -/
theorem afterTaking_of_answers {batch : AnswerSet} (hbatch : batch.isEmpty = false) :
    (session.afterTaking (some batch)).2.answers = session.answers.overlay batch ∧
      (session.afterTaking (some batch)).2.revision = session.revision + 1 ∧
      session.SavedOnce (session.afterTaking (some batch)).2 := by
  refine ⟨answers_commit _ _, ?_, ?_⟩
  · rw [afterTaking, revision_commit, hbatch]
    rfl
  · cases htemplate : session.templateId with
    | none => simp [SavedOnce, afterTaking, commit, hbatch, htemplate]
    | some id => simp [SavedOnce, afterTaking, commit, hbatch, htemplate]

/-- A batch without answers is taken from the queue and changes nothing else. -/
theorem afterTaking_of_empty : (session.afterTaking (some ∅)).2 = { session with queue := .idle } := by
  rw [afterTaking, commit, if_pos (NameMap.isEmpty_iff.mpr rfl)]

end FormSession

/-- A draft that is saved once in a store that works is handed out as far as it is kept. -/
theorem FormSession.SavedOnce.load_eq [DraftStore σ] {works : σ → Prop} {kept : AnswerSet → Option AnswerSet}
    {before after : FormSession σ} (h : before.SavedOnce after) (hstore : DraftStore.Reliable works kept)
    (hworks : works before.drafts) {id : String} (htemplate : before.templateId = some id) :
    DraftStore.load after.drafts id = .ok (kept after.answers) := by
  obtain ⟨saved, hsave, -, hload⟩ := hstore.save before.drafts id after.answers hworks
  have hdrafts : after.drafts = (DraftStore.save before.drafts id after.answers).2 := by
    simpa only [SavedOnce, htemplate] using h
  rw [hdrafts, hsave]
  exact hload

/-- A draft that is saved once in a memory that works is counted once. -/
theorem FormSession.SavedOnce.writes_eq {before after : FormSession MemoryDrafts} (h : before.SavedOnce after)
    (hworks : before.drafts.working = true) {id : String} (htemplate : before.templateId = some id) :
    after.drafts.writes = before.drafts.writes + 1 := by
  rw [SavedOnce, htemplate] at h
  simp [h, DraftStore.save, hworks]

/-- The action is a flush, of what is due or of everything. -/
def FormAction.Flushes : FormAction σ → Prop
  | .flushDue | .flushNow => True
  | _ => False

namespace TimedForm

/-- The batch that a flush takes from the queue. -/
def taken? (state : TimedForm σ) : FormAction σ → Option AnswerSet
  | .flushDue => (state.session.queue.poll state.clock.now).1
  | .flushNow => state.session.queue.task?
  | _ => none

variable [DraftStore σ]

/-- A flush reports that it committed something. -/
def Reports (state : TimedForm σ) (action : FormAction σ) : Prop := (state.step action).1 = .flushed true

/-- An action is one change, and saves one draft if a template is selected. -/
def Changes (state : TimedForm σ) (action : FormAction σ) : Prop :=
  (state.step action).2.session.revision = state.session.revision + 1 ∧
    state.session.SavedOnce (state.step action).2.session

variable {state : TimedForm σ} {action : FormAction σ}

/-- A flush takes a batch from the queue and reports so, or does nothing. -/
theorem step_of_flushes (haction : action.Flushes) :
    state.step action =
      (.flushed (state.session.afterTaking (state.taken? action)).1,
        { state with session := (state.session.afterTaking (state.taken? action)).2 }) := by
  cases action with
  | flushDue => simp only [step, taken?, state.session.flushDue_eq_afterTaking]
  | flushNow => simp only [step, taken?, state.session.flushNow_eq_afterTaking]
  | _ => exact haction.elim

/-- A flush that reports nothing does nothing. -/
theorem step_of_not_reports (haction : action.Flushes) (h : ¬state.Reports action) :
    (state.step action).2 = state := by
  rw [Reports, step_of_flushes haction] at h
  rw [step_of_flushes haction]
  cases htaken : state.taken? action with
  | some batch => simp [htaken, FormSession.afterTaking] at h
  | none => rfl

/-- A flush reports a commit exactly if it makes one change and saves one draft, unless what it takes from the queue
is a batch without answers. -/
theorem reports_iff_changes_iff (haction : action.Flushes) :
    (state.Reports action ↔ state.Changes action) ↔ state.taken? action ≠ some ∅ := by
  unfold Reports Changes
  rw [step_of_flushes haction]
  cases htaken : state.taken? action with
  | none => simp [FormSession.afterTaking]
  | some batch =>
    by_cases hempty : batch.isEmpty = true
    · obtain rfl := NameMap.isEmpty_iff.mp hempty
      rw [state.session.afterTaking_of_empty]
      simp [FormSession.afterTaking]
    · have hbatch : batch.isEmpty = false := by simpa using hempty
      have hne : batch ≠ ∅ := mt NameMap.isEmpty_iff.mpr hempty
      obtain ⟨-, hrevision, hsaved⟩ := state.session.afterTaking_of_answers hbatch
      simp only [hrevision, hsaved, and_self, iff_true, ne_eq, Option.some.injEq, hne, not_false_eq_true]
      rfl

/-! ## Where a batch without answers comes from -/

/-- A write of no answers came while no answers were queued, and the queue was left alone since. -/
def EmptyWriteWaits (start : TimedForm σ) (actions : List (FormAction σ)) : Prop :=
  ∃ before after, actions = before ++ .update ∅ :: after ∧ (start.run before).session.queued = ∅ ∧
    ∀ earlier, earlier <+: after →
      (start.run (before ++ .update ∅ :: earlier)).session.queue = (start.run (before ++ [.update ∅])).session.queue

/-- A write of no answers is queued where no answers are. -/
theorem task?_update_empty (h : state.session.queued = ∅) :
    (state.step (.update ∅)).2.session.queue.task? = some ∅ := by
  have htyped : coerceAll state.session.config ∅ = .ok ∅ := by
    cases state.session.config <;> rfl
  have henqueue : (state.step (.update ∅)).2.session = state.session.enqueue state.clock.now ∅ := by
    simp only [step, FormSession.update, htyped]
  rw [henqueue]
  exact congrArg some h

/-- After an action, the queue is a batch without answers only if such a batch was just written or the queue was
left alone. -/
theorem task?_eq_empty_cases (h : (state.step action).2.session.queue.task? = some ∅) :
    (action = .update ∅ ∧ state.session.queued = ∅) ∨
      (state.step action).2.session.queue = state.session.queue := by
  have hidle {after : FormSession σ} (hafter : after.queue = .idle) : after.queue.task? ≠ some ∅ := by
    rw [hafter]
    exact nofun
  have hkeep {after : FormSession σ} (hcontents : after.contents = state.session.contents) :
      after.queue = state.session.queue := congrArg FormSession.Contents.queue hcontents
  cases action with
  | selectTemplate id => exact absurd h (hidle state.session.queue_flushNow)
  | applyConfig config =>
    simp only [step, FormSession.applyConfig] at h
    cases hslot : state.session.queue.slot with
    | none => simp [hslot, Timer.idle, Timer.task?] at h
    | some scheduled =>
      simp only [hslot] at h
      split at h
      · simp [Timer.idle, Timer.task?] at h
      · next hne =>
        have htyped : retype config scheduled.task = ∅ := Option.some.inj h
        exact absurd (NameMap.isEmpty_iff.mpr htyped) hne
  | update batch =>
    simp only [step, FormSession.update] at h ⊢
    cases htyped : coerceAll state.session.config batch with
    | error mismatch => exact .inr rfl
    | ok typed =>
      rw [htyped] at h
      have hjoined : state.session.queued.overlay typed = ∅ := Option.some.inj h
      have hempty := NameMap.isEmpty_iff.mpr hjoined
      rw [NameMap.isEmpty_overlay, Bool.and_eq_true, isEmpty_of_coerceAll htyped] at hempty
      obtain ⟨hqueued, hbatch⟩ := hempty
      rw [NameMap.isEmpty_iff] at hqueued hbatch
      exact .inl ⟨congrArg FormAction.update hbatch, hqueued⟩
  | updateNow batch =>
    simp only [step, FormSession.updateNow] at h ⊢
    cases htyped : coerceAll state.session.config batch with
    | error mismatch => exact .inr rfl
    | ok typed =>
      rw [htyped] at h
      exact absurd h (hidle (FormSession.queue_commit _ _))
  | flushDue =>
    rcases state.session.flushDue_eq state.clock.now with hflush | hflush
    · simp only [step, hflush] at h
      exact absurd h (hidle state.session.queue_flushNow)
    · exact .inr (by simp only [step, hflush])
  | flushNow => exact absurd h (hidle state.session.queue_flushNow)
  | resetForm => exact absurd h (hidle rfl)
  | clearTemplate => exact absurd h (hidle rfl)
  | submit => exact absurd h (hidle state.session.queue_flushNow)
  | validateStep id => exact .inr (hkeep (state.session.contents_validateStep id))
  | advanceStep => exact .inr (hkeep state.session.contents_advanceStep)
  | retreatStep => exact .inr (hkeep state.session.contents_retreatStep)
  | goToStep position => exact .inr (hkeep (state.session.contents_goToStep position))
  | _ => exact .inr rfl

/-- The queue of a run that starts without one is a batch without answers exactly if a write of no answers waits. -/
theorem task?_eq_empty_iff {start : TimedForm σ} (hstart : start.session.queue = .idle)
    (actions : List (FormAction σ)) :
    (start.run actions).session.queue.task? = some ∅ ↔ start.EmptyWriteWaits actions := by
  constructor
  · intro h
    induction actions using List.reverseRecOn with
    | nil =>
      rw [run_nil, hstart] at h
      cases h
    | append_singleton earlier action ih =>
      rw [run_concat] at h
      rcases task?_eq_empty_cases h with ⟨rfl, hqueued⟩ | hsame
      · refine ⟨earlier, [], rfl, hqueued, fun _ hnil => ?_⟩
        rw [List.prefix_nil.mp hnil]
      · rw [hsame] at h
        obtain ⟨before, after, rfl, hqueued, hleft⟩ := ih h
        refine ⟨before, after ++ [action], by simp, hqueued, fun later hlater => ?_⟩
        rcases List.prefix_concat_iff.mp hlater with rfl | hlater
        · have hwhole : before ++ .update ∅ :: (after ++ [action]) = (before ++ .update ∅ :: after) ++ [action] := by
            simp
          rw [hwhole, run_concat, hsame]
          exact hleft after List.prefix_rfl
        · exact hleft later hlater
  · rintro ⟨before, after, rfl, hqueued, hleft⟩
    rw [hleft after List.prefix_rfl, run_concat]
    exact task?_update_empty hqueued

end TimedForm

end SiteBuilder
