import SiteBuilder.Proofs.Drafts.Reliable
import SiteBuilder.Proofs.Form.Run
import SiteBuilder.Proofs.Form.Writes

/-!
# Waiting writes are written writes

Whether writes are queued or committed at once makes no difference to anyone who does not look at the
queue. Two sessions that would be the same if their queues were committed stay so, whatever is done to both
and however the writes are made: what they hand back, their effective answers, the problems they know of and
their positions are the same, and so is the draft once the queue is committed.

Only the number of changes and of saved drafts tells them apart.
-/

namespace SiteBuilder

variable {σ : Type}

namespace FormAction

/-- The same action with every write committed at once. -/
def eager : FormAction σ → FormAction σ
  | .update batch => .updateNow batch
  | action => action

/-- The action keeps the template, the form and the store of drafts. -/
def Editing : FormAction σ → Prop
  | .selectTemplate _ | .applyConfig _ | .resetForm | .clearTemplate | .changeDrafts _ => False
  | _ => True

end FormAction

/-- What is handed back, unless it is whether there was a queue. -/
def FormReply.apartFromFlushes : FormReply → Option FormReply
  | .flushed _ => none
  | reply => some reply

namespace FormSession

/-- The draft of a template once the queue is committed. -/
def settledDraft [DraftStore σ] (session : FormSession σ) (id : String) : Except DraftError (Option AnswerSet) :=
  DraftStore.load session.flushNow.2.drafts id

/-- Commit the queue with a typed batch over it. -/
def writeNow [DraftStore σ] (session : FormSession σ) (typed : AnswerSet) : FormSession σ :=
  { session with queue := .idle, errors := withoutErrorsOf session.errors typed }.commit
    (session.queued.overlay typed)

/-- Two sessions are the same once their queues are committed. -/
structure SameSettled [DraftStore σ] (works : σ → Prop) (id : String) (s t : FormSession σ) : Prop where
  template_left : s.templateId = some id
  template_right : t.templateId = some id
  works_left : works s.drafts
  works_right : works t.drafts
  config : s.config = t.config
  answers : s.effectiveAnswers = t.effectiveAnswers
  draft : s.settledDraft id = t.settledDraft id
  progress : s.progress = t.progress

/-- A write that is queued is seen in the effective answers. -/
theorem effectiveAnswers_enqueue (session : FormSession σ) (now : Nat) (typed : AnswerSet) :
    (session.enqueue now typed).effectiveAnswers = session.effectiveAnswers.overlay typed := by
  rw [effectiveAnswers_eq, effectiveAnswers_eq, NameMap.overlay_assoc]
  rfl

/-- What a typed batch does to a session, once the queue is committed. -/
structure Takes [DraftStore σ] (works : σ → Prop) (kept : AnswerSet → Option AnswerSet) (id : String)
    (session : FormSession σ) (typed : AnswerSet) (after : FormSession σ) : Prop where
  template : after.templateId = some id
  works : works after.drafts
  config : after.config = session.config
  answers : after.effectiveAnswers = session.effectiveAnswers.overlay typed
  draft : after.settledDraft id =
    if typed.isEmpty then session.settledDraft id
    else .ok (kept (session.effectiveAnswers.overlay typed))
  progress : after.progress = { session.progress with errors := withoutErrorsOf session.progress.errors typed }

section Settling

variable [DraftStore σ] {works : σ → Prop} {kept : AnswerSet → Option AnswerSet} {id : String}

/-- The draft that is stored in the end depends on the contents alone. -/
theorem settledDraft_congr {session other : FormSession σ} (h : other.contents = session.contents) :
    other.settledDraft id = session.settledDraft id :=
  congrArg (fun contents => DraftStore.load contents.drafts id) (contents_flushNow_congr h)

/-- A write that is committed at once is seen in the effective answers. -/
theorem effectiveAnswers_writeNow (session : FormSession σ) (typed : AnswerSet) :
    (session.writeNow typed).effectiveAnswers = session.effectiveAnswers.overlay typed := by
  have hidle : (session.writeNow typed).queue = .idle := queue_commit _ _
  rw [effectiveAnswers_of_idle hidle, effectiveAnswers_eq, NameMap.overlay_assoc]
  exact answers_commit _ _

/-- A commit leaves a working store working. -/
theorem works_commit (hstore : DraftStore.Reliable works kept) (session : FormSession σ)
    (hworks : works session.drafts) (batch : AnswerSet) : works (session.commit batch).drafts := by
  unfold commit
  split
  · exact hworks
  · cases session.templateId with
    | none => exact hworks
    | some id =>
      obtain ⟨saved, hsave, hsaved, -⟩ := hstore.save session.drafts id (session.answers.overlay batch) hworks
      simp only [hsave]
      exact hsaved

/-- The draft after a commit is what is kept of the new answers, unless there was nothing to commit. -/
theorem load_commit (hstore : DraftStore.Reliable works kept) (session : FormSession σ)
    (hworks : works session.drafts) (htemplate : session.templateId = some id) (batch : AnswerSet) :
    DraftStore.load (session.commit batch).drafts id =
      if batch.isEmpty then DraftStore.load session.drafts id
      else .ok (kept (session.answers.overlay batch)) := by
  unfold commit
  split
  · rfl
  · obtain ⟨saved, hsave, -, hload⟩ := hstore.save session.drafts id (session.answers.overlay batch) hworks
    simp only [htemplate, hsave]
    exact hload

/-- The draft that is stored in the end holds the effective answers if anything is queued. -/
theorem settledDraft_eq (hstore : DraftStore.Reliable works kept) (session : FormSession σ)
    (hworks : works session.drafts) (htemplate : session.templateId = some id) :
    session.settledDraft id =
      if session.queued.isEmpty then DraftStore.load session.drafts id
      else .ok (kept session.effectiveAnswers) := by
  rw [settledDraft, flushNow_eq, effectiveAnswers_eq]
  exact load_commit hstore { session with queue := .idle } hworks htemplate session.queued

/-- What is stored after the queue and one more batch is what was to be stored before, unless the batch
says something. -/
theorem settledDraft_overlay (hstore : DraftStore.Reliable works kept) (session : FormSession σ)
    (hworks : works session.drafts) (htemplate : session.templateId = some id) (typed : AnswerSet) :
    (if (session.queued.overlay typed).isEmpty then DraftStore.load session.drafts id
      else .ok (kept (session.effectiveAnswers.overlay typed))) =
    if typed.isEmpty then session.settledDraft id
      else .ok (kept (session.effectiveAnswers.overlay typed)) := by
  rw [NameMap.isEmpty_overlay]
  by_cases hempty : typed.isEmpty = true
  · rw [settledDraft_eq hstore session hworks htemplate, NameMap.isEmpty_iff.mp hempty,
      NameMap.overlay_empty]
    simp only [NameMap.isEmpty_iff.mpr, Bool.and_true, ↓reduceIte]
  · simp only [hempty, Bool.and_false, Bool.false_eq_true, ↓reduceIte]

/-- A queued batch is seen at once, and ends up in the draft with everything before it. -/
theorem takes_enqueue (hstore : DraftStore.Reliable works kept) (session : FormSession σ)
    (hworks : works session.drafts) (htemplate : session.templateId = some id) (now : Nat)
    (typed : AnswerSet) : Takes works kept id session typed (session.enqueue now typed) where
  template := htemplate
  works := hworks
  config := rfl
  answers := effectiveAnswers_enqueue session now typed
  draft := by
    rw [settledDraft_eq hstore (session.enqueue now typed) hworks htemplate, effectiveAnswers_enqueue]
    exact settledDraft_overlay hstore session hworks htemplate typed
  progress := rfl

/-- A batch that is committed at once has the same effect as one that waits. -/
theorem takes_writeNow (hstore : DraftStore.Reliable works kept) (session : FormSession σ)
    (hworks : works session.drafts) (htemplate : session.templateId = some id) (typed : AnswerSet) :
    Takes works kept id session typed (session.writeNow typed) := by
  let cleared : FormSession σ :=
    { session with queue := .idle, errors := withoutErrorsOf session.errors typed }
  have htemplate' : (session.writeNow typed).templateId = some id :=
    (templateId_commit cleared _).trans htemplate
  have hworks' : works (session.writeNow typed).drafts := works_commit hstore cleared hworks _
  have hqueued : (session.writeNow typed).queued = ∅ := queued_of_idle (queue_commit cleared _)
  refine ⟨htemplate', hworks', config_commit cleared _, effectiveAnswers_writeNow session typed, ?_,
    progress_commit cleared _⟩
  rw [settledDraft_eq hstore _ hworks' htemplate', hqueued, if_pos (NameMap.isEmpty_iff.mpr rfl),
    ← settledDraft_overlay hstore session hworks htemplate typed, effectiveAnswers_eq,
    NameMap.overlay_assoc]
  exact load_commit hstore cleared hworks htemplate (session.queued.overlay typed)

namespace SameSettled

variable {s t : FormSession σ}

theorem symm (h : SameSettled works id s t) : SameSettled works id t s :=
  ⟨h.template_right, h.template_left, h.works_right, h.works_left, h.config.symm, h.answers.symm,
    h.draft.symm, h.progress.symm⟩

theorem position (h : SameSettled works id s t) : s.position = t.position := congrArg Progress.position h.progress

theorem errors (h : SameSettled works id s t) : s.errors = t.errors := congrArg Progress.errors h.progress

theorem predicates (h : SameSettled works id s t) : s.predicates = t.predicates :=
  congrArg Progress.predicates h.progress

/-- Sessions stay the same once settled while their contents stay and their users do the same. -/
theorem of_contents (h : SameSettled works id s t) {s' t' : FormSession σ}
    (hs : s'.contents = s.contents) (ht : t'.contents = t.contents) (hprogress : s'.progress = t'.progress) :
    SameSettled works id s' t' where
  template_left := (congrArg Contents.templateId hs).trans h.template_left
  template_right := (congrArg Contents.templateId ht).trans h.template_right
  works_left := by
    rw [show s'.drafts = s.drafts from congrArg Contents.drafts hs]
    exact h.works_left
  works_right := by
    rw [show t'.drafts = t.drafts from congrArg Contents.drafts ht]
    exact h.works_right
  config := ((congrArg Contents.config hs).trans h.config).trans (congrArg Contents.config ht).symm
  answers := by
    rw [effectiveAnswers_congr hs, effectiveAnswers_congr ht]
    exact h.answers
  draft := by
    rw [settledDraft_congr hs, settledDraft_congr ht]
    exact h.draft
  progress := hprogress

/-- Committing the queue of one of two sessions makes no difference. -/
theorem flushNow_left (hstore : DraftStore.Reliable works kept) (h : SameSettled works id s t) :
    SameSettled works id s.flushNow.2 t := by
  have htemplate : s.flushNow.2.templateId = some id := by
    rw [flushNow_eq, templateId_commit]
    exact h.template_left
  have hworks : works s.flushNow.2.drafts := by
    rw [flushNow_eq]
    exact works_commit hstore { s with queue := .idle } h.works_left s.queued
  have hanswers : s.flushNow.2.effectiveAnswers = s.effectiveAnswers := s.effectiveAnswers_flushNow
  have hdraft : s.flushNow.2.settledDraft id = s.settledDraft id := by
    have hqueued : s.flushNow.2.queued = ∅ := queued_of_idle s.queue_flushNow
    rw [settledDraft_eq hstore _ hworks htemplate, hqueued, if_pos (NameMap.isEmpty_iff.mpr rfl)]
    rfl
  refine ⟨htemplate, h.template_right, hworks, h.works_right, ?_, hanswers.trans h.answers,
    hdraft.trans h.draft, ?_⟩
  · rw [flushNow_eq, config_commit]
    exact h.config
  · rw [flushNow_eq, progress_commit]
    exact h.progress

/-- The same batch keeps two sessions the same, however each of them takes it. -/
theorem takes (h : SameSettled works id s t) {typed : AnswerSet} {s' t' : FormSession σ}
    (hs : Takes works kept id s typed s') (ht : Takes works kept id t typed t') :
    SameSettled works id s' t' where
  template_left := hs.template
  template_right := ht.template
  works_left := hs.works
  works_right := ht.works
  config := by rw [hs.config, ht.config, h.config]
  answers := by rw [hs.answers, ht.answers, h.answers]
  draft := by rw [hs.draft, ht.draft, h.draft, h.answers]
  progress := by rw [hs.progress, ht.progress, h.progress]

/-- A write that waits and the same write committed at once are taken or refused alike. -/
theorem update_updateNow (hstore : DraftStore.Reliable works kept) (h : SameSettled works id s t)
    (now : Nat) (batch : AnswerSet) :
    (s.update now batch).1 = (t.updateNow batch).1 ∧
      SameSettled works id (s.update now batch).2 (t.updateNow batch).2 := by
  have htyped : coerceAll s.config batch = coerceAll t.config batch := by rw [h.config]
  unfold update updateNow
  rw [htyped]
  cases coerceAll t.config batch with
  | error mismatch => exact ⟨rfl, h⟩
  | ok typed =>
    exact ⟨rfl, h.takes (takes_enqueue hstore s h.works_left h.template_left now typed)
      (takes_writeNow hstore t h.works_right h.template_right typed)⟩

/-- Writes committed at once on both sides are taken or refused alike. -/
theorem updateNow (hstore : DraftStore.Reliable works kept) (h : SameSettled works id s t)
    (batch : AnswerSet) :
    (s.updateNow batch).1 = (t.updateNow batch).1 ∧
      SameSettled works id (s.updateNow batch).2 (t.updateNow batch).2 := by
  have htyped : coerceAll s.config batch = coerceAll t.config batch := by rw [h.config]
  unfold FormSession.updateNow
  rw [htyped]
  cases coerceAll t.config batch with
  | error mismatch => exact ⟨rfl, h⟩
  | ok typed =>
    exact ⟨rfl, h.takes (takes_writeNow hstore s h.works_left h.template_left typed)
      (takes_writeNow hstore t h.works_right h.template_right typed)⟩

/-- Both sides may commit their queues. -/
theorem flushNow (hstore : DraftStore.Reliable works kept) (h : SameSettled works id s t) :
    SameSettled works id s.flushNow.2 t.flushNow.2 :=
  ((h.flushNow_left hstore).symm.flushNow_left hstore).symm

/-- It makes no difference which of two queues is due. -/
theorem flushDue (hstore : DraftStore.Reliable works kept) (h : SameSettled works id s t) (now now' : Nat) :
    SameSettled works id (s.flushDue now).2 (t.flushDue now').2 := by
  have hleft : SameSettled works id (s.flushDue now).2 t := by
    rcases s.flushDue_eq now with heq | heq
    · rw [heq]
      exact h.flushNow_left hstore
    · rw [heq]
      exact h
  rcases t.flushDue_eq now' with heq | heq
  · rw [heq]
    exact (hleft.symm.flushNow_left hstore).symm
  · rw [heq]
    exact hleft

/-- The same problems are found in a step. -/
theorem validateStep (h : SameSettled works id s t) (step : String) :
    (s.validateStep step).1 = (t.validateStep step).1 ∧
      SameSettled works id (s.validateStep step).2 (t.validateStep step).2 := by
  have hstep : s.config.bind (·.step? step) = t.config.bind (·.step? step) := by rw [h.config]
  unfold FormSession.validateStep
  rw [hstep]
  cases t.config.bind (·.step? step) with
  | none => exact ⟨rfl, h⟩
  | some found =>
    have hproblems : found.problems s.effectiveAnswers s.predicates =
        found.problems t.effectiveAnswers t.predicates := by rw [h.answers, h.predicates]
    refine ⟨hproblems, h.of_contents rfl rfl ?_⟩
    dsimp only
    rw [hproblems]
    exact congrArg (fun progress : Progress => { progress with
      errors := recordProblems (found.problems t.effectiveAnswers t.predicates) found.fields progress.errors })
      h.progress

/-- The same problems are found in the form. -/
theorem validateAll (h : SameSettled works id s t) :
    s.validateAll.1 = t.validateAll.1 ∧ SameSettled works id s.validateAll.2 t.validateAll.2 := by
  have hproblems : s.validateAll.1 = t.validateAll.1 := by
    simp only [FormSession.validateAll, h.config, h.answers, h.predicates]
  refine ⟨hproblems, h.of_contents rfl rfl ?_⟩
  calc { s.progress with errors := s.validateAll.1 }
      = { t.progress with errors := t.validateAll.1 } := by rw [hproblems, h.progress]

/-- The next step is reached or refused alike. -/
theorem advanceStep (h : SameSettled works id s t) :
    s.advanceStep.1 = t.advanceStep.1 ∧ SameSettled works id s.advanceStep.2 t.advanceStep.2 := by
  have hcount : s.stepCount = t.stepCount := by
    unfold stepCount
    rw [h.config]
  have hcurrent : s.currentStep? = t.currentStep? := by
    unfold currentStep?
    rw [h.config, h.position]
  unfold FormSession.advanceStep
  rw [hcount, h.position, hcurrent]
  split
  · exact ⟨rfl, h⟩
  · cases t.currentStep? with
    | none => exact ⟨rfl, h⟩
    | some step =>
      obtain ⟨hproblems, hafter⟩ := h.validateStep step.id
      dsimp only
      rw [hproblems]
      split
      · refine ⟨by rw [hafter.position], hafter.of_contents rfl rfl ?_⟩
        exact congrArg (fun progress : Progress => { progress with position := progress.position + 1 })
          hafter.progress
      · exact ⟨rfl, hafter⟩

/-- The step before is reached alike. -/
theorem retreatStep (h : SameSettled works id s t) :
    s.retreatStep.1 = t.retreatStep.1 ∧ SameSettled works id s.retreatStep.2 t.retreatStep.2 := by
  unfold FormSession.retreatStep
  rw [h.position]
  split
  · exact ⟨rfl, h⟩
  · exact ⟨rfl, h.of_contents rfl rfl
      (congrArg (fun progress : Progress => { progress with position := t.position - 1 }) h.progress)⟩

/-- The same positions exist. -/
theorem goToStep (h : SameSettled works id s t) (position : Nat) :
    (s.goToStep position).1 = (t.goToStep position).1 ∧
      SameSettled works id (s.goToStep position).2 (t.goToStep position).2 := by
  have hcount : s.stepCount = t.stepCount := by
    unfold stepCount
    rw [h.config]
  unfold FormSession.goToStep
  rw [hcount]
  split
  · exact ⟨rfl, h.of_contents rfl rfl
      (congrArg (fun progress : Progress => { progress with position }) h.progress)⟩
  · exact ⟨rfl, h⟩

/-- The same answers are handed out, or the same problems are in the way. -/
theorem submit (hstore : DraftStore.Reliable works kept) (h : SameSettled works id s t) :
    s.submit.1 = t.submit.1 ∧ SameSettled works id s.submit.2 t.submit.2 := by
  have hflushed := h.flushNow hstore
  have hsubmitted : SameSettled works id { s.flushNow.2 with submitted := true }
      { t.flushNow.2 with submitted := true } :=
    hflushed.of_contents rfl rfl
      (congrArg (fun progress : Progress => { progress with submitted := true }) hflushed.progress)
  have hanswers : s.flushNow.2.answers = t.flushNow.2.answers := by
    rw [answers_flushNow, answers_flushNow, h.answers]
  refine ⟨?_, hsubmitted.validateAll.2⟩
  rw [submit_eq, submit_eq, hflushed.validateAll.1, hanswers]

end SameSettled

end Settling

end FormSession

namespace TimedForm

variable [DraftStore σ] {works : σ → Prop} {kept : AnswerSet → Option AnswerSet} {id : String}

/-- An action and its eager form keep two sessions the same and hand back the same. -/
theorem step_eager (hstore : DraftStore.Reliable works kept) {s t : TimedForm σ}
    (h : FormSession.SameSettled works id s.session t.session) {action : FormAction σ}
    (haction : action.Editing) :
    (s.step action).1.apartFromFlushes = (t.step action.eager).1.apartFromFlushes ∧
      FormSession.SameSettled works id (s.step action).2.session (t.step action.eager).2.session := by
  cases action with
  | selectTemplate | applyConfig | resetForm | clearTemplate | changeDrafts => exact haction.elim
  | update batch =>
    obtain ⟨hresult, hafter⟩ := h.update_updateNow hstore s.clock.now batch
    exact ⟨congrArg (some ∘ FormReply.written) hresult, hafter⟩
  | updateNow batch =>
    obtain ⟨hresult, hafter⟩ := h.updateNow hstore batch
    exact ⟨congrArg (some ∘ FormReply.written) hresult, hafter⟩
  | flushDue => exact ⟨rfl, h.flushDue hstore s.clock.now t.clock.now⟩
  | flushNow => exact ⟨rfl, h.flushNow hstore⟩
  | submit =>
    obtain ⟨hresult, hafter⟩ := h.submit hstore
    exact ⟨congrArg (some ∘ FormReply.submitted) hresult, hafter⟩
  | validateStep step =>
    obtain ⟨hresult, hafter⟩ := h.validateStep step
    exact ⟨congrArg (some ∘ FormReply.checked) hresult, hafter⟩
  | validateAll =>
    obtain ⟨hresult, hafter⟩ := h.validateAll
    exact ⟨congrArg (some ∘ FormReply.checked) hresult, hafter⟩
  | advanceStep =>
    obtain ⟨hresult, hafter⟩ := h.advanceStep
    exact ⟨congrArg (some ∘ FormReply.stepped) hresult, hafter⟩
  | retreatStep =>
    obtain ⟨hresult, hafter⟩ := h.retreatStep
    exact ⟨congrArg (some ∘ FormReply.stepped) hresult, hafter⟩
  | goToStep position =>
    obtain ⟨hresult, hafter⟩ := h.goToStep position
    exact ⟨congrArg (some ∘ FormReply.placed) hresult, hafter⟩
  | touch name =>
    exact ⟨rfl, h.of_contents rfl rfl (congrArg (fun progress : FormSession.Progress =>
      { progress with touched := progress.touched.insert name () }) h.progress)⟩
  | register name predicate =>
    exact ⟨rfl, h.of_contents rfl rfl (congrArg (fun progress : FormSession.Progress =>
      { progress with predicates := progress.predicates.insert name predicate }) h.progress)⟩
  | advanceClock span => exact ⟨rfl, h⟩

/-- A run and its eager form keep two sessions the same and hand back the same all along. -/
theorem run_eager (hstore : DraftStore.Reliable works kept) {s t : TimedForm σ}
    (h : FormSession.SameSettled works id s.session t.session) {actions : List (FormAction σ)}
    (hactions : ∀ action ∈ actions, action.Editing) :
    (s.replies actions).map FormReply.apartFromFlushes =
        (t.replies (actions.map FormAction.eager)).map FormReply.apartFromFlushes ∧
      FormSession.SameSettled works id (s.run actions).session
        (t.run (actions.map FormAction.eager)).session := by
  induction actions generalizing s t with
  | nil => exact ⟨rfl, h⟩
  | cons action rest ih =>
    obtain ⟨hreply, hafter⟩ := step_eager hstore h (hactions action List.mem_cons_self)
    obtain ⟨hreplies, hend⟩ := ih hafter fun later hlater => hactions later (List.mem_cons_of_mem _ hlater)
    refine ⟨?_, hend⟩
    simp only [replies, List.map_cons]
    rw [hreply, hreplies]

/-- From any session with a template and a store that does not fail, writes that wait for the queue
cannot be told from writes that are committed at once: the same is handed back by everything but the
flushes, and the effective answers, the known problems and the position are the same. After a last flush
the answers and the stored draft are the same, too.

The actions may be any first part of a longer run, so this holds at every point of it. -/
theorem lazy_run_eq_eager_run (hstore : DraftStore.Reliable works kept) (start : TimedForm σ)
    (htemplate : start.session.templateId = some id) (hworks : works start.session.drafts)
    (actions : List (FormAction σ)) (hactions : ∀ action ∈ actions, action.Editing) :
    let waiting := (start.run actions).session
    let written := (start.run (actions.map FormAction.eager)).session
    (start.replies actions).map FormReply.apartFromFlushes =
        (start.replies (actions.map FormAction.eager)).map FormReply.apartFromFlushes ∧
      waiting.effectiveAnswers = written.effectiveAnswers ∧
      waiting.errors = written.errors ∧
      waiting.position = written.position ∧
      waiting.flushNow.2.answers = written.flushNow.2.answers ∧
      DraftStore.load waiting.flushNow.2.drafts id = DraftStore.load written.flushNow.2.drafts id := by
  intro waiting written
  have hstart : FormSession.SameSettled works id start.session start.session :=
    ⟨htemplate, htemplate, hworks, hworks, rfl, rfl, rfl, rfl⟩
  obtain ⟨hreplies, hend⟩ := run_eager hstore hstart hactions
  refine ⟨hreplies, hend.answers, hend.errors, hend.position, ?_, hend.draft⟩
  rw [FormSession.answers_flushNow, FormSession.answers_flushNow]
  exact hend.answers

/-- A refused write, a late flush and a submission between two writes do not tell them apart. -/
theorem lazy_run_eq_eager_run_of_refused_write :
    let opening : List (FormAction MemoryDrafts) :=
      [.selectTemplate "t", .applyConfig (.simple [("age", .number)]), .update (.singleton "age" (.text "36"))]
    let start : TimedForm MemoryDrafts := run ⟨.start, .start .empty {}⟩ opening
    let actions : List (FormAction MemoryDrafts) :=
      [.update (.singleton "age" (.bool true)), .advanceClock 20, .flushDue, .update (.singleton "bio" (.text "Ada")),
        .advanceStep, .submit, .update ∅, .validateAll]
    start.session.templateId = some "t" ∧
      start.session.drafts.working = true ∧
      (start.replies actions).map FormReply.apartFromFlushes =
        (start.replies (actions.map FormAction.eager)).map FormReply.apartFromFlushes ∧
      DraftStore.load (start.run actions).session.flushNow.2.drafts "t" =
        DraftStore.load (start.run (actions.map FormAction.eager)).session.flushNow.2.drafts "t" := by
  intro opening start actions
  have htemplate : start.session.templateId = some "t" := rfl
  have hworks : start.session.drafts.working = true := rfl
  have hactions : ∀ action ∈ actions, action.Editing := by simp [actions, FormAction.Editing]
  obtain ⟨hreplies, -, -, -, -, hdraft⟩ :=
    lazy_run_eq_eager_run MemoryDrafts.reliable start htemplate hworks actions hactions
  exact ⟨htemplate, hworks, hreplies, hdraft⟩

end TimedForm

end SiteBuilder
