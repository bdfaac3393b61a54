import SiteBuilder.Proofs.Form.Recovery

/-!
# Taking up a form

Taking up a form types the answers and the queue by it and fills in its defaults. The queue is dropped and made anew,
with the time that was left, so the moment at which it becomes due is kept; a queue that was overdue is due at once.
What comes out is a fixed point: taking up the same form again only counts as one more change. No draft is written,
also where a stored answer was dropped.

Nothing is assumed of the session, so all of this holds in every state that a session can come to.
-/

namespace SiteBuilder

namespace FormSession

variable {σ : Type} {session : FormSession σ} {config : TemplateConfig} {now later : Nat}

/-- What waits after taking up a form: the writes that fit, unless there are none, due when they were or at once. -/
theorem slot_applyConfig (session : FormSession σ) (now : Nat) (config : TemplateConfig) :
    (session.applyConfig now config).queue.slot =
      (session.queue.slot.map fun scheduled =>
        ⟨now + (scheduled.due - now), retype config scheduled.task⟩).filter (!·.task.isEmpty) := by
  unfold applyConfig
  cases session.queue.slot with
  | none => rfl
  | some scheduled =>
    rw [Option.map_some, Option.filter_some]
    dsimp only
    split
    · next hempty => simp [hempty, Timer.idle]
    · next hfits => simp [hfits, Timer.schedule]

/-- What waits after taking up a form was waiting before, for the same moment or a moment that has passed. -/
theorem slot_applyConfig_eq_some {due : Nat} {typed : AnswerSet}
    (h : (session.applyConfig now config).queue.slot = some ⟨due, typed⟩) :
    ∃ scheduled, session.queue.slot = some scheduled ∧ due = now + (scheduled.due - now) ∧
      typed = retype config scheduled.task ∧ typed.isEmpty = false := by
  rw [slot_applyConfig, Option.filter_eq_some_iff] at h
  obtain ⟨hslot, hfits⟩ := h
  obtain ⟨scheduled, hscheduled, heq⟩ := Option.map_eq_some_iff.mp hslot
  obtain ⟨rfl, rfl⟩ := Scheduled.mk.inj heq
  exact ⟨scheduled, hscheduled, rfl, rfl, by simpa using hfits⟩

/-- The queue after taking up a form is the typed queue; an empty one is none. -/
theorem task?_applyConfig (session : FormSession σ) (now : Nat) (config : TemplateConfig) :
    (session.applyConfig now config).queue.task? =
      if (retype config session.queued).isEmpty then none else some (retype config session.queued) := by
  unfold queued Timer.task?
  rw [slot_applyConfig]
  cases session.queue.slot with
  | none => rfl
  | some scheduled =>
    cases hfits : (retype config scheduled.task).isEmpty <;> simp [hfits]

/-- A write waits after taking up a form exactly if it waited before and fits its field, and it waits as it is
stored. -/
theorem get?_queued_applyConfig {name : String} {stored : Answer} :
    (session.applyConfig now config).queued.get? name = some stored ↔
      ∃ written, session.queued.get? name = some written ∧ config.coerce name written = .ok stored := by
  rw [queued_applyConfig, get?_retype, Option.bind_eq_some_iff]
  refine exists_congr fun written => and_congr_right fun _ => ⟨ok_of_toOption, fun h => ?_⟩
  rw [h]
  rfl

/-- What still waits becomes due when it would have. -/
theorem nextFlush?_applyConfig (hwaits : (session.applyConfig now config).hasPendingWrites = true)
    (hlater : now ≤ later) : (session.applyConfig now config).nextFlush? later = session.nextFlush? later := by
  obtain ⟨⟨due, typed⟩, hslot⟩ := Option.isSome_iff_exists.mp hwaits
  obtain ⟨scheduled, hscheduled, rfl, -, -⟩ := slot_applyConfig_eq_some hslot
  have hdue : now + (scheduled.due - now) - later = scheduled.due - later := by omega
  simp only [nextFlush?, Timer.remaining?, hslot, hscheduled, Option.map_some, hdue]

/-- Taking up the form again at once leaves the queue. -/
theorem queue_applyConfig_applyConfig (session : FormSession σ) (now : Nat) (config : TemplateConfig) :
    ((session.applyConfig now config).applyConfig now config).queue = (session.applyConfig now config).queue := by
  let after := session.applyConfig now config
  suffices hslot : (after.applyConfig now config).queue.slot = after.queue.slot from congrArg Timer.mk hslot
  rw [slot_applyConfig]
  cases hafter : after.queue.slot with
  | none => rfl
  | some waiting =>
    obtain ⟨scheduled, -, hdue, htyped, hfits⟩ := slot_applyConfig_eq_some hafter
    have hretyped : retype config waiting.task = waiting.task := by
      rw [htyped]
      exact retype_of_types (types_retype config scheduled.task)
    have hkept : now + (waiting.due - now) = waiting.due := by omega
    rw [Option.map_some, Option.filter_some, hretyped, hkept, hfits]
    rfl

/-- Taking up the same form again changes the count of changes and at most the queue. -/
theorem applyConfig_applyConfig (haccepted : config.Accepted) :
    let after := session.applyConfig now config
    after.applyConfig later config =
      { after with queue := (after.applyConfig later config).queue, revision := after.revision + 1 } := by
  intro after
  have htyped : after.TypedBy config := wellTyped_applyConfig session now haccepted config rfl
  have hanswers : (after.applyConfig later config).answers = after.answers := htyped.answers_applyConfig later
  have hposition : (after.applyConfig later config).position = after.position := by
    change min (max (min (max session.position 1) (max config.stepCount 1)) 1) (max config.stepCount 1) =
      min (max session.position 1) (max config.stepCount 1)
    omega
  calc after.applyConfig later config
      = { after with
          answers := (after.applyConfig later config).answers
          position := (after.applyConfig later config).position
          queue := (after.applyConfig later config).queue
          revision := after.revision + 1 } := rfl
    _ = _ := by rw [hanswers, hposition]

/-- Whatever a session holds and whatever time it is when it takes up an accepted form:

* exactly the queued writes that fit go on waiting, in stored form, and if none fits then nothing waits;
* what goes on waiting is due when it would have been;
* no draft is written;
* what is effective are the defaults of the form, over them the committed answers that fit, and over them the queued
  ones that fit;
* taking up the form again at once changes nothing but the count of changes, and taking it up again at any later time
  keeps, besides, what waits and when it is due. -/
theorem applyConfig_idempotent (session : FormSession σ) (now : Nat) (config : TemplateConfig)
    (haccepted : config.Accepted) :
    let after := session.applyConfig now config
    after.queue.task? =
        (if (retype config session.queued).isEmpty then none else some (retype config session.queued)) ∧
      (∀ name stored, after.queued.get? name = some stored ↔
        ∃ written, session.queued.get? name = some written ∧ config.coerce name written = .ok stored) ∧
      (after.hasPendingWrites = true → ∀ later ≥ now, after.nextFlush? later = session.nextFlush? later) ∧
      after.drafts = session.drafts ∧
      after.effectiveAnswers =
        (config.defaults.overlay (retype config session.answers)).overlay (retype config session.queued) ∧
      after.applyConfig now config = { after with revision := after.revision + 1 } ∧
      ∀ later ≥ now,
        let again := after.applyConfig later config
        again = { after with queue := again.queue, revision := after.revision + 1 } ∧
          again.queue.task? = after.queue.task? ∧
          ∀ moment ≥ later, again.nextFlush? moment = after.nextFlush? moment := by
  intro after
  have htyped : after.TypedBy config := wellTyped_applyConfig session now haccepted config rfl
  refine ⟨session.task?_applyConfig now config, fun name stored => get?_queued_applyConfig,
    fun hwaits later hlater => nextFlush?_applyConfig hwaits hlater, rfl, ?_, ?_, fun later hlater => ?_⟩
  · rw [effectiveAnswers_eq, queued_applyConfig, answers_applyConfig]
    rfl
  · rw [applyConfig_applyConfig haccepted, session.queue_applyConfig_applyConfig now config]
  · intro again
    have hqueue : again.queue.task? = after.queue.task? := by
      rw [after.task?_applyConfig later config, retype_of_types htyped.queued, session.task?_applyConfig now config,
        ← session.queued_applyConfig now config]
    refine ⟨applyConfig_applyConfig haccepted, hqueue, fun moment hmoment => ?_⟩
    cases hwaits : again.hasPendingWrites with
    | true => exact nextFlush?_applyConfig hwaits hmoment
    | false =>
      have hidle : again.queue.slot = none := Option.isNone_iff_eq_none.mp (Option.isSome_eq_false_iff.mp hwaits)
      have hbefore : after.queue.slot = none := by
        rw [Timer.task?, Timer.task?, hidle] at hqueue
        exact Option.map_eq_none_iff.mp hqueue.symm
      rw [nextFlush?, nextFlush?, Timer.remaining?, Timer.remaining?, hidle, hbefore]

/-- A text that fits, one that does not and an answer to no field wait for sixteen units. At 1000 that is overdue. -/
theorem applyConfig_idempotent_of_overdue_batch :
    let form := TemplateConfig.simple [("age", .number), ("hire", .boolean)]
    let batch : AnswerSet := .ofList [("age", .text " 36"), ("hire", .text "perhaps"), ("note", .text "late")]
    let start : FormSession MemoryDrafts := .start .empty {}
    let session := (start.update 0 batch).2
    let after := session.applyConfig 1000 form
    form.Accepted ∧ session.nextFlush? 10 = some 6 ∧ session.nextFlush? 1000 = some 0 ∧
      after.queue.task? = some (.ofList [("age", .number 36.0), ("note", .text "late")]) ∧
      after.nextFlush? 1000 = some 0 ∧ after.drafts = .empty ∧
      after.effectiveAnswers =
        .ofList [("age", .number 36.0), ("hire", .bool false), ("note", .text "late")] ∧
      after.applyConfig 1000 form = { after with revision := 2 } := by
  intro form batch start session after
  have haccepted : form.Accepted := TemplateConfig.accepted_simple (by decide)
  obtain ⟨hqueue, -, hdue, hdrafts, heffective, hagain, -⟩ :=
    session.applyConfig_idempotent 1000 form haccepted
  have hwaits : after.hasPendingWrites = true := by decide +kernel
  have hbefore : session.nextFlush? 1000 = some 0 := by decide +kernel
  exact ⟨haccepted, by decide +kernel, hbefore, hqueue.trans (by decide +kernel),
    (hdue hwaits 1000 (Nat.le_refl 1000)).trans hbefore, hdrafts, heffective.trans (by decide +kernel), hagain⟩

end FormSession

end SiteBuilder
