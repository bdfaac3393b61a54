import SiteBuilder.Proofs.Form.Run
import SiteBuilder.Proofs.Form.Writes

/-!
# Typed sessions

While a form is loaded, a session answers each of its fields, and all its answers have the shapes of
their fields: the committed ones and those that wait in the queue. Values come in as drafts, as defaults,
as writes before and after the form and through a queue that outlives a change of forms. Whatever comes
before a form is typed when the form is taken up, and whatever comes after it is typed at once.
-/

namespace SiteBuilder

namespace FormSession

variable {σ : Type}

/-- The answers and the queue of a session are typed by a form, and every field is answered. -/
structure TypedBy (session : FormSession σ) (config : TemplateConfig) : Prop where
  accepted : config.Accepted
  answered : ∀ field ∈ config.fields, session.answers.contains field.name = true
  answers : config.Types session.answers
  queued : config.Types session.queued

/-- The session is typed by the form that is loaded, if one is. -/
def WellTyped (session : FormSession σ) : Prop :=
  ∀ config, session.config = some config → session.TypedBy config

/-- Answers stay answers when more is written over them. -/
theorem contains_overlay_left {answers batch : AnswerSet} {name : String}
    (h : answers.contains name = true) : (answers.overlay batch).contains name = true := by
  obtain ⟨answer, hanswer⟩ := NameMap.contains_iff.mp h
  refine NameMap.contains_iff.mpr ?_
  rw [NameMap.get?_overlay, hanswer]
  exact Option.isSome_iff_exists.mp (by simp)

/-- Committing a typed batch keeps a session typed. -/
theorem TypedBy.commit [DraftStore σ] {session : FormSession σ} {config : TemplateConfig}
    {batch : AnswerSet} (h : session.TypedBy config) (hbatch : config.Types batch) :
    (session.commit batch).TypedBy config where
  accepted := h.accepted
  answered field hfield := by
    rw [answers_commit]
    exact contains_overlay_left (h.answered field hfield)
  answers := by
    rw [answers_commit]
    exact h.answers.overlay hbatch
  queued := by
    unfold FormSession.queued
    rw [queue_commit]
    exact h.queued

/-- Emptying the queue keeps a session typed, whatever becomes of its errors. -/
theorem TypedBy.dropQueue {session : FormSession σ} {config : TemplateConfig}
    (h : session.TypedBy config) (errors : ValidationErrors) :
    { session with queue := .idle, errors }.TypedBy config where
  accepted := h.accepted
  answered := h.answered
  answers := h.answers
  queued := TemplateConfig.types_empty

/-- Whether a session is well typed depends on its contents alone. -/
theorem WellTyped.of_contents {session other : FormSession σ} (h : session.WellTyped)
    (hcontents : other.contents = session.contents) : other.WellTyped := by
  intro config hother
  have hconfig : other.config = session.config := congrArg Contents.config hcontents
  have hanswers : other.answers = session.answers := congrArg Contents.answers hcontents
  have hqueue : other.queue = session.queue := congrArg Contents.queue hcontents
  obtain ⟨haccepted, hanswered, htyped, hqueued⟩ := h config (hconfig ▸ hother)
  refine ⟨haccepted, ?_, ?_, ?_⟩
  · rw [hanswers]
    exact hanswered
  · rw [hanswers]
    exact htyped
  · unfold FormSession.queued at hqueued ⊢
    rw [hqueue]
    exact hqueued

/-- A session without a form is well typed. -/
theorem wellTyped_of_config_none {session : FormSession σ} (h : session.config = none) :
    session.WellTyped := by
  intro config hconfig
  rw [h] at hconfig
  cases hconfig

/-- A write that is queued has been typed. -/
theorem WellTyped.update {session : FormSession σ} (h : session.WellTyped) (now : Nat) (batch : AnswerSet) :
    (session.update now batch).2.WellTyped := by
  unfold FormSession.update
  cases htyped : coerceAll session.config batch with
  | error mismatch => exact h
  | ok typed =>
    intro config hconfig
    have hbefore := h config hconfig
    have hconfig : session.config = some config := hconfig
    rw [hconfig] at htyped
    exact ⟨hbefore.accepted, hbefore.answered, hbefore.answers,
      hbefore.queued.overlay (types_of_coerceAll htyped)⟩

/-- Taking up a form types the writes that wait. -/
theorem queued_applyConfig (session : FormSession σ) (now : Nat) (config : TemplateConfig) :
    (session.applyConfig now config).queued = retype config session.queued := by
  unfold queued applyConfig Timer.task?
  cases session.queue.slot with
  | none => rfl
  | some scheduled =>
    dsimp only
    split
    · next hempty => exact (NameMap.isEmpty_iff.mp hempty).symm
    · rfl

/-- Taking up an accepted form types all answers and the queue by it and fills in its defaults. -/
theorem wellTyped_applyConfig (session : FormSession σ) (now : Nat) {config : TemplateConfig}
    (haccepted : config.Accepted) : (session.applyConfig now config).WellTyped := by
  intro config' hconfig
  obtain rfl : config = config' := Option.some.inj hconfig
  refine ⟨haccepted, fun field hfield => ?_, ?_, ?_⟩
  · exact contains_overlay_left (TemplateConfig.contains_defaults hfield)
  · exact haccepted.types_defaults.overlay (types_retype config session.answers)
  · rw [queued_applyConfig]
    exact types_retype config session.queued

/-- A form that is taken up again leaves typed answers as they are. -/
theorem TypedBy.answers_applyConfig {session : FormSession σ} {config : TemplateConfig}
    (h : session.TypedBy config) (now : Nat) : (session.applyConfig now config).answers = session.answers := by
  have hmerged : (session.applyConfig now config).answers = config.defaults.overlay session.answers := by
    rw [← retype_of_types h.answers]
    rfl
  ext name answer
  rw [hmerged, NameMap.get?_overlay]
  cases hfound : session.answers.get? name with
  | some found => rfl
  | none =>
    -- A default for a name that is not answered would be the default of a field.
    suffices hnone : config.defaults.get? name = none by rw [hnone]; rfl
    by_contra hdefault
    obtain ⟨default, hdefault⟩ := Option.ne_none_iff_exists'.mp hdefault
    obtain ⟨field, hfield, hpair⟩ := List.mem_map.mp (NameMap.mem_of_get?_ofList hdefault)
    obtain ⟨found, hanswer⟩ := NameMap.contains_iff.mp (h.answered field hfield)
    rw [(Prod.mk.inj hpair).1, hfound] at hanswer
    cases hanswer

/-- A form that is taken up again leaves typed writes in the queue. -/
theorem TypedBy.queued_applyConfig {session : FormSession σ} {config : TemplateConfig}
    (h : session.TypedBy config) (now : Nat) : (session.applyConfig now config).queued = session.queued := by
  rw [session.queued_applyConfig now config]
  exact retype_of_types h.queued

section Stored

variable [DraftStore σ] {session : FormSession σ}

/-- Flushing commits writes that were typed when they were queued. -/
theorem WellTyped.flushNow (h : session.WellTyped) : session.flushNow.2.WellTyped := by
  intro config hconfig
  rw [flushNow_eq] at hconfig ⊢
  rw [config_commit] at hconfig
  have htyped := h config hconfig
  exact (htyped.dropQueue session.errors).commit htyped.queued

/-- A flush that waits for the due time keeps a session well typed. -/
theorem WellTyped.flushDue (h : session.WellTyped) (now : Nat) : (session.flushDue now).2.WellTyped := by
  rcases session.flushDue_eq now with hflush | hflush
  · rw [hflush]
    exact h.flushNow
  · rw [hflush]
    exact h

/-- A write that is committed at once has been typed, like the queue it is committed with. -/
theorem WellTyped.updateNow (h : session.WellTyped) (batch : AnswerSet) :
    (session.updateNow batch).2.WellTyped := by
  unfold FormSession.updateNow
  cases htyped : coerceAll session.config batch with
  | error mismatch => exact h
  | ok typed =>
    intro config hconfig
    rw [config_commit] at hconfig
    have hbefore := h config hconfig
    have hconfig : session.config = some config := hconfig
    rw [hconfig] at htyped
    exact (hbefore.dropQueue _).commit (hbefore.queued.overlay (types_of_coerceAll htyped))

/-- After a reset, the answers are the defaults. -/
theorem WellTyped.resetForm (h : session.WellTyped) : session.resetForm.WellTyped := by
  intro config hconfig
  have hconfig : session.config = some config := hconfig
  have haccepted := (h config hconfig).accepted
  have hanswers : session.resetForm.answers = config.defaults := by
    simp only [FormSession.resetForm, hconfig]
  refine ⟨haccepted, ?_, ?_, TemplateConfig.types_empty⟩
  · rw [hanswers]
    exact fun field hfield => TemplateConfig.contains_defaults hfield
  · rw [hanswers]
    exact haccepted.types_defaults

end Stored

end FormSession

namespace TimedForm

variable {σ : Type} [DraftStore σ]

/-- Every action keeps a session well typed. -/
theorem wellTyped_step (state : TimedForm σ) (action : FormAction σ) (haction : action.Accepted)
    (h : state.session.WellTyped) : (state.step action).2.session.WellTyped := by
  cases action with
  | selectTemplate id => exact FormSession.wellTyped_of_config_none rfl
  | applyConfig config => exact FormSession.wellTyped_applyConfig state.session state.clock.now haction
  | update batch => exact h.update state.clock.now batch
  | updateNow batch => exact h.updateNow batch
  | flushDue => exact h.flushDue state.clock.now
  | flushNow => exact h.flushNow
  | resetForm => exact h.resetForm
  | clearTemplate => exact FormSession.wellTyped_of_config_none rfl
  | submit => exact h.flushNow.of_contents state.session.contents_submit
  | validateStep id => exact h.of_contents (state.session.contents_validateStep id)
  | validateAll => exact h.of_contents state.session.contents_validateAll
  | advanceStep => exact h.of_contents state.session.contents_advanceStep
  | retreatStep => exact h.of_contents state.session.contents_retreatStep
  | goToStep position => exact h.of_contents (state.session.contents_goToStep position)
  | touch name => exact h.of_contents rfl
  | register name predicate => exact h.of_contents rfl
  | advanceClock span => exact h
  | changeDrafts drafts =>
    intro config hconfig
    obtain ⟨haccepted, hanswered, hanswers, hqueued⟩ := h config hconfig
    exact ⟨haccepted, hanswered, hanswers, hqueued⟩

/-- In every state that a new session comes to, all answers to fields of the loaded form are there and
have the shapes of their fields, the queued ones too, so that typing leaves them as they are. -/
theorem answers_typed_of_run (clock : Clock) (drafts : σ) (settings : FormSettings)
    (actions : List (FormAction σ)) (hactions : ∀ action ∈ actions, action.Accepted)
    (config : TemplateConfig)
    (hconfig : (run ⟨clock, .start drafts settings⟩ actions).session.config = some config) :
    let session := (run ⟨clock, .start drafts settings⟩ actions).session
    ∀ field ∈ config.fields,
      session.answers.contains field.name = true ∧
        ∀ answer,
          (session.answers.get? field.name = some answer ∨
              ∃ batch, session.queue.task? = some batch ∧ batch.get? field.name = some answer) →
            config.coerce field.name answer = .ok answer ∧ field.kind.Holds answer := by
  intro session field hfield
  have htyped : session.TypedBy config :=
    run_induction wellTyped_step (FormSession.wellTyped_of_config_none rfl) hactions config hconfig
  have hfound := htyped.accepted.field?_name hfield
  refine ⟨htyped.answered field hfield, fun answer hanswer => ?_⟩
  rcases hanswer with hanswer | ⟨batch, hbatch, hanswer⟩
  · exact ⟨htyped.answers.coerce hanswer, htyped.answers _ _ _ hanswer hfound⟩
  · have hqueued : session.queued = batch := by rw [FormSession.queued, hbatch, Option.getD_some]
    rw [← hqueued] at hanswer
    exact ⟨htyped.queued.coerce hanswer, htyped.queued _ _ _ hanswer hfound⟩

/-- Texts from a draft and from a write before the form are numbers and truth values under the form. -/
theorem answers_typed_of_draft_and_early_write :
    let form := TemplateConfig.simple [("age", .number), ("hire", .boolean)]
    let draft : AnswerSet := .ofList [("age", .text " 36"), ("hire", .text "perhaps")]
    let actions : List (FormAction MemoryDrafts) :=
      [.selectTemplate "t", .update (.singleton "hire" (.text "true")), .applyConfig form]
    let session := (run ⟨.start, .start ⟨.singleton "t" draft, 0, true⟩ {}⟩ actions).session
    session.config = some form ∧
      session.answers.contains "age" = true ∧
        ∀ answer,
          (session.answers.get? "age" = some answer ∨
              ∃ batch, session.queue.task? = some batch ∧ batch.get? "age" = some answer) →
            form.coerce "age" answer = .ok answer ∧ FieldKind.number.Holds answer := by
  intro form draft actions session
  have haccepted : form.Accepted := TemplateConfig.accepted_simple (by decide)
  have hactions : ∀ action ∈ actions, action.Accepted := by
    simpa [actions, FormAction.Accepted] using haccepted
  have hfield : form.fields.head (by decide) ∈ form.fields := List.head_mem _
  exact ⟨rfl, answers_typed_of_run _ _ _ actions hactions form rfl _ hfield⟩

end TimedForm

end SiteBuilder
