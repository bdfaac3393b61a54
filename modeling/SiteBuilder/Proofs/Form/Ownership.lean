import SiteBuilder.Proofs.Form.Alike
import SiteBuilder.Proofs.Form.Recovery

/-!
# Every template has its own draft

The queue outlives the call that filled it, and it may be committed by a call that selects another template. It is
committed before that template is selected, so a session changes the draft of no other template than the one that is
selected when a call begins, and what is kept of a write is kept there.

Not every write is kept. One that waits is lost if the form is reset or its template is left, if another write to
the same field follows, and if a form arrives with which it does not fit its field.

That nothing of a template is seen elsewhere is a statement about two sessions: they may differ in whatever they hold of
one template, and still show and store the same of all others, also when that template is selected again in between.
-/

namespace SiteBuilder

namespace FormAction

variable {σ : Type}

/-- The action is one of the session, and no change of its store from outside. -/
def OfSession : FormAction σ → Prop
  | .changeDrafts _ => False
  | _ => True

end FormAction

namespace MemoryDrafts

/-- To save a draft or to forget one makes no difference to whether memory works. -/
theorem working_after (store : MemoryDrafts) (call : DraftCall) :
    (DraftStore.after store call).working = store.working := by
  cases call with
  | save id answers =>
    rcases store.call_cases id answers with ⟨-, -, hcall, -⟩ | ⟨-, -, hcall, -⟩ <;> rw [DraftStore.after, hcall]
  | clear id =>
    rcases store.call_cases id ∅ with ⟨-, -, -, hcall⟩ | ⟨-, -, -, hcall⟩ <;> rw [DraftStore.after, hcall]

/-- What is loaded depends on what is held and on whether memory works. -/
theorem load_congr {a b : MemoryDrafts} {id : String} (hworking : a.working = b.working)
    (hheld : a.held id = b.held id) : DraftStore.load a id = DraftStore.load b id := by
  simp only [held] at hheld
  simp only [DraftStore.load, hworking, hheld]

end MemoryDrafts

namespace TimedForm

/-! ## One template for each action -/

section Stored

variable {σ : Type} [DraftStore σ] (state : TimedForm σ)

/-- With no template selected, an action stores nothing. -/
theorem drafts_step_of_no_template {action : FormAction σ} (haction : action.OfSession)
    (htemplate : state.session.templateId = none) : (state.step action).2.session.drafts = state.session.drafts := by
  have hcommit (batch : AnswerSet) : (state.session.commit batch).drafts = state.session.drafts := by
    simp only [FormSession.commit, htemplate]
    split <;> rfl
  rw [drafts_step]
  cases action with
  | changeDrafts drafts => exact haction.elim
  | resetForm => simp only [FormSession.resetForm, htemplate]
  | _ => exact hcommit _

/-- An action leaves the drafts of all templates but the one that is selected. -/
theorem held_step_of_ne {held : σ → String → Option AnswerSet} (hstore : DraftStore.Faithful held)
    {action : FormAction σ} (haction : action.OfSession) {id : String} (hother : state.session.templateId ≠ some id) :
    held (state.step action).2.session.drafts id = held state.session.drafts id := by
  have hcommit (batch : AnswerSet) : held (state.session.commit batch).drafts id = held state.session.drafts id := by
    apply FormSession.held_commit_of_not_saves hstore
    intro hsaves
    exact hother hsaves.1
  rw [drafts_step]
  cases action with
  | changeDrafts drafts => exact haction.elim
  | resetForm =>
    cases htemplate : state.session.templateId with
    | none => simp only [FormSession.resetForm, htemplate]
    | some selected =>
      simp only [FormSession.resetForm, htemplate]
      apply hstore.clear_other
      rintro rfl
      exact hother htemplate
  | _ => exact hcommit _

/-- An action registers a rule, or leaves the rules alone. -/
theorem predicates_step (action : FormAction σ) :
    (state.step action).2.session.predicates =
      match action with
      | .register name predicate => state.session.predicates.insert name predicate
      | _ => state.session.predicates := by
  have hflush : state.session.flushNow.2.predicates = state.session.predicates :=
    congrArg FormSession.Progress.predicates state.session.progress_flushNow
  have hcheck (id : String) : (state.session.validateStep id).2.predicates = state.session.predicates := by
    unfold FormSession.validateStep
    split <;> rfl
  cases action with
  | selectTemplate | flushNow | submit => exact hflush
  | update batch =>
    simp only [step, FormSession.update]
    split <;> rfl
  | updateNow batch =>
    simp only [step, FormSession.updateNow]
    split
    · exact congrArg FormSession.Progress.predicates (FormSession.progress_commit _ _)
    · rfl
  | flushDue =>
    rcases state.session.flushDue_eq state.clock.now with hdue | hdue
    · rw [step, hdue]
      exact hflush
    · rw [step, hdue]
  | validateStep id => exact hcheck id
  | advanceStep =>
    simp only [step, FormSession.advanceStep]
    split
    · rfl
    · split
      · rfl
      · next current _ =>
        have hchecked := hcheck current.id
        split <;> exact hchecked
  | retreatStep =>
    simp only [step, FormSession.retreatStep]
    split <;> rfl
  | goToStep position =>
    simp only [step, FormSession.goToStep]
    split <;> rfl
  | _ => rfl

/-- A template is selected until another one is, or it is left. -/
theorem templateId_step {action : FormAction σ} (hselects : action.selected? = none)
    (hleaves : action ≠ .clearTemplate) : (state.step action).2.session.templateId = state.session.templateId := by
  have hedited (hediting : action.Editing) :
      (state.step action).2.session.templateId = state.session.templateId :=
    congrArg Prod.fst (state.selection_step hediting)
  cases action with
  | selectTemplate id => cases hselects
  | clearTemplate => exact absurd rfl hleaves
  | applyConfig | resetForm | changeDrafts => rfl
  | _ => exact hedited trivial

end Stored

/-- What an action makes of the draft of its template, if it makes anything of it: a reset forgets it, another template
is selected after what is queued has been saved, and otherwise it holds the answers that are committed then. -/
def stored (state : TimedForm MemoryDrafts) (action : FormAction MemoryDrafts) : Option AnswerSet :=
  match action with
  | .resetForm => none
  | .selectTemplate _ => some state.session.effectiveAnswers
  | action => some (state.step action).2.session.answers

variable {state : TimedForm MemoryDrafts} {action : FormAction MemoryDrafts} {id : String}

/-- A commit changes the draft of the template to all committed answers, or changes no draft. -/
theorem held_commit_of_ne (session : FormSession MemoryDrafts) (batch : AnswerSet)
    (hchanged : (session.commit batch).drafts.held id ≠ session.drafts.held id) :
    (session.commit batch).drafts.held id = some (session.answers.overlay batch) := by
  by_cases hsaves : session.Saves id batch
  · exact FormSession.held_commit_of_saves MemoryDrafts.faithful hsaves
  · exact absurd (FormSession.held_commit_of_not_saves MemoryDrafts.faithful hsaves) hchanged

/-- A draft that an action changes is that of the template, and holds the answers that are committed. -/
theorem held_step_of_changed (haction : action.OfSession)
    (hchanged : (state.step action).2.session.drafts.held id ≠ state.session.drafts.held id) :
    state.session.templateId = some id ∧ (state.step action).2.session.drafts.held id = state.stored action := by
  have htemplate : state.session.templateId = some id := by
    by_contra hother
    exact hchanged (state.held_step_of_ne MemoryDrafts.faithful haction hother)
  refine ⟨htemplate, ?_⟩
  have hcommitted (hstep : (state.step action).2.session.drafts =
      (state.session.commit (state.session.committed state.clock.now action)).drafts) :
      (state.step action).2.session.drafts.held id =
        some (state.session.answers.overlay (state.session.committed state.clock.now action)) := by
    rw [hstep] at hchanged ⊢
    exact held_commit_of_ne _ _ hchanged
  have hedited (hediting : action.Editing) :
      (state.step action).2.session.drafts.held id = some (state.step action).2.session.answers := by
    rw [hcommitted (state.drafts_step_editing hediting), state.answers_step hediting]
  cases action with
  | changeDrafts drafts => exact haction.elim
  | resetForm =>
    rcases state.session.drafts.call_cases id ∅ with ⟨-, -, -, hclear⟩ | ⟨-, -, -, hclear⟩
    · simp [step, stored, FormSession.resetForm, htemplate, hclear, MemoryDrafts.held]
    · simp [step, FormSession.resetForm, htemplate, hclear] at hchanged
  | selectTemplate other =>
    rw [hcommitted (state.drafts_step _), stored, FormSession.effectiveAnswers_eq]
    rfl
  | applyConfig | clearTemplate => exact absurd rfl hchanged
  | _ => exact hedited trivial

/-! ## What becomes of a write that waits -/

end TimedForm

/-- A write waits in the queue of a template. -/
structure FormSession.Waits {σ : Type} (session : FormSession σ) (id name : String) (value : Answer) : Prop where
  template : session.templateId = some id
  queued : session.queued.get? name = some value

namespace TimedForm

/-- What ends the waiting of a write. -/
inductive WaitEnds (state : TimedForm MemoryDrafts) (id name : String) (value : Answer) :
    FormAction MemoryDrafts → Prop where
  /-- It is committed, and with memory that works it is in the draft of its template. -/
  | committed (action : FormAction MemoryDrafts)
      (hcommits : (state.session.committed state.clock.now action).get? name = some value)
      (hkept : state.session.drafts.working = true →
        ∃ draft, (state.step action).2.session.drafts.held id = some draft ∧ draft.get? name = some value) :
      WaitEnds state id name value action
  /-- Another write to the same field takes its place. -/
  | replaced (action : FormAction MemoryDrafts) (batch typed : AnswerSet) (later : Answer)
      (hwrites : action = .update batch ∨ action = .updateNow batch)
      (htyped : coerceAll state.session.config batch = .ok typed) (hlater : typed.get? name = some later)
      (hother : later ≠ value) : WaitEnds state id name value action
  /-- A form arrives that types it, or that drops it as it does not fit its field. What is left of it goes on
  waiting. -/
  | retyped (config : TemplateConfig) (hcoerce : config.coerce name value ≠ .ok value)
      (htemplate : (state.step (.applyConfig config)).2.session.templateId = some id)
      (hleft : (state.step (.applyConfig config)).2.session.queued.get? name =
        (config.coerce name value).toOption) : WaitEnds state id name value (.applyConfig config)
  /-- The form is reset. -/
  | reset : WaitEnds state id name value .resetForm
  /-- The template is left. -/
  | left : WaitEnds state id name value .clearTemplate

variable {state : TimedForm MemoryDrafts} {action : FormAction MemoryDrafts} {id name : String} {value : Answer}

/-- A write that is committed under its template is in the draft, if memory works. -/
theorem WaitEnds.of_commit (h : state.session.Waits id name value)
    (hstep : (state.step action).2.session.drafts =
      (state.session.commit (state.session.committed state.clock.now action)).drafts)
    (hcommits : (state.session.committed state.clock.now action).get? name = some value) :
    state.WaitEnds id name value action := by
  refine .committed action hcommits fun hworks => ?_
  have hbatch : (state.session.committed state.clock.now action).isEmpty = false := by
    rw [Bool.eq_false_iff, ne_eq, NameMap.isEmpty_iff]
    intro hempty
    rw [hempty] at hcommits
    cases hcommits
  have hsaves := FormSession.saves_of_working h.template hworks hbatch
  refine ⟨_, by rw [hstep]; exact FormSession.held_commit_of_saves MemoryDrafts.faithful hsaves, ?_⟩
  rw [NameMap.get?_overlay, hcommits]
  rfl

/-- A write that waits goes on waiting while more is queued, unless one to the same field takes its place. -/
theorem waits_update (h : state.session.Waits id name value) (batch : AnswerSet) :
    (state.step (.update batch)).2.session.Waits id name value ∨ state.WaitEnds id name value (.update batch) := by
  cases htyped : coerceAll state.session.config batch with
  | error mismatch =>
    left
    simp only [step, FormSession.update, htyped]
    exact h
  | ok typed =>
    have hqueued : (state.step (.update batch)).2.session.queued = state.session.queued.overlay typed := by
      simp only [step, FormSession.update, htyped]
      rfl
    have htemplate : (state.step (.update batch)).2.session.templateId = some id :=
      (congrArg Prod.fst (state.session.selection_update state.clock.now batch)).trans h.template
    cases hlater : typed.get? name with
    | none => exact .inl ⟨htemplate, by rw [hqueued, NameMap.get?_overlay, hlater, h.queued]; rfl⟩
    | some later =>
      by_cases hvalue : later = value
      · exact .inl ⟨htemplate, by rw [hqueued, NameMap.get?_overlay, hlater, hvalue]; rfl⟩
      · exact .inr (.replaced _ batch typed later (.inl rfl) htyped hlater hvalue)

/-- A write that waits is committed with others that are committed at once, unless one to the same field takes its
place. -/
theorem waits_updateNow (h : state.session.Waits id name value) (batch : AnswerSet) :
    (state.step (.updateNow batch)).2.session.Waits id name value ∨
      state.WaitEnds id name value (.updateNow batch) := by
  cases htyped : coerceAll state.session.config batch with
  | error mismatch =>
    left
    simp only [step, FormSession.updateNow, htyped]
    exact h
  | ok typed =>
    have hcommits : state.session.committed state.clock.now (.updateNow batch) =
        state.session.queued.overlay typed := by
      simp only [FormSession.committed, htyped]
    have hediting : (FormAction.updateNow batch : FormAction MemoryDrafts).Editing := trivial
    right
    cases hlater : typed.get? name with
    | none =>
      apply WaitEnds.of_commit h (state.drafts_step_editing hediting)
      rw [hcommits, NameMap.get?_overlay, hlater, h.queued]
      rfl
    | some later =>
      by_cases hvalue : later = value
      · apply WaitEnds.of_commit h (state.drafts_step_editing hediting)
        rw [hcommits, NameMap.get?_overlay, hlater, hvalue]
        rfl
      · exact .replaced _ batch typed later (.inr rfl) htyped hlater hvalue

/-- A write that waits is typed as a form arrives: it goes on waiting if that leaves it as it is. -/
theorem waits_applyConfig (h : state.session.Waits id name value) (config : TemplateConfig) :
    (state.step (.applyConfig config)).2.session.Waits id name value ∨
      state.WaitEnds id name value (.applyConfig config) := by
  have hleft : (state.step (.applyConfig config)).2.session.queued.get? name =
      (config.coerce name value).toOption := by
    have hqueued : (state.step (.applyConfig config)).2.session.queued = retype config state.session.queued :=
      state.session.queued_applyConfig state.clock.now config
    rw [hqueued, get?_retype, h.queued]
    rfl
  by_cases hcoerce : config.coerce name value = .ok value
  · exact .inl ⟨h.template, by rw [hleft, hcoerce]; rfl⟩
  · exact .inr (.retyped config hcoerce h.template hleft)

/-- A write that waits goes on waiting, or the action ends it. -/
theorem waits_step (h : state.session.Waits id name value) (action : FormAction MemoryDrafts) :
    (state.step action).2.session.Waits id name value ∨ state.WaitEnds id name value action := by
  have hflush (hstep : (state.step action).2.session.drafts =
      (state.session.commit (state.session.committed state.clock.now action)).drafts)
      (hcommits : state.session.committed state.clock.now action = state.session.queued) :
      state.WaitEnds id name value action :=
    .of_commit h hstep (by rw [hcommits, h.queued])
  have hsame {after : FormSession MemoryDrafts} (hcontents : after.contents = state.session.contents) :
      after.Waits id name value := by
    have hqueue : after.queue = state.session.queue := congrArg FormSession.Contents.queue hcontents
    refine ⟨(congrArg FormSession.Contents.templateId hcontents).trans h.template, ?_⟩
    rw [FormSession.queued, hqueue]
    exact h.queued
  cases action with
  | update batch => exact waits_update h batch
  | updateNow batch => exact waits_updateNow h batch
  | flushDue =>
    rcases state.session.queue.poll_cases state.clock.now with ⟨batch, htask, hpoll⟩ | hpoll
    · right
      apply hflush (state.drafts_step_editing trivial)
      simp only [FormSession.committed, FormSession.queued, hpoll, htask]
    · left
      simp only [step, FormSession.flushDue, hpoll]
      exact h
  | flushNow => exact .inr (hflush (state.drafts_step_editing trivial) rfl)
  | submit => exact .inr (hflush (state.drafts_step_editing trivial) rfl)
  | selectTemplate other => exact .inr (hflush (state.drafts_step _) rfl)
  | applyConfig config => exact waits_applyConfig h config
  | resetForm => exact .inr .reset
  | clearTemplate => exact .inr .left
  | validateStep id => exact .inl (hsame (state.session.contents_validateStep id))
  | validateAll => exact .inl (hsame state.session.contents_validateAll)
  | advanceStep => exact .inl (hsame state.session.contents_advanceStep)
  | retreatStep => exact .inl (hsame state.session.contents_retreatStep)
  | goToStep position => exact .inl (hsame (state.session.contents_goToStep position))
  | touch | register | advanceClock => exact .inl ⟨h.template, h.queued⟩
  | changeDrafts drafts => exact .inl ⟨h.template, h.queued⟩

/-- A write that waits goes on waiting through a run, or some action of the run ends it. -/
theorem waits_run (h : state.session.Waits id name value) (actions : List (FormAction MemoryDrafts)) :
    (state.run actions).session.Waits id name value ∨
      ∃ earlier action later, actions = earlier ++ action :: later ∧
        (state.run earlier).session.Waits id name value ∧ (state.run earlier).WaitEnds id name value action := by
  induction actions generalizing state with
  | nil => exact .inl h
  | cons action rest ih =>
    rcases waits_step h action with hwaits | hends
    · rcases ih hwaits with hstill | ⟨earlier, ending, later, hsplit, hwaited, hended⟩
      · exact .inl hstill
      · exact .inr ⟨action :: earlier, ending, later, by rw [hsplit, List.cons_append], hwaited, hended⟩
    · exact .inr ⟨[], action, rest, rfl, h, hends⟩

/-! ## Nothing of a template is seen elsewhere -/

/-- To commit, to reset and to check makes no difference to whether memory works. -/
theorem working_step (haction : action.OfSession) :
    (state.step action).2.session.drafts.working = state.session.drafts.working := by
  have hcommit (batch : AnswerSet) :
      (state.session.commit batch).drafts.working = state.session.drafts.working := by
    unfold FormSession.commit
    split
    · rfl
    · cases state.session.templateId with
      | none => rfl
      | some id => exact state.session.drafts.working_after (.save id _)
  rw [drafts_step]
  cases action with
  | changeDrafts drafts => exact haction.elim
  | resetForm =>
    unfold FormSession.resetForm
    cases state.session.templateId with
    | none => rfl
    | some id => exact state.session.drafts.working_after (.clear id)
  | _ => exact hcommit _

/-- An action makes no difference to the draft of another template, whatever is asked of its store later. -/
theorem sameDraft_step (state : TimedForm MemoryDrafts) (haction : action.OfSession)
    (hother : state.session.templateId ≠ some id) :
    DraftStore.SameDraft id (state.step action).2.session.drafts state.session.drafts := by
  apply MemoryDrafts.sameDraft_iff.mpr
  exact MemoryDrafts.load_congr (working_step haction)
    (state.held_step_of_ne MemoryDrafts.faithful haction hother)

end TimedForm

namespace FormSession

/-- Alike sessions have stores with the same drafts. -/
theorem Alike.sameDraft {σ : Type} [DraftStore σ] {ids : List String} {start start' a b : FormSession σ}
    (h : Alike ids start start' a b) : ∀ id ∈ ids, DraftStore.SameDraft id a.drafts b.drafts := by
  obtain ⟨drafts, revision, counted, changes, kept⟩ := h
  exact kept

/-- Two sessions may differ in what they hold of one template, or of none, which is the owner. While they are there,
they have nothing in common but their settings, the registered rules and the drafts of the others; elsewhere they
cannot be told apart. -/
inductive SameElsewhere (owner : Option String) (ids : List String) (a b : FormSession MemoryDrafts) : Prop where
  | there (htemplate : a.templateId = owner) (htemplate' : b.templateId = owner) (hsettings : a.settings = b.settings)
      (hpredicates : a.predicates = b.predicates)
      (hkept : ∀ id ∈ ids, DraftStore.SameDraft id a.drafts b.drafts) : SameElsewhere owner ids a b
  | elsewhere (start start' : FormSession MemoryDrafts) (halike : Alike ids start start' a b) :
      SameElsewhere owner ids a b

end FormSession

namespace TimedForm

open FormSession

variable {owner : Option String} {ids : List String} {a b : FormSession MemoryDrafts}

/-- How time passes has nothing to do with the session. -/
theorem clock_step (clock : Clock) (action : FormAction MemoryDrafts) :
    (step ⟨clock, a⟩ action).2.clock = (step ⟨clock, b⟩ action).2.clock := by
  cases action <;> rfl

/-- An action that both sessions make of the same template makes no difference to what they have in common. -/
theorem SameElsewhere.common_step (hids : ∀ id ∈ ids, owner ≠ some id) (htemplate : a.templateId = owner)
    (htemplate' : b.templateId = owner) (hsettings : a.settings = b.settings)
    (hpredicates : a.predicates = b.predicates) (hkept : ∀ id ∈ ids, DraftStore.SameDraft id a.drafts b.drafts)
    (clock : Clock) (action : FormAction MemoryDrafts) :
    (step ⟨clock, a⟩ action).2.session.settings = (step ⟨clock, b⟩ action).2.session.settings ∧
      (step ⟨clock, a⟩ action).2.session.predicates = (step ⟨clock, b⟩ action).2.session.predicates ∧
        ∀ id ∈ ids, DraftStore.SameDraft id (step ⟨clock, a⟩ action).2.session.drafts
          (step ⟨clock, b⟩ action).2.session.drafts := by
  refine ⟨by rw [settings_step, settings_step, hsettings], by rw [predicates_step, predicates_step, hpredicates], ?_⟩
  intro id hid
  have hsession (haction : action.OfSession) : DraftStore.SameDraft id (step ⟨clock, a⟩ action).2.session.drafts
      (step ⟨clock, b⟩ action).2.session.drafts := by
    intro calls
    have hfirst := sameDraft_step ⟨clock, a⟩ haction (htemplate ▸ hids id hid) calls
    have hsecond := sameDraft_step ⟨clock, b⟩ haction (htemplate' ▸ hids id hid) calls
    exact hfirst.trans ((hkept id hid calls).trans hsecond.symm)
  cases action with
  | changeDrafts drafts => exact .refl id drafts
  | _ => exact hsession trivial

/-- Sessions with the same settings and rules and the same draft of a template cannot be told apart once they have
selected it. -/
theorem alike_selectTemplate (hsettings : a.settings = b.settings) {id : String} (hid : id ∈ ids)
    (hpredicates : (a.selectTemplate id).predicates = (b.selectTemplate id).predicates)
    (hkept : ∀ other ∈ ids, DraftStore.SameDraft other (a.selectTemplate id).drafts (b.selectTemplate id).drafts) :
    Alike ids (a.selectTemplate id) (b.selectTemplate id) (a.selectTemplate id) (b.selectTemplate id) := by
  refine alike_of_since_eq ?_ (Nat.le_refl _) (Nat.le_refl _) hkept
  rw [since_selectTemplate, since_selectTemplate, hsettings, hpredicates, (hkept id hid).answers_eq]

/-- Sessions with the same settings and rules cannot be told apart once they have left their templates. -/
theorem alike_clearTemplate (hsettings : a.settings = b.settings) (hpredicates : a.predicates = b.predicates)
    (hkept : ∀ id ∈ ids, DraftStore.SameDraft id a.drafts b.drafts) :
    Alike ids a.clearTemplate b.clearTemplate a.clearTemplate b.clearTemplate := by
  have hwindow : a.window = b.window := congrArg FormSettings.coalesceWindow hsettings
  refine alike_of_since_eq ?_ (Nat.le_refl _) (Nat.le_refl _) hkept
  simp only [since, clearTemplate, hwindow, hpredicates, Nat.sub_self]

/-- Both sessions go on alike once they select a template that is not the owner, and they part where they were. -/
theorem sameElsewhere_step (hids : ∀ id ∈ ids, owner ≠ some id) (h : SameElsewhere owner ids a b) (clock : Clock)
    (action : FormAction MemoryDrafts) (hselected : ∀ id ∈ action.selected?, id ∈ ids ∨ owner = some id) :
    SameElsewhere owner ids (step ⟨clock, a⟩ action).2.session (step ⟨clock, b⟩ action).2.session := by
  cases h with
  | there htemplate htemplate' hsettings hpredicates hkept =>
    obtain ⟨hsettings', hpredicates', hkept'⟩ :=
      SameElsewhere.common_step hids htemplate htemplate' hsettings hpredicates hkept clock action
    by_cases hleaves : action = .clearTemplate
    · subst hleaves
      exact .elsewhere _ _ (alike_clearTemplate hsettings hpredicates hkept)
    · cases hselects : action.selected? with
      | none =>
        exact .there ((templateId_step _ hselects hleaves).trans htemplate)
          ((templateId_step _ hselects hleaves).trans htemplate') hsettings' hpredicates' hkept'
      | some id =>
        obtain rfl : action = .selectTemplate id := by
          cases action with
          | selectTemplate other => exact congrArg FormAction.selectTemplate (Option.some.inj hselects)
          | _ => cases hselects
        rcases hselected id hselects with hid | howner
        · exact .elsewhere _ _ (alike_selectTemplate hsettings hid hpredicates' hkept')
        · exact .there howner.symm howner.symm hsettings' hpredicates' hkept'
  | elsewhere start start' halike =>
    by_cases hothers : ∀ id ∈ action.selected?, id ∈ ids
    · exact .elsewhere start start' (alike_step halike clock action hothers).2.2
    · -- The owner is selected again, so from here on the sessions have its drafts to differ in.
      cases action with
      | selectTemplate id =>
        have howner : owner = some id := by
          apply (hselected id rfl).resolve_left
          intro hid
          exact hothers (by rintro _ ⟨⟩; exact hid)
        have hflushed := halike.flushNow.alike
        have hsettings : a.settings = b.settings := by
          cases halike
          rfl
        have hpredicates : a.predicates = b.predicates := by
          cases halike
          rfl
        refine .there howner.symm howner.symm ?_ ?_ hflushed.sameDraft
        · rw [settings_step, settings_step, hsettings]
        · rw [predicates_step, predicates_step, hpredicates]
      | _ => exact absurd nofun hothers

/-- Sessions that differ in what they hold of the owner differ in nothing else, whatever is done to both. -/
theorem sameElsewhere_run (hids : ∀ id ∈ ids, owner ≠ some id) (h : SameElsewhere owner ids a b) (clock : Clock)
    {actions : List (FormAction MemoryDrafts)}
    (hselected : ∀ id ∈ actions.filterMap (·.selected?), id ∈ ids ∨ owner = some id) :
    SameElsewhere owner ids (run ⟨clock, a⟩ actions).session (run ⟨clock, b⟩ actions).session := by
  induction actions generalizing a b clock with
  | nil => exact h
  | cons action rest ih =>
    have hfirst : ∀ id ∈ action.selected?, id ∈ ids ∨ owner = some id := by
      intro id hid
      exact hselected id (List.mem_filterMap.mpr ⟨action, List.mem_cons_self, hid⟩)
    have hrest : ∀ id ∈ rest.filterMap (·.selected?), id ∈ ids ∨ owner = some id := by
      intro id hid
      obtain ⟨later, hlater, hselects⟩ := List.mem_filterMap.mp hid
      exact hselected id (List.mem_filterMap.mpr ⟨later, List.mem_cons_of_mem _ hlater, hselects⟩)
    have hclock : (step ⟨clock, b⟩ action).2 =
        ⟨(step ⟨clock, a⟩ action).2.clock, (step ⟨clock, b⟩ action).2.session⟩ := by
      rw [clock_step clock action]
    have hstep := ih (sameElsewhere_step hids h clock action hfirst) (step ⟨clock, a⟩ action).2.clock hrest
    rwa [run_cons, run_cons, hclock]

/-- The templates of a list and of a run that are not the owner. -/
def others (owner : Option String) (more : List String) (actions : List (FormAction MemoryDrafts)) : List String :=
  (more ++ actions.filterMap (·.selected?)).filter fun id => owner ≠ some id

/-- Had a session other answers and another queue, it would differ in what it holds of its template alone. -/
theorem sameElsewhere_of_other (state : TimedForm MemoryDrafts) (queue : Timer AnswerSet) (answers : AnswerSet)
    (more : List String) (actions : List (FormAction MemoryDrafts)) :
    SameElsewhere state.session.templateId (others state.session.templateId more actions)
      (run ⟨state.clock, state.session⟩ actions).session
      (run ⟨state.clock, { state.session with queue, answers }⟩ actions).session := by
  have hstart : SameElsewhere state.session.templateId (others state.session.templateId more actions) state.session
      { state.session with queue, answers } := .there rfl rfl rfl rfl fun id _ => .refl id _
  refine sameElsewhere_run (fun id hid => ?_) hstart state.clock fun id hid => ?_
  · simpa using (List.mem_filter.mp hid).2
  · by_cases howner : state.session.templateId = some id
    · exact .inr howner
    · exact .inl (List.mem_filter.mpr ⟨List.mem_append_right more hid, by simpa using howner⟩)

/-- Whatever state a session over memory is in, with the template that is selected in it:

* without one, no action of the session stores anything; with one, an action changes the draft of this template at most,
  to the answers that are committed then, or to none if the form is reset;
* a write that waits in its queue goes on waiting through every run, or one action ends that: the write is committed
  and in the draft of the template, replaced by another one to the same field, typed or dropped by a form that arrives,
  or forgotten as the form is reset or the template is left;
* had there been other answers and another queue, the drafts of all other templates would be the same after every run,
  and so would be the form and the answers whenever the session is at another one. -/
theorem drafts_follow_selection (state : TimedForm MemoryDrafts) :
    (∀ action : FormAction MemoryDrafts, action.OfSession →
        (state.session.templateId = none → (state.step action).2.session.drafts = state.session.drafts) ∧
          ∀ id, (state.step action).2.session.drafts.held id ≠ state.session.drafts.held id →
            state.session.templateId = some id ∧
              (state.step action).2.session.drafts.held id = state.stored action) ∧
      (∀ id name value (actions : List (FormAction MemoryDrafts)), state.session.Waits id name value →
        (state.run actions).session.Waits id name value ∨
          ∃ earlier action later, actions = earlier ++ action :: later ∧
            (state.run earlier).session.Waits id name value ∧ (state.run earlier).WaitEnds id name value action) ∧
      ∀ (queue : Timer AnswerSet) (answers : AnswerSet) (actions : List (FormAction MemoryDrafts)),
        let other : TimedForm MemoryDrafts := ⟨state.clock, { state.session with queue, answers }⟩
        (∀ id, state.session.templateId ≠ some id →
          DraftStore.load (state.run actions).session.drafts id =
            DraftStore.load (other.run actions).session.drafts id) ∧
          ((state.run actions).session.templateId ≠ state.session.templateId →
            (state.run actions).session.selection = (other.run actions).session.selection ∧
              (state.run actions).session.answers = (other.run actions).session.answers ∧
                (state.run actions).session.effectiveAnswers = (other.run actions).session.effectiveAnswers) := by
  refine ⟨fun action haction => ⟨state.drafts_step_of_no_template haction, fun id => held_step_of_changed haction⟩,
    fun id name value actions hwaits => waits_run hwaits actions, ?_⟩
  intro queue answers actions other
  refine ⟨fun id hid => ?_, fun hmoved => ?_⟩
  · have hmem : id ∈ others state.session.templateId [id] actions :=
      List.mem_filter.mpr ⟨List.mem_cons_self, by simpa using hid⟩
    cases sameElsewhere_of_other state queue answers [id] actions with
    | there _ _ _ _ hkept => exact (hkept id hmem).load_eq
    | elsewhere start start' halike => exact (halike.sameDraft id hmem).load_eq
  · cases sameElsewhere_of_other state queue answers [] actions with
    | there htemplate => exact absurd htemplate hmoved
    | elsewhere start start' halike => exact ⟨halike.selection_eq, halike.answers_eq, halike.effectiveAnswers_eq⟩

/-- A write that waits when another template is selected is in the draft of its own, and the other one has neither a
draft nor an answer of it. -/
theorem draft_follows_selection_of_switch :
    let state : TimedForm MemoryDrafts :=
      run ⟨.start, .start .empty {}⟩ [.selectTemplate "t", .update (.singleton "name" (.text "Ada"))]
    let switched := (state.step (.selectTemplate "u")).2
    let forgetful : TimedForm MemoryDrafts := ⟨state.clock, { state.session with queue := .idle }⟩
    state.session.Waits "t" "name" (.text "Ada") ∧
      FormAction.OfSession (.selectTemplate "u" : FormAction MemoryDrafts) ∧
      switched.session.drafts.held "t" ≠ state.session.drafts.held "t" ∧
      switched.session.drafts.held "t" = some (.singleton "name" (.text "Ada")) ∧
      state.WaitEnds "t" "name" (.text "Ada") (.selectTemplate "u") ∧
      DraftStore.load switched.session.drafts "u" =
        DraftStore.load (forgetful.run [.selectTemplate "u"]).session.drafts "u" ∧
      switched.session.answers = (forgetful.run [.selectTemplate "u"]).session.answers := by
  intro state switched forgetful
  have hwaits : state.session.Waits "t" "name" (.text "Ada") := ⟨rfl, by decide +kernel⟩
  have hchanged : switched.session.drafts.held "t" ≠ state.session.drafts.held "t" := by decide +kernel
  have hstored : state.stored (.selectTemplate "u") = some (.singleton "name" (.text "Ada")) := by decide +kernel
  have hmoved : (state.run [.selectTemplate "u"]).session.templateId ≠ state.session.templateId := by decide +kernel
  obtain ⟨hframe, hends, helsewhere⟩ := drafts_follow_selection state
  obtain ⟨-, hwritten⟩ := (hframe (.selectTemplate "u") trivial).2 "t" hchanged
  obtain ⟨hloaded, hshown⟩ := helsewhere .idle state.session.answers [.selectTemplate "u"]
  have hended : state.WaitEnds "t" "name" (.text "Ada") (.selectTemplate "u") := by
    rcases hends "t" "name" (.text "Ada") [.selectTemplate "u"] hwaits with hstill | hended
    · exact absurd hstill.template (by decide +kernel)
    · obtain ⟨earlier, action, later, hsplit, -, hended⟩ := hended
      cases earlier with
      | nil =>
        cases hsplit
        exact hended
      | cons first rest => simp at hsplit
  exact ⟨hwaits, trivial, hchanged, hwritten.trans hstored, hended, hloaded "u" (by decide +kernel),
    (hshown hmoved).2.1⟩

/-- A write that was queued before the form arrived, and does not fit its field, is neither committed nor forgotten by a
reset or by leaving the template: nothing is left of it. -/
theorem queued_write_dropped_by_form :
    let state : TimedForm MemoryDrafts :=
      run ⟨.start, .start .empty {}⟩ [.selectTemplate "t", .update (.singleton "age" (.text "abc"))]
    let actions : List (FormAction MemoryDrafts) := [.applyConfig (.simple [("age", .number)]), .flushNow]
    state.session.Waits "t" "age" (.text "abc") ∧ state.session.drafts.working = true ∧
      (state.run actions).session.templateId = some "t" ∧ (state.run actions).session.queue = .idle ∧
      (state.run actions).session.drafts.held "t" = none := by
  intro state actions
  have hwaits : state.session.Waits "t" "age" (.text "abc") := ⟨rfl, by decide +kernel⟩
  exact ⟨hwaits, by decide +kernel⟩

end TimedForm

end SiteBuilder
