import Mathlib.Data.List.Induction
import SiteBuilder.Proofs.Form.Commits

/-!
# When a stored answer is lost

A commit saves all committed answers in place of the whole draft. So an answer that is stored is kept by commits
as long as the session has it, too, which it does after its template was opened with its draft. A draft that
cannot be read is taken for no draft: the session then starts without the stored answers, and its next save puts
its own in their place, although nobody wrote to the ones that are lost.

What is proved is that nothing else loses a stored answer, whichever calls to the store fail.
-/

namespace SiteBuilder

variable {σ : Type}

/-- The draft of a template has an answer for a name. -/
def DraftStore.Keeps (held : σ → String → Option AnswerSet) (drafts : σ) (id name : String) (value : Answer) :
    Prop :=
  ∃ draft, held drafts id = some draft ∧ draft.get? name = some value

/-- Typing a batch answers no further names. -/
theorem get?_coerceAll_eq_none {config : Option TemplateConfig} {batch typed : AnswerSet} {name : String}
    (htyped : coerceAll config batch = .ok typed) (hname : batch.get? name = none) : typed.get? name = none := by
  cases config with
  | none =>
    cases htyped
    exact hname
  | some config =>
    obtain ⟨-, rfl⟩ := coerceAll_eq_ok_iff.mp htyped
    rw [get?_retype, hname, Option.bind_none]

/-- Typing by a form keeps an answer that has the shape of its field. -/
theorem get?_retype_of_holds {config : TemplateConfig} {answers : AnswerSet} {name : String} {value : Answer}
    (hanswer : answers.get? name = some value)
    (hshape : ∀ field, config.field? name = some field → field.kind.Holds value) :
    (retype config answers).get? name = some value := by
  have hcoerce : config.coerce name value = .ok value := by
    cases hfield : config.field? name with
    | none => exact TemplateConfig.coerce_of_field?_none hfield value
    | some field =>
      rw [TemplateConfig.coerce_of_field? hfield]
      exact FieldKind.coerce_eq_ok_iff.mpr (FieldKind.stored?_of_holds (hshape field hfield))
  rw [get?_retype, hanswer, Option.bind_some, hcoerce]
  rfl

namespace TimedForm

variable {held : σ → String → Option AnswerSet} {state : TimedForm σ} {id name : String} {value : Answer}

/-- The action neither resets a template nor writes to one of its names, and no form that it takes up there wants
another shape for the value of that name. From outside, the draft of the template is left alone. -/
def Spares (state : TimedForm σ) (held : σ → String → Option AnswerSet) (id name : String) (value : Answer) :
    FormAction σ → Prop
  | .applyConfig config =>
    state.session.templateId = some id → ∀ field, config.field? name = some field → field.kind.Holds value
  | .update batch | .updateNow batch =>
    state.session.templateId = some id → (∃ typed, coerceAll state.session.config batch = .ok typed) →
      batch.get? name = none
  | .resetForm => state.session.templateId ≠ some id
  | .changeDrafts drafts => held drafts id = held state.session.drafts id
  | _ => True

/-- An action that spares a name commits nothing for it. -/
theorem get?_committed_of_spares {action : FormAction σ} (hspared : state.Spares held id name value action)
    (htemplate : state.session.templateId = some id) (hqueued : state.session.queued.get? name = none) :
    (state.session.committed state.clock.now action).get? name = none := by
  cases action with
  | updateNow batch =>
    simp only [FormSession.committed]
    cases htyped : coerceAll state.session.config batch with
    | error mismatch => rfl
    | ok typed =>
      have hname := get?_coerceAll_eq_none htyped (hspared htemplate ⟨typed, htyped⟩)
      rw [NameMap.get?_overlay, hname, hqueued]
      rfl
  | flushDue =>
    simp only [FormSession.committed]
    rcases state.session.queue.poll_cases state.clock.now with ⟨batch, htask, hpoll⟩ | hpoll
    · rw [FormSession.queued, htask] at hqueued
      rw [hpoll]
      exact hqueued
    · rw [hpoll]
      rfl
  | flushNow | submit | selectTemplate => exact hqueued
  | _ => rfl

section Stored

variable [DraftStore σ]

/-- The template that was opened last in a run is `id`, and its draft could not be read then. -/
def OpenedUnread (start : TimedForm σ) (id : String) (actions : List (FormAction σ)) : Prop :=
  ∃ before since, actions = before ++ .selectTemplate id :: since ∧
    (∀ other, FormAction.selectTemplate other ∉ since) ∧
    ∃ cause, DraftStore.load (start.run before).session.flushNow.2.drafts id = .error cause

/-- A template remains the one that was opened last until another is opened. -/
theorem OpenedUnread.append {start : TimedForm σ} {id : String} {actions : List (FormAction σ)}
    (h : start.OpenedUnread id actions) {action : FormAction σ} (haction : ∀ other, .selectTemplate other ≠ action) :
    start.OpenedUnread id (actions ++ [action]) := by
  obtain ⟨before, since, rfl, hsince, hload⟩ := h
  refine ⟨before, since ++ [action], by simp, fun other hmem => ?_, hload⟩
  rcases List.mem_append.mp hmem with hmem | hmem
  · exact hsince other hmem
  · exact haction other (List.mem_singleton.mp hmem)

/-- A template that is opened while its draft cannot be read. -/
theorem openedUnread_selectTemplate {start : TimedForm σ} {id : String} {actions : List (FormAction σ)}
    {cause : DraftError}
    (hload : DraftStore.load (start.run actions).session.flushNow.2.drafts id = .error cause) :
    start.OpenedUnread id (actions ++ [.selectTemplate id]) :=
  ⟨actions, [], rfl, fun _ => List.not_mem_nil, cause, hload⟩

end Stored

end TimedForm

/-- A stored answer is there, the queue has no other for its name, and the session has it, too, unless it could
not read the draft. -/
structure FormSession.Tracks (session : FormSession σ) (held : σ → String → Option AnswerSet) (id name : String)
    (value : Answer) (unread : Prop) : Prop where
  kept : DraftStore.Keeps held session.drafts id name value
  queued : session.templateId = some id → session.queued.get? name = none
  answers : session.templateId = some id → ¬unread → session.answers.get? name = some value

namespace TimedForm

variable [DraftStore σ] {held : σ → String → Option AnswerSet} {state : TimedForm σ} {id name : String}
  {value : Answer} {unread : Prop}

/-! ## One action -/

/-- An action that spares a name queues nothing for it. -/
theorem get?_queued_step_of_spares {action : FormAction σ} (haction : action.Editing)
    (hspared : state.Spares held id name value action) (htemplate : state.session.templateId = some id)
    (hqueued : state.session.queued.get? name = none) :
    (state.step action).2.session.queued.get? name = none := by
  have hidle {after : FormSession σ} (hqueue : after.queue = .idle) : after.queued.get? name = none := by
    rw [FormSession.queued, hqueue]
    rfl
  have hkeep {after : FormSession σ} (hcontents : after.contents = state.session.contents) :
      after.queued.get? name = none := by
    have hsame : after.queued = state.session.queued :=
      congrArg (fun contents => contents.queue.task?.getD ∅) hcontents
    rw [hsame, hqueued]
  cases action with
  | selectTemplate | applyConfig | resetForm | clearTemplate | changeDrafts => exact haction.elim
  | update batch =>
    simp only [step, FormSession.update]
    cases htyped : coerceAll state.session.config batch with
    | error mismatch => exact hqueued
    | ok typed =>
      have hname := get?_coerceAll_eq_none htyped (hspared htemplate ⟨typed, htyped⟩)
      have hafter : (state.session.enqueue state.clock.now typed).queued = state.session.queued.overlay typed := rfl
      rw [hafter, NameMap.get?_overlay, hname, hqueued]
      rfl
  | updateNow batch =>
    simp only [step, FormSession.updateNow]
    cases coerceAll state.session.config batch with
    | error mismatch => exact hqueued
    | ok typed => exact hidle (FormSession.queue_commit _ _)
  | flushDue =>
    rcases state.session.flushDue_eq state.clock.now with hflush | hflush
    · simp only [step, hflush]
      exact hidle state.session.queue_flushNow
    · simp only [step, hflush]
      exact hqueued
  | flushNow => exact hidle state.session.queue_flushNow
  | submit => exact hidle state.session.queue_flushNow
  | validateStep id => exact hkeep (state.session.contents_validateStep id)
  | advanceStep => exact hkeep state.session.contents_advanceStep
  | retreatStep => exact hkeep state.session.contents_retreatStep
  | goToStep position => exact hkeep (state.session.contents_goToStep position)
  | _ => exact hqueued

/-- The draft keeps a stored answer over an action that spares it, unless the session could not read the draft
and saves something else. -/
theorem keeps_step (hstore : DraftStore.Faithful held) (h : state.session.Tracks held id name value unread)
    {action : FormAction σ} (hspared : state.Spares held id name value action)
    (hsaves : unread → state.session.Saves id (state.session.committed state.clock.now action) →
      state.session.answers.get? name = some value) :
    DraftStore.Keeps held (state.step action).2.session.drafts id name value := by
  have hcommit :
      DraftStore.Keeps held (state.session.commit (state.session.committed state.clock.now action)).drafts id name
        value := by
    by_cases hsaved : state.session.Saves id (state.session.committed state.clock.now action)
    · have hanswer : state.session.answers.get? name = some value := by
        by_cases hunread : unread
        · exact hsaves hunread hsaved
        · exact h.answers hsaved.1 hunread
      refine ⟨_, FormSession.held_commit_of_saves hstore hsaved, ?_⟩
      rw [NameMap.get?_overlay, get?_committed_of_spares hspared hsaved.1 (h.queued hsaved.1), hanswer]
      rfl
    · rw [DraftStore.Keeps, FormSession.held_commit_of_not_saves hstore hsaved]
      exact h.kept
  rw [drafts_step]
  cases action with
  | resetForm =>
    simp only [FormSession.resetForm]
    cases htemplate : state.session.templateId with
    | none => exact h.kept
    | some other =>
      have hother : id ≠ other := fun heq => hspared (heq ▸ htemplate)
      rw [DraftStore.Keeps, hstore.clear_other _ _ _ hother]
      exact h.kept
  | changeDrafts drafts =>
    have hsame : held drafts id = held state.session.drafts id := hspared
    rw [DraftStore.Keeps, hsame]
    exact h.kept
  | _ => exact hcommit

/-- What an action keeps of a stored answer. Whether the draft of the template is unread is decided when a
template is opened. -/
theorem tracks_step (hstore : DraftStore.Faithful held) (h : state.session.Tracks held id name value unread)
    {action : FormAction σ} (hspared : state.Spares held id name value action)
    (hsaves : unread → state.session.Saves id (state.session.committed state.clock.now action) →
      state.session.answers.get? name = some value) {unread' : Prop}
    (hunread : unread → (∀ other, .selectTemplate other ≠ action) → unread')
    (hopened : ∀ cause, action = .selectTemplate id →
      DraftStore.load state.session.flushNow.2.drafts id = .error cause → unread') :
    (state.step action).2.session.Tracks held id name value unread' := by
  have hkept := keeps_step hstore h hspared hsaves
  have hediting (haction : action.Editing) :
      (state.step action).2.session.Tracks held id name value unread' := by
    have hselection : (state.step action).2.session.templateId = state.session.templateId :=
      congrArg Prod.fst (state.selection_step haction)
    refine ⟨hkept, fun htemplate => ?_, fun htemplate hread => ?_⟩
    · rw [hselection] at htemplate
      exact get?_queued_step_of_spares haction hspared htemplate (h.queued htemplate)
    · rw [hselection] at htemplate
      have hanswer : state.session.answers.get? name = some value := by
        refine h.answers htemplate fun hbefore => hread (hunread hbefore ?_)
        rintro other rfl
        exact haction
      rw [state.answers_step haction, NameMap.get?_overlay,
        get?_committed_of_spares hspared htemplate (h.queued htemplate), hanswer]
      rfl
  cases action with
  | selectTemplate other =>
    refine ⟨hkept, fun _ => ?_, fun htemplate hread => ?_⟩
    · have hidle : (state.session.selectTemplate other).queue = .idle := state.session.queue_flushNow
      simp only [step, FormSession.queued, hidle]
      rfl
    · obtain rfl : other = id := Option.some.inj htemplate
      obtain ⟨draft, hheld, hvalue⟩ := hkept
      simp only [step, FormSession.selectTemplate] at hheld ⊢
      cases hload : DraftStore.load state.session.flushNow.2.drafts other with
      | error cause => exact absurd (hopened cause rfl hload) hread
      | ok loaded =>
        rw [hstore.load _ _ _ hload, hheld]
        exact hvalue
  | applyConfig config =>
    refine ⟨hkept, fun htemplate => ?_, fun htemplate hread => ?_⟩
    · have hqueued := h.queued htemplate
      simp only [step, FormSession.queued, FormSession.applyConfig, Timer.task?] at hqueued ⊢
      cases hslot : state.session.queue.slot with
      | none => rfl
      | some scheduled =>
        rw [hslot] at hqueued
        dsimp only
        split
        · rfl
        · change (retype config scheduled.task).get? name = none
          have hname : scheduled.task.get? name = none := hqueued
          rw [get?_retype, hname, Option.bind_none]
    · have hanswer := h.answers htemplate fun hbefore => hread (hunread hbefore fun _ heq => by cases heq)
      change (config.defaults.overlay (retype config state.session.answers)).get? name = some value
      rw [NameMap.get?_overlay, get?_retype_of_holds hanswer (hspared htemplate)]
      rfl
  | resetForm => exact ⟨hkept, fun htemplate => absurd htemplate hspared, fun htemplate => absurd htemplate hspared⟩
  | clearTemplate =>
    have hleft : (state.step .clearTemplate).2.session.templateId ≠ some id := (Option.some_ne_none id).symm
    exact ⟨hkept, fun htemplate => absurd htemplate hleft, fun htemplate => absurd htemplate hleft⟩
  | changeDrafts drafts =>
    exact ⟨hkept, h.queued, fun htemplate hread =>
      h.answers htemplate fun hbefore => hread (hunread hbefore fun _ heq => by cases heq)⟩
  | _ => exact hediting trivial

/-! ## Runs -/

/-- Every action of a run spares a stored answer. -/
def SparesAlong (start : TimedForm σ) (held : σ → String → Option AnswerSet) (id name : String) (value : Answer)
    (actions : List (FormAction σ)) : Prop :=
  ∀ earlier action, earlier ++ [action] <+: actions → (start.run earlier).Spares held id name value action

/-- Whatever a run saves for a template whose draft it could not read has the value that was stored. -/
def SavesAlong (start : TimedForm σ) (id name : String) (value : Answer) (actions : List (FormAction σ)) : Prop :=
  ∀ earlier action, earlier ++ [action] <+: actions → start.OpenedUnread id earlier →
    (start.run earlier).session.Saves id
      ((start.run earlier).session.committed (start.run earlier).clock.now action) →
    (start.run earlier).session.answers.get? name = some value

variable {start : TimedForm σ} {actions : List (FormAction σ)}

/-- A run spares a stored answer when its first action and the rest do. -/
theorem sparesAlong_cons {action : FormAction σ} :
    start.SparesAlong held id name value (action :: actions) ↔
      start.Spares held id name value action ∧ (start.step action).2.SparesAlong held id name value actions := by
  constructor
  · intro h
    exact ⟨h [] action (by simp), fun earlier next hpart => h (action :: earlier) next (by simpa using hpart)⟩
  · rintro ⟨hfirst, hrest⟩ earlier next hpart
    cases earlier with
    | nil =>
      obtain rfl : next = action := by simpa using hpart
      exact hfirst
    | cons first earlier =>
      obtain ⟨rfl, hlater⟩ := List.cons_prefix_cons.mp hpart
      exact hrest earlier next hlater

/-- A stored answer is tracked through a run whose saves for the unread template have it. -/
theorem tracks_run (hstore : DraftStore.Faithful held) (hstart : start.session.Tracks held id name value False)
    (hspared : start.SparesAlong held id name value actions) (hsaves : start.SavesAlong id name value actions) :
    (start.run actions).session.Tracks held id name value (start.OpenedUnread id actions) := by
  induction actions using List.reverseRecOn with
  | nil => exact ⟨hstart.kept, hstart.queued, fun htemplate _ => hstart.answers htemplate not_false⟩
  | append_singleton rest action ih =>
    have hshorter {earlier : List (FormAction σ)} (hpart : earlier <+: rest) : earlier <+: rest ++ [action] :=
      hpart.trans (List.prefix_append rest [action])
    have hrest := ih (fun earlier next hpart => hspared earlier next (hshorter hpart))
      (fun earlier next hpart => hsaves earlier next (hshorter hpart))
    rw [run_concat]
    refine tracks_step hstore hrest (hspared rest action List.prefix_rfl) (hsaves rest action List.prefix_rfl)
      (fun hunread haction => hunread.append haction) ?_
    rintro cause rfl hload
    exact openedUnread_selectTemplate hload

/-- A run that keeps a stored answer throughout saves nothing else for the unread template. -/
theorem savesAlong_of_keeps (hstore : DraftStore.Faithful held)
    (hstart : start.session.Tracks held id name value False)
    (hspared : start.SparesAlong held id name value actions)
    (hkept : ∀ earlier, earlier <+: actions →
      DraftStore.Keeps held (start.run earlier).session.drafts id name value) :
    start.SavesAlong id name value actions := by
  induction actions using List.reverseRecOn with
  | nil => exact fun earlier action hpart => absurd (List.prefix_nil.mp hpart) (by simp)
  | append_singleton rest action ih =>
    have hshorter {earlier : List (FormAction σ)} (hpart : earlier <+: rest) : earlier <+: rest ++ [action] :=
      hpart.trans (List.prefix_append rest [action])
    have hrestSpared : start.SparesAlong held id name value rest :=
      fun earlier next hpart => hspared earlier next (hshorter hpart)
    have hrest := ih hrestSpared (fun earlier hpart => hkept earlier (hshorter hpart))
    intro earlier next hpart hunread hsaved
    rcases List.prefix_concat_iff.mp hpart with heq | hpart
    · obtain ⟨rfl, hlast⟩ := List.append_inj' heq rfl
      obtain rfl : next = action := List.singleton_inj.mp hlast
      have htracks := tracks_run hstore hstart hrestSpared hrest
      obtain ⟨draft, hheld, hvalue⟩ := hkept _ List.prefix_rfl
      have hspare := hspared earlier next List.prefix_rfl
      have hname := get?_committed_of_spares hspare hsaved.1 (htracks.queued hsaved.1)
      have hdrafts : (start.run (earlier ++ [next])).session.drafts =
          ((start.run earlier).session.commit
            ((start.run earlier).session.committed (start.run earlier).clock.now next)).drafts := by
        rw [run_concat]
        exact drafts_step_of_saves hsaved
      rw [hdrafts, FormSession.held_commit_of_saves hstore hsaved] at hheld
      cases hheld
      rwa [NameMap.get?_overlay, hname, Option.none_or] at hvalue
    · exact hrest earlier next hpart hunread hsaved

/-- A stored answer that a run spares is kept all along exactly if the run saves nothing else for its template
after it was opened with a draft that could not be read. So it is kept whichever calls fail if no draft is read
in vain, and if none is saved between a failed reading and the next time a template is opened.

At the start the session has the answer, too, or is not on the template, as a new session. -/
theorem draft_kept_iff_of_run (hstore : DraftStore.Faithful held) (start : TimedForm σ) (id name : String)
    (value : Answer) (hkept : DraftStore.Keeps held start.session.drafts id name value)
    (hsession : start.session.templateId = some id →
      start.session.answers.get? name = some value ∧ start.session.queued.get? name = none)
    (actions : List (FormAction σ)) (hspared : start.SparesAlong held id name value actions) :
    (∀ earlier, earlier <+: actions → DraftStore.Keeps held (start.run earlier).session.drafts id name value) ↔
      start.SavesAlong id name value actions := by
  have hstart : start.session.Tracks held id name value False :=
    ⟨hkept, fun htemplate => (hsession htemplate).2, fun htemplate _ => (hsession htemplate).1⟩
  constructor
  · exact savesAlong_of_keeps hstore hstart hspared
  · intro hsaves earlier hpart
    exact (tracks_run hstore hstart (fun before action hbefore => hspared before action (hbefore.trans hpart))
      fun before action hbefore => hsaves before action (hbefore.trans hpart)).kept

/-- A draft that cannot be read at first is read later, and another answer is saved together with its own. -/
theorem draft_kept_of_second_reading :
    let ada := Answer.text "Ada"
    let drafts : NameMap AnswerSet := .singleton "t" (.singleton "name" ada)
    let start : TimedForm MemoryDrafts := ⟨.start, .start ⟨drafts, 0, true⟩ {}⟩
    let actions : List (FormAction MemoryDrafts) :=
      [.changeDrafts ⟨drafts, 0, false⟩, .selectTemplate "t", .changeDrafts ⟨drafts, 0, true⟩, .selectTemplate "t",
        .updateNow (.singleton "city" (.text "Paris"))]
    DraftStore.Keeps MemoryDrafts.held start.session.drafts "t" "name" ada ∧
      start.SparesAlong MemoryDrafts.held "t" "name" ada actions ∧
      start.SavesAlong "t" "name" ada actions := by
  intro ada drafts start actions
  have hkept : DraftStore.Keeps MemoryDrafts.held start.session.drafts "t" "name" ada := ⟨_, rfl, rfl⟩
  have hspared : start.SparesAlong MemoryDrafts.held "t" "name" ada actions := by
    simp only [actions, sparesAlong_cons]
    exact ⟨rfl, trivial, rfl, trivial, fun _ _ => rfl, by simp [SparesAlong]⟩
  refine ⟨hkept, hspared,
    (draft_kept_iff_of_run MemoryDrafts.faithful start "t" "name" ada hkept nofun actions hspared).mp ?_⟩
  intro earlier hpart
  simp only [actions, List.prefix_cons_iff, List.prefix_nil] at hpart
  rcases hpart with rfl | ⟨_, rfl, rfl | ⟨_, rfl, rfl | ⟨_, rfl, rfl | ⟨_, rfl, rfl | ⟨_, rfl, rfl⟩⟩⟩⟩⟩
  iterate 5 exact ⟨_, rfl, rfl⟩
  have hboth : (start.run actions).session.drafts.held "t" =
      some (.ofList [("city", .text "Paris"), ("name", ada)]) := by decide
  exact ⟨_, hboth, by decide⟩

/-- A draft cannot be read when its template is opened; once the store works again, an answer to another field is
saved in place of the whole draft. -/
theorem stored_name_lost_after_failed_reading :
    let ada := Answer.text "Ada"
    let drafts : NameMap AnswerSet := .singleton "t" (.singleton "name" ada)
    let start : TimedForm MemoryDrafts := ⟨.start, .start ⟨drafts, 0, true⟩ {}⟩
    let actions : List (FormAction MemoryDrafts) :=
      [.changeDrafts ⟨drafts, 0, false⟩, .selectTemplate "t", .changeDrafts ⟨drafts, 0, true⟩,
        .updateNow (.singleton "city" (.text "Paris"))]
    DraftStore.Keeps MemoryDrafts.held start.session.drafts "t" "name" ada ∧
      start.SparesAlong MemoryDrafts.held "t" "name" ada actions ∧
      ¬DraftStore.Keeps MemoryDrafts.held (start.run actions).session.drafts "t" "name" ada := by
  intro ada drafts start actions
  have hspared : start.SparesAlong MemoryDrafts.held "t" "name" ada actions := by
    simp only [actions, sparesAlong_cons]
    exact ⟨rfl, trivial, rfl, fun _ _ => rfl, by simp [SparesAlong]⟩
  refine ⟨⟨_, rfl, rfl⟩, hspared, ?_⟩
  rintro ⟨draft, hheld, hvalue⟩
  have hdraft : (start.run actions).session.drafts.held "t" = some (.singleton "city" (.text "Paris")) := by
    decide
  rw [hdraft] at hheld
  cases hheld
  cases hvalue

end TimedForm

end SiteBuilder
