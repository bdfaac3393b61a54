import SiteBuilder.Proofs.Form.Flushes
import SiteBuilder.Proofs.Studio.Run

/-!
# Flushes and the preview

With every tick the studio flushes what is due in its form and tells the preview the answers if the flush reports a
commit. The report is the word of the form: it is true unless the batch that is due holds no answers, and then the
preview is told answers that it knows and puts its next render off. Such a batch comes from writes of no answers alone.
-/

namespace SiteBuilder

variable {σ : Type} [DraftStore σ]

/-- A tick tells the preview the answers of the form exactly if the flush reports a commit. -/
theorem Studio.preview_tick (studio : Studio σ) (now : Nat) :
    (studio.tick now).2.preview =
      if (studio.form.flushDue now).1 then
        ((studio.preview.answersChanged now (studio.form.flushDue now).2.answers).tick now).2
      else (studio.preview.tick now).2 := by
  unfold tick answersChanged
  cases studio.form.flushDue now with
  | mk flushed form => cases flushed <;> rfl

namespace TimedForm

/-- In every state that a new session comes to: a flush that reports nothing does nothing. What it reports is true,
which is that it made one change and saved one draft, unless it takes a batch without answers from the queue. Such a
batch is there exactly while a write of no answers waits.

A studio with the session as its form tells the preview, at a tick, answers that were committed by its flush and, if
the batch that is due holds no answers, answers that have not changed; and it tells nothing else. -/
theorem flushes_reported_of_run (clock : Clock) (drafts : σ) (formSettings : FormSettings)
    (actions : List (FormAction σ)) :
    let start : TimedForm σ := ⟨clock, .start drafts formSettings⟩
    let state := start.run actions
    let now := state.clock.now
    (∀ action : FormAction σ, action.Flushes →
        (¬state.Reports action → (state.step action).2 = state) ∧
          ((state.Reports action ↔ state.Changes action) ↔ state.taken? action ≠ some ∅)) ∧
      (state.session.queue.task? = some ∅ ↔ start.EmptyWriteWaits actions) ∧
      ∀ (preview : Preview.Scheduler) (files : Option FileSet) (settings : Settings),
        let studio : Studio σ := ⟨state.session, preview, files, settings⟩
        let flushed := (state.step .flushDue).2.session
        (state.Changes .flushDue →
            (studio.tick now).2.preview = ((preview.answersChanged now flushed.answers).tick now).2) ∧
          (state.taken? .flushDue = some ∅ →
            flushed = { state.session with queue := .idle } ∧
              (studio.tick now).2.preview = ((preview.answersChanged now state.session.answers).tick now).2) ∧
          (¬state.Changes .flushDue → state.taken? .flushDue ≠ some ∅ →
            (studio.tick now).2.preview = (preview.tick now).2) := by
  intro start state now
  have hreports : state.Reports .flushDue ↔ (state.session.flushDue now).1 = true := by
    simp [Reports, step, now]
  have hexact : (state.Reports .flushDue ↔ state.Changes .flushDue) ↔ state.taken? .flushDue ≠ some ∅ :=
    reports_iff_changes_iff trivial
  have hempty (htaken : state.taken? .flushDue = some ∅) :
      state.session.flushDue now = (true, { state.session with queue := .idle }) := by
    have hdue : (state.session.queue.poll now).1 = some ∅ := htaken
    rw [state.session.flushDue_eq_afterTaking, hdue]
    exact Prod.ext rfl state.session.afterTaking_of_empty
  refine ⟨fun action haction => ⟨step_of_not_reports haction, reports_iff_changes_iff haction⟩,
    task?_eq_empty_iff rfl actions, ?_⟩
  intro preview files settings studio flushed
  have htick := studio.preview_tick now
  refine ⟨fun hchanges => ?_, fun htaken => ?_, fun hkept htaken => ?_⟩
  · -- What takes a batch without answers is no change, so the report of a change is true.
    have htaken : state.taken? .flushDue ≠ some ∅ := by
      intro htaken
      have hrevision := hchanges.1
      simp [step, now, hempty htaken] at hrevision
    rw [htick, if_pos (hreports.mp ((hexact.mpr htaken).mpr hchanges))]
    rfl
  · have hflush := hempty htaken
    rw [htick, hflush]
    exact ⟨congrArg Prod.snd hflush, rfl⟩
  · have hreport : ¬(state.session.flushDue now).1 = true := fun hreport =>
      hkept ((hexact.mpr htaken).mp (hreports.mpr hreport))
    rw [htick, if_neg hreport]

end TimedForm

namespace TimedStudio

/-- After a write of no answers, a flush at any time from its due time on reports a commit, but there is no change and
no draft; and the next tick lets the preview wait to render the answers that it shows. -/
theorem flush_of_no_answers_reported :
    let name : Field := ⟨"name", none, .text, some (.text "World"), none, none, [], false, .none⟩
    let content : TemplateContent :=
      ⟨⟨none, none, [⟨"1", "", none, [name]⟩]⟩, .singleton "index.html" "Hello {name}!"⟩
    let actions : List (StudioAction MemoryDrafts) :=
      [.selectTemplate "t", .contentLoaded "t" content, .targetLoaded 1, .update ∅, .advanceClock 16]
    let state := (initial .start {} .empty .empty).run actions
    let ticked := state.step .tick
    (state.studio.form.flushDue state.clock.now).1 = true ∧ state.studio.form.flushNow.1 = true ∧
      state.studio.form.flushNow.2.revision = state.studio.form.revision ∧
      state.studio.form.flushNow.2.drafts = state.studio.form.drafts ∧
      state.studio.preview.updates = .idle ∧
      state.studio.preview.latest = some (content.files, state.studio.form.answers) ∧
      ticked.studio.form.revision = state.studio.form.revision ∧
      ticked.studio.preview.updates = ⟨some ⟨816, state.studio.form.answers⟩⟩ := by
  decide +kernel

end TimedStudio

end SiteBuilder
