import SiteBuilder.Proofs.Preview.Render
import SiteBuilder.Proofs.Preview.Run

/-!
# Previews are up to date

A preview is told answers one after the other, and renders some of them only. What it renders is what it
was told last: answers that were superseded while they waited are never rendered after newer ones, and
when nothing waits the latest render is of the files and the answers that the preview was told last.
-/

namespace SiteBuilder.Preview

namespace Scheduler

/-- The latest render is of the files and the answers that were told last, or these answers wait. -/
structure UpToDate (preview : Scheduler) : Prop where
  pending : ∀ batch, preview.updates.task? = some batch → batch = preview.answers
  unscheduled : preview.files = none → preview.updates = .idle
  rendered : ∀ template files, preview.templateId = some template → preview.files = some files →
    preview.updates = .idle → preview.latest = some (files, preview.answers)

/-- A preview without files that waits for nothing is up to date. -/
theorem upToDate_of_files_none {preview : Scheduler} (hfiles : preview.files = none)
    (hidle : preview.updates = .idle) : preview.UpToDate where
  pending := by
    rw [hidle]
    intro batch hbatch
    cases hbatch
  unscheduled _ := hidle
  rendered := by
    rw [hfiles]
    intro template files _ hsome
    cases hsome

/-- Rendering the answers that were told last brings a preview up to date. -/
theorem upToDate_recompute (preview : Scheduler) (hidle : preview.updates = .idle) :
    (preview.recompute preview.answers).UpToDate := by
  have hinputs := preview.inputs_recompute preview.answers
  have hupdates := preview.updates_recompute preview.answers
  simp only [inputs, Inputs.mk.injEq] at hinputs
  obtain ⟨htemplate, hfiles, hanswers⟩ := hinputs
  refine ⟨?_, fun _ => hupdates.trans hidle, ?_⟩
  · rw [hupdates, hidle]
    intro batch hbatch
    cases hbatch
  · rw [htemplate, hfiles, hanswers]
    intro template files hopen hknown _
    exact latest_recompute preview.answers hopen hknown

variable {preview : Scheduler}

/-- Whether a preview is up to date depends on what it was told, what waits and the latest render. -/
theorem UpToDate.congr (h : preview.UpToDate) {other : Scheduler} (hinputs : other.inputs = preview.inputs)
    (hupdates : other.updates = preview.updates) (hlatest : other.latest = preview.latest) : other.UpToDate := by
  simp only [inputs, Inputs.mk.injEq] at hinputs
  obtain ⟨htemplate, hfiles, hanswers⟩ := hinputs
  refine ⟨?_, ?_, ?_⟩
  · rw [hupdates, hanswers]
    exact h.pending
  · rw [hupdates, hfiles]
    exact h.unscheduled
  · rw [htemplate, hfiles, hanswers, hupdates, hlatest]
    exact h.rendered

/-- New files are rendered at once. -/
theorem UpToDate.filesChanged (h : preview.UpToDate) (files : FileSet) (answers : AnswerSet) :
    (preview.filesChanged files answers).2.UpToDate := by
  unfold Scheduler.filesChanged
  split
  · exact h
  · exact upToDate_recompute _ rfl

/-- New answers supersede the ones that waited. -/
theorem UpToDate.answersChanged (h : preview.UpToDate) (now : Nat) (answers : AnswerSet) :
    (preview.answersChanged now answers).UpToDate := by
  unfold Scheduler.answersChanged
  split
  · next hfiles => exact upToDate_of_files_none hfiles (h.unscheduled hfiles)
  · next files hfiles =>
    refine ⟨?_, ?_, ?_⟩
    · intro batch hbatch
      exact (Option.some.inj hbatch).symm
    · intro hnone
      cases hfiles.symm.trans hnone
    · intro template files' _ _ hidle
      cases hidle

/-- Answers that are due are the ones that were told last. -/
theorem UpToDate.tick (h : preview.UpToDate) (now : Nat) : (preview.tick now).2.UpToDate := by
  unfold Scheduler.tick
  rcases preview.updates.poll_cases now with ⟨batch, htask, hpoll⟩ | hpoll
  · rw [hpoll]
    obtain rfl := h.pending batch htask
    exact upToDate_recompute { preview with updates := .idle } rfl
  · rw [hpoll]
    exact h

/-- Another try is made with the answers that were told last. -/
theorem UpToDate.retry (h : preview.UpToDate) : preview.retry.2.UpToDate := by
  unfold Scheduler.retry
  split
  · exact upToDate_recompute { preview with updates := .idle } rfl
  · exact h

/-- A confirmation neither tells nor renders anything. -/
theorem UpToDate.targetLoaded (h : preview.UpToDate) (generation : Nat) :
    (preview.targetLoaded generation).2.UpToDate := by
  obtain ⟨hinputs, hupdates, hlatest⟩ := preview.targetLoaded_keeps generation
  exact h.congr hinputs hupdates hlatest

end Scheduler

namespace TimedPreview

/-- Every action keeps a preview up to date. -/
theorem upToDate_step (state : TimedPreview) (action : PreviewAction) (h : state.preview.UpToDate) :
    (state.step action).preview.UpToDate := by
  cases action with
  | open_ template => exact Scheduler.upToDate_of_files_none rfl rfl
  | close => exact Scheduler.upToDate_of_files_none rfl rfl
  | filesChanged files answers => exact h.filesChanged files answers
  | answersChanged answers => exact h.answersChanged state.clock.now answers
  | tick => exact h.tick state.clock.now
  | retry => exact h.retry
  | targetLoaded generation => exact h.targetLoaded generation
  | advanceClock span => exact h
  | changeRefusal refusal => exact h.congr rfl rfl rfl

/-- In every state that a new preview comes to with a template open, its files known and no answers
waiting, the latest render is of these files and of the answers that were told last. -/
theorem latest_eq_of_run (clock : Clock) (host : Host) (settings : PreviewSettings)
    (actions : List PreviewAction) {template : String} {files : FileSet}
    (htemplate : (run ⟨clock, .start host settings⟩ actions).preview.templateId = some template)
    (hfiles : (run ⟨clock, .start host settings⟩ actions).preview.files = some files)
    (hidle : (run ⟨clock, .start host settings⟩ actions).preview.updates = .idle) :
    (run ⟨clock, .start host settings⟩ actions).preview.latest =
      some (files, (run ⟨clock, .start host settings⟩ actions).preview.answers) :=
  (run_induction upToDate_step (Scheduler.upToDate_of_files_none rfl rfl) actions).rendered template files
    htemplate hfiles hidle

end TimedPreview

end SiteBuilder.Preview
