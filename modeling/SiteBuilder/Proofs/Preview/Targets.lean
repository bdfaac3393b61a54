import SiteBuilder.Proofs.Preview.Ledger
import SiteBuilder.Proofs.Preview.Render
import SiteBuilder.Proofs.Preview.Run

/-!
# The targets of a preview

The live targets of a preview are the one that waits and the one on show. A target comes to be in a
render; it is given up when a later render begins, when its successor is confirmed, or when its template
is closed. Neither failed renders nor late confirmations lose a target or give one up twice.
-/

namespace SiteBuilder.Preview

namespace Scheduler

/-- The targets that a preview holds, latest first. -/
def targets (preview : Scheduler) : List Target := preview.waiting.toList ++ preview.active.toList

/-- A preview holds the target that waits and the one on show. -/
theorem mem_targets_iff {preview : Scheduler} {target : Target} :
    target ∈ preview.targets ↔ preview.waiting = some target ∨ preview.active = some target := by
  rw [targets, List.mem_append, Option.mem_toList, Option.mem_toList]

/-- The live targets are the ones that the preview holds. They are of the open template, and no
generation to come has been used. -/
structure Accounted (preview : Scheduler) : Prop where
  shows : preview.host.Shows preview.targets
  numbered : ∀ template generation,
    .mount template generation ∈ preview.host.calls → generation ≤ preview.generation
  opened : ∀ target ∈ preview.targets, preview.templateId = some target.template

/-- Giving targets back takes none in. -/
theorem mount_mem_releaseAll_iff {host : Host} {place : Option Target} {template : String}
    {generation : Nat} :
    .mount template generation ∈ (host.releaseAll place).calls ↔ .mount template generation ∈ host.calls := by
  cases place <;> simp [Host.releaseAll, Host.release]

/-- A new preview accounts for its targets. -/
theorem accounted_start (settings : PreviewSettings) : (start .empty settings).Accounted where
  shows := Host.shows_empty
  numbered := by simp [start, Host.empty]
  opened := by simp [targets, start]

variable {preview : Scheduler}

/-- Closing gives all targets back. -/
theorem Accounted.shows_close (h : preview.Accounted) : preview.close.host.Shows [] := by
  have hwaiting : (preview.host.releaseAll preview.waiting).Shows preview.active.toList :=
    Host.Shows.releaseAll [] _ h.shows
  exact Host.Shows.releaseAll [] [] (by simpa using hwaiting)

/-- After closing, the host shows no document. -/
theorem Accounted.liveCount_close (h : preview.Accounted) : preview.close.host.liveCount = 0 := by
  rw [Host.liveCount, List.length_eq_zero_iff]
  exact List.map_eq_nil_iff.mp h.shows_close.documents

/-- Closing gives back whatever was taken in and had not been given back. -/
theorem Accounted.release_mem_close (h : preview.Accounted) {template : String} {generation : Nat}
    (hmount : .mount template generation ∈ preview.host.calls) :
    .release template generation ∈ preview.close.host.calls := by
  by_contra hkept
  have hmount : .mount template generation ∈ preview.close.host.calls :=
    mount_mem_releaseAll_iff.mpr (mount_mem_releaseAll_iff.mpr hmount)
  obtain ⟨target, htarget, -⟩ := h.shows_close.mem_iff.mpr ⟨hmount, hkept⟩
  cases htarget

/-- After closing, there are no targets to account for. -/
theorem Accounted.close (h : preview.Accounted) : preview.close.Accounted where
  shows := h.shows_close
  numbered template generation hmount :=
    h.numbered template generation (mount_mem_releaseAll_iff.mp (mount_mem_releaseAll_iff.mp hmount))
  opened := by simp [targets, Scheduler.close]

/-- Opening a template begins without targets. -/
theorem Accounted.open_ (h : preview.Accounted) (template : String) : (preview.open_ template).Accounted where
  shows := h.shows_close
  numbered := h.close.numbered
  opened := by simp [targets, Scheduler.open_, Scheduler.close]

/-- A render that has begun holds the target on show alone. -/
theorem Accounted.begun (h : preview.Accounted) (files : FileSet) (answers : AnswerSet) :
    (preview.begun files answers).Accounted where
  shows := Host.Shows.releaseAll [] _ h.shows
  numbered template generation hmount :=
    Nat.le_succ_of_le (h.numbered template generation (mount_mem_releaseAll_iff.mp hmount))
  opened target htarget := h.opened target (List.mem_append_right _ htarget)

/-- The generation of a render that has begun has not been used. -/
theorem Accounted.mount_notMem_begun (h : preview.Accounted) (template : String) (files : FileSet)
    (answers : AnswerSet) :
    .mount template (preview.begun files answers).generation ∉ (preview.begun files answers).host.calls := by
  intro hmount
  have hle := h.numbered template _ (mount_mem_releaseAll_iff.mp hmount)
  exact Nat.not_succ_le_self preview.generation hle

/-- However a render ends, the preview accounts for its targets. -/
theorem Accounted.of_renderEnd (h : preview.Accounted) {template : String} {files : FileSet}
    {answers : AnswerSet} {after : Scheduler} (htemplate : preview.templateId = some template)
    (hend : preview.RenderEnd template files answers after) : after.Accounted := by
  have hbegun := h.begun files answers
  cases hend with
  | missing cause hdocument => exact ⟨hbegun.shows, hbegun.numbered, hbegun.opened⟩
  | refused document reason hdocument hrefusal =>
    refine ⟨hbegun.shows.refuse _ _, ?_, hbegun.opened⟩
    intro template' generation hmount
    exact hbegun.numbered template' generation (List.mem_of_ne_of_mem (by simp) hmount)
  | mounted document hdocument hrefusal =>
    refine ⟨hbegun.shows.mount (h.mount_notMem_begun template files answers) document, ?_, ?_⟩
    · intro template' generation hmount
      rcases List.mem_cons.mp hmount with hnew | hmount
      · exact Nat.le_of_eq (HostCall.mount.inj hnew).2
      · exact hbegun.numbered template' generation hmount
    · intro target htarget
      rcases List.mem_cons.mp htarget with rfl | htarget
      · exact htemplate
      · exact hbegun.opened target htarget

/-- A render keeps the account. -/
theorem Accounted.recompute (h : preview.Accounted) (answers : AnswerSet) :
    (preview.recompute answers).Accounted := by
  rcases preview.recompute_cases answers with hsame | ⟨template, files, htemplate, -, hend⟩
  · rw [hsame]
    exact h
  · exact h.of_renderEnd htemplate hend

/-- Files, answers and their timer are no part of the account. -/
theorem Accounted.withContents (h : preview.Accounted) (files : Option FileSet) (answers : AnswerSet)
    (updates : Timer AnswerSet) : { preview with files, answers, updates }.Accounted :=
  ⟨h.shows, h.numbered, h.opened⟩

/-- New files keep the account. -/
theorem Accounted.filesChanged (h : preview.Accounted) (files : FileSet) (answers : AnswerSet) :
    (preview.filesChanged files answers).2.Accounted := by
  unfold Scheduler.filesChanged
  split
  · exact h
  · exact (h.withContents (some files) answers .idle).recompute answers

/-- New answers keep the account. -/
theorem Accounted.answersChanged (h : preview.Accounted) (now : Nat) (answers : AnswerSet) :
    (preview.answersChanged now answers).Accounted := by
  unfold Scheduler.answersChanged
  split
  · exact h.withContents preview.files answers preview.updates
  · exact h.withContents preview.files answers _

/-- An update keeps the account, whether it was due or not. -/
theorem Accounted.tick (h : preview.Accounted) (now : Nat) : (preview.tick now).2.Accounted := by
  unfold Scheduler.tick
  split
  · exact (h.withContents preview.files preview.answers _).recompute _
  · exact h.withContents preview.files preview.answers _

/-- Another try keeps the account. -/
theorem Accounted.retry (h : preview.Accounted) : preview.retry.2.Accounted := by
  unfold Scheduler.retry
  split
  · exact (h.withContents preview.files preview.answers .idle).recompute preview.answers
  · exact h

/-- Showing the target that waits gives up the one on show. -/
theorem Accounted.showing (h : preview.Accounted) {target : Target} (hwaiting : preview.waiting = some target)
    (htemplate : preview.templateId = some target.template) : (preview.showing target).Accounted where
  shows := by
    have htargets : preview.targets = [target] ++ preview.active.toList ++ [] := by
      rw [targets, hwaiting, Option.toList_some, List.append_nil]
    exact Host.Shows.releaseAll [target] [] (htargets ▸ h.shows)
  numbered template generation hmount := h.numbered template generation (mount_mem_releaseAll_iff.mp hmount)
  opened := by
    intro shown hshown
    obtain rfl : shown = target := by simpa [targets, Scheduler.showing] using hshown
    exact htemplate

/-- A confirmation shows the target that waits, or does nothing. -/
theorem Accounted.targetLoaded (h : preview.Accounted) (generation : Nat) :
    (preview.targetLoaded generation).2.Accounted := by
  rcases preview.targetLoaded_cases generation with ⟨target, hwaiting, -, htemplate, hloaded⟩ | ⟨hloaded, -⟩
  · rw [hloaded]
    exact h.showing hwaiting htemplate
  · rw [hloaded]
    exact h

end Scheduler

namespace TimedPreview

/-- Every action keeps the account. -/
theorem accounted_step (state : TimedPreview) (action : PreviewAction) (h : state.preview.Accounted) :
    (state.step action).preview.Accounted := by
  cases action with
  | open_ template => exact h.open_ template
  | close => exact h.close
  | filesChanged files answers => exact h.filesChanged files answers
  | answersChanged answers => exact h.answersChanged state.clock.now answers
  | tick => exact h.tick state.clock.now
  | retry => exact h.retry
  | targetLoaded generation => exact h.targetLoaded generation
  | advanceClock span => exact h
  | changeRefusal refusal => exact ⟨h.shows.withRefusal refusal, h.numbered, h.opened⟩

/-- In every state that a new preview comes to, the targets that were taken in and not given back are the
one that waits and the one on show, each of the open template; every target was taken in at most once and
given back at most once, and only after it was taken in; and closing the template or opening another
leaves none live. -/
theorem targets_accounted_of_run (clock : Clock) (settings : PreviewSettings) (actions : List PreviewAction) :
    let preview := (run ⟨clock, .start .empty settings⟩ actions).preview
    let calls := preview.host.calls
    (∀ handle, (preview.host.document? handle).isSome ↔ ∃ target ∈ preview.targets, target.handle = handle) ∧
      (∀ template generation, (.mount template generation ∈ calls ∧ .release template generation ∉ calls) ↔
        ∃ target ∈ preview.targets, target.template = template ∧ target.generation = generation) ∧
      (∀ template generation, calls.count (.mount template generation) ≤ 1 ∧
        calls.count (.release template generation) ≤ 1) ∧
      (∀ template generation later earlier, calls = later ++ .release template generation :: earlier →
        .mount template generation ∈ earlier) ∧
      (∀ target ∈ preview.targets, preview.templateId = some target.template) ∧
      ∀ after, (after = preview.close ∨ ∃ template, after = preview.open_ template) →
        after.targets = [] ∧ after.host.liveCount = 0 ∧
          ∀ template generation, .mount template generation ∈ calls →
            .release template generation ∈ after.host.calls := by
  intro preview calls
  have haccounted : preview.Accounted := run_induction accounted_step (Scheduler.accounted_start settings) actions
  have horderly : HostCall.Orderly calls := haccounted.shows.orderly
  refine ⟨fun handle => haccounted.shows.document?_isSome_iff,
    fun template generation => haccounted.shows.mem_iff.symm,
    fun template generation => ⟨horderly.count_mount_le_one, horderly.count_release_le_one⟩,
    fun template generation later earlier hcalls => ?_, haccounted.opened, fun after hafter => ?_⟩
  · rw [hcalls] at horderly
    exact horderly.mount_mem_of_release
  · have hsame : after.targets = [] ∧ after.host = preview.close.host := by
      rcases hafter with rfl | ⟨template, rfl⟩ <;> exact ⟨rfl, rfl⟩
    rw [hsame.2]
    exact ⟨hsame.1, haccounted.liveCount_close, fun template generation => haccounted.release_mem_close⟩

end TimedPreview

end SiteBuilder.Preview
