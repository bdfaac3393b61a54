import SiteBuilder.Preview.Scheduler

/-!
# What a render does

A render needs an open template and its files. It takes a new generation, gives back the target that
waits, and then comes to one of three ends: there is no document, the host refuses the document, or a new
target waits to be confirmed.
-/

namespace SiteBuilder.Preview

namespace Scheduler

/-- A preview once a render of files and answers has begun: the target that waited was given back. -/
def begun (preview : Scheduler) (files : FileSet) (answers : AnswerSet) : Scheduler :=
  { preview with
    generation := preview.generation + 1
    renders := preview.renders + 1
    latest := some (files, answers)
    stage := .rendering
    host := preview.host.releaseAll preview.waiting
    waiting := none }

/-- A preview whose host refuses the document of a render that has begun. -/
def refused (preview : Scheduler) (template reason : String) : Scheduler :=
  { preview with
    host := { preview.host with calls := .refuse template preview.generation :: preview.host.calls } }.fail
    (.refused reason)

/-- A preview whose host takes in the document of a render that has begun. -/
def mounted (preview : Scheduler) (template document : String) : Scheduler :=
  { preview with
    host := { preview.host with
      documents := (preview.host.mounted, document) :: preview.host.documents
      mounted := preview.host.mounted + 1
      calls := .mount template preview.generation :: preview.host.calls }
    waiting := some ⟨.issued preview.host.mounted, template, preview.generation⟩ }

/-- How a render of files and answers ends for a template: what becomes of the preview. -/
inductive RenderEnd (preview : Scheduler) (template : String) (files : FileSet) (answers : AnswerSet) :
    Scheduler → Prop where
  /-- There is no document. -/
  | missing (cause : EntryMissing) (hdocument : Document.compose files answers preview.entryFile = .error cause) :
      RenderEnd preview template files answers ((preview.begun files answers).fail (.document cause))
  /-- The host refuses the document. -/
  | refused (document reason : String)
      (hdocument : Document.compose files answers preview.entryFile = .ok document)
      (hrefusal : preview.host.refusal = some reason) :
      RenderEnd preview template files answers ((preview.begun files answers).refused template reason)
  /-- A new target waits. -/
  | mounted (document : String)
      (hdocument : Document.compose files answers preview.entryFile = .ok document)
      (hrefusal : preview.host.refusal = none) :
      RenderEnd preview template files answers ((preview.begun files answers).mounted template document)

/-- Giving targets back does not change whether a host refuses documents. -/
@[simp]
theorem refusal_releaseAll (host : Host) (place : Option Target) :
    (host.releaseAll place).refusal = host.refusal := by
  cases place <;> rfl

/-- A render that finds a template and its files comes to one of its ends. -/
theorem renderEnd_recompute {preview : Scheduler} {template : String} {files : FileSet}
    (htemplate : preview.templateId = some template) (hfiles : preview.files = some files)
    (answers : AnswerSet) : preview.RenderEnd template files answers (preview.recompute answers) := by
  unfold recompute
  rw [htemplate, hfiles]
  dsimp only
  split
  · next cause hdocument =>
    have hend : preview.RenderEnd template files answers _ := .missing cause hdocument
    simpa only [begun, hfiles, htemplate] using hend
  · next document hdocument =>
    cases hrefusal : preview.host.refusal with
    | some reason =>
      have hend : preview.RenderEnd template files answers _ := .refused document reason hdocument hrefusal
      simpa only [Host.mount, refusal_releaseAll, hrefusal, begun, Scheduler.refused, hfiles, htemplate] using hend
    | none =>
      have hend : preview.RenderEnd template files answers _ := .mounted document hdocument hrefusal
      simpa only [Host.mount, refusal_releaseAll, hrefusal, begun, Scheduler.mounted, hfiles, htemplate] using hend

/-- Without an open template or without its files nothing is rendered. -/
theorem recompute_eq_self {preview : Scheduler} (h : preview.templateId = none ∨ preview.files = none)
    (answers : AnswerSet) : preview.recompute answers = preview := by
  unfold recompute
  rcases h with htemplate | hfiles
  · rw [htemplate]
  · rw [hfiles]
    cases preview.templateId <;> rfl

/-- A render changes nothing, or finds a template and its files and comes to one of its ends. -/
theorem recompute_cases (preview : Scheduler) (answers : AnswerSet) :
    preview.recompute answers = preview ∨
      ∃ template files, preview.templateId = some template ∧ preview.files = some files ∧
        preview.RenderEnd template files answers (preview.recompute answers) := by
  cases htemplate : preview.templateId with
  | none => exact Or.inl (recompute_eq_self (Or.inl htemplate) answers)
  | some template =>
    cases hfiles : preview.files with
    | none => exact Or.inl (recompute_eq_self (Or.inr hfiles) answers)
    | some files =>
      exact Or.inr ⟨template, files, rfl, rfl, renderEnd_recompute htemplate hfiles answers⟩

/-- What a preview was told last: the template, its files and the answers. -/
structure Inputs where
  templateId : Option String
  files : Option FileSet
  answers : AnswerSet

/-- What a preview was told last. -/
def inputs (preview : Scheduler) : Inputs := ⟨preview.templateId, preview.files, preview.answers⟩

section RenderEnd

variable {preview after : Scheduler} {template : String} {files : FileSet} {answers : AnswerSet}

/-- However a render ends, what the preview was told is left alone. -/
theorem RenderEnd.inputs_eq (hend : preview.RenderEnd template files answers after) :
    after.inputs = preview.inputs := by
  cases hend <;> rfl

/-- However a render ends, the answers that wait are left alone. -/
theorem RenderEnd.updates_eq (hend : preview.RenderEnd template files answers after) :
    after.updates = preview.updates := by
  cases hend <;> rfl

/-- However a render ends, it is the latest one. -/
theorem RenderEnd.latest_eq (hend : preview.RenderEnd template files answers after) :
    after.latest = some (files, answers) := by
  cases hend <;> rfl

end RenderEnd

section Recompute

variable {preview : Scheduler} (answers : AnswerSet)

/-- A render leaves alone what the preview was told. -/
@[simp]
theorem inputs_recompute : (preview.recompute answers).inputs = preview.inputs := by
  rcases preview.recompute_cases answers with hsame | ⟨template, files, -, -, hend⟩
  · rw [hsame]
  · exact hend.inputs_eq

/-- A render leaves alone the answers that wait. -/
@[simp]
theorem updates_recompute : (preview.recompute answers).updates = preview.updates := by
  rcases preview.recompute_cases answers with hsame | ⟨template, files, -, -, hend⟩
  · rw [hsame]
  · exact hend.updates_eq

/-- A render that finds a template and its files is the latest one. -/
theorem latest_recompute {template : String} {files : FileSet} (htemplate : preview.templateId = some template)
    (hfiles : preview.files = some files) : (preview.recompute answers).latest = some (files, answers) :=
  (renderEnd_recompute htemplate hfiles answers).latest_eq

end Recompute

/-! ## What the operations tell -/

variable (preview : Scheduler)

/-- New answers take the place of the ones that were told before. -/
@[simp]
theorem inputs_answersChanged (now : Nat) (answers : AnswerSet) :
    (preview.answersChanged now answers).inputs = { preview.inputs with answers } := by
  unfold answersChanged
  split <;> rfl

/-- Without files, new answers are not scheduled. -/
theorem answersChanged_of_files_none {preview : Scheduler} (h : preview.files = none) (now : Nat)
    (answers : AnswerSet) : preview.answersChanged now answers = { preview with answers } := by
  unfold answersChanged
  split
  · rfl
  · next hfiles => cases h.symm.trans hfiles

/-- With files, new answers are scheduled in place of those that wait. -/
theorem answersChanged_of_files {preview : Scheduler} {files : FileSet} (h : preview.files = some files)
    (now : Nat) (answers : AnswerSet) :
    preview.answersChanged now answers =
      { preview with answers, updates := ⟨some ⟨now + preview.delay, answers⟩⟩ } := by
  unfold answersChanged
  split
  · next hfiles => cases h.symm.trans hfiles
  · rfl

/-- The files that are there already tell nothing, nor do the answers that come with them. -/
theorem filesChanged_of_eq {preview : Scheduler} {files : FileSet} (h : preview.files = some files)
    (answers : AnswerSet) : preview.filesChanged files answers = (false, preview) := by
  rw [filesChanged, if_pos h]

/-- New files are told together with the answers. -/
theorem inputs_filesChanged_of_ne {preview : Scheduler} {files : FileSet} (h : preview.files ≠ some files)
    (answers : AnswerSet) :
    (preview.filesChanged files answers).2.inputs = ⟨preview.templateId, some files, answers⟩ := by
  rw [filesChanged, if_neg h]
  exact inputs_recompute answers

/-- Time passing tells nothing. -/
@[simp]
theorem inputs_tick (now : Nat) : (preview.tick now).2.inputs = preview.inputs := by
  unfold tick
  split
  · exact inputs_recompute _
  · rfl

/-- Trying again tells nothing. -/
@[simp]
theorem inputs_retry : preview.retry.2.inputs = preview.inputs := by
  unfold retry
  split
  · exact inputs_recompute _
  · rfl

/-! ## Confirmations -/

/-- A preview whose waiting target takes the place of the one on show. -/
def showing (preview : Scheduler) (target : Target) : Scheduler :=
  { preview with
    host := preview.host.releaseAll preview.active
    waiting := none
    active := some target
    stage := .ready
    failure := none }

/-- A confirmation is accepted if it is of the target that waits and its template is open. All others change nothing. -/
theorem targetLoaded_cases (generation : Nat) :
    (∃ target, preview.waiting = some target ∧ target.generation = generation ∧
        preview.templateId = some target.template ∧
        preview.targetLoaded generation = (true, preview.showing target)) ∨
      preview.targetLoaded generation = (false, preview) ∧
        ∀ target, preview.waiting = some target → target.generation = generation →
          preview.templateId ≠ some target.template := by
  unfold targetLoaded
  split
  · next hwaiting =>
    rw [hwaiting]
    exact .inr ⟨rfl, nofun⟩
  · next target hwaiting =>
    split
    · next hcurrent => exact .inl ⟨target, hwaiting, hcurrent.1, hcurrent.2, rfl⟩
    · next hother =>
      refine .inr ⟨rfl, fun other hsame hgeneration htemplate => hother ?_⟩
      obtain rfl : target = other := Option.some.inj (hwaiting.symm.trans hsame)
      exact ⟨hgeneration, htemplate⟩

/-- A confirmation tells nothing, schedules nothing and starts no render. -/
theorem targetLoaded_keeps (generation : Nat) :
    (preview.targetLoaded generation).2.inputs = preview.inputs ∧
      (preview.targetLoaded generation).2.updates = preview.updates ∧
        (preview.targetLoaded generation).2.latest = preview.latest := by
  rcases preview.targetLoaded_cases generation with ⟨target, -, -, -, hloaded⟩ | ⟨hloaded, -⟩ <;>
    rw [hloaded] <;> exact ⟨rfl, rfl, rfl⟩

/-- A confirmation leaves the delay and the number of renders alone. -/
theorem targetLoaded_renders (generation : Nat) :
    (preview.targetLoaded generation).2.delay = preview.delay ∧
      (preview.targetLoaded generation).2.renders = preview.renders := by
  rcases preview.targetLoaded_cases generation with ⟨target, -, -, -, hloaded⟩ | ⟨hloaded, -⟩ <;>
    rw [hloaded] <;> exact ⟨rfl, rfl⟩

end Scheduler

end SiteBuilder.Preview
