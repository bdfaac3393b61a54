import SiteBuilder.Proofs.Preview.Targets

/-!
# A preview seen from a time on

What a preview has done since some time is seen by counting from there: its generations, its renders, the handles of
its targets and the calls to its host. A preview that has no target from before goes on in the same way whether it is
seen from the beginning or from that time.
-/

namespace SiteBuilder.Preview

/-! ## Settings -/

namespace Scheduler

/-- The settings a preview goes by. -/
def settings (preview : Scheduler) : PreviewSettings := ⟨preview.delay, preview.entryFile⟩

/-- However a render ends, the settings are left alone. -/
theorem RenderEnd.settings_eq {preview after : Scheduler} {template : String} {files : FileSet} {answers : AnswerSet}
    (hend : preview.RenderEnd template files answers after) : after.settings = preview.settings := by
  cases hend <;> rfl

/-- A render keeps the settings. -/
theorem settings_recompute (preview : Scheduler) (answers : AnswerSet) :
    (preview.recompute answers).settings = preview.settings := by
  rcases preview.recompute_cases answers with hsame | ⟨template, files, -, -, hend⟩
  · rw [hsame]
  · exact hend.settings_eq

end Scheduler

/-- No action changes the settings a preview goes by. -/
theorem TimedPreview.settings_step (state : TimedPreview) (action : PreviewAction) :
    (state.step action).preview.settings = state.preview.settings := by
  cases action with
  | filesChanged files answers =>
    simp only [step, Scheduler.filesChanged]
    split
    · rfl
    · exact Scheduler.settings_recompute _ answers
  | answersChanged answers =>
    simp only [step, Scheduler.answersChanged]
    split <;> rfl
  | tick =>
    simp only [step, Scheduler.tick]
    split
    · exact Scheduler.settings_recompute _ _
    · rfl
  | retry =>
    simp only [step, Scheduler.retry]
    split
    · exact Scheduler.settings_recompute _ _
    · rfl
  | targetLoaded generation =>
    simp only [step, Scheduler.targetLoaded]
    split
    · rfl
    · split <;> rfl
  | _ => rfl

/-! ## What is seen -/

/-- A handle, numbered from some mount on. -/
def Handle.since (mounted : Nat) : Handle → Handle
  | .issued serial => .issued (serial - mounted)
  | .unknown text => .unknown text

/-- A call, with its generation counted from some generation on. -/
def HostCall.since (first : Nat) : HostCall → HostCall
  | .mount template generation => .mount template (generation - first)
  | .refuse template generation => .refuse template (generation - first)
  | .release template generation => .release template (generation - first)

/-- A target, seen since the time of a preview. -/
def Target.since (target : Target) (start : Scheduler) : Target where
  handle := target.handle.since start.host.mounted
  template := target.template
  generation := target.generation - start.generation

/-- A host, seen since the time of a preview: the calls before it are left out. -/
def Host.since (host : Host) (start : Scheduler) : Host where
  documents := host.documents.map fun entry => (entry.1 - start.host.mounted, entry.2)
  mounted := host.mounted - start.host.mounted
  released := host.released - start.host.released
  refusal := host.refusal
  calls := (host.calls.take (host.calls.length - start.host.calls.length)).map (HostCall.since start.generation)

/-- A preview, seen since the time of another. -/
def Scheduler.since (preview start : Scheduler) : Scheduler where
  host := preview.host.since start
  templateId := preview.templateId
  files := preview.files
  answers := preview.answers
  updates := preview.updates
  delay := preview.delay
  entryFile := preview.entryFile
  active := preview.active.map (·.since start)
  waiting := preview.waiting.map (·.since start)
  generation := preview.generation - start.generation
  renders := preview.renders - start.renders
  latest := preview.latest
  stage := preview.stage
  failure := preview.failure

/-- An action, with the generation that it confirms counted since the time of a preview. -/
def PreviewAction.since (start : Scheduler) : PreviewAction → PreviewAction
  | .targetLoaded generation => .targetLoaded (generation - start.generation)
  | action => action

/-- An action, with the generation that it confirms counted from another preview instead. -/
def PreviewAction.renumbered (start start' : Scheduler) : PreviewAction → PreviewAction
  | .targetLoaded generation => .targetLoaded (start'.generation + (generation - start.generation))
  | action => action

/-- A renumbered action looks the same. -/
theorem PreviewAction.since_renumbered (start start' : Scheduler) (action : PreviewAction) :
    (action.renumbered start start').since start' = action.since start := by
  cases action with
  | targetLoaded generation => simp only [renumbered, since, Nat.add_sub_cancel_left]
  | _ => rfl

/-! ## What is left from before -/

variable {start : Scheduler}

/-- A target that was made since the time of a preview. -/
structure Target.Newer (target : Target) (start : Scheduler) : Prop where
  handle : ∃ serial, target.handle = .issued serial ∧ start.host.mounted ≤ serial
  generation : start.generation < target.generation

/-- A host that shows only documents since the time of a preview. -/
structure Host.Continues (host : Host) (start : Scheduler) : Prop where
  documents : ∀ entry ∈ host.documents, start.host.mounted ≤ entry.1
  mounted : start.host.mounted ≤ host.mounted
  released : start.host.released ≤ host.released
  calls : start.host.calls.length ≤ host.calls.length

/-- A preview that has no targets from before the time of another. -/
structure Scheduler.Continues (preview start : Scheduler) : Prop where
  host : preview.host.Continues start
  targets : ∀ target ∈ preview.targets, target.Newer start
  generation : start.generation ≤ preview.generation
  renders : start.renders ≤ preview.renders

/-! ## Hosts -/

namespace Host

variable {host : Host} {target : Target}

/-- What is seen of the calls when there is one more. -/
theorem calls_since_cons (h : host.Continues start) (call : HostCall) :
    ((call :: host.calls).take ((call :: host.calls).length - start.host.calls.length)).map
        (HostCall.since start.generation) =
      call.since start.generation :: (host.since start).calls := by
  rw [List.length_cons, Nat.succ_sub h.calls, List.take_succ_cons, List.map_cons]
  rfl

/-- Giving a new target back is seen as such. -/
theorem since_release (h : host.Continues start) (htarget : target.Newer start) :
    (host.release target).since start = (host.since start).release (target.since start) := by
  obtain ⟨serial, hserial, hnewer⟩ := htarget.handle
  have hkept (entry : Nat × String) (hentry : entry ∈ host.documents) :
      (Handle.issued entry.1 != target.handle) =
        (Handle.issued (entry.1 - start.host.mounted) != (target.since start).handle) := by
    have hfrom := h.documents entry hentry
    -- Numbers from some mount on are told apart by what they are beyond it.
    simp only [Target.since, hserial, Handle.since, bne, Bool.not_inj_iff, beq_eq_beq, Handle.issued.injEq]
    omega
  simp only [Host.since, Host.release, Host.mk.injEq]
  refine ⟨?_, trivial, Nat.succ_sub h.released, trivial, calls_since_cons h _⟩
  rw [List.filter_map, List.filter_congr hkept]
  rfl

/-- A host that takes a target back goes on showing new documents only. -/
theorem Continues.release (h : host.Continues start) (target : Target) : (host.release target).Continues start where
  documents entry hentry := h.documents entry (List.mem_of_mem_filter hentry)
  mounted := h.mounted
  released := Nat.le_succ_of_le h.released
  calls := Nat.le_succ_of_le h.calls

/-- Giving back what there is to give back is seen as such. -/
theorem since_releaseAll (h : host.Continues start) {place : Option Target}
    (hplace : ∀ target ∈ place, target.Newer start) :
    (host.releaseAll place).since start = (host.since start).releaseAll (place.map (·.since start)) := by
  cases place with
  | none => rfl
  | some target => exact since_release h (hplace target rfl)

/-- A host that takes targets back goes on showing new documents only. -/
theorem Continues.releaseAll (h : host.Continues start) (place : Option Target) :
    (host.releaseAll place).Continues start := by
  cases place with
  | none => exact h
  | some target => exact h.release target

end Host

/-! ## Renders -/

namespace Scheduler

variable {preview after : Scheduler} {template : String} {files : FileSet} {answers : AnswerSet}

/-- The target that waits is a new one. -/
theorem Continues.waiting (h : preview.Continues start) : ∀ target ∈ preview.waiting, target.Newer start :=
  fun target htarget => h.targets target (List.mem_append_left _ (Option.mem_toList.mpr htarget))

/-- The target on show is a new one. -/
theorem Continues.active (h : preview.Continues start) : ∀ target ∈ preview.active, target.Newer start :=
  fun target htarget => h.targets target (List.mem_append_right _ (Option.mem_toList.mpr htarget))

/-- A render that begins is seen as such. -/
theorem since_begun (h : preview.Continues start) (files : FileSet) (answers : AnswerSet) :
    (preview.begun files answers).since start = (preview.since start).begun files answers := by
  simp only [begun, Scheduler.since, Host.since_releaseAll h.host h.waiting, Nat.succ_sub h.generation,
    Nat.succ_sub h.renders, Option.map_none]

/-- A render that begins leaves new targets only. -/
theorem Continues.begun (h : preview.Continues start) (files : FileSet) (answers : AnswerSet) :
    (preview.begun files answers).Continues start where
  host := h.host.releaseAll preview.waiting
  targets target htarget := h.targets target (List.mem_append_right _ htarget)
  generation := Nat.le_succ_of_le h.generation
  renders := Nat.le_succ_of_le h.renders

/-- A refusal is seen as such. -/
theorem since_refused (h : preview.Continues start) (template reason : String) :
    (preview.refused template reason).since start = (preview.since start).refused template reason := by
  simp only [refused, fail, Scheduler.since, Host.since, Host.calls_since_cons h.host]
  rfl

/-- A refusal leaves new targets only. -/
theorem Continues.refused (h : preview.Continues start) (template reason : String) :
    (preview.refused template reason).Continues start where
  host := ⟨h.host.documents, h.host.mounted, h.host.released, Nat.le_succ_of_le h.host.calls⟩
  targets := h.targets
  generation := h.generation
  renders := h.renders

/-- A new target is seen as such. -/
theorem since_mounted (h : preview.Continues start) (template document : String) :
    (preview.mounted template document).since start = (preview.since start).mounted template document := by
  simp only [mounted, Scheduler.since, Host.since, Host.calls_since_cons h.host, Nat.succ_sub h.host.mounted]
  rfl

/-- A target of a later generation is a new one. -/
theorem Continues.mounted (h : preview.Continues start) (hlater : start.generation < preview.generation)
    (template document : String) : (preview.mounted template document).Continues start where
  host := by
    refine ⟨?_, Nat.le_succ_of_le h.host.mounted, h.host.released, Nat.le_succ_of_le h.host.calls⟩
    intro entry hentry
    rcases List.mem_cons.mp hentry with rfl | hentry
    · exact h.host.mounted
    · exact h.host.documents entry hentry
  targets := by
    intro target htarget
    rcases List.mem_cons.mp htarget with rfl | htarget
    · exact ⟨⟨preview.host.mounted, rfl, h.host.mounted⟩, hlater⟩
    · exact h.active target (Option.mem_toList.mp htarget)
  generation := h.generation
  renders := h.renders

/-- However a render ends, it is seen to end so. -/
theorem RenderEnd.since (h : preview.Continues start) (hend : preview.RenderEnd template files answers after) :
    (preview.since start).RenderEnd template files answers (after.since start) := by
  have hbegun := h.begun files answers
  cases hend with
  | missing cause hdocument =>
    have hfailed : ((preview.begun files answers).fail (.document cause)).since start =
        ((preview.since start).begun files answers).fail (.document cause) := by
      rw [← since_begun h]
      rfl
    rw [hfailed]
    exact .missing cause hdocument
  | refused document reason hdocument hrefusal =>
    rw [since_refused hbegun, since_begun h]
    exact .refused document reason hdocument hrefusal
  | mounted document hdocument hrefusal =>
    rw [since_mounted hbegun, since_begun h]
    exact .mounted document hdocument hrefusal

/-- However a render ends, it leaves new targets only. -/
theorem RenderEnd.continues (h : preview.Continues start) (hend : preview.RenderEnd template files answers after) :
    after.Continues start := by
  have hbegun := h.begun files answers
  cases hend with
  | missing cause hdocument => exact ⟨hbegun.host, hbegun.targets, hbegun.generation, hbegun.renders⟩
  | refused document reason hdocument hrefusal => exact hbegun.refused template reason
  | mounted document hdocument hrefusal =>
    exact hbegun.mounted (Nat.lt_succ_of_le h.generation) template document

/-- A render comes to one end only. -/
theorem RenderEnd.unique {after' : Scheduler} (hend : preview.RenderEnd template files answers after)
    (hend' : preview.RenderEnd template files answers after') : after = after' := by
  cases hend with
  | missing cause hdocument =>
    cases hend' with
    | missing cause' hdocument' =>
      cases hdocument.symm.trans hdocument'
      rfl
    | refused document' reason' hdocument' _ => cases hdocument.symm.trans hdocument'
    | mounted document' hdocument' _ => cases hdocument.symm.trans hdocument'
  | refused document reason hdocument hrefusal =>
    cases hend' with
    | missing cause' hdocument' => cases hdocument.symm.trans hdocument'
    | refused document' reason' hdocument' hrefusal' =>
      cases hrefusal.symm.trans hrefusal'
      rfl
    | mounted document' _ hrefusal' => cases hrefusal.symm.trans hrefusal'
  | mounted document hdocument hrefusal =>
    cases hend' with
    | missing cause' hdocument' => cases hdocument.symm.trans hdocument'
    | refused document' reason' _ hrefusal' => cases hrefusal.symm.trans hrefusal'
    | mounted document' hdocument' _ =>
      cases hdocument.symm.trans hdocument'
      rfl

/-- A render is seen as such, and it leaves new targets only. -/
theorem since_recompute (h : preview.Continues start) (answers : AnswerSet) :
    (preview.recompute answers).since start = (preview.since start).recompute answers ∧
      (preview.recompute answers).Continues start := by
  by_cases hopen : preview.templateId = none ∨ preview.files = none
  · have hopen' : (preview.since start).templateId = none ∨ (preview.since start).files = none := hopen
    rw [recompute_eq_self hopen, recompute_eq_self hopen']
    exact ⟨rfl, h⟩
  obtain ⟨htemplate, hfiles⟩ := not_or.mp hopen
  obtain ⟨template, htemplate⟩ := Option.ne_none_iff_exists'.mp htemplate
  obtain ⟨files, hfiles⟩ := Option.ne_none_iff_exists'.mp hfiles
  have hend := renderEnd_recompute htemplate hfiles answers
  have htemplate' : (preview.since start).templateId = some template := htemplate
  have hend' := renderEnd_recompute htemplate' hfiles answers
  exact ⟨(hend.since h).unique hend', hend.continues h⟩

/-- Files, answers and their timer are no part of what is from before. -/
theorem Continues.withContents (h : preview.Continues start) (files : Option FileSet) (answers : AnswerSet)
    (updates : Timer AnswerSet) : { preview with files, answers, updates }.Continues start :=
  ⟨h.host, h.targets, h.generation, h.renders⟩

/-- Closing is seen as such. -/
theorem since_close (h : preview.Continues start) : preview.close.since start = (preview.since start).close := by
  have hwaiting := Host.since_releaseAll h.host h.waiting
  have hactive := Host.since_releaseAll (h.host.releaseAll preview.waiting) h.active
  simp only [close, Scheduler.since, hactive, hwaiting, Option.map_none]

/-- Closing leaves new targets only. -/
theorem Continues.close (h : preview.Continues start) : preview.close.Continues start where
  host := (h.host.releaseAll preview.waiting).releaseAll preview.active
  targets := nofun
  generation := h.generation
  renders := h.renders

/-! ## Actions -/

/-- An operation is seen since some time as the one that is done to what is seen, and it leaves new targets only. -/
structure SeenAs (start : Scheduler) (result seen : Bool × Scheduler) : Prop where
  answer : result.1 = seen.1
  since : result.2.since start = seen.2
  continues : result.2.Continues start

/-- New files are seen as such. -/
theorem seenAs_filesChanged (h : preview.Continues start) (files : FileSet) (answers : AnswerSet) :
    SeenAs start (preview.filesChanged files answers) ((preview.since start).filesChanged files answers) := by
  have hfiles : (preview.since start).files = preview.files := rfl
  unfold filesChanged
  rw [hfiles]
  split
  · exact ⟨rfl, rfl, h⟩
  · obtain ⟨hsince, hcontinues⟩ := since_recompute (h.withContents (some files) answers .idle) answers
    exact ⟨rfl, hsince, hcontinues⟩

/-- New answers are seen as such. -/
theorem since_answersChanged (h : preview.Continues start) (now : Nat) (answers : AnswerSet) :
    (preview.answersChanged now answers).since start = (preview.since start).answersChanged now answers ∧
      (preview.answersChanged now answers).Continues start := by
  unfold answersChanged
  dsimp only [Scheduler.since]
  cases preview.files with
  | none => exact ⟨rfl, h.withContents none answers preview.updates⟩
  | some files => exact ⟨rfl, h.withContents (some files) answers _⟩

/-- Time passing is seen as such. -/
theorem seenAs_tick (h : preview.Continues start) (now : Nat) :
    SeenAs start (preview.tick now) ((preview.since start).tick now) := by
  have hupdates : (preview.since start).updates = preview.updates := rfl
  unfold tick
  rw [hupdates]
  rcases preview.updates.poll now with ⟨_ | answers, updates⟩
  · exact ⟨rfl, rfl, h.withContents preview.files preview.answers updates⟩
  · obtain ⟨hsince, hcontinues⟩ :=
      since_recompute (h.withContents preview.files preview.answers updates) answers
    exact ⟨rfl, hsince, hcontinues⟩

/-- Another try is seen as such. -/
theorem seenAs_retry (h : preview.Continues start) :
    SeenAs start preview.retry (preview.since start).retry := by
  have hstage : (preview.since start).stage = preview.stage := rfl
  unfold retry
  rw [hstage]
  split
  · obtain ⟨hsince, hcontinues⟩ :=
      since_recompute (h.withContents preview.files preview.answers .idle) preview.answers
    exact ⟨rfl, hsince, hcontinues⟩
  · exact ⟨rfl, rfl, h⟩

/-- A confirmation is seen as that of the generation counted from the same time: one from before is passed over
either way. -/
theorem seenAs_targetLoaded (h : preview.Continues start) (generation : Nat) :
    SeenAs start (preview.targetLoaded generation)
      ((preview.since start).targetLoaded (generation - start.generation)) := by
  have hwaiting : (preview.since start).waiting = preview.waiting.map (·.since start) := rfl
  unfold targetLoaded
  rw [hwaiting]
  cases hwaits : preview.waiting with
  | none => exact ⟨rfl, rfl, h⟩
  | some target =>
    have hnewer := h.waiting target hwaits
    have hlater := hnewer.generation
    have hcurrent : (target.generation = generation ∧ preview.templateId = some target.template) ↔
        (target.since start).generation = generation - start.generation ∧
          (preview.since start).templateId = some (target.since start).template := by
      simp only [Target.since, Scheduler.since, and_congr_left_iff]
      intro _
      -- A generation from before counts as zero, and that of the target is greater.
      omega
    dsimp only [Option.map_some]
    by_cases hloaded : target.generation = generation ∧ preview.templateId = some target.template
    · rw [if_pos hloaded, if_pos (hcurrent.mp hloaded)]
      refine ⟨rfl, ?_, h.host.releaseAll preview.active, ?_, h.generation, h.renders⟩
      · simp only [Scheduler.since, Host.since_releaseAll h.host h.active, Option.map_none, Option.map_some]
      · intro shown hshown
        obtain rfl : shown = target := by simpa [targets] using hshown
        exact hnewer
    · rw [if_neg hloaded, if_neg (mt hcurrent.mpr hloaded)]
      exact ⟨rfl, rfl, h⟩

end Scheduler

namespace TimedPreview

/-- What an action tells. -/
def reply (state : TimedPreview) : PreviewAction → Option Bool
  | .filesChanged files answers => some (state.preview.filesChanged files answers).1
  | .tick => some (state.preview.tick state.clock.now).1
  | .retry => some state.preview.retry.1
  | .targetLoaded generation => some (state.preview.targetLoaded generation).1
  | _ => none

/-- Every action is seen since some time as the action with its generation counted from there, and it leaves new
targets only. -/
theorem since_step {start preview : Scheduler} (h : preview.Continues start) (clock : Clock) (action : PreviewAction) :
    reply ⟨clock, preview⟩ action = reply ⟨clock, preview.since start⟩ (action.since start) ∧
      (step ⟨clock, preview⟩ action).preview.since start =
        (step ⟨clock, preview.since start⟩ (action.since start)).preview ∧
      (step ⟨clock, preview⟩ action).preview.Continues start := by
  cases action with
  | open_ template =>
    refine ⟨rfl, ?_, h.close.host, nofun, h.generation, h.renders⟩
    exact congrArg (fun closed : Scheduler => { closed with templateId := some template }) (Scheduler.since_close h)
  | close => exact ⟨rfl, Scheduler.since_close h, h.close⟩
  | filesChanged files answers =>
    obtain ⟨hanswer, hsince, hcontinues⟩ := Scheduler.seenAs_filesChanged h files answers
    exact ⟨congrArg some hanswer, hsince, hcontinues⟩
  | answersChanged answers => exact ⟨rfl, Scheduler.since_answersChanged h clock.now answers⟩
  | tick =>
    obtain ⟨hanswer, hsince, hcontinues⟩ := Scheduler.seenAs_tick h clock.now
    exact ⟨congrArg some hanswer, hsince, hcontinues⟩
  | retry =>
    obtain ⟨hanswer, hsince, hcontinues⟩ := Scheduler.seenAs_retry h
    exact ⟨congrArg some hanswer, hsince, hcontinues⟩
  | targetLoaded generation =>
    obtain ⟨hanswer, hsince, hcontinues⟩ := Scheduler.seenAs_targetLoaded h generation
    exact ⟨congrArg some hanswer, hsince, hcontinues⟩
  | advanceClock span => exact ⟨rfl, rfl, h⟩
  | changeRefusal refusal =>
    exact ⟨rfl, rfl, ⟨h.host.documents, h.host.mounted, h.host.released, h.host.calls⟩, h.targets, h.generation,
      h.renders⟩

end TimedPreview

/-! ## Opening a template -/

namespace Scheduler

variable {preview : Scheduler}

/-- A preview that has opened a template has no targets from before. -/
theorem Accounted.continues_open (h : preview.Accounted) (template : String) :
    (preview.open_ template).Continues (preview.open_ template) where
  host := by
    have hdocuments : (preview.open_ template).host.documents = [] := List.map_eq_nil_iff.mp h.shows_close.documents
    refine ⟨fun entry hentry => ?_, Nat.le_refl _, Nat.le_refl _, Nat.le_refl _⟩
    rw [hdocuments] at hentry
    cases hentry
  targets := nofun
  generation := Nat.le_refl _
  renders := Nat.le_refl _

/-- A preview that has opened a template looks from then on like a new one that has. -/
theorem Accounted.since_open (h : preview.Accounted) (template : String) :
    (preview.open_ template).since (preview.open_ template) =
      (Scheduler.start { Host.empty with refusal := (preview.open_ template).host.refusal }
        preview.settings).open_ template := by
  have hdocuments : (preview.open_ template).host.documents = [] := List.map_eq_nil_iff.mp h.shows_close.documents
  simp only [Scheduler.since, Host.since, hdocuments, Nat.sub_self, List.take_zero, List.map_nil]
  rfl

end Scheduler

/-! ## Previews that cannot be told apart -/

/-- Two previews are alike if they look the same since times of their own and have no targets from before. -/
structure Scheduler.Alike (start start' a b : Scheduler) : Prop where
  same : a.since start = b.since start'
  continues : a.Continues start
  continues' : b.Continues start'

/-- In alike previews the same answers wait. -/
theorem Scheduler.Alike.updates_eq {start start' a b : Scheduler} (h : Scheduler.Alike start start' a b) :
    a.updates = b.updates := by
  have hsame : (a.since start).updates = (b.since start').updates := by rw [h.same]
  exact hsame

/-- Alike previews answer every action alike and stay alike, if it confirms the generation of its number since these
times. -/
theorem TimedPreview.alike_step {start start' a b : Scheduler} (h : Scheduler.Alike start start' a b) (clock : Clock)
    (action : PreviewAction) :
    reply ⟨clock, a⟩ action = reply ⟨clock, b⟩ (action.renumbered start start') ∧
      (step ⟨clock, a⟩ action).clock = (step ⟨clock, b⟩ (action.renumbered start start')).clock ∧
      Scheduler.Alike start start' (step ⟨clock, a⟩ action).preview
        (step ⟨clock, b⟩ (action.renumbered start start')).preview := by
  obtain ⟨hreply, hsince, hcontinues⟩ := since_step h.continues clock action
  obtain ⟨hreply', hsince', hcontinues'⟩ := since_step h.continues' clock (action.renumbered start start')
  rw [PreviewAction.since_renumbered] at hreply' hsince'
  rw [h.same] at hreply hsince
  refine ⟨hreply.trans hreply'.symm, ?_, hsince.trans hsince'.symm, hcontinues, hcontinues'⟩
  cases action <;> rfl

end SiteBuilder.Preview
