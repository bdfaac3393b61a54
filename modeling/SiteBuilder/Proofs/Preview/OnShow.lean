import Mathlib.Data.List.Induction
import SiteBuilder.Proofs.Preview.Stages
import SiteBuilder.Proofs.Preview.Targets

/-!
# The target on show

While a template stays open, its target on show is given back for one reason only: the target of the latest render was
confirmed and takes its place. The new target is live by then and keeps its document, so from the first confirmation on
there is always something to see. Renders that fail or are superseded, tries and late confirmations concern the target
that waits; the one on show and its document stay as they are.
-/

namespace SiteBuilder.Preview

namespace Host

variable {host : Host}

/-- Giving a target back leaves the documents of other handles. -/
theorem document?_release_of_ne {handle : Handle} {target : Target} (h : handle ≠ target.handle) :
    (host.release target).document? handle = host.document? handle := by
  cases handle with
  | unknown text => rfl
  | issued serial =>
    simp only [document?, release]
    induction host.documents with
    | nil => rfl
    | cons entry rest ih =>
      by_cases hentry : Handle.issued entry.1 = target.handle
      · have hserial : serial ≠ entry.1 := fun hsame => h (hsame ▸ hentry)
        rw [List.filter_cons_of_neg (by simpa using hentry), ih, List.lookup_cons, beq_false_of_ne hserial]
      · rw [List.filter_cons_of_pos (by simpa using hentry), List.lookup_cons, List.lookup_cons, ih]

/-- Giving back the target of a place, if there is one, leaves the documents of other handles. -/
theorem document?_releaseAll_of_ne {handle : Handle} {place : Option Target}
    (h : ∀ target, place = some target → handle ≠ target.handle) :
    (host.releaseAll place).document? handle = host.document? handle := by
  cases place with
  | none => rfl
  | some target => exact document?_release_of_ne (h target rfl)

/-- The document of a target that is given back is gone. -/
theorem document?_release_self (host : Host) (target : Target) :
    (host.release target).document? target.handle = none := by
  cases hhandle : target.handle with
  | unknown text => rfl
  | issued serial =>
    refine List.lookup_eq_none_iff.mpr fun entry hentry => ?_
    have hkept := (List.mem_filter.mp hentry).2
    rw [hhandle] at hkept
    have hother : entry.1 ≠ serial := by simpa using hkept
    exact bne_iff_ne.mpr hother.symm

/-- A host that does not refuse documents takes in the next one and hands out a target with a new handle. -/
theorem mount_of_not_refusing (h : host.refusal = none) (template : String) (generation : Nat) (document : String) :
    host.mount template generation document =
      (.ok ⟨.issued host.mounted, template, generation⟩,
        { host with
          documents := (host.mounted, document) :: host.documents
          mounted := host.mounted + 1
          calls := .mount template generation :: host.calls }) := by
  unfold mount
  split
  · next reason hrefusal => cases h.symm.trans hrefusal
  · rfl

/-- Taking in a document leaves the documents of other handles. -/
theorem document?_cons_of_ne {handle : Handle} {document : String} (h : handle ≠ .issued host.mounted) (mounted : Nat)
    (calls : List HostCall) :
    { host with documents := (host.mounted, document) :: host.documents, mounted, calls }.document? handle =
      host.document? handle := by
  cases handle with
  | unknown text => rfl
  | issued serial =>
    have hserial : serial ≠ host.mounted := fun hsame => h (congrArg Handle.issued hsame)
    rw [document?, List.lookup_cons, beq_false_of_ne hserial]
    rfl

end Host

namespace Scheduler

/-- A preview has its host take in a document, and then waits for the target. -/
structure Mounts (preview after : Scheduler) (target : Target) (document : String) : Prop where
  /-- A render has begun. -/
  begun : after.generation = preview.generation + 1
  /-- Its document is of the files and the answers of the render. -/
  composed : ∃ files answers, after.latest = some (files, answers) ∧
    Document.compose files answers after.entryFile = .ok document
  /-- The host, after it was given back what waited, takes in the document and hands out the target. -/
  taken : (preview.host.releaseAll preview.waiting).mount target.template after.generation document =
    (.ok target, after.host)
  /-- The target waits. -/
  waiting : after.waiting = some target

variable {preview after : Scheduler} {action : PreviewAction} {accepted : Option Nat}

/-- The targets that wait and that are on show have different handles. -/
theorem Accounted.handle_ne (h : preview.Accounted) {target shown : Target} (hwaiting : preview.waiting = some target)
    (hactive : preview.active = some shown) : target.handle ≠ shown.handle := by
  have hdistinct := h.shows.distinct
  rw [targets, hwaiting, hactive] at hdistinct
  simpa using hdistinct

/-- However a render ends, the target on show and its document stay. -/
theorem RenderEnd.document?_active {template : String} {files : FileSet} {answers : AnswerSet}
    (hend : preview.RenderEnd template files answers after) (h : preview.Accounted) :
    after.active = preview.active ∧ ∀ shown, preview.active = some shown →
      after.host.document? shown.handle = preview.host.document? shown.handle := by
  have hbegun (shown : Target) (hshown : preview.active = some shown) :
      (preview.host.releaseAll preview.waiting).document? shown.handle = preview.host.document? shown.handle :=
    Host.document?_releaseAll_of_ne fun target hwaiting => (h.handle_ne hwaiting hshown).symm
  cases hend with
  | missing cause hdocument => exact ⟨rfl, hbegun⟩
  | refused document reason hdocument hrefusal => exact ⟨rfl, hbegun⟩
  | mounted document hdocument hrefusal =>
    refine ⟨rfl, fun shown hshown => (Host.document?_cons_of_ne ?_ _ _).trans (hbegun shown hshown)⟩
    exact (h.begun files answers).shows.handle_ne_issued (mem_targets_iff.mpr (.inr hshown))

/-- A target that waits when a render has ended is new, with the document of the render. -/
theorem RenderEnd.mounts {template : String} {files : FileSet} {answers : AnswerSet}
    (hend : preview.RenderEnd template files answers after) {target : Target} (hwaiting : after.waiting = some target) :
    ∃ document, preview.Mounts after target document ∧ after.host.document? target.handle = some document := by
  cases hend with
  | missing cause hdocument => cases hwaiting
  | refused document reason hdocument hrefusal => cases hwaiting
  | mounted document hdocument hrefusal =>
    obtain rfl := Option.some.inj hwaiting
    have hopen : (preview.host.releaseAll preview.waiting).refusal = none := by rw [refusal_releaseAll, hrefusal]
    refine ⟨document, ⟨rfl, ⟨files, answers, rfl, hdocument⟩, ?_, rfl⟩, List.lookup_cons_self⟩
    exact Host.mount_of_not_refusing hopen template _ document

/-- In a turn that does not close the template and accepts no confirmation, the target on show and its document stay. -/
theorem Turn.document?_active (hturn : preview.Turn action none after) (haction : action.Following)
    (h : preview.Accounted) :
    after.active = preview.active ∧ ∀ shown, preview.active = some shown →
      after.host.document? shown.handle = preview.host.document? shown.handle := by
  cases hturn with
  | stayed _ hstanding =>
    exact ⟨congrArg Standing.active hstanding,
      fun shown _ => congrArg (fun standing : Standing => standing.host.document? shown.handle) hstanding⟩
  | closed hcloses => exact absurd haction hcloses
  | rendered _ known told updates htemplate hend => exact hend.document?_active (h.withContents known told updates)

/-- A confirmation that is accepted shows the target that waited, which keeps its document, and gives back the one that
was on show. -/
theorem Accounted.document?_showing (h : preview.Accounted) {target : Target}
    (hwaiting : preview.waiting = some target) :
    (preview.showing target).host.document? target.handle = preview.host.document? target.handle ∧
      ∀ shown, preview.active = some shown → (preview.showing target).host.document? shown.handle = none := by
  refine ⟨Host.document?_releaseAll_of_ne fun shown hshown => h.handle_ne hwaiting hshown, fun shown hshown => ?_⟩
  rw [Scheduler.showing, hshown]
  exact preview.host.document?_release_self shown

/-- What a preview holds after a turn it held before, with the same document, or it mounts it in the turn. -/
theorem Turn.document?_targets (hturn : preview.Turn action accepted after) (h : preview.Accounted) {target : Target}
    (htarget : target ∈ after.targets) :
    target ∈ preview.targets ∧ after.host.document? target.handle = preview.host.document? target.handle ∨
      ∃ document, preview.Mounts after target document ∧ after.host.document? target.handle = some document := by
  rw [mem_targets_iff] at htarget
  rw [mem_targets_iff]
  cases hturn with
  | stayed haction hstanding =>
    have hwaiting : after.waiting = preview.waiting := congrArg Standing.waiting hstanding
    have hactive : after.active = preview.active := congrArg Standing.active hstanding
    rw [hwaiting, hactive] at htarget
    exact .inl ⟨htarget, congrArg (fun standing : Standing => standing.host.document? target.handle) hstanding⟩
  | closed haction templateId hstanding =>
    have hwaiting : after.waiting = none := congrArg Standing.waiting hstanding
    have hactive : after.active = none := congrArg Standing.active hstanding
    rw [hwaiting, hactive] at htarget
    rcases htarget with hnone | hnone <;> cases hnone
  | rendered haction known told updates htemplate hend =>
    rcases htarget with hwaits | hshown
    · obtain ⟨document, hmounts, hdocument⟩ := hend.mounts hwaits
      exact .inr ⟨document, ⟨hmounts.begun, hmounts.composed, hmounts.taken, hmounts.waiting⟩, hdocument⟩
    · obtain ⟨hactive, hdocument⟩ := hend.document?_active (h.withContents known told updates)
      rw [hactive] at hshown
      exact .inl ⟨.inr hshown, hdocument target hshown⟩
  | confirmed hwaiting htemplate haction =>
    rcases htarget with hnone | hshown
    · cases hnone
    · obtain rfl := Option.some.inj hshown
      exact .inl ⟨.inl hwaiting, (h.document?_showing hwaiting).1⟩

/-- While the template stays open, a target stays on show or gives way to a newer one. -/
theorem Turn.active (hturn : preview.Turn action accepted after) (haction : action.Following) (h : preview.Accounted)
    (hsound : preview.standing.Sound) {first : Target} (hfirst : preview.active = some first) :
    ∃ shown, after.active = some shown ∧ first.generation ≤ shown.generation := by
  cases accepted with
  | none => exact ⟨first, (hturn.document?_active haction h).1.trans hfirst, Nat.le_refl _⟩
  | some generation =>
    obtain ⟨target, hwaiting, -, rfl⟩ := hturn.of_accepted
    exact ⟨target, rfl, Nat.le_of_lt (hsound.newer target first hwaiting hfirst)⟩

end Scheduler

namespace TimedPreview

/-- In a run, the host takes in a document for a target. -/
def MountedWith (start : TimedPreview) (actions : List PreviewAction) (target : Target) (document : String) : Prop :=
  ∃ earlier action later, actions = earlier ++ action :: later ∧
    (start.run earlier).preview.Mounts ((start.run earlier).step action).preview target document

variable {state : TimedPreview} {actions : List PreviewAction}

/-- Later actions do not change what was mounted with what. -/
theorem MountedWith.append {target : Target} {document : String} (h : state.MountedWith actions target document)
    (since : List PreviewAction) : state.MountedWith (actions ++ since) target document := by
  obtain ⟨earlier, action, later, rfl, hmounts⟩ := h
  exact ⟨earlier, action, later ++ since, by simp, hmounts⟩

/-- All targets that a preview holds are live, with the documents they were mounted with. -/
theorem mountedWith_of_mem_targets (h : state.preview.Accounted) (hnothing : state.preview.targets = [])
    (actions : List PreviewAction) {target : Target} (htarget : target ∈ (state.run actions).preview.targets) :
    ∃ document, state.MountedWith actions target document ∧
      (state.run actions).preview.host.document? target.handle = some document := by
  induction actions using List.reverseRecOn generalizing target with
  | nil =>
    rw [run, List.foldl_nil, hnothing] at htarget
    cases htarget
  | append_singleton earlier action ih =>
    have haccounted : (state.run earlier).preview.Accounted := run_induction accounted_step h earlier
    have hlast : state.run (earlier ++ [action]) = (state.run earlier).step action := run_append state earlier [action]
    rw [hlast] at htarget ⊢
    rcases ((state.run earlier).turn_step action).document?_targets haccounted htarget with
      ⟨hheld, hkept⟩ | ⟨document, hmounts, hdocument⟩
    · obtain ⟨document, hmounted, hdocument⟩ := ih hheld
      exact ⟨document, hmounted.append [action], hkept.trans hdocument⟩
    · exact ⟨document, ⟨earlier, action, [], rfl, hmounts⟩, hdocument⟩

/-- While the template stays open, there is a target on show once there is one, and it only gives way to newer ones. -/
theorem active_run (hactions : ∀ action ∈ actions, action.Following) (h : state.preview.Accounted)
    (hsound : state.preview.standing.Sound) {first : Target} (hfirst : state.preview.active = some first) :
    ∃ shown, (state.run actions).preview.active = some shown ∧ first.generation ≤ shown.generation := by
  induction actions generalizing state first with
  | nil => exact ⟨first, hfirst, Nat.le_refl _⟩
  | cons action rest ih =>
    obtain ⟨next, hnext, hle⟩ := (state.turn_step action).active (hactions action List.mem_cons_self) h hsound hfirst
    obtain ⟨shown, hshown, hlater⟩ := ih (fun later hlater => hactions later (List.mem_cons_of_mem _ hlater))
      (accounted_step state action h) (sound_step state action hsound) hnext
    exact ⟨shown, hshown, Nat.le_trans hle hlater⟩

/-- Once a confirmation was accepted, there is a target on show while the template stays open. -/
theorem active_of_accepted (hactions : ∀ action ∈ actions, action.Following) (h : state.preview.Accounted)
    (hsound : state.preview.standing.Sound) (haccepted : state.accepted actions ≠ []) :
    ∃ shown, (state.run actions).preview.active = some shown := by
  induction actions generalizing state with
  | nil => exact absurd rfl haccepted
  | cons action rest ih =>
    have hrest : ∀ later ∈ rest, later.Following := fun later hlater => hactions later (List.mem_cons_of_mem _ hlater)
    have hturn := state.turn_step action
    rw [accepted] at haccepted
    cases hnow : state.preview.accepted? action with
    | none =>
      rw [hnow] at haccepted
      exact ih hrest (accounted_step state action h) (sound_step state action hsound) haccepted
    | some generation =>
      rw [hnow] at hturn
      obtain ⟨target, -, -, hafter⟩ := hturn.of_accepted
      have hshown : (state.step action).preview.active = some target := congrArg Scheduler.active hafter
      obtain ⟨shown, hend, -⟩ :=
        active_run hrest (accounted_step state action h) (sound_step state action hsound) hshown
      exact ⟨shown, hend⟩

/-- After any run of a new preview, let the template stay open from some point on. From then on, once a confirmation was
accepted, there is a target on show, and none gives way but to a newer one. The target on show is live, with the
document that it was mounted with. An action that accepts no confirmation leaves it and its document as they are. One
that does shows the target of the latest render, with its document, and then gives the previous one back. -/
theorem target_on_show_of_run (clock : Clock) (settings : PreviewSettings) (before since : List PreviewAction)
    (hsince : ∀ action ∈ since, action.Following) :
    let start : TimedPreview := ⟨clock, .start .empty settings⟩
    let opened := start.run before
    let state := opened.run since
    (opened.accepted since ≠ [] → ∃ shown, state.preview.active = some shown) ∧
      (∀ first, opened.preview.active = some first →
        ∃ shown, state.preview.active = some shown ∧ first.generation ≤ shown.generation) ∧
      (∀ shown, state.preview.active = some shown →
        ∃ document, start.MountedWith (before ++ since) shown document ∧
          state.preview.host.document? shown.handle = some document) ∧
      ∀ action, action.Following →
        let after := (state.step action).preview
        (state.preview.accepted? action = none →
          after.active = state.preview.active ∧
            ∀ shown, state.preview.active = some shown →
              after.host.document? shown.handle = state.preview.host.document? shown.handle) ∧
        ∀ generation, state.preview.accepted? action = some generation →
          ∃ target, state.preview.waiting = some target ∧
            target.generation = generation ∧ generation = state.preview.generation ∧
            after.active = some target ∧
            after.host = state.preview.host.releaseAll state.preview.active ∧
            after.host.document? target.handle = state.preview.host.document? target.handle ∧
            ∀ shown, state.preview.active = some shown → after.host.document? shown.handle = none := by
  intro start opened state
  have haccounted (actions : List PreviewAction) : (start.run actions).preview.Accounted :=
    run_induction accounted_step (Scheduler.accounted_start settings) actions
  have hsound (actions : List PreviewAction) : (start.run actions).preview.standing.Sound :=
    sound_run clock .empty settings actions
  have hstate : state = start.run (before ++ since) := (run_append start before since).symm
  refine ⟨active_of_accepted hsince (haccounted before) (hsound before),
    fun first hfirst => active_run hsince (haccounted before) (hsound before) hfirst, fun shown hshown => ?_,
    fun action haction => ⟨fun hnone => ?_, fun generation hgeneration => ?_⟩⟩
  · rw [hstate] at hshown ⊢
    exact mountedWith_of_mem_targets (haccounted []) rfl (before ++ since) (Scheduler.mem_targets_iff.mpr (.inr hshown))
  · have hturn := state.turn_step action
    rw [hnone] at hturn
    exact hturn.document?_active haction (hstate ▸ haccounted (before ++ since))
  · have hturn := state.turn_step action
    rw [hgeneration] at hturn
    obtain ⟨target, hwaiting, hnumber, hafter⟩ := hturn.of_accepted
    have hheld : state.preview.Accounted := hstate ▸ haccounted (before ++ since)
    have hlatest : state.preview.standing.Sound := hstate ▸ hsound (before ++ since)
    obtain ⟨hkept, hgone⟩ := hheld.document?_showing hwaiting
    refine ⟨target, hwaiting, hnumber, hnumber.symm.trans (hlatest.latest target hwaiting), ?_⟩
    rw [hafter]
    exact ⟨rfl, rfl, hkept, hgone⟩

/-- A page that was confirmed stays on show while its successors have no entry file or are refused, and while it is
confirmed once more. -/
theorem target_on_show_after_failures :
    let start : TimedPreview := ⟨.start, .start .empty {}⟩
    let before : List PreviewAction := [.open_ "t", .filesChanged (.singleton "index.html" "Hello!") ∅]
    let since : List PreviewAction :=
      [.targetLoaded 1, .filesChanged (.singleton "about.html" "Bye!") ∅, .retry, .changeRefusal (some "full"),
        .filesChanged (.singleton "index.html" "Hello again!") ∅, .targetLoaded 4, .targetLoaded 1]
    let state := (start.run before).run since
    let page : Target := ⟨.issued 0, "t", 1⟩
    (∀ action ∈ since, action.Following) ∧
      state.preview.stage = .failed ∧ state.preview.generation = 4 ∧
      state.preview.active = some page ∧
      start.MountedWith (before ++ since) page "Hello!" ∧
      state.preview.host.document? page.handle = some "Hello!" := by
  intro start before since state page
  have hsince : ∀ action ∈ since, action.Following := by simp [since, PreviewAction.Following]
  obtain ⟨-, -, hlive, -⟩ := target_on_show_of_run .start {} before since hsince
  obtain ⟨document, hmounted, hdocument⟩ := hlive page (by decide +kernel)
  obtain rfl : document = "Hello!" := Option.some.inj (hdocument.symm.trans (by decide +kernel))
  exact ⟨hsince, by decide +kernel, by decide +kernel, by decide +kernel, hmounted, by decide +kernel⟩

end TimedPreview

end SiteBuilder.Preview
