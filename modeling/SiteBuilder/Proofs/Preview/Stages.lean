import Mathlib.Order.Basic
import SiteBuilder.Proofs.Preview.History
import SiteBuilder.Proofs.Preview.Render

/-!
# The stages of a preview

The stage of a preview, its two targets, its failure and the number of the latest render are set one by one. Whatever
happens to a preview does one of four things to them: it leaves them alone, it gives both targets back, it renders, or
it accepts the confirmation of the target that waits. All four leave them sound: the stage says which targets and which
failure there are.

Confirmations come with the number of a render. They may be late, doubled or made up, or meant for a template that was
closed since. What is accepted is never spent: no later render has begun, and no earlier confirmation or closing took
the target away.
-/

namespace SiteBuilder.Preview

/-- What becomes of a preview apart from what it was told: the host without regard to what it refuses, the targets, the
latest render and the stage. -/
structure Standing where
  host : Host
  templateId : Option String
  active : Option Target
  waiting : Option Target
  generation : Nat
  stage : Stage
  failure : Option Failure

namespace Standing

/-- The stage says which targets and which failure there are, and the target that waits is of the latest render. -/
structure Sound (standing : Standing) : Prop where
  rendering : standing.stage = .rendering ↔ ∃ target, standing.waiting = some target
  ready : standing.stage = .ready → (∃ shown, standing.active = some shown) ∧ standing.failure = none
  failed : standing.stage = .failed → (∃ failure, standing.failure = some failure) ∧ standing.waiting = none
  idle : standing.stage = .idle → standing.active = none ∧ standing.waiting = none ∧ standing.failure = none
  opened : ∀ target, standing.waiting = some target → standing.templateId = some target.template
  latest : ∀ target, standing.waiting = some target → target.generation = standing.generation
  numbered : ∀ shown, standing.active = some shown → shown.generation ≤ standing.generation
  newer : ∀ target shown, standing.waiting = some target → standing.active = some shown →
    shown.generation < target.generation

/-- Nothing waits, and a later target will be newer than the one on show. -/
theorem Sound.of_nothing_waits {standing : Standing} (hwaiting : standing.waiting = none)
    (hstage : standing.stage ≠ .rendering)
    (hready : standing.stage = .ready → (∃ shown, standing.active = some shown) ∧ standing.failure = none)
    (hfailed : standing.stage = .failed → ∃ failure, standing.failure = some failure)
    (hidle : standing.stage = .idle → standing.active = none ∧ standing.failure = none)
    (hnumbered : ∀ shown, standing.active = some shown → shown.generation ≤ standing.generation) :
    standing.Sound where
  rendering := by simp [hwaiting, hstage]
  ready := hready
  failed h := ⟨hfailed h, hwaiting⟩
  idle h := ⟨(hidle h).1, hwaiting, (hidle h).2⟩
  opened := by simp [hwaiting]
  latest := by simp [hwaiting]
  numbered := hnumbered
  newer := by simp [hwaiting]

end Standing

namespace Scheduler

/-- What becomes of a preview apart from what it was told. -/
def standing (preview : Scheduler) : Standing where
  host := { preview.host with refusal := none }
  templateId := preview.templateId
  active := preview.active
  waiting := preview.waiting
  generation := preview.generation
  stage := preview.stage
  failure := preview.failure

/-- The render whose confirmation is accepted, if the action is one. -/
def accepted? (preview : Scheduler) : PreviewAction → Option Nat
  | .targetLoaded generation => if (preview.targetLoaded generation).1 then some generation else none
  | _ => none

/-- What an action does to a preview, with the confirmation that it accepts. -/
inductive Turn (preview : Scheduler) (action : PreviewAction) : Option Nat → Scheduler → Prop where
  /-- It tells the preview something, or nothing at all. -/
  | stayed {after : Scheduler} (haction : action.Following) (hstanding : after.standing = preview.standing) :
      Turn preview action none after
  /-- It closes the template. Another one may be opened. -/
  | closed {after : Scheduler} (haction : ¬action.Following) (templateId : Option String)
      (hstanding : after.standing = { preview.close.standing with templateId }) : Turn preview action none after
  /-- It renders, perhaps after it told the preview something. -/
  | rendered {after : Scheduler} {template : String} {files : FileSet} {answers : AnswerSet}
      (haction : action.Following) (known : Option FileSet) (told : AnswerSet) (updates : Timer AnswerSet)
      (htemplate : preview.templateId = some template)
      (hend : RenderEnd { preview with files := known, answers := told, updates } template files answers after) :
      Turn preview action none after
  /-- It confirms the target that waits. -/
  | confirmed {target : Target} (hwaiting : preview.waiting = some target)
      (htemplate : preview.templateId = some target.template) (haction : action = .targetLoaded target.generation) :
      Turn preview action (some target.generation) (preview.showing target)

variable {preview after : Scheduler} {action : PreviewAction} {accepted : Option Nat}

/-- Closing a template leaves nothing waiting and starts no render. -/
theorem Turn.of_not_following (hturn : preview.Turn action accepted after) (haction : ¬action.Following) :
    accepted = none ∧ after.waiting = none ∧ after.generation = preview.generation := by
  cases hturn with
  | stayed hfollowing | rendered hfollowing => exact absurd hfollowing haction
  | confirmed hwaiting htemplate hloaded => exact absurd (hloaded ▸ trivial) haction
  | closed _ templateId hstanding =>
    exact ⟨rfl, congrArg Standing.waiting hstanding, congrArg Standing.generation hstanding⟩

/-- A confirmation that is accepted is of the target that waits, and shows it. -/
theorem Turn.of_accepted {generation : Nat} (hturn : preview.Turn action (some generation) after) :
    ∃ target, preview.waiting = some target ∧ target.generation = generation ∧ after = preview.showing target := by
  cases hturn with
  | confirmed hwaiting => exact ⟨_, hwaiting, rfl, rfl⟩

/-- Rendering what a preview was told is a turn of the preview. -/
theorem turn_recompute (preview : Scheduler) (action : PreviewAction) (haction : action.Following)
    (known : Option FileSet) (told : AnswerSet) (updates : Timer AnswerSet) (answers : AnswerSet) :
    preview.Turn action none ({ preview with files := known, answers := told, updates }.recompute answers) := by
  rcases recompute_cases { preview with files := known, answers := told, updates } answers with
    hsame | ⟨template, files, htemplate, -, hend⟩
  · rw [hsame]
    exact .stayed haction rfl
  · exact .rendered haction known told updates htemplate hend

/-! ## Soundness -/

/-- A sound preview accepts the confirmation of the target that waits, and nothing else. -/
theorem targetLoaded_iff (h : preview.standing.Sound) (generation : Nat) :
    (preview.targetLoaded generation).1 = true ↔
      ∃ target, preview.waiting = some target ∧ target.generation = generation := by
  rcases preview.targetLoaded_cases generation with ⟨target, hwaiting, hgeneration, -, hloaded⟩ | ⟨hloaded, hother⟩
  · rw [hloaded]
    exact iff_of_true rfl ⟨target, hwaiting, hgeneration⟩
  · rw [hloaded]
    refine iff_of_false nofun ?_
    rintro ⟨target, hwaiting, hgeneration⟩
    exact hother target hwaiting hgeneration (h.opened target hwaiting)

/-- A new preview is sound, whatever its host is. -/
theorem sound_start (host : Host) (settings : PreviewSettings) : (start host settings).standing.Sound :=
  .of_nothing_waits rfl nofun nofun nofun (fun _ => ⟨rfl, rfl⟩) nofun

/-- However a render of a sound preview ends, the preview is sound. -/
theorem RenderEnd.sound {template : String} {files : FileSet} {answers : AnswerSet}
    (hend : preview.RenderEnd template files answers after) (h : preview.standing.Sound)
    (htemplate : preview.templateId = some template) : after.standing.Sound := by
  have hnumbered : ∀ shown, preview.active = some shown → shown.generation ≤ preview.generation + 1 :=
    fun shown hshown => Nat.le_succ_of_le (h.numbered shown hshown)
  cases hend with
  | missing cause hdocument => exact .of_nothing_waits rfl nofun nofun (fun _ => ⟨_, rfl⟩) nofun hnumbered
  | refused document reason hdocument hrefusal =>
    exact .of_nothing_waits rfl nofun nofun (fun _ => ⟨_, rfl⟩) nofun hnumbered
  | mounted document hdocument hrefusal =>
    have hwaits : ∀ target, ((preview.begun files answers).mounted template document).waiting = some target →
        target.template = template ∧ target.generation = preview.generation + 1 := by
      rintro target hwaiting
      obtain rfl := Option.some.inj hwaiting
      exact ⟨rfl, rfl⟩
    refine ⟨⟨fun _ => ⟨_, rfl⟩, fun _ => rfl⟩, nofun, nofun, nofun, fun target hwaiting => ?_,
      fun target hwaiting => (hwaits target hwaiting).2, hnumbered, fun target shown hwaiting hshown => ?_⟩
    · rw [(hwaits target hwaiting).1]
      exact htemplate
    · rw [(hwaits target hwaiting).2]
      exact Nat.lt_succ_of_le (h.numbered shown hshown)

/-- Every turn leaves a sound preview sound. -/
theorem Turn.sound (hturn : preview.Turn action accepted after) (h : preview.standing.Sound) :
    after.standing.Sound := by
  cases hturn with
  | stayed haction hstanding =>
    rw [hstanding]
    exact h
  | closed haction templateId hstanding =>
    rw [hstanding]
    exact .of_nothing_waits rfl nofun nofun nofun (fun _ => ⟨rfl, rfl⟩) nofun
  | rendered haction known told updates htemplate hend => exact hend.sound h htemplate
  | @confirmed target hwaiting htemplate haction =>
    refine .of_nothing_waits rfl nofun (fun _ => ⟨⟨target, rfl⟩, rfl⟩) nofun nofun ?_
    rintro shown hshown
    obtain rfl := Option.some.inj hshown
    exact Nat.le_of_eq (h.latest target hwaiting)

/-! ## Spent renders -/

/-- A render has begun, and its target does not wait any more, if it ever did. -/
def Spent (preview : Scheduler) (generation : Nat) : Prop :=
  generation ≤ preview.generation ∧ ∀ target, preview.waiting = some target → target.generation ≠ generation

/-- When nothing waits, all renders are spent. -/
theorem spent_of_nothing_waits (hwaiting : preview.waiting = none) {generation : Nat}
    (hgeneration : generation ≤ preview.generation) : preview.Spent generation :=
  ⟨hgeneration, by simp [hwaiting]⟩

/-- All renders but the latest are spent. -/
theorem spent_of_superseded (h : preview.standing.Sound) {generation : Nat}
    (hgeneration : generation < preview.generation) : preview.Spent generation :=
  ⟨Nat.le_of_lt hgeneration, fun target hwaiting => (h.latest target hwaiting).trans_ne (Nat.ne_of_gt hgeneration)⟩

/-- A render that is spent stays spent, and its confirmation is not accepted. -/
theorem Turn.spent {generation : Nat} (hturn : preview.Turn action accepted after) (h : preview.Spent generation) :
    after.Spent generation ∧ accepted ≠ some generation := by
  cases hturn with
  | stayed haction hstanding =>
    refine ⟨⟨?_, ?_⟩, nofun⟩
    · exact h.1.trans_eq (congrArg Standing.generation hstanding).symm
    · intro target hwaiting
      exact h.2 target ((congrArg Standing.waiting hstanding).symm.trans hwaiting)
  | closed haction templateId hstanding =>
    refine ⟨spent_of_nothing_waits (congrArg Standing.waiting hstanding) ?_, nofun⟩
    exact h.1.trans_eq (congrArg Standing.generation hstanding).symm
  | rendered haction known told updates htemplate hend =>
    refine ⟨?_, nofun⟩
    cases hend with
    | missing cause hdocument => exact spent_of_nothing_waits rfl (Nat.le_succ_of_le h.1)
    | refused document reason hdocument hrefusal => exact spent_of_nothing_waits rfl (Nat.le_succ_of_le h.1)
    | mounted document hdocument hrefusal =>
      refine ⟨Nat.le_succ_of_le h.1, ?_⟩
      rintro target hwaiting
      obtain rfl := Option.some.inj hwaiting
      exact Nat.ne_of_gt (Nat.lt_succ_of_le h.1)
  | @confirmed target hwaiting htemplate haction =>
    exact ⟨spent_of_nothing_waits rfl h.1, fun hsame => h.2 target hwaiting (Option.some.inj hsame)⟩

end Scheduler

namespace TimedPreview

variable {state : TimedPreview}

/-- Every action is a turn of the preview. -/
theorem turn_step (state : TimedPreview) (action : PreviewAction) :
    state.preview.Turn action (state.preview.accepted? action) (state.step action).preview := by
  cases action with
  | open_ template => exact .closed (fun h => h.elim) (some template) rfl
  | close => exact .closed (fun h => h.elim) none rfl
  | filesChanged files answers =>
    simp only [step, Scheduler.filesChanged]
    split
    · exact .stayed trivial rfl
    · exact state.preview.turn_recompute (.filesChanged files answers) trivial (some files) answers .idle answers
  | answersChanged answers =>
    simp only [step, Scheduler.answersChanged]
    split <;> exact .stayed trivial rfl
  | tick =>
    simp only [step, Scheduler.tick]
    split
    · exact state.preview.turn_recompute .tick trivial state.preview.files state.preview.answers _ _
    · exact .stayed trivial rfl
  | retry =>
    simp only [step, Scheduler.retry]
    split
    · exact state.preview.turn_recompute .retry trivial state.preview.files state.preview.answers .idle _
    · exact .stayed trivial rfl
  | targetLoaded generation =>
    rcases state.preview.targetLoaded_cases generation with ⟨target, hwaiting, rfl, htemplate, hloaded⟩ | ⟨hloaded, -⟩
    · simp only [step, Scheduler.accepted?, hloaded, if_true]
      exact .confirmed hwaiting htemplate rfl
    · simp only [step, Scheduler.accepted?, hloaded, Bool.false_eq_true, if_false]
      exact .stayed trivial rfl
  | advanceClock span => exact .stayed trivial rfl
  | changeRefusal refusal => exact .stayed trivial rfl

/-- The renders whose confirmations are accepted in a run, in order. -/
def accepted (state : TimedPreview) : List PreviewAction → List Nat
  | [] => []
  | action :: rest => (state.preview.accepted? action).toList ++ (state.step action).accepted rest

/-- A confirmation that is accepted in a run is not of a render that was spent before the run. -/
theorem not_spent_of_mem_accepted {generation : Nat} {actions : List PreviewAction}
    (h : generation ∈ state.accepted actions) : ¬state.preview.Spent generation := by
  induction actions generalizing state with
  | nil => cases h
  | cons action rest ih =>
    intro hspent
    obtain ⟨hafter, hother⟩ := (state.turn_step action).spent hspent
    rcases List.mem_append.mp h with hnow | hlater
    · exact hother (Option.mem_toList.mp hnow)
    · exact ih hlater hafter

/-- Every action leaves a sound preview sound. -/
theorem sound_step (state : TimedPreview) (action : PreviewAction) (h : state.preview.standing.Sound) :
    (state.step action).preview.standing.Sound :=
  (state.turn_step action).sound h

/-- Every run of a new preview leaves it sound, whatever its host is. -/
theorem sound_run (clock : Clock) (host : Host) (settings : PreviewSettings) (actions : List PreviewAction) :
    (run ⟨clock, .start host settings⟩ actions).preview.standing.Sound :=
  @run_induction (fun preview => preview.standing.Sound) sound_step ⟨clock, .start host settings⟩
    (Scheduler.sound_start host settings) actions

/-- The renders whose confirmations are accepted come in the order in which they began, each at most once. -/
theorem pairwise_accepted (h : state.preview.standing.Sound) (actions : List PreviewAction) :
    (state.accepted actions).Pairwise (· < ·) := by
  induction actions generalizing state with
  | nil => exact .nil
  | cons action rest ih =>
    have hrest := ih (sound_step state action h)
    rw [accepted]
    cases haccepted : state.preview.accepted? action with
    | none => exact hrest
    | some generation =>
      refine List.pairwise_cons.mpr ⟨fun later hlater => ?_, hrest⟩
      have hturn := state.turn_step action
      rw [haccepted] at hturn
      obtain ⟨target, hwaiting, rfl, hafter⟩ := hturn.of_accepted
      -- with the confirmation nothing waits any more, so all renders up to this one are spent
      by_contra hearlier
      refine not_spent_of_mem_accepted hlater ?_
      rw [hafter]
      exact Scheduler.spent_of_nothing_waits rfl ((Nat.not_lt.mp hearlier).trans_eq (h.latest target hwaiting))

/-- What is confirmed after the template was closed began after that. -/
theorem generation_lt_of_mem_accepted {action : PreviewAction} {rest : List PreviewAction} {generation : Nat}
    (haction : ¬action.Following) (h : generation ∈ state.accepted (action :: rest)) :
    state.preview.generation < generation := by
  obtain ⟨hnone, hwaiting, hgeneration⟩ := (state.turn_step action).of_not_following haction
  rw [accepted, hnone] at h
  by_contra hearlier
  have hle := (Nat.not_lt.mp hearlier).trans_eq hgeneration.symm
  exact not_spent_of_mem_accepted h (Scheduler.spent_of_nothing_waits hwaiting hle)

/-- In every state that a new preview comes to, with any host, the stage says which targets and which failure there
are, and the target that waits is of the open template, of the latest render and newer than the one on show. A
confirmation is accepted exactly if it is of that target, and changes nothing otherwise. So over a whole run each render
is confirmed at most once, in the order in which they began, and never after a later render has begun or its template
was closed. -/
theorem stages_sound_of_run (clock : Clock) (host : Host) (settings : PreviewSettings) (actions : List PreviewAction) :
    let start : TimedPreview := ⟨clock, .start host settings⟩
    let preview := (start.run actions).preview
    preview.standing.Sound ∧
      (∀ generation,
        ((preview.targetLoaded generation).1 = true ↔
          ∃ target, preview.waiting = some target ∧ target.generation = generation) ∧
        ((preview.targetLoaded generation).1 = false → (preview.targetLoaded generation).2 = preview)) ∧
      (start.accepted actions).Pairwise (· < ·) ∧
      ∀ earlier since, actions = earlier ++ since →
        (∀ generation ∈ (start.run earlier).accepted since, (start.run earlier).preview.generation ≤ generation) ∧
        ∀ action later, since = action :: later → ¬action.Following →
          ∀ generation ∈ (start.run earlier).accepted since, (start.run earlier).preview.generation < generation := by
  intro start preview
  have hsound := sound_run clock host settings
  refine ⟨hsound actions, fun generation => ⟨Scheduler.targetLoaded_iff (hsound actions) generation, fun hloaded => ?_⟩,
    pairwise_accepted (hsound []) actions, fun earlier since _ => ⟨fun generation haccepted => ?_, ?_⟩⟩
  · rcases preview.targetLoaded_cases generation with ⟨_, -, -, -, htaken⟩ | ⟨hsame, -⟩
    · rw [htaken] at hloaded
      cases hloaded
    · rw [hsame]
  · by_contra hearlier
    exact not_spent_of_mem_accepted haccepted
      (Scheduler.spent_of_superseded (hsound earlier) (Nat.not_le.mp hearlier))
  · rintro action later rfl hcloses generation haccepted
    exact generation_lt_of_mem_accepted hcloses haccepted

end TimedPreview

end SiteBuilder.Preview
