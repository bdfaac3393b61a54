import Mathlib.Data.List.Induction
import SiteBuilder.Proofs.Preview.History
import SiteBuilder.Proofs.Preview.Render

/-!
# Edits are rendered once they rest

Three things start a render: new files, a due edit, and another try after a failure. Each of them empties the
timer and renders the answers that were handed over last, so the timer holds an edit exactly if none of them came
after it, and then the latest one. Whoever goes on editing within the delay puts the render off, and gets one
render of the last answers in the end.
-/

namespace SiteBuilder.Preview

open Moment

namespace Scheduler

/-- What comes of trying to show files and answers: a failure that says why there is no document or why the host
refuses it, or a target of the open template that waits at the host with the document. -/
def Tried (preview : Scheduler) (template : String) (files : FileSet) (answers : AnswerSet) : Prop :=
  match Document.compose files answers preview.entryFile with
  | .error cause => preview.stage = .failed ∧ preview.failure = some (.document cause)
  | .ok document =>
    match preview.host.refusal with
    | some reason => preview.stage = .failed ∧ preview.failure = some (.refused reason)
    | none =>
      preview.stage = .rendering ∧
        ∃ target, preview.waiting = some target ∧ target.template = template ∧
          target.generation = preview.generation ∧ preview.host.document? target.handle = some document

section RenderEnd

variable {preview after : Scheduler} {template : String} {files : FileSet} {answers : AnswerSet}

/-- However a render ends, it is one more. -/
theorem RenderEnd.renders_eq (hend : preview.RenderEnd template files answers after) :
    after.renders = preview.renders + 1 := by
  cases hend <;> rfl

/-- However a render ends, the delay stays. -/
theorem RenderEnd.delay_eq (hend : preview.RenderEnd template files answers after) :
    after.delay = preview.delay := by
  cases hend <;> rfl

/-- However a render ends, its files and answers were tried. -/
theorem RenderEnd.tried (hend : preview.RenderEnd template files answers after) :
    after.Tried template files answers := by
  cases hend with
  | missing cause hdocument => simp only [Tried, fail, begun, hdocument, and_self]
  | refused document reason hdocument hrefusal =>
    simp only [Tried, Scheduler.refused, fail, begun, hdocument, refusal_releaseAll, hrefusal, and_self]
  | mounted document hdocument hrefusal =>
    simp only [Tried, Scheduler.mounted, begun, hdocument, refusal_releaseAll, hrefusal, true_and]
    exact ⟨_, rfl, rfl, rfl, by simp [Host.document?]⟩

end RenderEnd

/-- What the preview was told, what waits and the count of renders are the same. -/
structure Keeps (preview after : Scheduler) : Prop where
  inputs : after.inputs = preview.inputs
  updates : after.updates = preview.updates
  delay : after.delay = preview.delay
  renders : after.renders = preview.renders

/-- What stays as it is keeps everything. -/
theorem Keeps.of_eq {preview after : Scheduler} (h : after = preview) : preview.Keeps after :=
  h ▸ ⟨rfl, rfl, rfl, rfl⟩

section Keeps

variable {preview after : Scheduler}

theorem Keeps.templateId (h : preview.Keeps after) : after.templateId = preview.templateId :=
  congrArg Inputs.templateId h.inputs

theorem Keeps.files (h : preview.Keeps after) : after.files = preview.files := congrArg Inputs.files h.inputs

theorem Keeps.answers (h : preview.Keeps after) : after.answers = preview.answers := congrArg Inputs.answers h.inputs

end Keeps

/-- A confirmation keeps what the preview was told, what waits and the count of renders. -/
theorem keeps_targetLoaded (preview : Scheduler) (generation : Nat) :
    preview.Keeps (preview.targetLoaded generation).2 := by
  obtain ⟨hinputs, hupdates, -⟩ := preview.targetLoaded_keeps generation
  obtain ⟨hdelay, hrenders⟩ := preview.targetLoaded_renders generation
  exact ⟨hinputs, hupdates, hdelay, hrenders⟩

/-- A preview has the files and the answers that were handed over last. -/
structure Told (preview : Scheduler) (template : String) (delay : Nat) (past : List Moment) : Prop where
  opened : preview.templateId = some template
  delayed : preview.delay = delay
  files : preview.files = lastFiles? past
  answers : preview.files ≠ none → lastAnswers? past = some preview.answers

/-- The timer of a preview holds the last edit that was not rendered since, if there are files. -/
structure Agrees (preview : Scheduler) (template : String) (delay : Nat) (past : List Moment) : Prop
    extends preview.Told template delay past where
  waits : preview.files ≠ none →
    preview.updates = ⟨(lastEdit? past).map fun edit => ⟨edit + delay, preview.answers⟩⟩
  idle : preview.files = none → preview.updates = .idle

end Scheduler

namespace TimedPreview

/-- After an action the preview agrees with its history, and if the action started a render, this one tries the
files and the answers that were handed over last. -/
structure Follows (state : TimedPreview) (template : String) (delay : Nat) (past : List Moment)
    (action : PreviewAction) : Prop where
  agrees : (state.step action).preview.Agrees template delay (state.moment action :: past)
  tried : state.Renders action → ∃ files answers, lastFiles? (state.moment action :: past) = some files ∧
    lastAnswers? (state.moment action :: past) = some answers ∧
      (state.step action).preview.Tried template files answers

variable {state : TimedPreview} {template : String} {delay : Nat} {past : List Moment} {action : PreviewAction}

/-! ## One action -/

/-- An action that keeps the count of renders starts none. -/
theorem not_renders_of_eq (h : (state.step action).preview.renders = state.preview.renders) :
    ¬state.Renders action := by
  rw [Renders, h]
  exact (Nat.succ_ne_self _).symm

/-- A render that follows what was told leaves no edit, and tries the files and answers that were handed over
last. -/
theorem follows_of_recompute {told : Scheduler}
    (hstep : (state.step action).preview = told.recompute told.answers)
    (hrenders : told.renders = state.preview.renders) (hidle : told.updates = .idle)
    (htold : told.Told template delay (state.moment action :: past)) :
    state.Follows template delay past action := by
  cases hfiles : told.files with
  | none =>
    have hsame : (state.step action).preview = told :=
      hstep.trans (Scheduler.recompute_eq_self (.inr hfiles) told.answers)
    refine ⟨?_, fun hmore => absurd hmore (not_renders_of_eq (hsame ▸ hrenders))⟩
    rw [hsame]
    exact ⟨htold, fun hsome => absurd hfiles hsome, fun _ => hidle⟩
  | some files =>
    have hend := Scheduler.renderEnd_recompute htold.opened hfiles told.answers
    rw [← hstep] at hend
    have hanswers := htold.answers (by rw [hfiles]; exact nofun)
    have htemplate := congrArg Scheduler.Inputs.templateId hend.inputs_eq
    have hknown : (state.step action).preview.files = told.files := congrArg Scheduler.Inputs.files hend.inputs_eq
    have hgiven : (state.step action).preview.answers = told.answers :=
      congrArg Scheduler.Inputs.answers hend.inputs_eq
    have hrendered : state.Renders action := hend.renders_eq.trans (congrArg (· + 1) hrenders)
    have hrested : lastEdit? (state.moment action :: past) = none := by
      rw [lastEdit?, if_pos (show (state.moment action).rendered = true from decide_eq_true hrendered)]
    refine ⟨⟨⟨?_, ?_, ?_, ?_⟩, ?_, ?_⟩, fun _ => ⟨files, told.answers, ?_, hanswers, hend.tried⟩⟩
    · exact htemplate.trans htold.opened
    · rw [hend.delay_eq, htold.delayed]
    · rw [hknown, htold.files]
    · rw [hgiven]
      exact fun _ => hanswers
    · rw [hrested, hend.updates_eq, hidle]
      exact fun _ => rfl
    · rw [hend.updates_eq, hidle]
      exact fun _ => rfl
    · rw [← htold.files, hfiles]

/-- An action that hands over nothing and leaves the timer alone has no say in what is to be rendered. -/
theorem follows_of_keeps (h : state.preview.Agrees template delay past)
    (hfiles : (state.moment action).files? = none) (hanswers : (state.moment action).answers? = none)
    (hedit : (state.moment action).edit? = none) (hkeeps : state.preview.Keeps (state.step action).preview) :
    state.Follows template delay past action := by
  have hknown := hkeeps.files
  have hgiven := hkeeps.answers
  have hquiet : (state.moment action).rendered = false := decide_eq_false (not_renders_of_eq hkeeps.renders)
  have hsame : lastEdit? (state.moment action :: past) = lastEdit? past := by
    rw [lastEdit?, hquiet, hedit]
    rfl
  refine ⟨⟨⟨?_, ?_, ?_, ?_⟩, ?_, ?_⟩, fun hmore => absurd hmore (not_renders_of_eq hkeeps.renders)⟩
  · rw [hkeeps.templateId, h.opened]
  · rw [hkeeps.delay, h.delayed]
  · rw [hknown, h.files, lastFiles?, hfiles, Option.none_or]
  · rw [hknown, hgiven, lastAnswers?, hanswers, Option.none_or]
    exact h.answers
  · rw [hknown, hgiven, hkeeps.updates, hsame]
    exact h.waits
  · rw [hknown, hkeeps.updates]
    exact h.idle

/-- Files that are new are rendered with the answers they come with; others are passed over. -/
theorem follows_filesChanged (h : state.preview.Agrees template delay past) (files : FileSet)
    (answers : AnswerSet) : state.Follows template delay past (.filesChanged files answers) := by
  by_cases hsame : state.preview.files = some files
  · have hreply := Scheduler.filesChanged_of_eq hsame answers
    have htaken : (state.moment (.filesChanged files answers)).taken = false := congrArg Prod.fst hreply
    refine follows_of_keeps h ?_ ?_ rfl (.of_eq (congrArg Prod.snd hreply))
    · rw [files?, htaken]
      rfl
    · rw [answers?, htaken]
      rfl
  · have hreply : state.preview.filesChanged files answers = (true, _) := if_neg hsame
    have htaken : (state.moment (.filesChanged files answers)).taken = true := congrArg Prod.fst hreply
    refine follows_of_recompute (congrArg Prod.snd hreply) rfl rfl ⟨h.opened, h.delayed, ?_, fun _ => ?_⟩
    · rw [lastFiles?, files?, htaken]
      rfl
    · rw [lastAnswers?, answers?, htaken]
      rfl

/-- An edit waits in place of the ones before, if there are files. -/
theorem follows_answersChanged (h : state.preview.Agrees template delay past) (answers : AnswerSet) :
    state.Follows template delay past (.answersChanged answers) := by
  have hstep : (state.step (.answersChanged answers)).preview =
      state.preview.answersChanged state.clock.now answers := rfl
  cases hfiles : state.preview.files with
  | none =>
    rw [Scheduler.answersChanged_of_files_none hfiles] at hstep
    have hrenders : (state.step (.answersChanged answers)).preview.renders = state.preview.renders := by rw [hstep]
    refine ⟨?_, fun hmore => absurd hmore (not_renders_of_eq hrenders)⟩
    rw [hstep]
    exact ⟨⟨h.opened, h.delayed, h.files, fun _ => rfl⟩, fun hsome => absurd hfiles hsome, h.idle⟩
  | some files =>
    rw [Scheduler.answersChanged_of_files hfiles] at hstep
    have hrenders : (state.step (.answersChanged answers)).preview.renders = state.preview.renders := by rw [hstep]
    have hrested : (state.moment (.answersChanged answers)).rendered = false :=
      decide_eq_false (not_renders_of_eq hrenders)
    refine ⟨?_, fun hmore => absurd hmore (not_renders_of_eq hrenders)⟩
    rw [hstep]
    refine ⟨⟨h.opened, h.delayed, h.files, fun _ => rfl⟩, fun _ => ?_, fun hnone => ?_⟩
    · rw [lastEdit?, hrested, h.delayed]
      rfl
    · cases hfiles.symm.trans hnone

/-- A due edit is the last one, and is rendered. -/
theorem follows_tick (h : state.preview.Agrees template delay past) : state.Follows template delay past .tick := by
  rcases state.preview.updates.poll_cases state.clock.now with ⟨answers, htask, hpoll⟩ | hpoll
  · have hfiles : state.preview.files ≠ none := by
      intro hnone
      rw [h.idle hnone] at htask
      cases htask
    have hlast : answers = state.preview.answers := by
      rw [h.waits hfiles] at htask
      obtain ⟨scheduled, hscheduled, rfl⟩ := Option.map_eq_some_iff.mp htask
      obtain ⟨edit, -, rfl⟩ := Option.map_eq_some_iff.mp hscheduled
      rfl
    have hstep : (state.step .tick).preview =
        { state.preview with updates := .idle }.recompute state.preview.answers := by
      simp only [step, Scheduler.tick, hpoll, hlast]
    exact follows_of_recompute hstep rfl rfl ⟨h.opened, h.delayed, h.files, h.answers⟩
  · have hstep : (state.step .tick).preview = state.preview := by
      simp only [step, Scheduler.tick, hpoll]
    exact follows_of_keeps h rfl rfl rfl (.of_eq hstep)

/-- Another try is made with what was handed over last. -/
theorem follows_retry (h : state.preview.Agrees template delay past) : state.Follows template delay past .retry := by
  by_cases hfailed : state.preview.stage = .failed
  · have hreply : state.preview.retry =
        (true, { state.preview with updates := .idle }.recompute state.preview.answers) := if_pos hfailed
    exact follows_of_recompute (congrArg Prod.snd hreply) rfl rfl ⟨h.opened, h.delayed, h.files, h.answers⟩
  · have hreply : state.preview.retry = (false, state.preview) := if_neg hfailed
    exact follows_of_keeps h rfl rfl rfl (.of_eq (congrArg Prod.snd hreply))

/-- Every action that stays with the template keeps a preview in agreement with its history, and what it renders
was handed over last. -/
theorem follows_step (h : state.preview.Agrees template delay past) (haction : action.Following) :
    state.Follows template delay past action := by
  cases action with
  | open_ | close => exact haction.elim
  | filesChanged files answers => exact follows_filesChanged h files answers
  | answersChanged answers => exact follows_answersChanged h answers
  | tick => exact follows_tick h
  | retry => exact follows_retry h
  | targetLoaded generation =>
    exact follows_of_keeps h rfl rfl rfl (state.preview.keeps_targetLoaded generation)
  | advanceClock span => exact follows_of_keeps h rfl rfl rfl ⟨rfl, rfl, rfl, rfl⟩
  | changeRefusal refusal => exact follows_of_keeps h rfl rfl rfl ⟨rfl, rfl, rfl, rfl⟩

/-- A preview that has just opened a template agrees with an empty history, and goes on to agree with what
happens. -/
theorem agrees_run (start : TimedPreview) (template : String) {actions : List PreviewAction}
    (hactions : ∀ action ∈ actions, action.Following) :
    ((start.step (.open_ template)).run actions).preview.Agrees template start.preview.delay
      ((start.step (.open_ template)).past actions) := by
  induction actions using List.reverseRecOn with
  | nil => exact ⟨⟨rfl, rfl, rfl, fun hfiles => absurd rfl hfiles⟩, fun hfiles => absurd rfl hfiles, fun _ => rfl⟩
  | append_singleton rest action ih =>
    rw [past_concat, run_append]
    have hrest := ih fun earlier hearlier => hactions earlier (List.mem_append_left _ hearlier)
    exact (follows_step hrest (hactions action List.mem_concat_self)).agrees

/-! ## What starts a render -/

/-- A task that is due is rendered if there are files. -/
theorem renderEnd_tick {files : FileSet} {due : Nat} {answers : AnswerSet}
    (hopened : state.preview.templateId = some template) (hfiles : state.preview.files = some files)
    (hwaits : state.preview.updates = ⟨some ⟨due, answers⟩⟩) (hdue : due ≤ state.clock.now) :
    { state.preview with updates := .idle }.RenderEnd template files answers (state.step .tick).preview := by
  have hpoll : state.preview.updates.poll state.clock.now = (some answers, .idle) := by
    rw [hwaits]
    exact if_pos hdue
  have hstep : (state.step .tick).preview = { state.preview with updates := .idle }.recompute answers := by
    simp only [step, Scheduler.tick, hpoll]
  have hopen : { state.preview with updates := .idle }.templateId = some template := hopened
  rw [hstep]
  exact Scheduler.renderEnd_recompute hopen hfiles answers

/-- A tick starts a render exactly if there are files and the last edit since a render is old enough. -/
theorem renders_tick_iff (h : state.preview.Agrees template delay past) :
    state.Renders .tick ↔
      (∃ files, lastFiles? past = some files) ∧
        ∃ edit, lastEdit? past = some edit ∧ edit + delay ≤ state.clock.now := by
  constructor
  · intro hrenders
    rcases state.preview.updates.poll_cases state.clock.now with ⟨answers, htask, hpoll⟩ | hpoll
    · obtain ⟨due, hslot, hdue⟩ := Timer.poll_eq_some_iff.mp (congrArg Prod.fst hpoll)
      have hfiles : state.preview.files ≠ none := by
        intro hnone
        rw [h.idle hnone] at hslot
        cases hslot
      rw [h.waits hfiles] at hslot
      obtain ⟨edit, hedit, hscheduled⟩ := Option.map_eq_some_iff.mp hslot
      rw [← (Scheduled.mk.inj hscheduled).1] at hdue
      exact ⟨Option.ne_none_iff_exists'.mp (h.files ▸ hfiles), edit, hedit, hdue⟩
    · have hstep : (state.step .tick).preview = state.preview := by
        simp only [step, Scheduler.tick, hpoll]
      exact absurd hrenders (not_renders_of_eq (congrArg Scheduler.renders hstep))
  · rintro ⟨⟨files, hfiles⟩, edit, hedit, hdue⟩
    have hknown : state.preview.files = some files := h.files.trans hfiles
    have hwaits := h.waits (by rw [hknown]; exact nofun)
    rw [hedit] at hwaits
    exact (renderEnd_tick h.opened hknown hwaits hdue).renders_eq

/-- Files that are new are rendered at once. -/
theorem renders_filesChanged (hopened : state.preview.templateId = some template) {files : FileSet}
    {answers : AnswerSet} (hnew : (state.preview.filesChanged files answers).1 = true) :
    state.Renders (.filesChanged files answers) := by
  have hdifferent : state.preview.files ≠ some files := by
    intro hsame
    rw [Scheduler.filesChanged_of_eq hsame] at hnew
    cases hnew
  have hstep : (state.step (.filesChanged files answers)).preview =
      { state.preview with files := some files, answers, updates := .idle }.recompute answers := by
    simp only [step, Scheduler.filesChanged, if_neg hdifferent]
  have hopen : { state.preview with files := some files, answers, updates := .idle }.templateId = some template :=
    hopened
  have hend := Scheduler.renderEnd_recompute hopen rfl answers
  rw [← hstep] at hend
  exact hend.renders_eq

/-! ## Edits within one window -/

/-- While nothing is due, a pause keeps what waits and starts no render. -/
theorem keeps_of_pauses (haction : action.Pauses)
    (hearly : ∀ scheduled, state.preview.updates.slot = some scheduled → state.clock.now < scheduled.due) :
    state.preview.Keeps (state.step action).preview := by
  cases action with
  | open_ | close | filesChanged | answersChanged | retry => exact haction.elim
  | tick =>
    rcases state.preview.updates.poll_cases state.clock.now with ⟨answers, -, hpoll⟩ | hpoll
    · obtain ⟨due, hslot, hdue⟩ := Timer.poll_eq_some_iff.mp (congrArg Prod.fst hpoll)
      exact absurd hdue (Nat.not_le.mpr (hearly _ hslot))
    · exact .of_eq (by simp only [step, Scheduler.tick, hpoll])
  | targetLoaded generation => exact state.preview.keeps_targetLoaded generation
  | advanceClock span => exact .of_eq rfl
  | changeRefusal refusal => exact ⟨rfl, rfl, rfl, rfl⟩

/-- Without an edit that waits, pausing starts no render. -/
theorem renders_run_of_idle (hidle : state.preview.updates = .idle) {wait : List PreviewAction}
    (hwait : ∀ action ∈ wait, action.Pauses) : (state.run wait).preview.renders = state.preview.renders := by
  induction wait generalizing state with
  | nil => rfl
  | cons action rest ih =>
    have hkeeps : state.preview.Keeps (state.step action).preview := by
      refine keeps_of_pauses (hwait action List.mem_cons_self) fun scheduled hslot => ?_
      rw [hidle] at hslot
      cases hslot
    rw [run_cons, ih (hkeeps.updates.trans hidle) fun later hlater => hwait later (List.mem_cons_of_mem _ hlater),
      hkeeps.renders]

/-- Of the actions of a run exactly one starts a render. It is a tick and tries the files and the answers. -/
def RendersOnce (state : TimedPreview) (template : String) (files : FileSet) (answers : AnswerSet)
    (actions : List PreviewAction) : Prop :=
  ∃ before after, actions = before ++ .tick :: after ∧
    (state.run before).preview.renders = state.preview.renders ∧
    (state.run before).Renders .tick ∧
    ((state.run before).step .tick).preview.Tried template files answers ∧
    (state.run actions).preview.renders = state.preview.renders + 1

/-- An edit that waits is rendered once if there is a tick after a pause that is long enough. -/
theorem rendersOnce_of_waits {files : FileSet} {due : Nat} {answers : AnswerSet}
    (hopened : state.preview.templateId = some template) (hfiles : state.preview.files = some files)
    (hwaits : state.preview.updates = ⟨some ⟨due, answers⟩⟩) {wait : List PreviewAction}
    (hwait : ∀ action ∈ wait, action.Pauses) (hdue : due ≤ (state.run wait).clock.now) :
    state.RendersOnce template files answers (wait ++ [.tick]) := by
  induction wait generalizing state with
  | nil =>
    have hend := renderEnd_tick hopened hfiles hwaits hdue
    exact ⟨[], [], rfl, rfl, hend.renders_eq, hend.tried, hend.renders_eq⟩
  | cons action rest ih =>
    have hrest : ∀ later ∈ rest ++ [.tick], later.Pauses := by
      simp only [List.mem_append, List.mem_singleton]
      rintro later (hlater | rfl)
      · exact hwait later (List.mem_cons_of_mem _ hlater)
      · trivial
    by_cases hnow : action = .tick ∧ due ≤ state.clock.now
    · -- The first tick at which the edit is due renders it; nothing waits then.
      obtain ⟨rfl, hnow⟩ := hnow
      have hend := renderEnd_tick hopened hfiles hwaits hnow
      refine ⟨[], rest ++ [.tick], rfl, rfl, hend.renders_eq, hend.tried, ?_⟩
      rw [List.cons_append, run_cons, renders_run_of_idle hend.updates_eq hrest]
      exact hend.renders_eq
    · have hkeeps : state.preview.Keeps (state.step action).preview := by
        cases action with
        | tick =>
          refine keeps_of_pauses trivial fun scheduled hslot => ?_
          rw [hwaits] at hslot
          cases hslot
          exact Nat.lt_of_not_le fun hle => hnow ⟨rfl, hle⟩
        | targetLoaded generation => exact state.preview.keeps_targetLoaded generation
        | advanceClock span => exact .of_eq rfl
        | changeRefusal refusal => exact ⟨rfl, rfl, rfl, rfl⟩
        | _ => exact (hwait _ List.mem_cons_self).elim
      obtain ⟨before, after, hsplit, hbefore, hrenders, htried, hend⟩ :=
        ih (hkeeps.templateId.trans hopened) (hkeeps.files.trans hfiles) (hkeeps.updates.trans hwaits)
          (fun later hlater => hwait later (List.mem_cons_of_mem _ hlater)) hdue
      refine ⟨action :: before, after, by rw [List.cons_append, hsplit]; rfl, ?_, hrenders, htried, ?_⟩
      · rw [run_cons, hbefore, hkeeps.renders]
      · rw [List.cons_append, run_cons, hend, hkeeps.renders]

/-- An edit that came at a time or later waits. -/
structure EditWaits (preview : Scheduler) (template : String) (files : FileSet) (delay time : Nat) : Prop where
  opened : preview.templateId = some template
  delayed : preview.delay = delay
  files : preview.files = some files
  waits : ∃ edit, time ≤ edit ∧ preview.updates = ⟨some ⟨edit + delay, preview.answers⟩⟩

/-- An edit waits from the time it comes. -/
theorem editWaits_answersChanged {files : FileSet} {time : Nat} (hopened : state.preview.templateId = some template)
    (hdelayed : state.preview.delay = delay) (hfiles : state.preview.files = some files)
    (htime : time ≤ state.clock.now) (answers : AnswerSet) :
    EditWaits (state.step (.answersChanged answers)).preview template files delay time ∧
      (state.step (.answersChanged answers)).preview.renders = state.preview.renders := by
  have hstep : (state.step (.answersChanged answers)).preview =
      state.preview.answersChanged state.clock.now answers := rfl
  rw [hstep, Scheduler.answersChanged_of_files hfiles]
  exact ⟨⟨hopened, hdelayed, hfiles, state.clock.now, htime, by rw [hdelayed]⟩, rfl⟩

/-- Whoever goes on editing within the delay puts the render off. -/
theorem editWaits_run {files : FileSet} {time : Nat} (h : EditWaits state.preview template files delay time)
    {burst : List PreviewAction} (hburst : ∀ action ∈ burst, action.Pauses ∨ action.Edits)
    (hwindow : ∀ earlier, earlier <+: burst →
      time ≤ (state.run earlier).clock.now ∧ (state.run earlier).clock.now < time + delay) :
    EditWaits (state.run burst).preview template files delay time ∧
      (state.run burst).preview.renders = state.preview.renders := by
  induction burst generalizing state with
  | nil => exact ⟨h, rfl⟩
  | cons action rest ih =>
    obtain ⟨hfrom, huntil⟩ := hwindow [] List.nil_prefix
    suffices hfirst : EditWaits (state.step action).preview template files delay time ∧
        (state.step action).preview.renders = state.preview.renders by
      obtain ⟨hafter, hrenders⟩ := ih hfirst.1 (fun later hlater => hburst later (List.mem_cons_of_mem _ hlater))
        fun earlier hearlier => hwindow (action :: earlier) (List.cons_prefix_cons.mpr ⟨rfl, hearlier⟩)
      exact ⟨hafter, hrenders.trans hfirst.2⟩
    rcases hburst action List.mem_cons_self with hpauses | hedits
    · obtain ⟨edit, hedit, hwaits⟩ := h.waits
      have hkeeps : state.preview.Keeps (state.step action).preview := by
        refine keeps_of_pauses hpauses fun scheduled hslot => ?_
        rw [hwaits] at hslot
        cases hslot
        exact Nat.lt_of_lt_of_le huntil (Nat.add_le_add_right hedit delay)
      refine ⟨⟨hkeeps.templateId.trans h.opened, hkeeps.delay.trans h.delayed, hkeeps.files.trans h.files, edit,
        hedit, ?_⟩, hkeeps.renders⟩
      rw [hkeeps.updates, hkeeps.answers, hwaits]
    · cases action with
      | answersChanged answers => exact editWaits_answersChanged h.opened h.delayed h.files hfrom answers
      | _ => exact hedits.elim

/-- Edits within one window start no render while they come, and exactly one once they rest: that of the last of
them. -/
theorem rendersOnce_of_edits {files : FileSet} {first : AnswerSet} {burst : List PreviewAction}
    {editedPast : List Moment} (h : state.preview.Agrees template delay past) (hfiles : lastFiles? past = some files)
    (hburst : ∀ action ∈ burst, action.Pauses ∨ action.Edits)
    (hwindow : ∀ earlier, earlier <+: burst →
      state.clock.now ≤ (state.run (.answersChanged first :: earlier)).clock.now ∧
        (state.run (.answersChanged first :: earlier)).clock.now < state.clock.now + delay)
    (hlater : (state.run (.answersChanged first :: burst)).preview.Agrees template delay editedPast) :
    let edited := state.run (.answersChanged first :: burst)
    edited.preview.renders = state.preview.renders ∧
      ∃ edit answers, lastEdit? editedPast = some edit ∧ lastAnswers? editedPast = some answers ∧
        ∀ wait, (∀ action ∈ wait, action.Pauses) → edit + delay ≤ (edited.run wait).clock.now →
          edited.RendersOnce template files answers (wait ++ [.tick]) := by
  intro edited
  have hknown : state.preview.files = some files := h.files.trans hfiles
  obtain ⟨hfirst, hquiet⟩ := editWaits_answersChanged h.opened h.delayed hknown (Nat.le_refl _) first
  obtain ⟨hedited, hrenders⟩ := editWaits_run hfirst hburst hwindow
  obtain ⟨edit, -, hwaits⟩ := hedited.waits
  have hsome : edited.preview.files ≠ none := fun hnone => nomatch hedited.files.symm.trans hnone
  have hlast : lastEdit? editedPast = some edit := by
    have hslot := congrArg Timer.slot ((hlater.waits hsome).symm.trans hwaits)
    obtain ⟨found, hfound, hscheduled⟩ := Option.map_eq_some_iff.mp hslot
    have hsum : found + delay = edit + delay := (Scheduled.mk.inj hscheduled).1
    rw [hfound, Nat.add_right_cancel hsum]
  exact ⟨hrenders.trans hquiet, edit, edited.preview.answers, hlast, hlater.answers hsome,
    fun wait hwait hdue => rendersOnce_of_waits hedited.opened hedited.files hwaits hwait hdue⟩

/-- From any preview that has opened a template, whatever happens while it is open:

* every action that starts a render tries the files that were handed over last and were new, with the answers that
  were handed over last, by themselves or with new files;
* a tick starts a render exactly if there are files, there was an edit since the last render, and the last such
  edit is at least the delay old;
* new files are rendered at once;
* edits within one window, from the first of them until the delay has passed, start no render while they come, and
  exactly one once they rest: that of the last of them, at the first tick after the delay. -/
theorem renders_follow_edits_of_run (start : TimedPreview) (template : String) (actions : List PreviewAction)
    (hactions : ∀ action ∈ actions, action.Following) :
    let opened := start.step (.open_ template)
    let state := opened.run actions
    let past := opened.past actions
    let delay := start.preview.delay
    (∀ action : PreviewAction, action.Following → state.Renders action →
        ∃ files answers, lastFiles? (state.moment action :: past) = some files ∧
          lastAnswers? (state.moment action :: past) = some answers ∧
          (state.step action).preview.Tried template files answers) ∧
      (state.Renders .tick ↔
        (∃ files, lastFiles? past = some files) ∧
          ∃ edit, lastEdit? past = some edit ∧ edit + delay ≤ state.clock.now) ∧
      (∀ files answers, (state.preview.filesChanged files answers).1 = true →
        state.Renders (.filesChanged files answers)) ∧
      ∀ files first burst, lastFiles? past = some files →
        (∀ action ∈ burst, action.Pauses ∨ action.Edits) →
        (∀ earlier, earlier <+: burst →
          state.clock.now ≤ (state.run (.answersChanged first :: earlier)).clock.now ∧
            (state.run (.answersChanged first :: earlier)).clock.now < state.clock.now + delay) →
        let edited := state.run (.answersChanged first :: burst)
        let editedPast := opened.past (actions ++ .answersChanged first :: burst)
        edited.preview.renders = state.preview.renders ∧
          ∃ edit answers, lastEdit? editedPast = some edit ∧ lastAnswers? editedPast = some answers ∧
            ∀ wait, (∀ action ∈ wait, action.Pauses) → edit + delay ≤ (edited.run wait).clock.now →
              edited.RendersOnce template files answers (wait ++ [.tick]) := by
  intro opened state past delay
  have hagrees : state.preview.Agrees template delay past := agrees_run start template hactions
  refine ⟨fun action haction => (follows_step hagrees haction).tried, renders_tick_iff hagrees,
    fun files answers => renders_filesChanged hagrees.opened, ?_⟩
  intro files first burst hfiles hburst hwindow edited editedPast
  have hedited : ∀ action ∈ actions ++ .answersChanged first :: burst, action.Following := by
    simp only [List.mem_append, List.mem_cons]
    rintro action (hearlier | rfl | hlater)
    · exact hactions action hearlier
    · trivial
    · exact (hburst action hlater).elim PreviewAction.Pauses.following PreviewAction.Edits.following
  have hlater := agrees_run start template hedited
  rw [run_append] at hlater
  exact rendersOnce_of_edits hagrees hfiles hburst hwindow hlater

/-- Two edits half a second apart are one render of the second, 800 milliseconds after it. -/
theorem rendersOnce_of_two_edits :
    let files : FileSet := .singleton "index.html" "Hello {name}!"
    let ada : AnswerSet := .singleton "name" (.text "Ada")
    let grace : AnswerSet := .singleton "name" (.text "Grace")
    let start : TimedPreview := ⟨.start, .start .empty {}⟩
    let actions : List PreviewAction := [.filesChanged files ∅, .advanceClock 9, .tick]
    let burst : List PreviewAction := [.advanceClock 500, .answersChanged grace]
    let state := (start.step (.open_ "t")).run actions
    let edited := state.run (.answersChanged ada :: burst)
    (∀ action ∈ actions, action.Following) ∧ state.preview.renders = 1 ∧ edited.preview.renders = 1 ∧
      edited.RendersOnce "t" files grace [.advanceClock 800, .tick] := by
  intro files ada grace start actions burst state edited
  have hactions : ∀ action ∈ actions, action.Following := by simp [actions, PreviewAction.Following]
  have hstart : state.preview.renders = 1 := by decide +kernel
  obtain ⟨-, -, -, hedits⟩ := renders_follow_edits_of_run start "t" actions hactions
  have hfiles : lastFiles? ((start.step (.open_ "t")).past actions) = some files := by decide +kernel
  have hburst : ∀ action ∈ burst, action.Pauses ∨ action.Edits := by
    simp [burst, PreviewAction.Pauses, PreviewAction.Edits]
  have hwindow : ∀ earlier, earlier <+: burst →
      state.clock.now ≤ (state.run (.answersChanged ada :: earlier)).clock.now ∧
        (state.run (.answersChanged ada :: earlier)).clock.now < state.clock.now + 800 := by
    simp only [burst, List.prefix_cons_iff, List.prefix_nil]
    rintro _ (rfl | ⟨_, rfl, rfl | ⟨_, rfl, rfl⟩⟩)
    all_goals decide +kernel
  obtain ⟨hquiet, edit, answers, hedit, hanswers, honce⟩ := hedits files ada burst hfiles hburst hwindow
  have hlast : edit = 509 := Option.some.inj (hedit.symm.trans (by decide +kernel))
  have hgrace : answers = grace := Option.some.inj (hanswers.symm.trans (by decide +kernel))
  subst hlast hgrace
  exact ⟨hactions, hstart, hquiet.trans hstart,
    honce [.advanceClock 800] (by simp [PreviewAction.Pauses]) (by decide +kernel)⟩

end TimedPreview

end SiteBuilder.Preview
