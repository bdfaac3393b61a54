import Mathlib.Logic.Function.Iterate
import SiteBuilder.Proofs.Form.Commits
import SiteBuilder.Proofs.Preview.Debounce
import SiteBuilder.Proofs.Preview.UpToDate
import SiteBuilder.Proofs.Studio.Request

/-!
# Coming to rest

An idle program lets the time pass until something of its studio is due, and ticks. Such a round takes the queue of the
form, which makes the preview wait once more, or it takes the answers that wait to be rendered. So a studio that is left
alone has at most three rounds to go: a render, a flush and the render of what was flushed.

A render needs a template that is open and its files. The preview of a studio has both whenever answers wait, unless
someone has closed it, handed it files or selected a template without asking the studio.
-/

namespace SiteBuilder

namespace Timer

universe u

variable {α : Type u} {timer : Timer α}

/-- A task waits unless the timer is idle. -/
theorem isPending_eq_false_iff : timer.isPending = false ↔ timer = .idle := by
  rw [isPending, Option.isSome_eq_false_iff, Option.isNone_iff_eq_none]
  exact ⟨congrArg Timer.mk, congrArg Timer.slot⟩

/-- No time is left exactly if no task waits. -/
theorem remaining?_eq_none_iff {now : Nat} : timer.remaining? now = none ↔ timer = .idle := by
  rw [remaining?, Option.map_eq_none_iff]
  exact ⟨congrArg Timer.mk, congrArg Timer.slot⟩

/-- Once the time that is left has passed, the task is handed back. -/
theorem exists_poll_of_remaining? {now span : Nat} (h : timer.remaining? now = some span) :
    ∃ task, timer.poll (now + span) = (some task, .idle) := by
  obtain ⟨⟨due, task⟩, hslot, rfl⟩ := Option.map_eq_some_iff.mp h
  have hdue : due ≤ now + (due - now) := by omega
  refine ⟨task, ?_⟩
  rw [poll, hslot]
  exact if_pos hdue

end Timer

namespace Studio

variable {σ : Type} {studio : Studio σ} {now span : Nat}

/-- Nothing is due exactly if neither writes nor answers wait. -/
theorem nextDeadline?_eq_none_iff :
    studio.nextDeadline? now = none ↔ studio.form.queue = .idle ∧ studio.preview.updates = .idle := by
  have hflush : studio.form.nextFlush? now = none ↔ studio.form.queue = .idle := Timer.remaining?_eq_none_iff
  have hupdate : studio.preview.nextUpdate? now = none ↔ studio.preview.updates = .idle :=
    Timer.remaining?_eq_none_iff
  rw [← hflush, ← hupdate, nextDeadline?]
  cases studio.form.nextFlush? now <;> cases studio.preview.nextUpdate? now <;> simp

/-- What is due first is the queue of the form or the answers that wait to be rendered. -/
theorem due_of_nextDeadline? (h : studio.nextDeadline? now = some span) :
    studio.form.queue.remaining? now = some span ∨ studio.preview.updates.remaining? now = some span := by
  unfold nextDeadline? FormSession.nextFlush? Preview.Scheduler.nextUpdate? at h
  cases hflush : studio.form.queue.remaining? now with
  | none =>
    rw [hflush] at h
    exact .inr h
  | some flush =>
    cases hupdate : studio.preview.updates.remaining? now with
    | none =>
      rw [hflush, hupdate] at h
      exact .inl h
    | some update =>
      rw [hflush, hupdate, Option.some.injEq] at h
      rcases Nat.le_total flush update with hle | hle
      · rw [Nat.min_eq_left hle] at h
        exact .inl (congrArg some h)
      · rw [Nat.min_eq_right hle] at h
        exact .inr (congrArg some h)

/-- The most rounds that a studio has to go: one for the answers that wait to be rendered, and two for the queue of the
form, as the preview has to render what is flushed. -/
def roundsLeft (studio : Studio σ) : Nat :=
  (if studio.form.queue.isPending then 2 else 0) + if studio.preview.updates.isPending then 1 else 0

/-- There are never more than three. -/
theorem roundsLeft_le (studio : Studio σ) : studio.roundsLeft ≤ 3 := by
  unfold roundsLeft
  split <;> split <;> omega

/-- No rounds are left exactly if nothing is due. -/
theorem roundsLeft_eq_zero_iff : studio.roundsLeft = 0 ↔ studio.nextDeadline? now = none := by
  rw [nextDeadline?_eq_none_iff, ← Timer.isPending_eq_false_iff, ← Timer.isPending_eq_false_iff, roundsLeft]
  cases studio.form.queue.isPending <;> cases studio.preview.updates.isPending <;> simp

/-- A studio opens the preview of the template it selects: one without a template has no files, and none is selected. -/
def PreviewOpen (studio : Studio σ) : Prop :=
  studio.preview.templateId = none → studio.form.templateId = none ∧ studio.preview.files = none

/-- Other answers, a template that is cleared and targets make no difference to whether the preview is open. -/
theorem PreviewOpen.of_eq (h : studio.PreviewOpen) {other : Studio σ}
    (hform : other.form.templateId = none ∨ other.form.templateId = studio.form.templateId)
    (htemplate : other.preview.templateId = studio.preview.templateId)
    (hfiles : other.preview.files = studio.preview.files) : other.PreviewOpen := by
  intro hnone
  obtain ⟨hselected, hmissing⟩ := h (htemplate.symm.trans hnone)
  exact ⟨hform.elim id fun hsame => hsame.trans hselected, hfiles.trans hmissing⟩

variable [DraftStore σ]

/-- A tick at the time something is due empties the queue of the form, or renders the answers that wait. -/
theorem tick_of_nextDeadline? (h : studio.nextDeadline? now = some span) :
    (studio.form.queue.isPending = true ∧ (studio.tick (now + span)).2.form.queue = .idle) ∨
      studio.preview.updates.isPending = true ∧ ∃ answers, studio.tick (now + span) =
        (true, { studio with preview := { studio.preview with updates := .idle }.recompute answers }) := by
  rcases studio.form.queue.poll_cases (now + span) with ⟨batch, hbatch, hpoll⟩ | hearly
  · left
    have hflush : studio.form.flushDue (now + span) = (true, { studio.form with queue := .idle }.commit batch) := by
      rw [FormSession.flushDue, hpoll]
    refine ⟨Option.isSome_map.symm.trans (congrArg Option.isSome hbatch), ?_⟩
    rw [tick, hflush]
    exact FormSession.queue_commit _ _
  · -- The form is not what is due, so the preview is.
    right
    have hupdate : studio.preview.updates.remaining? now = some span := by
      refine (due_of_nextDeadline? h).resolve_left fun hflush => ?_
      obtain ⟨batch, hpoll⟩ := Timer.exists_poll_of_remaining? hflush
      cases hearly.symm.trans hpoll
    obtain ⟨answers, hpoll⟩ := Timer.exists_poll_of_remaining? hupdate
    have hflush : studio.form.flushDue (now + span) = (false, studio.form) := by
      rw [FormSession.flushDue, hearly]
    refine ⟨Option.isSome_map.symm.trans (congrArg Option.isSome hupdate), answers, ?_⟩
    rw [tick, hflush]
    simp only [Bool.false_eq_true, ↓reduceIte, Preview.Scheduler.tick, hpoll]

/-- A tick at the time something is due leaves fewer rounds to go. -/
theorem roundsLeft_tick_lt (h : studio.nextDeadline? now = some span) :
    (studio.tick (now + span)).2.roundsLeft < studio.roundsLeft := by
  rcases tick_of_nextDeadline? h with ⟨hpending, hidle⟩ | ⟨hpending, answers, htick⟩
  · have hflushed : (studio.tick (now + span)).2.form.queue.isPending = false := Timer.isPending_eq_false_iff.mpr hidle
    simp only [roundsLeft, hpending, hflushed, Bool.false_eq_true, ↓reduceIte]
    split <;> split <;> omega
  · have hrendered : ({ studio.preview with updates := .idle }.recompute answers).updates.isPending = false := by
      rw [Preview.Scheduler.updates_recompute]
      rfl
    rw [htick, roundsLeft, roundsLeft, hrendered, hpending]
    simp

end Studio

namespace StudioRequest

variable {σ : Type} {m : Type → Type}

/-- Whether a request opens a template for the form alone, or closes the preview or hands it files behind the back of
the studio. -/
def Aside : StudioRequest σ m → Prop
  | .form (.selectTemplate _) => True
  | .preview .close => True
  | .preview (.filesChanged _ _) => True
  | _ => False

end StudioRequest

namespace TimedStudio

open Studio

variable {σ : Type} {state : TimedStudio σ}

/-- The clock does not start over before something is due. -/
def Fits (state : TimedStudio σ) : Prop :=
  ∀ span ∈ state.studio.nextDeadline? state.clock.now, state.clock.now + span < UInt64.size

instance : Decidable state.Fits :=
  inferInstanceAs (Decidable (∀ span ∈ state.studio.nextDeadline? state.clock.now, _ < _))

variable [DraftStore σ] {m : Type → Type}

/-- Actions that load nothing tell the preview new answers at most. -/
theorem inputs_preview_step (state : TimedStudio σ) {action : StudioAction σ} (haction : ¬Loads action) :
    ∃ answers, (state.step action).studio.preview.inputs = { state.studio.preview.inputs with answers } := by
  cases action with
  | selectTemplate | contentLoaded => exact absurd trivial haction
  | updateNow batch =>
    simp only [step, Studio.updateNow]
    rcases state.studio.form.updateNow batch with ⟨_ | _, form⟩
    · exact ⟨_, rfl⟩
    · exact ⟨_, state.studio.preview.inputs_answersChanged _ _⟩
  | resetForm => exact ⟨_, state.studio.preview.inputs_answersChanged _ _⟩
  | tick =>
    simp only [step, Studio.tick]
    rcases state.studio.form.flushDue state.clock.now with ⟨_ | _, form⟩
    · exact ⟨_, state.studio.preview.inputs_tick _⟩
    · exact ⟨_, (Preview.Scheduler.inputs_tick _ _).trans (state.studio.preview.inputs_answersChanged _ _)⟩
  | exportBundle =>
    rw [step, Studio.exportBundle_eq]
    split
    · split
      · exact ⟨_, state.studio.preview.inputs_answersChanged _ _⟩
      · exact ⟨_, rfl⟩
    · exact ⟨_, rfl⟩
  | targetLoaded generation => exact ⟨_, (state.studio.preview.targetLoaded_keeps generation).1⟩
  | retry => exact ⟨_, state.studio.preview.inputs_retry⟩
  | _ => exact ⟨_, rfl⟩

/-- Whatever happens to a studio, the preview of its template stays open. -/
theorem previewOpen_step (h : state.studio.PreviewOpen) (action : StudioAction σ) :
    (state.step action).studio.PreviewOpen := by
  by_cases hloads : Loads action
  · cases action with
    | selectTemplate id => exact fun hnone => nomatch hnone
    | contentLoaded id content =>
      simp only [step, Studio.contentLoaded]
      split
      · next hselected =>
        -- A template is selected, so the preview has it open, and new files leave it so.
        intro hnone
        have hkept : state.studio.preview.templateId = none := by
          by_cases hnew : state.studio.preview.files = some content.files
          · rwa [Preview.Scheduler.filesChanged_of_eq hnew] at hnone
          · rw [← hnone]
            exact (congrArg Preview.Scheduler.Inputs.templateId
              (Preview.Scheduler.inputs_filesChanged_of_ne hnew _)).symm
        cases hselected.symm.trans (h hkept).1
      · exact h
    | _ => exact hloads.elim
  · obtain ⟨answers, hinputs⟩ := inputs_preview_step state hloads
    exact h.of_eq (.inr (congrArg Prod.fst (kept_step hloads).2))
      (congrArg Preview.Scheduler.Inputs.templateId hinputs) (congrArg Preview.Scheduler.Inputs.files hinputs)

/-- No request but those made aside leaves a template selected whose preview is not open. -/
theorem previewOpen_next (h : state.studio.PreviewOpen) {request : StudioRequest σ m} (hrequest : ¬request.Aside) :
    (state.next request).studio.PreviewOpen := by
  cases request with
  | act action => exact previewOpen_step h action
  | form action =>
    refine h.of_eq ?_ rfl rfl
    have hedited (hediting : action.Editing) :
        (state.next (.form action : StudioRequest σ m)).studio.form.templateId = state.studio.form.templateId :=
      congrArg Prod.fst (state.timedForm.selection_step hediting)
    cases action with
    | selectTemplate id => exact absurd trivial hrequest
    | applyConfig | resetForm | changeDrafts => exact .inr rfl
    | clearTemplate => exact .inl rfl
    | _ => exact .inr (hedited trivial)
  | preview action =>
    have hkeep {preview : Preview.Scheduler} {answers : AnswerSet}
        (hinputs : preview.inputs = { state.studio.preview.inputs with answers }) :
        { state.studio with preview }.PreviewOpen :=
      h.of_eq (.inr rfl) (congrArg Preview.Scheduler.Inputs.templateId hinputs)
        (congrArg Preview.Scheduler.Inputs.files hinputs)
    cases action with
    | close | filesChanged => exact absurd trivial hrequest
    | open_ id => exact fun hnone => nomatch hnone
    | answersChanged answers => exact hkeep (state.studio.preview.inputs_answersChanged state.clock.now answers)
    | tick => exact hkeep (state.studio.preview.inputs_tick state.clock.now)
    | retry => exact hkeep state.studio.preview.inputs_retry
    | targetLoaded generation => exact hkeep (state.studio.preview.targetLoaded_keeps generation).1
    | advanceClock | changeRefusal => exact h
  | nextDeadline | renderedFiles => exact h
  | exportArchive name => exact previewOpen_step h .exportBundle
  | exportRemote exporter name description order => exact previewOpen_step h .exportBundle

/-- No requests but those made aside leave a template selected whose preview is not open. -/
theorem previewOpen_after (h : state.studio.PreviewOpen) {requests : List (StudioRequest σ m)}
    (hrequests : ∀ request ∈ requests, ¬request.Aside) : (state.after requests).studio.PreviewOpen := by
  induction requests generalizing state with
  | nil => exact h
  | cons request rest ih =>
    exact ih (previewOpen_next h (hrequests request List.mem_cons_self))
      fun later hlater => hrequests later (List.mem_cons_of_mem _ hlater)

/-- Requests keep the preview up to date with what it was told. -/
theorem upToDate_after (h : state.studio.preview.UpToDate) (requests : List (StudioRequest σ m)) :
    (state.after requests).studio.preview.UpToDate := by
  induction requests generalizing state with
  | nil => exact h
  | cons request rest ih =>
    exact ih (preview_next_induction Preview.Scheduler.UpToDate Preview.TimedPreview.upToDate_step h request)

/-! ## Rounds -/

/-- What an idle program does: it lets the time pass until something is due, and ticks. Once nothing is due it stops. -/
def round (state : TimedStudio σ) : TimedStudio σ :=
  match state.studio.nextDeadline? state.clock.now with
  | some span => (state.step (.advanceClock (.ofNat span))).step .tick
  | none => state

/-- A round ticks at the time at which something is due. -/
theorem studio_round {span : Nat} (hfits : state.Fits) (hdue : state.studio.nextDeadline? state.clock.now = some span) :
    state.round.studio = (state.studio.tick (state.clock.now + span)).2 := by
  have hspan : state.clock.now + span < UInt64.size := hfits span hdue
  have hsmall : (UInt64.ofNat span).toNat = span := UInt64.toNat_ofNat_of_lt' (by omega)
  have hnow : (state.clock.advance (.ofNat span)).now = state.clock.now + span := by
    rw [Clock.now_advance (by rwa [hsmall]), hsmall]
  rw [round, hdue, ← hnow]
  rfl

/-- A round empties the queue of the form. -/
def EmptiesQueue (state : TimedStudio σ) : Prop :=
  state.studio.form.queue.isPending = true ∧ state.round.studio.form.queue = .idle

/-- The tick of a round says that it started a render, and takes the answers that waited for it. -/
def TakesAnswers (state : TimedStudio σ) : Prop :=
  (∃ span ∈ state.studio.nextDeadline? state.clock.now, (state.studio.tick (state.clock.now + span)).1 = true) ∧
    state.studio.preview.updates.isPending = true ∧ state.round.studio.preview.updates = .idle

/-- A round starts a render. -/
def StartsRender (state : TimedStudio σ) : Prop :=
  state.round.studio.preview.renders = state.studio.preview.renders + 1

/-- A round that does not empty the queue takes the answers that wait, and starts a render if the preview is open. -/
theorem progress_round (hfits : state.Fits) (hdue : state.studio.nextDeadline? state.clock.now ≠ none) :
    state.EmptiesQueue ∨ state.TakesAnswers ∧
      (state.studio.preview.UpToDate → state.studio.PreviewOpen → state.StartsRender) := by
  obtain ⟨span, hspan⟩ := Option.ne_none_iff_exists'.mp hdue
  have hround := studio_round hfits hspan
  rcases tick_of_nextDeadline? hspan with ⟨hpending, hidle⟩ | ⟨hpending, answers, htick⟩
  · exact .inl ⟨hpending, hround ▸ hidle⟩
  · rw [htick] at hround
    refine .inr ⟨⟨⟨span, hspan, by rw [htick]⟩, hpending, ?_⟩, ?_⟩
    · rw [hround]
      exact Preview.Scheduler.updates_recompute answers
    · intro hupToDate hopen
      -- Answers wait for files that are there, and files are there of a template that is open.
      have hwaits : state.studio.preview.updates ≠ .idle := by
        rw [ne_eq, ← Timer.isPending_eq_false_iff, hpending]
        exact nofun
      let due : Preview.Scheduler := { state.studio.preview with updates := .idle }
      obtain ⟨files, hfiles⟩ : ∃ files, due.files = some files :=
        Option.ne_none_iff_exists'.mp (mt hupToDate.unscheduled hwaits)
      obtain ⟨id, htemplate⟩ : ∃ id, due.templateId = some id := by
        apply Option.ne_none_iff_exists'.mp
        intro hnone
        cases hfiles.symm.trans (hopen hnone).2
      have hend := Preview.Scheduler.renderEnd_recompute htemplate hfiles answers
      rw [StartsRender, hround]
      exact hend.renders_eq

/-- Rounds are requests. -/
theorem exists_after_eq_iterate_round (m : Type → Type) (state : TimedStudio σ) (n : Nat) :
    ∃ requests : List (StudioRequest σ m), (∀ request ∈ requests, ¬request.Aside) ∧
      round^[n] state = state.after requests := by
  induction n generalizing state with
  | zero => exact ⟨[], nofun, rfl⟩
  | succ n ih =>
    obtain ⟨later, hlater, hrounds⟩ := ih state.round
    rw [Function.iterate_succ_apply, hrounds, round]
    cases state.studio.nextDeadline? state.clock.now with
    | none => exact ⟨later, hlater, rfl⟩
    | some span =>
      refine ⟨.act (.advanceClock (.ofNat span)) :: .act .tick :: later, ?_, rfl⟩
      simpa [StudioRequest.Aside] using hlater

/-- With so many rounds left, nothing is due after as many rounds or less. -/
theorem exists_rest {bound : Nat} (hleft : state.studio.roundsLeft ≤ bound)
    (hfits : ∀ n < bound, (round^[n] state).Fits) :
    ∃ n ≤ bound, (∀ earlier < n,
        (round^[earlier] state).studio.nextDeadline? (round^[earlier] state).clock.now ≠ none) ∧
      (round^[n] state).studio.nextDeadline? (round^[n] state).clock.now = none := by
  induction bound generalizing state with
  | zero => exact ⟨0, Nat.le_refl _, nofun, roundsLeft_eq_zero_iff.mp (Nat.le_zero.mp hleft)⟩
  | succ bound ih =>
    cases hdue : state.studio.nextDeadline? state.clock.now with
    | none => exact ⟨0, Nat.zero_le _, nofun, hdue⟩
    | some span =>
      have hfewer : state.round.studio.roundsLeft < state.studio.roundsLeft := by
        have hnow : state.Fits := hfits 0 (Nat.zero_lt_succ bound)
        rw [studio_round hnow hdue]
        exact roundsLeft_tick_lt hdue
      obtain ⟨n, hn, hbusy, hrest⟩ :=
        ih (Nat.le_of_lt_succ (Nat.lt_of_lt_of_le hfewer hleft)) fun n hn => hfits (n + 1) (Nat.succ_lt_succ hn)
      refine ⟨n + 1, Nat.succ_le_succ hn, fun earlier hearlier => ?_, hrest⟩
      cases earlier with
      | zero => exact hdue ▸ Option.some_ne_none span
      | succ earlier => exact hbusy earlier (Nat.lt_of_succ_lt_succ hearlier)

/-- Whatever was asked of a studio, it comes to rest when it is left alone, unless the clock starts over meanwhile:
after three rounds or less nothing is due any more, no writes wait and no answers wait to be rendered. Every round up to
then has something due, and empties the queue of the form or takes the answers that wait. If the preview was never
closed or handed anything behind the back of the studio, it starts a render with them. -/
theorem rests_within_three_rounds_of_run (clock : Clock) (settings : Settings) (drafts : σ) (host : Preview.Host)
    (requests : List (StudioRequest σ m)) :
    let state := (initial clock settings drafts host).after requests
    (∀ n < 3, (round^[n] state).Fits) →
      ∃ n ≤ 3,
        (∀ earlier < n,
          (round^[earlier] state).studio.nextDeadline? (round^[earlier] state).clock.now ≠ none ∧
            ((round^[earlier] state).EmptiesQueue ∨ (round^[earlier] state).TakesAnswers) ∧
            ((∀ request ∈ requests, ¬request.Aside) →
              (round^[earlier] state).EmptiesQueue ∨ (round^[earlier] state).StartsRender)) ∧
          (round^[n] state).studio.nextDeadline? (round^[n] state).clock.now = none ∧
          (round^[n] state).studio.form.queue = .idle ∧ (round^[n] state).studio.preview.updates = .idle := by
  intro state hfits
  obtain ⟨n, hn, hbusy, hrest⟩ := exists_rest state.studio.roundsLeft_le hfits
  refine ⟨n, hn, fun earlier hearlier => ?_, hrest, nextDeadline?_eq_none_iff.mp hrest⟩
  obtain ⟨rounds, hrounds, hstate⟩ := exists_after_eq_iterate_round m state earlier
  have hupToDate : (round^[earlier] state).studio.preview.UpToDate := by
    rw [hstate]
    exact upToDate_after (upToDate_after (Preview.Scheduler.upToDate_of_files_none rfl rfl) requests) rounds
  have hopen (hrequests : ∀ request ∈ requests, ¬request.Aside) : (round^[earlier] state).studio.PreviewOpen := by
    rw [hstate]
    exact previewOpen_after (previewOpen_after (fun _ => ⟨rfl, rfl⟩) hrequests) hrounds
  have hprogress := progress_round (hfits earlier (Nat.lt_of_lt_of_le hearlier hn)) (hbusy earlier hearlier)
  exact ⟨hbusy earlier hearlier, hprogress.imp_right And.left,
    fun hrequests => hprogress.imp_right fun htaken => htaken.2 hupToDate (hopen hrequests)⟩

/-- A form that is reset at zero and written to 790 milliseconds later takes all three rounds: the render of the reset
at 800, the flush of the write at 806 and its render at 1606. -/
theorem rests_after_reset_and_write :
    let name : Field := ⟨"name", none, .text, some (.text "World"), none, none, [], false, .none⟩
    let content : TemplateContent := ⟨⟨none, none, [⟨"1", "", none, [name]⟩]⟩, .singleton "index.html" "Hi {name}"⟩
    let requests : List (StudioRequest MemoryDrafts Id) :=
      [.act (.selectTemplate "t"), .act (.contentLoaded "t" content), .act .resetForm, .act (.advanceClock 790),
        .act (.update (.singleton "name" (.text "Ada")))]
    let state := (initial .start {} .empty .empty).after requests
    (∀ n < 3, (round^[n] state).Fits) ∧ (∀ request ∈ requests, ¬request.Aside) ∧ state.StartsRender ∧
      (round^[1] state).EmptiesQueue ∧ (round^[2] state).StartsRender ∧ (round^[3] state).clock.now = 1606 ∧
        (round^[3] state).studio.form.queue = .idle ∧ (round^[3] state).studio.preview.updates = .idle := by
  intro name content requests state
  have hfits : ∀ n < 3, (round^[n] state).Fits := by decide +kernel
  have hrequests : ∀ request ∈ requests, ¬request.Aside := by simp [requests, StudioRequest.Aside]
  obtain ⟨n, hn, hbusy, hrest, hend⟩ :=
    rests_within_three_rounds_of_run Clock.start {} MemoryDrafts.empty Preview.Host.empty requests hfits
  have hidle : (round^[n] state).studio.form.queue = .idle ∧ (round^[n] state).studio.preview.updates = .idle := hend
  have hearly : ∀ earlier < 3,
      (round^[earlier] state).studio.nextDeadline? (round^[earlier] state).clock.now ≠ none := by decide +kernel
  obtain rfl : n = 3 := Nat.le_antisymm hn (Nat.le_of_not_lt fun hlt => hearly n hlt hrest)
  have hprogress (earlier : Nat) (hearlier : earlier < 3) :
      (round^[earlier] state).EmptiesQueue ∨ (round^[earlier] state).StartsRender :=
    (hbusy earlier hearlier).2.2 hrequests
  have hwritten : ¬(round^[0] state).EmptiesQueue := by
    rw [EmptiesQueue]
    decide +kernel
  have hquiet : ¬(round^[1] state).StartsRender := by
    rw [StartsRender]
    decide +kernel
  have hempty : ¬(round^[2] state).EmptiesQueue := by
    rw [EmptiesQueue]
    decide +kernel
  have hclock : (round^[3] state).clock.now = 1606 := by decide +kernel
  exact ⟨hfits, hrequests, (hprogress 0 (by decide)).resolve_left hwritten,
    (hprogress 1 (by decide)).resolve_right hquiet, (hprogress 2 (by decide)).resolve_left hempty,
    hclock, hidle⟩

end TimedStudio

end SiteBuilder
