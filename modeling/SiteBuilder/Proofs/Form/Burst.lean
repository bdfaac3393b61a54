import SiteBuilder.Proofs.Form.Arrival
import SiteBuilder.Proofs.Form.Flushes

/-!
# Bursts of writes

In a burst, every write comes before the window after the write before it has passed. The queue gathers the writes,
and as its due time starts again with each of them, no flush finds it due before the burst is over. The first flush
that is not too early after that commits all of them in one change and one draft.

Nothing is assumed of the clock: times are what it shows, also after it has started over.
-/

namespace SiteBuilder

variable {σ : Type}

namespace FormAction

/-- The action is part of a pause: time passes, or somebody flushes what is due. -/
def Pauses : FormAction σ → Prop
  | .flushDue | .advanceClock _ => True
  | _ => False

/-- The time that passes in a pause. -/
def pauseLength : List (FormAction σ) → Nat
  | [] => 0
  | .advanceClock span :: rest => span.toNat + pauseLength rest
  | _ :: rest => pauseLength rest

end FormAction

/-- Writes of batches in their order, with pauses between them that are shorter than the window. -/
inductive Burst (window : Nat) : List AnswerSet → List (FormAction σ) → Prop where
  | last (batch : AnswerSet) : Burst window [batch] [.update batch]
  | next (batch : AnswerSet) {pause : List (FormAction σ)} (hpause : ∀ action ∈ pause, action.Pauses)
      (hshort : FormAction.pauseLength pause < window) {batches : List AnswerSet} {actions : List (FormAction σ)}
      (h : Burst window batches actions) : Burst window (batch :: batches) (.update batch :: (pause ++ actions))

/-- Answers with typed batches written over them, one after the other. -/
def writtenOver (loaded : Option TemplateConfig) (answers : AnswerSet) (batches : List AnswerSet) : AnswerSet :=
  batches.foldl (fun answers batch => answers.overlay (written loaded batch)) answers

/-- Batches may be written over one another before they are written over answers. -/
theorem overlay_writtenOver (loaded : Option TemplateConfig) (answers queued : AnswerSet) (batches : List AnswerSet) :
    answers.overlay (writtenOver loaded queued batches) = writtenOver loaded (answers.overlay queued) batches := by
  induction batches generalizing queued with
  | nil => rfl
  | cons batch rest ih =>
    simp only [writtenOver, List.foldl_cons] at ih ⊢
    rw [ih, NameMap.overlay_assoc]

/-- A batch that is taken is written as it is typed. -/
theorem eq_written_of_coerceAll {loaded : Option TemplateConfig} {batch typed : AnswerSet}
    (h : coerceAll loaded batch = .ok typed) : typed = written loaded batch := by
  cases loaded with
  | none =>
    cases h
    rfl
  | some config => exact (coerceAll_eq_ok_iff.mp h).2

namespace FormSession

/-- Since a session was at `before`, nothing has been committed and nothing but its queue has changed in what it
holds. -/
structure Uncommitted (before after : FormSession σ) : Prop where
  templateId : after.templateId = before.templateId
  config : after.config = before.config
  answers : after.answers = before.answers
  drafts : after.drafts = before.drafts
  revision : after.revision = before.revision
  window : after.window = before.window

variable {session before after : FormSession σ}

/-- What is not committed in either of two parts is not committed. -/
theorem Uncommitted.trans (h : before.Uncommitted session) (hafter : session.Uncommitted after) :
    before.Uncommitted after :=
  ⟨hafter.templateId.trans h.templateId, hafter.config.trans h.config, hafter.answers.trans h.answers,
    hafter.drafts.trans h.drafts, hafter.revision.trans h.revision, hafter.window.trans h.window⟩

/-- A write that is taken is queued with what waits already, and its window starts. -/
theorem update_of_taken {batch typed : AnswerSet} (htaken : coerceAll session.config batch = .ok typed) (now : Nat) :
    session.Uncommitted (session.update now batch).2 ∧
      (session.update now batch).2.queue =
        ⟨some ⟨now + session.window, session.queued.overlay (written session.config batch)⟩⟩ := by
  have hupdate : (session.update now batch).2 = session.enqueue now typed := by
    simp only [update, htaken]
  rw [hupdate, ← eq_written_of_coerceAll htaken]
  exact ⟨⟨rfl, rfl, rfl, rfl, rfl, rfl⟩, rfl⟩

variable {due : Nat} {batch : AnswerSet}

/-- What waits is the batch in the queue. -/
theorem queued_of_queue (hqueue : session.queue = ⟨some ⟨due, batch⟩⟩) : session.queued = batch := by
  rw [queued, hqueue]
  rfl

variable [DraftStore σ]

/-- A flush that comes too early does nothing. -/
theorem flushDue_of_early (hqueue : session.queue = ⟨some ⟨due, batch⟩⟩) {now : Nat} (hearly : now < due) :
    session.flushDue now = (false, session) := by
  have hpoll : (session.queue.poll now).1 = none := by
    simp [hqueue, Timer.poll, Nat.not_le.mpr hearly]
  rw [flushDue_eq_afterTaking, hpoll]
  rfl

/-- A flush that is not too early takes the whole queue. -/
theorem flushDue_of_due (hqueue : session.queue = ⟨some ⟨due, batch⟩⟩) {now : Nat} (hdue : due ≤ now) :
    session.flushDue now = session.afterTaking (some batch) := by
  have hpoll : (session.queue.poll now).1 = some batch := by
    simp [hqueue, Timer.poll, hdue]
  rw [flushDue_eq_afterTaking, hpoll]

/-- A flush finds nothing where no queue is. -/
theorem flushDue_of_idle (hidle : session.queue = .idle) (now : Nat) : session.flushDue now = (false, session) := by
  rw [flushDue_eq_afterTaking, hidle]
  rfl

end FormSession

namespace TimedForm

variable [DraftStore σ]

/-- Something holds whenever a run comes to a flush of what is due. -/
def EachFlush (holds : TimedForm σ → Prop) (state : TimedForm σ) : List (FormAction σ) → Prop
  | [] => True
  | action :: rest => (action = .flushDue → holds state) ∧ EachFlush holds (state.step action).2 rest

/-- A flush of what is due reports nothing and does nothing. -/
def FlushIsSilent (state : TimedForm σ) : Prop := state.step .flushDue = (.flushed false, state)

variable {holds : TimedForm σ → Prop} {state : TimedForm σ} {due : Nat} {batch : AnswerSet}

/-- The flushes of a run are those of its first part and those of its second. -/
theorem eachFlush_append {earlier later : List (FormAction σ)} :
    state.EachFlush holds (earlier ++ later) ↔
      state.EachFlush holds earlier ∧ (state.run earlier).EachFlush holds later := by
  induction earlier generalizing state with
  | nil => simp [EachFlush]
  | cons action rest ih => simp [EachFlush, ih, and_assoc]

/-! ## Pauses -/

/-- In a pause in which every flush comes too early, nothing happens but that time passes. -/
theorem run_pause (hqueue : state.session.queue = ⟨some ⟨due, batch⟩⟩) {pause : List (FormAction σ)}
    (hpause : ∀ action ∈ pause, action.Pauses) (hearly : state.EachFlush (·.clock.now < due) pause) :
    (state.run pause).session = state.session ∧ state.EachFlush FlushIsSilent pause := by
  induction pause generalizing state with
  | nil => exact ⟨rfl, trivial⟩
  | cons action rest ih =>
    obtain ⟨hfirst, hrest⟩ := hearly
    have hlater : ∀ later ∈ rest, later.Pauses := fun later hmem => hpause later (List.mem_cons_of_mem _ hmem)
    cases action with
    | flushDue =>
      have hsilent : state.FlushIsSilent := by
        rw [FlushIsSilent, step, state.session.flushDue_of_early hqueue (hfirst rfl)]
      have hsame : (state.step .flushDue).2 = state := congrArg Prod.snd hsilent
      rw [hsame] at hrest
      obtain ⟨hsession, hflushes⟩ := ih hqueue hlater hrest
      refine ⟨?_, fun _ => hsilent, ?_⟩
      · rw [run_cons, hsame]
        exact hsession
      · rw [hsame]
        exact hflushes
    | advanceClock span =>
      have hkept : (state.step (.advanceClock span)).2.session.queue = ⟨some ⟨due, batch⟩⟩ := hqueue
      obtain ⟨hsession, hflushes⟩ := ih hkept hlater hrest
      exact ⟨hsession, fun h => (by cases h), hflushes⟩
    | _ => exact (hpause _ List.mem_cons_self).elim

/-- In a pause that is shorter than the time that is left, every flush comes too early. -/
theorem eachFlush_early_of_short (hqueue : state.session.queue = ⟨some ⟨due, batch⟩⟩) {pause : List (FormAction σ)}
    (hpause : ∀ action ∈ pause, action.Pauses) (hshort : state.clock.now + FormAction.pauseLength pause < due) :
    state.EachFlush (·.clock.now < due) pause := by
  induction pause generalizing state with
  | nil => trivial
  | cons action rest ih =>
    have hlater : ∀ later ∈ rest, later.Pauses := fun later hmem => hpause later (List.mem_cons_of_mem _ hmem)
    cases action with
    | flushDue =>
      have hnow : state.clock.now < due := by
        simp only [FormAction.pauseLength] at hshort
        omega
      have hsame : (state.step .flushDue).2 = state := by
        rw [step, state.session.flushDue_of_early hqueue hnow]
      refine ⟨fun _ => hnow, ?_⟩
      rw [hsame]
      exact ih hqueue hlater hshort
    | advanceClock span =>
      have hpassed : (state.clock.advance span).now ≤ state.clock.now + span.toNat := by
        simp only [Clock.now, Clock.advance, UInt64.toNat_add]
        exact Nat.mod_le _ _
      refine ⟨fun h => (by cases h), ih hqueue hlater ?_⟩
      simp only [FormAction.pauseLength] at hshort
      show (state.clock.advance span).now + FormAction.pauseLength rest < due
      omega
    | _ => exact (hpause _ List.mem_cons_self).elim

/-! ## Bursts -/

/-- After a burst, its writes wait in the queue for a window from the last of them on, and nothing was committed. -/
theorem run_burst {window : Nat} {batches : List AnswerSet} {burst : List (FormAction σ)}
    (hburst : Burst window batches burst) (hwindow : state.session.window = window)
    (htaken : ∀ batch ∈ batches,
      batch.isEmpty = false ∧ ∃ typed, coerceAll state.session.config batch = .ok typed) :
    let gathered := writtenOver state.session.config state.session.queued batches
    state.session.Uncommitted (state.run burst).session ∧
      (state.run burst).session.queue = ⟨some ⟨(state.run burst).clock.now + window, gathered⟩⟩ ∧
      gathered.isEmpty = false ∧ state.EachFlush FlushIsSilent burst := by
  induction hburst generalizing state with
  | last batch =>
    obtain ⟨hanswers, typed, htyped⟩ := htaken batch (List.mem_singleton.mpr rfl)
    obtain ⟨hkept, hqueue⟩ := FormSession.update_of_taken htyped state.clock.now
    rw [hwindow] at hqueue
    refine ⟨hkept, hqueue, ?_, nofun, trivial⟩
    simp [writtenOver, NameMap.isEmpty_overlay, ← eq_written_of_coerceAll htyped, isEmpty_of_coerceAll htyped, hanswers]
  | @next batch pause hpause hshort batches actions h ih =>
    obtain ⟨-, typed, htyped⟩ := htaken batch List.mem_cons_self
    obtain ⟨hkept, hqueue⟩ := FormSession.update_of_taken htyped state.clock.now
    let wrote : TimedForm σ := (state.step (.update batch)).2
    have hearly : wrote.EachFlush (·.clock.now < state.clock.now + state.session.window) pause :=
      eachFlush_early_of_short hqueue hpause (by rw [hwindow]; exact Nat.add_lt_add_left hshort _)
    obtain ⟨hpaused, hsilent⟩ := run_pause hqueue hpause hearly
    have hqueued : (wrote.run pause).session.queued =
        state.session.queued.overlay (written state.session.config batch) := by
      rw [hpaused]
      exact FormSession.queued_of_queue hqueue
    have hconfig : (wrote.run pause).session.config = state.session.config := by
      rw [hpaused]
      exact hkept.config
    have hlater : ∀ batch ∈ batches,
        batch.isEmpty = false ∧ ∃ typed, coerceAll (wrote.run pause).session.config batch = .ok typed := by
      rw [hconfig]
      exact fun batch hbatch => htaken batch (List.mem_cons_of_mem _ hbatch)
    obtain ⟨hrest, hend, hanswers, hflushes⟩ := ih (by rw [hpaused]; exact hkept.window.trans hwindow) hlater
    rw [hpaused] at hrest
    rw [hqueued, hconfig] at hend hanswers
    rw [run_cons, run_append]
    refine ⟨hkept.trans hrest, hend, hanswers, nofun, ?_⟩
    exact eachFlush_append.mpr ⟨hsilent, hflushes⟩

/-- From any session with a template, a burst of writes that are taken and not empty is one change. No flush of what
is due commits anything in the burst, nor after it before the window has passed since the last write. The first flush
from then on reports a commit, raises the revision by one and saves one draft, that of the answers, which are now the
old ones with the batch that was queued at the start and then all writes over them in their order. A store that works
hands out what it keeps of these answers. Another flush finds nothing. -/
theorem commits_once_of_burst (start : TimedForm σ) (id : String) (htemplate : start.session.templateId = some id)
    (batches : List AnswerSet) (burst : List (FormAction σ)) (hburst : Burst start.session.window batches burst)
    (htaken : ∀ batch ∈ batches, batch.isEmpty = false ∧ ∃ typed, coerceAll start.session.config batch = .ok typed)
    (wait : List (FormAction σ)) (hwait : ∀ action ∈ wait, action.Pauses)
    (hearly : (start.run burst).EachFlush
      (·.clock.now < (start.run burst).clock.now + start.session.window) wait) :
    let waited := start.run (burst ++ wait)
    let flushed := (waited.step .flushDue).2
    start.EachFlush FlushIsSilent (burst ++ wait) ∧
      ((start.run burst).clock.now + start.session.window ≤ waited.clock.now →
        (waited.step .flushDue).1 = .flushed true ∧
          flushed.session.revision = start.session.revision + 1 ∧
          flushed.session.answers = writtenOver start.session.config
            (start.session.answers.overlay start.session.queued) batches ∧
          start.session.SavedOnce flushed.session ∧
          (∀ (works : σ → Prop) (kept : AnswerSet → Option AnswerSet), DraftStore.Reliable works kept →
            works start.session.drafts →
              DraftStore.load flushed.session.drafts id = .ok (kept flushed.session.answers)) ∧
          ∀ now, flushed.session.flushDue now = (false, flushed.session)) := by
  intro waited flushed
  obtain ⟨hkept, hqueue, hanswers, hburstSilent⟩ := run_burst hburst rfl htaken
  obtain ⟨hpaused, hwaitSilent⟩ := run_pause hqueue hwait hearly
  have hwaited : waited.session = (start.run burst).session := by
    rw [← hpaused, ← run_append]
  rw [← hwaited] at hkept hqueue
  refine ⟨eachFlush_append.mpr ⟨hburstSilent, hwaitSilent⟩, fun hdue => ?_⟩
  have hflush := waited.session.flushDue_of_due hqueue hdue
  have hflushed : flushed.session = (waited.session.afterTaking
      (some (writtenOver start.session.config start.session.queued batches))).2 := congrArg Prod.snd hflush
  obtain ⟨hwritten, hrevision, hsaved⟩ := waited.session.afterTaking_of_answers hanswers
  rw [← hflushed] at hwritten hrevision hsaved
  have honce : start.session.SavedOnce flushed.session := by
    rw [FormSession.SavedOnce, hkept.templateId, hkept.drafts] at hsaved
    exact hsaved
  refine ⟨congrArg (FormReply.flushed ∘ Prod.fst) hflush, ?_, ?_, honce, ?_, ?_⟩
  · rw [hrevision, hkept.revision]
  · rw [hwritten, hkept.answers, overlay_writtenOver]
  · intro works kept hstore hworks
    exact honce.load_eq hstore hworks htemplate
  · have hidle : flushed.session.queue = .idle := by
      rw [hflushed]
      exact FormSession.queue_commit _ _
    exact fun now => FormSession.flushDue_of_idle hidle now

/-- Two writes, the second of two fields, follow a queued one; the window has passed since only when the last flush
comes. -/
theorem commits_once_of_two_writes :
    let form := TemplateConfig.simple [("hire", .boolean), ("bio", .text)]
    let opening : List (FormAction MemoryDrafts) :=
      [.selectTemplate "t", .applyConfig form, .update (.singleton "age" (.text "36"))]
    let start : TimedForm MemoryDrafts := run ⟨.start, .start .empty {}⟩ opening
    let first : AnswerSet := .singleton "bio" (.text "A")
    let second : AnswerSet := .ofList [("hire", .text " true"), ("bio", .text "Ada")]
    let burst : List (FormAction MemoryDrafts) :=
      .update first :: ([.advanceClock 10, .flushDue, .advanceClock 5] ++ [.update second])
    let wait : List (FormAction MemoryDrafts) := [.advanceClock 15, .flushDue, .advanceClock 1]
    let waited := start.run (burst ++ wait)
    let flushed := (waited.step .flushDue).2
    start.session.templateId = some "t" ∧
      Burst start.session.window [first, second] burst ∧
      (start.run burst).clock.now + start.session.window ≤ waited.clock.now ∧
      start.EachFlush FlushIsSilent (burst ++ wait) ∧
      flushed.session.revision = start.session.revision + 1 ∧
      flushed.session.drafts.writes = start.session.drafts.writes + 1 ∧
      DraftStore.load flushed.session.drafts "t" = .ok (some flushed.session.answers) := by
  intro form opening start first second burst wait
  have htemplate : start.session.templateId = some "t" := rfl
  have hworks : start.session.drafts.working = true := rfl
  have hburst : Burst start.session.window [first, second] burst := by
    refine .next first ?_ ?_ (.last second)
    · simp [FormAction.Pauses]
    · decide
  have htaken : ∀ batch ∈ [first, second],
      batch.isEmpty = false ∧ ∃ typed, coerceAll start.session.config batch = .ok typed := by
    intro batch hbatch
    simp only [List.mem_cons, List.not_mem_nil, or_false] at hbatch
    rcases hbatch with rfl | rfl <;> exact ⟨rfl, _, rfl⟩
  have hwait : ∀ action ∈ wait, action.Pauses := by simp [wait, FormAction.Pauses]
  have hearly : (start.run burst).EachFlush
      (·.clock.now < (start.run burst).clock.now + start.session.window) wait :=
    ⟨nofun, fun _ => by decide, nofun, trivial⟩
  have hdue : (start.run burst).clock.now + start.session.window ≤ (start.run (burst ++ wait)).clock.now := by decide
  obtain ⟨hsilent, hfirst⟩ :=
    commits_once_of_burst start "t" htemplate [first, second] burst hburst htaken wait hwait hearly
  obtain ⟨-, hrevision, -, hsaved, hload, -⟩ := hfirst hdue
  have hwrites := hsaved.writes_eq hworks htemplate
  exact ⟨htemplate, hburst, hdue, hsilent, hrevision, hwrites, hload _ _ MemoryDrafts.reliable hworks⟩

end TimedForm

end SiteBuilder
