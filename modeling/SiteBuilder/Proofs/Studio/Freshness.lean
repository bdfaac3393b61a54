import SiteBuilder.Proofs.Preview.UpToDate
import SiteBuilder.Proofs.Studio.Form

/-!
# What the preview of a studio shows

The studio tells its preview the answers of the form when it commits writes, resets the form or takes up
new files. Once nothing waits any more, the latest render is of the answers that were told last. They are
the answers of the form, with one exception: content that arrives again with the files that are there may
bring another form, which changes the answers without the preview being told.
-/

namespace SiteBuilder

namespace FormSession

variable {σ : Type} {session : FormSession σ} {known : AnswerSet}

/-- Someone who was told the answers `known` lacks the queued writes alone. -/
def Knows (session : FormSession σ) (known : AnswerSet) : Prop :=
  session.effectiveAnswers = known.overlay session.queued

/-- Whoever was told the effective answers lacks nothing else. -/
theorem knows_effectiveAnswers (session : FormSession σ) : session.Knows session.effectiveAnswers := by
  rw [Knows, effectiveAnswers_eq, NameMap.overlay_assoc, NameMap.overlay_self]

/-- Whoever was told the committed answers lacks the queue. -/
theorem knows_answers (session : FormSession σ) : session.Knows session.answers :=
  session.effectiveAnswers_eq

/-- What is known of a form depends on its answers and its queued writes alone. -/
theorem Knows.congr (h : session.Knows known) {other : FormSession σ} (hanswers : other.answers = session.answers)
    (hqueued : other.queued = session.queued) : other.Knows known := by
  rw [Knows, effectiveAnswers_eq, hanswers, hqueued, ← effectiveAnswers_eq]
  exact h

/-- Without queued writes all answers are known. -/
theorem Knows.eq_of_idle (h : session.Knows known) (hidle : session.queue = .idle) : session.answers = known := by
  have hqueued : session.queued = ∅ := by
    rw [queued, hidle]
    rfl
  rw [Knows, effectiveAnswers_of_idle hidle, hqueued, NameMap.overlay_empty] at h
  exact h

/-- Queueing more writes leaves known what was known. -/
theorem Knows.update (h : session.Knows known) (now : Nat) (batch : AnswerSet) :
    (session.update now batch).2.Knows known := by
  rw [Knows, effectiveAnswers_eq] at h
  unfold FormSession.update
  split
  · next typed _ =>
    calc (session.enqueue now typed).effectiveAnswers
        = (session.answers.overlay session.queued).overlay typed := by
          rw [NameMap.overlay_assoc]
          exact (session.enqueue now typed).effectiveAnswers_eq
      _ = known.overlay (session.enqueue now typed).queued := by
          rw [h, NameMap.overlay_assoc]
          rfl
  · rw [Knows, effectiveAnswers_eq]
    exact h

/-- Flushing a queue of nothing leaves known what was known. -/
theorem Knows.flushNow [DraftStore σ] (h : session.Knows known) (hqueued : session.queued = ∅) :
    session.flushNow.2.Knows known := by
  refine h.congr ?_ ?_
  · rw [answers_flushNow, effectiveAnswers_eq, hqueued, NameMap.overlay_empty]
  · rw [hqueued, queued, queue_flushNow]
    rfl

end FormSession

namespace Studio

variable {σ : Type}

/-- The preview of a studio was told the template that is selected, its files and the answers `known`, and
it is up to date with them. -/
structure Joined (studio : Studio σ) (known : AnswerSet) : Prop where
  upToDate : studio.preview.UpToDate
  inputs : studio.preview.inputs = ⟨studio.form.templateId, studio.files, known⟩
  opened : studio.form.templateId = none → studio.files = none

/-- The preview of a new studio was told nothing. -/
theorem joined_start (settings : Settings) (drafts : σ) (host : Preview.Host) :
    (start settings drafts host).Joined ∅ :=
  ⟨Preview.Scheduler.upToDate_of_files_none rfl rfl, rfl, fun _ => rfl⟩

variable {studio : Studio σ} {known : AnswerSet}

/-- A preview that is told the answers of the form knows them. -/
theorem Joined.answersChanged (h : studio.Joined known) (now : Nat) :
    (studio.answersChanged now).Joined studio.form.answers where
  upToDate := h.upToDate.answersChanged now studio.form.answers
  inputs := by
    rw [Studio.answersChanged, Preview.Scheduler.inputs_answersChanged, h.inputs]
  opened := h.opened

/-- A form that changes without its template changing is no news to the preview. -/
theorem Joined.withForm (h : studio.Joined known) (form : FormSession σ)
    (hselection : form.selection = studio.form.selection) : { studio with form }.Joined known := by
  have htemplate : form.templateId = studio.form.templateId := congrArg Prod.fst hselection
  refine ⟨h.upToDate, ?_, ?_⟩
  · rw [htemplate]
    exact h.inputs
  · rw [htemplate]
    exact h.opened

/-- A preview that stays up to date with what it was told stays joined to its studio. -/
theorem Joined.withPreview (h : studio.Joined known) {preview : Preview.Scheduler}
    (hupToDate : preview.UpToDate) (hinputs : preview.inputs = studio.preview.inputs) :
    { studio with preview }.Joined known :=
  ⟨hupToDate, hinputs.trans h.inputs, h.opened⟩

/-- A preview that waits for nothing has rendered what it was told last. -/
theorem Joined.latest_eq (h : studio.Joined known) {files : FileSet} (hfiles : studio.files = some files)
    (hidle : studio.preview.updates = .idle) : studio.preview.latest = some (files, known) := by
  have hinputs := h.inputs
  simp only [Preview.Scheduler.inputs, Preview.Scheduler.Inputs.mk.injEq] at hinputs
  obtain ⟨htemplate, hknown, rfl⟩ := hinputs
  cases hselected : studio.form.templateId with
  | none => cases hfiles.symm.trans (h.opened hselected)
  | some id => exact h.upToDate.rendered id files (htemplate.trans hselected) (hknown.trans hfiles) hidle

/-- Content of the selected template with files that are new is told with the effective answers. -/
theorem Joined.contentLoaded_of_ne (h : studio.Joined known) (now : Nat) {id : String}
    {content : TemplateContent} (hselected : studio.form.templateId = some id)
    (hnew : studio.files ≠ some content.files) :
    (studio.contentLoaded now id content).2.Joined (studio.form.applyConfig now content.config).effectiveAnswers := by
  have htemplate : studio.preview.templateId = studio.form.templateId :=
    congrArg Preview.Scheduler.Inputs.templateId h.inputs
  have hfiles : studio.preview.files ≠ some content.files := by
    rw [show studio.preview.files = studio.files from congrArg Preview.Scheduler.Inputs.files h.inputs]
    exact hnew
  rw [contentLoaded, if_pos hselected]
  refine ⟨h.upToDate.filesChanged _ _, ?_, ?_⟩
  · rw [Preview.Scheduler.inputs_filesChanged_of_ne hfiles, htemplate]
    rfl
  · intro hnone
    cases hselected.symm.trans hnone

/-- Content of the selected template with the files that are there tells the preview nothing. -/
theorem Joined.contentLoaded_of_eq (h : studio.Joined known) (now : Nat) {id : String}
    {content : TemplateContent} (hselected : studio.form.templateId = some id)
    (hsame : studio.files = some content.files) : (studio.contentLoaded now id content).2.Joined known := by
  have hfiles : studio.preview.files = some content.files :=
    (congrArg Preview.Scheduler.Inputs.files h.inputs).trans hsame
  rw [contentLoaded, if_pos hselected]
  dsimp only
  rw [Preview.Scheduler.filesChanged_of_eq hfiles]
  rw [← hsame]
  exact ⟨h.upToDate, h.inputs, h.opened⟩

end Studio

namespace TimedStudio

variable {σ : Type} [DraftStore σ]

/-- The answers that the preview was told last once an action has happened: new ones, or still the ones
that were told before. Content with the files that are there is not told. -/
def told (state : TimedStudio σ) (known : AnswerSet) : StudioAction σ → AnswerSet
  | .selectTemplate _ => ∅
  | .contentLoaded id content =>
    if state.studio.form.templateId = some id ∧ state.studio.files ≠ some content.files then
      (state.studio.form.applyConfig state.clock.now content.config).effectiveAnswers
    else known
  | .updateNow batch =>
    match state.studio.form.updateNow batch with
    | (.ok (), form) => form.answers
    | (.error _, _) => known
  | .resetForm => state.studio.form.resetForm.answers
  | .tick =>
    match state.studio.form.flushDue state.clock.now with
    | (true, form) => form.answers
    | (false, _) => known
  | .exportBundle =>
    if state.studio.exports ∧ state.studio.form.submit.2.revision ≠ state.studio.form.revision then
      state.studio.form.submit.2.answers
    else known
  | _ => known

/-- The answers that the preview was told last once a run has happened. -/
def toldAfter (state : TimedStudio σ) (known : AnswerSet) : List (StudioAction σ) → AnswerSet
  | [] => known
  | action :: rest => (state.step action).toldAfter (state.told known action) rest

variable {state : TimedStudio σ} {known : AnswerSet}

/-- Every action tells the preview the answers it says, and keeps it up to date with them. -/
theorem joined_step (action : StudioAction σ) (h : state.studio.Joined known) :
    (state.step action).studio.Joined (state.told known action) := by
  cases action with
  | selectTemplate id =>
    refine ⟨Preview.Scheduler.upToDate_of_files_none rfl rfl, rfl, ?_⟩
    intro hnone
    cases hnone
  | contentLoaded id content =>
    rw [told]
    by_cases hselected : state.studio.form.templateId = some id
    · by_cases hsame : state.studio.files = some content.files
      · rw [if_neg (fun hnew => hnew.2 hsame)]
        exact h.contentLoaded_of_eq state.clock.now hselected hsame
      · rw [if_pos ⟨hselected, hsame⟩]
        exact h.contentLoaded_of_ne state.clock.now hselected hsame
    · rw [if_neg (fun hnew => hselected hnew.1)]
      have hdropped : state.studio.contentLoaded state.clock.now id content = (false, state.studio) :=
        if_neg hselected
      rw [step, hdropped]
      exact h
  | update batch => exact h.withForm _ (state.studio.form.selection_update state.clock.now batch)
  | updateNow batch =>
    have hform := h.withForm _ (state.studio.form.selection_updateNow batch)
    simp only [step, told, Studio.updateNow]
    cases hwritten : state.studio.form.updateNow batch with
    | mk result form =>
      rw [hwritten] at hform
      cases result with
      | ok _ => exact hform.answersChanged state.clock.now
      | error mismatch => exact hform
  | resetForm =>
    have hform := h.withForm state.studio.form.resetForm rfl
    exact hform.answersChanged state.clock.now
  | tick =>
    have hpoll (studio : Studio σ) (known : AnswerSet) (hjoined : studio.Joined known) :
        { studio with preview := (studio.preview.tick state.clock.now).2 }.Joined known :=
      hjoined.withPreview (hjoined.upToDate.tick _) (studio.preview.inputs_tick _)
    rcases state.studio.form.flushDue_eq state.clock.now with hflush | hflush
    · simp only [step, told, Studio.tick, hflush, ↓reduceIte]
      exact hpoll _ _ ((h.withForm _ (FormSession.selection_flushNow _)).answersChanged state.clock.now)
    · simp only [step, told, Studio.tick, hflush, Bool.false_eq_true, ↓reduceIte]
      exact hpoll _ _ h
  | exportBundle =>
    have hform := h.withForm state.studio.form.submit.2 (FormSession.selection_flushNow _)
    rw [step, told]
    dsimp only
    rw [Studio.exportBundle_eq]
    by_cases hexports : state.studio.exports
    · by_cases hchanged : state.studio.form.submit.2.revision ≠ state.studio.form.revision
      · rw [if_pos hexports, if_pos hchanged, if_pos ⟨hexports, hchanged⟩]
        exact hform.answersChanged state.clock.now
      · rw [if_pos hexports, if_neg hchanged, if_neg (fun htold => hchanged htold.2)]
        exact hform
    · rw [if_neg hexports, if_neg (fun htold => hexports htold.1)]
      exact h
  | targetLoaded generation =>
    exact h.withPreview (h.upToDate.targetLoaded generation) (state.studio.preview.targetLoaded_keeps generation).1
  | retry => exact h.withPreview h.upToDate.retry state.studio.preview.inputs_retry
  | changeRefusal refusal => exact h.withPreview (h.upToDate.congr rfl rfl rfl) rfl
  | advanceClock span => exact h
  | changeDrafts drafts => exact h.withForm _ rfl

/-- A run keeps the preview up to date with what it was told last. -/
theorem joined_run (actions : List (StudioAction σ)) (h : state.studio.Joined known) :
    (state.run actions).studio.Joined (state.toldAfter known actions) := by
  induction actions generalizing state known with
  | nil => exact h
  | cons action rest ih => exact ih (joined_step action h)

/-! ## Answers the preview does not know -/

/-- Taking up content with the files that are there changes neither the answers nor the queued writes. -/
def Harmless (state : TimedStudio σ) : StudioAction σ → Prop
  | .contentLoaded id content =>
    state.studio.form.templateId = some id → state.studio.files = some content.files →
      (state.studio.form.applyConfig state.clock.now content.config).answers = state.studio.form.answers ∧
        (state.studio.form.applyConfig state.clock.now content.config).queued = state.studio.form.queued
  | _ => True

/-- No content of a run that arrives with the files that are there changes answers or queued writes. -/
def HarmlessRun (state : TimedStudio σ) : List (StudioAction σ) → Prop
  | [] => True
  | action :: rest => state.Harmless action ∧ (state.step action).HarmlessRun rest

/-- Unless content with the files that are there changes the answers, the preview knows all but the queued
writes. -/
theorem knows_step {action : StudioAction σ} (haction : state.Harmless action)
    (h : state.studio.files ≠ none → state.studio.form.Knows known)
    (hfiles : (state.step action).studio.files ≠ none) :
    (state.step action).studio.form.Knows (state.told known action) := by
  cases action with
  | selectTemplate id => exact absurd rfl hfiles
  | contentLoaded id content =>
    simp only [step, told, Studio.contentLoaded] at hfiles ⊢
    by_cases hselected : state.studio.form.templateId = some id
    · rw [if_pos hselected]
      by_cases hsame : state.studio.files = some content.files
      · obtain ⟨hanswers, hqueued⟩ := haction hselected hsame
        rw [if_neg (fun hnew => hnew.2 hsame)]
        exact (h (by simp [hsame])).congr hanswers hqueued
      · rw [if_pos ⟨hselected, hsame⟩]
        exact FormSession.knows_effectiveAnswers _
    · rw [if_neg hselected] at hfiles ⊢
      rw [if_neg (fun hnew => hselected hnew.1)]
      exact h hfiles
  | update batch => exact (h hfiles).update state.clock.now batch
  | updateNow batch =>
    simp only [step, told, Studio.updateNow] at hfiles ⊢
    cases hwritten : state.studio.form.updateNow batch with
    | mk result form =>
      rw [hwritten] at hfiles
      cases result with
      | ok _ => exact form.knows_answers
      | error mismatch =>
        obtain rfl := FormSession.eq_of_updateNow_error hwritten
        exact h hfiles
  | resetForm => exact state.studio.form.resetForm.knows_answers
  | tick =>
    rcases state.studio.form.flushDue_eq state.clock.now with hflush | hflush
    · simp only [step, told, Studio.tick, hflush, ↓reduceIte]
      exact FormSession.knows_answers _
    · simp only [step, told, Studio.tick, hflush, Bool.false_eq_true, ↓reduceIte] at hfiles ⊢
      exact h hfiles
  | exportBundle =>
    rw [step, told]
    rw [step] at hfiles
    dsimp only at hfiles ⊢
    rw [Studio.exportBundle_eq] at hfiles ⊢
    by_cases hexports : state.studio.exports
    · by_cases hchanged : state.studio.form.submit.2.revision ≠ state.studio.form.revision
      · rw [if_pos hexports, if_pos hchanged, if_pos ⟨hexports, hchanged⟩]
        exact FormSession.knows_answers _
      · rw [if_pos hexports, if_neg hchanged] at hfiles ⊢
        rw [if_neg (fun htold => hchanged htold.2)]
        exact (h hfiles).flushNow (FormSession.queued_of_revision_flushNow _ (not_not.mp hchanged))
    · rw [if_neg hexports] at hfiles ⊢
      rw [if_neg (fun htold => hexports htold.1)]
      exact h hfiles
  | targetLoaded generation => exact h hfiles
  | retry => exact h hfiles
  | changeRefusal refusal => exact h hfiles
  | advanceClock span => exact h hfiles
  | changeDrafts drafts => exact h hfiles

/-- After a harmless run the preview knows all but the queued writes. -/
theorem knows_run {actions : List (StudioAction σ)} (hactions : state.HarmlessRun actions)
    (h : state.studio.files ≠ none → state.studio.form.Knows known)
    (hfiles : (state.run actions).studio.files ≠ none) :
    (state.run actions).studio.form.Knows (state.toldAfter known actions) := by
  induction actions generalizing state known with
  | nil => exact h hfiles
  | cons action rest ih => exact ih hactions.2 (knows_step hactions.1 h) hfiles

/-- After a harmless run a studio with files, without queued writes and with no answers waiting has rendered
its files with the answers of its form. -/
theorem latest_eq_of_harmlessRun (h : state.studio.Joined known)
    (hknows : state.studio.files ≠ none → state.studio.form.Knows known) {actions : List (StudioAction σ)}
    (hactions : state.HarmlessRun actions) {files : FileSet}
    (hfiles : (state.run actions).studio.files = some files)
    (hqueue : (state.run actions).studio.form.queue = .idle)
    (hupdates : (state.run actions).studio.preview.updates = .idle) :
    (state.run actions).studio.preview.latest = some (files, (state.run actions).studio.form.answers) := by
  have hloaded : (state.run actions).studio.files ≠ none := by
    rw [hfiles]
    exact Option.some_ne_none files
  have hknown := (knows_run hactions hknows hloaded).eq_of_idle hqueue
  rw [hknown]
  exact (joined_run actions h).latest_eq hfiles hupdates

/-- In every state that a new studio comes to with files, without queued writes and with no answers
waiting, the latest render is of these files and of the answers that the preview was told last. So it is of
the answers of the form exactly if these are the ones that were told; and that is so if no content that
arrived with the files that were there changed answers or queued writes. -/
theorem latest_render_of_run (clock : Clock) (settings : Settings) (drafts : σ) (host : Preview.Host)
    (actions : List (StudioAction σ)) (files : FileSet)
    (hfiles : ((initial clock settings drafts host).run actions).studio.files = some files)
    (hqueue : ((initial clock settings drafts host).run actions).studio.form.queue = .idle)
    (hupdates : ((initial clock settings drafts host).run actions).studio.preview.updates = .idle) :
    let start := initial clock settings drafts host
    let studio := (start.run actions).studio
    studio.preview.latest = some (files, start.toldAfter ∅ actions) ∧
      (studio.preview.latest = some (files, studio.form.answers) ↔
        start.toldAfter ∅ actions = studio.form.answers) ∧
      (start.HarmlessRun actions → studio.preview.latest = some (files, studio.form.answers)) := by
  intro start studio
  have hjoined : studio.Joined (start.toldAfter ∅ actions) :=
    joined_run actions (Studio.joined_start settings drafts host)
  have hlatest : studio.preview.latest = some (files, start.toldAfter ∅ actions) :=
    hjoined.latest_eq hfiles hupdates
  refine ⟨hlatest, ?_, ?_⟩
  · rw [hlatest, Option.some.injEq, Prod.mk.injEq, eq_self, true_and]
  · intro hharmless
    exact latest_eq_of_harmlessRun (Studio.joined_start settings drafts host) (fun hloaded => absurd rfl hloaded)
      hharmless hfiles hqueue hupdates

/-- A write that is committed when it is due is rendered when the preview is. -/
theorem latest_render_of_write :
    let name : Field := ⟨"name", none, .text, some (.text "World"), none, none, [], false, .none⟩
    let content : TemplateContent :=
      ⟨⟨none, none, [⟨"1", "", none, [name]⟩]⟩, .singleton "index.html" "Hello {name}!"⟩
    let actions : List (StudioAction MemoryDrafts) :=
      [.selectTemplate "t", .contentLoaded "t" content, .update (.singleton "name" (.text "Ada")),
        .advanceClock 16, .tick, .contentLoaded "t" content, .advanceClock 800, .tick]
    ((initial .start {} .empty .empty).run actions).studio.files = some content.files ∧
      ((initial .start {} .empty .empty).run actions).studio.form.queue = .idle ∧
        ((initial .start {} .empty .empty).run actions).studio.preview.updates = .idle ∧
          ((initial .start {} .empty .empty).run actions).studio.preview.latest =
            some (content.files, .singleton "name" (.text "Ada")) := by
  intro name content actions
  have hfiles : ((initial .start {} .empty .empty).run actions).studio.files = some content.files := by
    decide +kernel
  have hqueue : ((initial .start {} .empty .empty).run actions).studio.form.queue = .idle := by decide +kernel
  have hupdates : ((initial .start {} .empty .empty).run actions).studio.preview.updates = .idle := by
    decide +kernel
  have htold : (initial .start {} .empty .empty).toldAfter ∅ actions = .singleton "name" (.text "Ada") := by
    decide +kernel
  have hrun := latest_render_of_run Clock.start {} MemoryDrafts.empty Preview.Host.empty actions content.files
  obtain ⟨hlatest, -, -⟩ := hrun hfiles hqueue hupdates
  rw [htold] at hlatest
  exact ⟨hfiles, hqueue, hupdates, hlatest⟩

/-- Content that arrives again with the files that are there and a form with one more field answers this
field, but the preview goes on to show the site without the answer. -/
theorem stale_preview_of_repeated_content :
    let name : Field := ⟨"name", none, .text, some (.text "World"), none, none, [], false, .none⟩
    let city : Field := ⟨"city", none, .text, some (.text "Paris"), none, none, [], false, .none⟩
    let first : TemplateConfig := ⟨none, none, [⟨"1", "", none, [name]⟩]⟩
    let second : TemplateConfig := ⟨none, none, [⟨"1", "", none, [name]⟩, ⟨"2", "", none, [city]⟩]⟩
    let files : FileSet := .singleton "index.html" "Hi {name} from {city|nowhere}"
    let actions : List (StudioAction MemoryDrafts) :=
      [.selectTemplate "t", .contentLoaded "t" ⟨first, files⟩, .targetLoaded 1,
        .contentLoaded "t" ⟨second, files⟩, .advanceClock 800, .tick]
    let studio := ((initial .start {} .empty .empty).run actions).studio
    studio.files = some files ∧ studio.form.queue = .idle ∧ studio.preview.updates = .idle ∧
      studio.preview.latest ≠ some (files, studio.form.answers) ∧
        studio.preview.active.bind (fun target => studio.preview.host.document? target.handle) =
            some "Hi World from nowhere" ∧
          studio.renderedFiles? = some (.singleton "index.html" "Hi World from Paris") := by
  decide +kernel

end TimedStudio

end SiteBuilder
