import SiteBuilder.Proofs.Form.Alike
import SiteBuilder.Proofs.Form.Recovery

/-!
# When the form arrives

A write takes one of three ways into the answers. Before the form arrives it is kept as it is, and typed in the queue
or among the answers when the form is taken up; after that it is typed at once. If every write fits its field, all ways
lead to the same effective answers: those that the draft gives under the form, with the typed writes over them in the
order in which they were made. How the writes are split into batches and when the queue is committed is left open.

A write that does not fit is not covered: it is refused if the form is there, and dropped when the form is taken up
later.
-/

namespace SiteBuilder

variable {σ : Type}

/-! ## Typing overlays -/

/-- Every answer can be typed. -/
def TemplateConfig.Fits (config : TemplateConfig) (answers : AnswerSet) : Prop :=
  ∀ name answer, answers.get? name = some answer → ∃ stored, config.coerce name answer = .ok stored

section Fits

variable {config : TemplateConfig} {answers batch : AnswerSet}

/-- No answers fit. -/
theorem TemplateConfig.fits_empty : config.Fits ∅ := by
  intro name answer hanswer
  rw [NameMap.get?_empty] at hanswer
  cases hanswer

/-- Fitting answers written over fitting answers fit. -/
theorem TemplateConfig.Fits.overlay (hanswers : config.Fits answers) (hbatch : config.Fits batch) :
    config.Fits (answers.overlay batch) := by
  intro name answer hanswer
  rw [NameMap.get?_overlay] at hanswer
  rcases Option.or_eq_some_iff.mp hanswer with hanswer | ⟨-, hanswer⟩
  · exact hbatch name answer hanswer
  · exact hanswers name answer hanswer

/-- Writes that fit one by one fit as a batch. -/
theorem TemplateConfig.fits_ofList {writes : List (String × Answer)}
    (h : ∀ write ∈ writes, ∃ stored, config.coerce write.1 write.2 = .ok stored) : config.Fits (.ofList writes) :=
  fun _ _ hanswer => h _ (NameMap.mem_of_get?_ofList hanswer)

/-- A batch that fits is typed with what it is written over or apart from it. -/
theorem retype_overlay (h : config.Fits batch) :
    retype config (answers.overlay batch) = (retype config answers).overlay (retype config batch) := by
  ext name
  rw [get?_retype, NameMap.get?_overlay, NameMap.get?_overlay, get?_retype, get?_retype]
  cases hwritten : batch.get? name with
  | none => rfl
  | some answer =>
    obtain ⟨stored, hstored⟩ := h name answer hwritten
    simp only [Option.some_or, Option.bind_some, hstored, Except.toOption]

/-- A batch that fits is restored with the draft that it is written over or apart from it. -/
theorem FormSession.restored_overlay (h : config.Fits batch) :
    restored (some config) (answers.overlay batch) =
      (restored (some config) answers).overlay (retype config batch) := by
  simp only [restored, mergeWithDefaults, retype_overlay h, NameMap.overlay_assoc]

/-- What is written into a session: answers typed by its form, if it has one. -/
def written (config : Option TemplateConfig) (answers : AnswerSet) : AnswerSet :=
  match config with
  | none => answers
  | some config => retype config answers

variable {loaded : Option TemplateConfig}

/-- A batch that fits the form, if there is one, is taken. -/
theorem coerceAll_of_fits (h : ∀ config, loaded = some config → config.Fits batch) :
    coerceAll loaded batch = .ok (written loaded batch) := by
  cases loaded with
  | none => rfl
  | some config => exact coerceAll_eq_ok_iff.mpr ⟨h config rfl, rfl⟩

/-- What is written in two batches is written one over the other. -/
theorem written_overlay (h : ∀ config, loaded = some config → config.Fits batch) :
    written loaded (answers.overlay batch) = (written loaded answers).overlay (written loaded batch) := by
  cases loaded with
  | none => rfl
  | some config => exact retype_overlay (h config rfl)

end Fits

namespace FormSession

/-- Taking up a form that fits the queue restores the effective answers under it, wherever they are kept. -/
theorem effectiveAnswers_applyConfig (session : FormSession σ) (now : Nat) {config : TemplateConfig}
    (hqueued : config.Fits session.queued) :
    (session.applyConfig now config).effectiveAnswers = restored (some config) session.effectiveAnswers := by
  rw [effectiveAnswers_eq, answers_applyConfig, queued_applyConfig, effectiveAnswers_eq, restored_overlay hqueued]

end FormSession

namespace FormAction

/-- The action writes a batch, which waits or is committed at once. -/
def Writes (batch : AnswerSet) : FormAction σ → Prop
  | .update given | .updateNow given => given = batch
  | _ => False

/-- The action keeps the template and the form and writes nothing; it may commit what is queued. -/
def WritesNothing : FormAction σ → Prop
  | .update _ | .updateNow _ => False
  | action => action.Editing

/-- What writes nothing keeps the template and the form. -/
theorem WritesNothing.editing {action : FormAction σ} (h : action.WritesNothing) : action.Editing := by
  cases action with
  | update | updateNow => exact h.elim
  | _ => exact h

end FormAction

/-- The actions make a list of writes in its order. They may make several of them in one batch, queue each batch or
commit it at once, and do between them whatever writes nothing. -/
inductive Performs : List (String × Answer) → List (FormAction σ) → Prop where
  | nil : Performs [] []
  | write (batch : List (String × Answer)) {action : FormAction σ} (haction : action.Writes (.ofList batch))
      {writes : List (String × Answer)} {actions : List (FormAction σ)} (h : Performs writes actions) :
      Performs (batch ++ writes) (action :: actions)
  | pause {action : FormAction σ} (haction : action.WritesNothing) {writes : List (String × Answer)}
      {actions : List (FormAction σ)} (h : Performs writes actions) : Performs writes (action :: actions)

/-- The first actions make the first writes, and the others make the rest. -/
theorem Performs.split {writes : List (String × Answer)} {before after : List (FormAction σ)}
    (h : Performs writes (before ++ after)) :
    ∃ early late, writes = early ++ late ∧ Performs early before ∧ Performs late after := by
  induction before generalizing writes with
  | nil => exact ⟨[], writes, rfl, .nil, h⟩
  | cons action rest ih =>
    cases h with
    | write batch haction h =>
      obtain ⟨early, late, rfl, hearly, hlate⟩ := ih h
      exact ⟨batch ++ early, late, (List.append_assoc batch early late).symm, .write batch haction hearly, hlate⟩
    | pause haction h =>
      obtain ⟨early, late, rfl, hearly, hlate⟩ := ih h
      exact ⟨early, late, rfl, .pause haction hearly, hlate⟩

namespace TimedForm

variable [DraftStore σ] {action : FormAction σ}

/-! ## One action -/

/-- An action that writes nothing leaves the contents alone or commits the queue. -/
theorem contents_step_of_writesNothing (state : TimedForm σ) (haction : action.WritesNothing) :
    (state.step action).2.session.contents = state.session.contents ∨
      (state.step action).2.session.contents = state.session.flushNow.2.contents := by
  cases action with
  | selectTemplate | applyConfig | update | updateNow | resetForm | clearTemplate | changeDrafts => exact haction.elim
  | flushDue =>
    rcases state.session.flushDue_eq state.clock.now with hflush | hflush
    · exact .inr (by simp only [step, hflush])
    · exact .inl (by simp only [step, hflush])
  | flushNow => exact .inr rfl
  | submit => exact .inr rfl
  | validateStep id => exact .inl (state.session.contents_validateStep id)
  | advanceStep => exact .inl state.session.contents_advanceStep
  | retreatStep => exact .inl state.session.contents_retreatStep
  | goToStep position => exact .inl (state.session.contents_goToStep position)
  | _ => exact .inl rfl

/-- An action that writes nothing makes no difference to the effective answers, and leaves the queue alone or empties
it. -/
theorem answers_step_of_writesNothing (state : TimedForm σ) (haction : action.WritesNothing) :
    (state.step action).2.session.effectiveAnswers = state.session.effectiveAnswers ∧
      ((state.step action).2.session.queued = state.session.queued ∨ (state.step action).2.session.queued = ∅) := by
  have hqueue {s t : FormSession σ} (h : s.contents = t.contents) : s.queue = t.queue :=
    congrArg FormSession.Contents.queue h
  rcases state.contents_step_of_writesNothing haction with hsame | hflushed
  · refine ⟨FormSession.effectiveAnswers_congr hsame, .inl ?_⟩
    rw [FormSession.queued, hqueue hsame, FormSession.queued]
  · refine ⟨?_, .inr (FormSession.queued_of_idle ((hqueue hflushed).trans state.session.queue_flushNow))⟩
    rw [FormSession.effectiveAnswers_congr hflushed, FormSession.effectiveAnswers_flushNow]

/-- A batch that fits the form, if there is one, is seen over the effective answers. It joins the queue or is committed
with it. -/
theorem answers_step_of_writes {state : TimedForm σ} {batch : AnswerSet} (haction : action.Writes batch)
    (hfits : ∀ config, state.session.config = some config → config.Fits batch) :
    (state.step action).2.session.config = state.session.config ∧
      (state.step action).2.session.effectiveAnswers =
        state.session.effectiveAnswers.overlay (written state.session.config batch) ∧
      ((state.step action).2.session.queued = state.session.queued.overlay (written state.session.config batch) ∨
        (state.step action).2.session.queued = ∅) := by
  have htyped := coerceAll_of_fits hfits
  cases action with
  | update given =>
    obtain rfl : given = batch := haction
    simp only [step, FormSession.update, htyped]
    exact ⟨rfl, state.session.effectiveAnswers_enqueue state.clock.now _, .inl rfl⟩
  | updateNow given =>
    obtain rfl : given = batch := haction
    simp only [step, FormSession.updateNow, htyped]
    exact ⟨FormSession.config_commit _ _, state.session.effectiveAnswers_writeNow _,
      .inr (FormSession.queued_of_idle (FormSession.queue_commit _ _))⟩
  | _ => exact haction.elim

/-! ## Runs -/

variable {state : TimedForm σ} {writes : List (String × Answer)} {actions : List (FormAction σ)}

/-- Writes that fit the form, if there is one, are seen over the effective answers in the order they are made. -/
theorem effectiveAnswers_of_performs (h : Performs writes actions)
    (hfits : ∀ config, state.session.config = some config →
      ∀ write ∈ writes, ∃ stored, config.coerce write.1 write.2 = .ok stored) :
    (state.run actions).session.effectiveAnswers =
      state.session.effectiveAnswers.overlay (written state.session.config (.ofList writes)) := by
  induction h generalizing state with
  | nil =>
    have hnone : written state.session.config (.ofList []) = ∅ := by cases state.session.config <;> rfl
    rw [hnone]
    rfl
  | @write batch action haction writes actions h ih =>
    have hbatch (config : TemplateConfig) (hconfig : state.session.config = some config) :
        config.Fits (.ofList batch) :=
      TemplateConfig.fits_ofList fun write hwrite => hfits config hconfig write (List.mem_append_left writes hwrite)
    have hrest (config : TemplateConfig) (hconfig : state.session.config = some config) (write : String × Answer)
        (hwrite : write ∈ writes) : ∃ stored, config.coerce write.1 write.2 = .ok stored :=
      hfits config hconfig write (List.mem_append_right batch hwrite)
    obtain ⟨hconfig, hanswers, -⟩ := answers_step_of_writes haction hbatch
    rw [run_cons, ih (hconfig ▸ hrest), hconfig, hanswers, NameMap.overlay_assoc, NameMap.ofList_append,
      written_overlay fun config hconfig => TemplateConfig.fits_ofList (hrest config hconfig)]
  | @pause action haction writes actions h ih =>
    have hconfig : (state.step action).2.session.config = state.session.config :=
      congrArg Prod.snd (state.selection_step haction.editing)
    obtain ⟨hanswers, -⟩ := state.answers_step_of_writesNothing haction
    rw [run_cons, ih (hconfig ▸ hfits), hconfig, hanswers]

/-- What waits before the form arrives fits it if all writes do. -/
theorem fits_queued_of_performs {config : TemplateConfig} (h : Performs writes actions)
    (hfits : ∀ write ∈ writes, ∃ stored, config.coerce write.1 write.2 = .ok stored)
    (hnone : state.session.config = none) (hqueued : config.Fits state.session.queued) :
    (state.run actions).session.config = none ∧ config.Fits (state.run actions).session.queued := by
  induction h generalizing state with
  | nil => exact ⟨hnone, hqueued⟩
  | @write batch action haction writes actions h ih =>
    have hbatch : config.Fits (.ofList batch) :=
      TemplateConfig.fits_ofList fun write hwrite => hfits write (List.mem_append_left writes hwrite)
    have hraw : ∀ loaded, state.session.config = some loaded → loaded.Fits (.ofList batch) := by
      rw [hnone]
      exact nofun
    obtain ⟨hconfig, -, hafter⟩ := answers_step_of_writes haction hraw
    refine ih (fun write hwrite => hfits write (List.mem_append_right batch hwrite)) (hconfig.trans hnone) ?_
    rcases hafter with hjoined | hempty
    · rw [hjoined, hnone]
      exact hqueued.overlay hbatch
    · rw [hempty]
      exact TemplateConfig.fits_empty
  | @pause action haction writes actions h ih =>
    have hconfig : (state.step action).2.session.config = state.session.config :=
      congrArg Prod.snd (state.selection_step haction.editing)
    obtain ⟨-, hafter⟩ := state.answers_step_of_writesNothing haction
    refine ih hfits (hconfig.trans hnone) ?_
    rcases hafter with hsame | hempty
    · rwa [hsame]
    · rw [hempty]
      exact TemplateConfig.fits_empty

/-- Once the form has arrived, the effective answers are those that the draft gives under it, with the typed writes
over them. -/
theorem effectiveAnswers_of_arrival (start : TimedForm σ) (id : String) {config : TemplateConfig}
    (hfits : ∀ write ∈ writes, ∃ stored, config.coerce write.1 write.2 = .ok stored)
    {before after : List (FormAction σ)} (h : Performs writes (before ++ after)) :
    (start.run (.selectTemplate id :: before ++ .applyConfig config :: after)).session.effectiveAnswers =
      (FormSession.restored (some config) (DraftStore.answers start.session.flushNow.2.drafts id)).overlay
        (retype config (.ofList writes)) := by
  obtain ⟨early, late, rfl, hearly, hlate⟩ := h.split
  let opened : TimedForm σ := (start.step (.selectTemplate id)).2
  let waiting : TimedForm σ := opened.run before
  have hfirst : ∀ write ∈ early, ∃ stored, config.coerce write.1 write.2 = .ok stored :=
    fun write hwrite => hfits write (List.mem_append_left late hwrite)
  have hsecond : ∀ write ∈ late, ∃ stored, config.coerce write.1 write.2 = .ok stored :=
    fun write hwrite => hfits write (List.mem_append_right early hwrite)
  have hidle : opened.session.queue = .idle := start.session.queue_flushNow
  have hopened : opened.session.effectiveAnswers = DraftStore.answers start.session.flushNow.2.drafts id := by
    rw [FormSession.effectiveAnswers_of_idle hidle]
    exact start.session.answers_selectTemplate id
  have hqueued : config.Fits waiting.session.queued := by
    refine (fits_queued_of_performs hearly hfirst rfl ?_).2
    rw [FormSession.queued_of_idle hidle]
    exact TemplateConfig.fits_empty
  have hraw : waiting.session.effectiveAnswers = opened.session.effectiveAnswers.overlay (.ofList early) :=
    effectiveAnswers_of_performs hearly nofun
  have harrived : (waiting.step (.applyConfig config)).2.session.effectiveAnswers =
      (FormSession.restored (some config) opened.session.effectiveAnswers).overlay (retype config (.ofList early)) := by
    rw [← FormSession.restored_overlay (TemplateConfig.fits_ofList hfirst), ← hraw]
    exact waiting.session.effectiveAnswers_applyConfig waiting.clock.now hqueued
  calc (start.run (.selectTemplate id :: before ++ .applyConfig config :: after)).session.effectiveAnswers
      = ((waiting.step (.applyConfig config)).2.run after).session.effectiveAnswers := by
        rw [List.cons_append, run_cons, run_append]
        rfl
    _ = (waiting.step (.applyConfig config)).2.session.effectiveAnswers.overlay (retype config (.ofList late)) :=
        effectiveAnswers_of_performs hlate fun loaded hloaded => Option.some.inj hloaded ▸ hsecond
    _ = _ := by
        rw [harrived, hopened, NameMap.ofList_append, retype_overlay (TemplateConfig.fits_ofList hsecond),
          NameMap.overlay_assoc]

/-- Whenever the form arrives in a session that makes the same writes, all of which fit it, and however these are
batched, queued and committed: once the form is taken up and the writes are made, the effective answers are the same,
namely those that the draft gives under the form, with the typed writes over them. -/
theorem same_effectiveAnswers_of_arrival (start : TimedForm σ) (id : String) (config : TemplateConfig)
    (writes : List (String × Answer)) (hfits : ∀ write ∈ writes, ∃ stored, config.coerce write.1 write.2 = .ok stored)
    (before after before' after' : List (FormAction σ)) (h : Performs writes (before ++ after))
    (h' : Performs writes (before' ++ after')) :
    let first := (start.run (.selectTemplate id :: before ++ .applyConfig config :: after)).session
    let second := (start.run (.selectTemplate id :: before' ++ .applyConfig config :: after')).session
    first.effectiveAnswers = second.effectiveAnswers ∧
      first.effectiveAnswers =
        (FormSession.restored (some config) (DraftStore.answers start.session.flushNow.2.drafts id)).overlay
          (retype config (.ofList writes)) := by
  intro first second
  have hfirst := effectiveAnswers_of_arrival start id hfits h
  have hsecond := effectiveAnswers_of_arrival start id hfits h'
  exact ⟨hfirst.trans hsecond.symm, hfirst⟩

/-- Over a draft that does not fit the form, the same three writes are made before it, one of them at once, or after it
in other batches. -/
theorem same_effectiveAnswers_of_late_form :
    let form := TemplateConfig.simple [("age", .number), ("hire", .boolean)]
    let draft : AnswerSet := .ofList [("age", .text "old"), ("bio", .text "Ada")]
    let start : TimedForm MemoryDrafts := ⟨.start, .start ⟨.singleton "t" draft, 0, true⟩ {}⟩
    let writes : List (String × Answer) := [("hire", .text " true"), ("age", .text "37"), ("hire", .text "false")]
    let before : List (FormAction MemoryDrafts) :=
      [.updateNow (.ofList [("hire", .text " true")]), .update (.ofList [("age", .text "37"), ("hire", .text "false")])]
    let after' : List (FormAction MemoryDrafts) :=
      [.update (.ofList [("hire", .text " true"), ("age", .text "37")]), .advanceClock 16, .flushDue,
        .update (.ofList [("hire", .text "false")])]
    let first := (start.run (.selectTemplate "t" :: before ++ [.applyConfig form])).session
    let second := (start.run (.selectTemplate "t" :: [] ++ .applyConfig form :: after')).session
    (∀ write ∈ writes, ∃ stored, form.coerce write.1 write.2 = .ok stored) ∧
      Performs writes before ∧ Performs writes after' ∧
      first.effectiveAnswers = second.effectiveAnswers ∧
      first.effectiveAnswers =
        (FormSession.restored (some form) draft).overlay (retype form (.ofList writes)) := by
  intro form draft start writes before after' first second
  have hfits : ∀ write ∈ writes, ∃ stored, form.coerce write.1 write.2 = .ok stored := by
    intro write hwrite
    simp only [writes, List.mem_cons, List.not_mem_nil, or_false] at hwrite
    rcases hwrite with rfl | rfl | rfl <;> exact ⟨_, rfl⟩
  have hbefore : Performs writes before := by
    refine .write [("hire", .text " true")] ?_ (.write [("age", .text "37"), ("hire", .text "false")] ?_ .nil) <;> rfl
  have hafter' : Performs writes after' := by
    refine .write [("hire", .text " true"), ("age", .text "37")] ?_
      (.pause ?_ (.pause ?_ (.write [("hire", .text "false")] ?_ .nil)))
    · rfl
    · trivial
    · trivial
    · rfl
  exact ⟨hfits, hbefore, hafter',
    same_effectiveAnswers_of_arrival start "t" form writes hfits before [] [] after' hbefore hafter'⟩

end TimedForm

end SiteBuilder
