import SiteBuilder.Proofs.Form.Advance
import SiteBuilder.Proofs.Form.Coalescing
import SiteBuilder.Proofs.Form.Typing

/-!
# Recorded problems

A session records the problems it finds and forgets those of a field that is written. A recorded problem is current if
it is what is wrong with the answer to its field, under the form that is loaded and with the queued writes. No action
lets a current problem go out of date, whether it flushes, writes, validates or takes up the same form again; what is
found is current, and what is not current any more is forgotten.

There is one exception. Another form may have other fields, rules and answers, and the problems recorded under the form
before it stay. Rules that are registered in the middle of a run are left out.
-/

namespace SiteBuilder

variable {σ : Type}

/-! ## What is recorded -/

/-- A batch takes the problems of the names it writes. -/
@[simp]
theorem get?_withoutErrorsOf (errors : ValidationErrors) (batch : AnswerSet) (name : String) :
    (FormSession.withoutErrorsOf errors batch).get? name = if batch.contains name then none else errors.get? name := by
  have hnames : name ∈ batch.names ↔ batch.contains name = true := by
    rw [NameMap.contains_iff, NameMap.names, List.mem_map]
    constructor
    · rintro ⟨entry, hentry, rfl⟩
      exact ⟨entry.2, NameMap.mem_entries_iff.mp hentry⟩
    · rintro ⟨answer, hanswer⟩
      exact ⟨(name, answer), NameMap.mem_entries_iff.mpr hanswer, rfl⟩
  rw [FormSession.withoutErrorsOf, NameMap.get?_foldl_erase]
  simp only [hnames]

/-- What is found of fields replaces what was recorded for them. -/
theorem get?_recordProblems (found errors : ValidationErrors) (fields : List Field) (name : String) :
    (FormSession.recordProblems found fields errors).get? name =
      if name ∈ fields.map (·.name) then found.get? name else errors.get? name := by
  induction fields using List.reverseRecOn with
  | nil => rfl
  | append_singleton earlier field ih =>
    rw [FormSession.recordProblems, List.foldl_concat, ← FormSession.recordProblems]
    by_cases hname : name = field.name
    · subst hname
      cases hfound : found.get? field.name <;> simp
    · cases found.get? field.name <;> simp [hname, ih]

namespace FormSession

variable {before after session : FormSession σ}

/-- A message says what is wrong with the answer to the field of a name now. -/
def Current (session : FormSession σ) (name message : String) : Prop :=
  ∃ config, session.config = some config ∧
    ∃ field ∈ config.fields, field.name = name ∧ session.problemAt? field = some message

/-- All recorded problems are current. -/
def ErrorsCurrent (session : FormSession σ) : Prop :=
  ∀ name message, session.errors.get? name = some message → session.Current name message

/-- Whatever is recorded afterwards is current, or it was recorded before and was not current then either. -/
def OutdatesNothing (before after : FormSession σ) : Prop :=
  ∀ name message, after.errors.get? name = some message →
    after.Current name message ∨ before.errors.get? name = some message ∧ ¬before.Current name message

/-- What outdates nothing keeps all recorded problems current. -/
theorem ErrorsCurrent.of_outdatesNothing (h : before.ErrorsCurrent) (hafter : before.OutdatesNothing after) :
    after.ErrorsCurrent := fun name message hrecorded =>
  (hafter name message hrecorded).resolve_right fun hleft => hleft.2 (h name message hleft.1)

/-- Two steps that outdate nothing outdate nothing together. -/
theorem OutdatesNothing.trans (h : before.OutdatesNothing session) (hafter : session.OutdatesNothing after) :
    before.OutdatesNothing after := by
  intro name message hrecorded
  rcases hafter name message hrecorded with hcurrent | ⟨hearlier, hstale⟩
  · exact .inl hcurrent
  · rcases h name message hearlier with hcurrent | hleft
    · exact absurd hcurrent hstale
    · exact .inr hleft

/-- What is current depends on the form, the rules and the answer to the name alone. -/
theorem Current.congr {name message : String} (h : before.Current name message) (hconfig : after.config = before.config)
    (hpredicates : after.predicates = before.predicates)
    (hanswer : after.effectiveAnswers.get? name = before.effectiveAnswers.get? name) : after.Current name message := by
  obtain ⟨config, hloaded, field, hfield, rfl, hproblem⟩ := h
  refine ⟨config, hconfig.trans hloaded, field, hfield, rfl, ?_⟩
  rw [problemAt?, hanswer, hpredicates]
  exact hproblem

/-- Under the same form and rules, what is recorded afterwards has to be found or to be left from before, with the same
answer. -/
theorem outdatesNothing_of_recorded (hconfig : after.config = before.config)
    (hpredicates : after.predicates = before.predicates)
    (hrecorded : ∀ name message, after.errors.get? name = some message →
      after.Current name message ∨
        before.errors.get? name = some message ∧
          after.effectiveAnswers.get? name = before.effectiveAnswers.get? name) : before.OutdatesNothing after := by
  intro name message hmessage
  rcases hrecorded name message hmessage with hcurrent | ⟨hearlier, hanswer⟩
  · exact .inl hcurrent
  · by_cases hcurrent : before.Current name message
    · exact .inl (hcurrent.congr hconfig hpredicates hanswer)
    · exact .inr ⟨hearlier, hcurrent⟩

/-- Nothing is outdated while the form, the rules, the problems and the effective answers stay. -/
theorem outdatesNothing_of_same (hconfig : after.config = before.config) (hprogress : after.errors = before.errors)
    (hpredicates : after.predicates = before.predicates) (hanswers : after.effectiveAnswers = before.effectiveAnswers) :
    before.OutdatesNothing after :=
  outdatesNothing_of_recorded hconfig hpredicates fun _ _ hmessage => .inr ⟨hprogress ▸ hmessage, by rw [hanswers]⟩

/-- Nothing is outdated when nothing is recorded. -/
theorem outdatesNothing_of_empty (h : after.errors = ∅) : before.OutdatesNothing after := by
  intro name message hmessage
  rw [h, NameMap.get?_empty] at hmessage
  cases hmessage

/-- No problem is current while no form is loaded. -/
theorem not_current_of_config_none (h : session.config = none) (name message : String) :
    ¬session.Current name message := by
  rintro ⟨config, hconfig, -⟩
  rw [h] at hconfig
  cases hconfig

/-! ## Writes and flushes -/

/-- A batch takes the problems of its names, and the answers to other names stay. -/
theorem outdatesNothing_of_written {typed : AnswerSet} (hconfig : after.config = before.config)
    (hpredicates : after.predicates = before.predicates) (herrors : after.errors = withoutErrorsOf before.errors typed)
    (hanswers : after.effectiveAnswers = before.effectiveAnswers.overlay typed) : before.OutdatesNothing after := by
  refine outdatesNothing_of_recorded hconfig hpredicates fun name message hmessage => .inr ?_
  rw [herrors, get?_withoutErrorsOf] at hmessage
  split at hmessage
  · cases hmessage
  · next hwritten =>
    have hother : typed.get? name = none := by simpa [NameMap.contains] using hwritten
    exact ⟨hmessage, by rw [hanswers, NameMap.get?_overlay, hother, Option.none_or]⟩

/-- Queueing writes outdates nothing. -/
theorem outdatesNothing_update (session : FormSession σ) (now : Nat) (batch : AnswerSet) :
    session.OutdatesNothing (session.update now batch).2 := by
  unfold update
  cases coerceAll session.config batch with
  | error mismatch => exact outdatesNothing_of_same rfl rfl rfl rfl
  | ok typed => exact outdatesNothing_of_written rfl rfl rfl (session.effectiveAnswers_enqueue now typed)

section Stored

variable [DraftStore σ] (session : FormSession σ)

/-- Writing at once outdates nothing. -/
theorem outdatesNothing_updateNow (batch : AnswerSet) : session.OutdatesNothing (session.updateNow batch).2 := by
  unfold updateNow
  cases coerceAll session.config batch with
  | error mismatch => exact outdatesNothing_of_same rfl rfl rfl rfl
  | ok typed =>
    have hprogress := progress_commit
      { session with queue := .idle, errors := withoutErrorsOf session.errors typed } (session.queued.overlay typed)
    exact outdatesNothing_of_written (config_commit _ _) (congrArg Progress.predicates hprogress)
      (congrArg Progress.errors hprogress) (session.effectiveAnswers_writeNow typed)

/-- Flushing outdates nothing. -/
theorem outdatesNothing_flushNow : session.OutdatesNothing session.flushNow.2 :=
  outdatesNothing_of_same (congrArg Prod.snd session.selection_flushNow)
    (congrArg Progress.errors session.progress_flushNow) (congrArg Progress.predicates session.progress_flushNow)
    session.effectiveAnswers_flushNow

/-- A flush that waits for the due time outdates nothing. -/
theorem outdatesNothing_flushDue (now : Nat) : session.OutdatesNothing (session.flushDue now).2 := by
  rcases session.flushDue_eq now with hflush | hflush
  · rw [hflush]
    exact session.outdatesNothing_flushNow
  · rw [hflush]
    exact outdatesNothing_of_same rfl rfl rfl rfl

end Stored

/-! ## Validation -/

/-- What is found in fields of the loaded form is current. -/
theorem current_of_problemsOf {config : TemplateConfig} (hconfig : session.config = some config) {fields : List Field}
    (hnames : (fields.map (·.name)).Nodup) (hfields : ∀ field ∈ fields, field ∈ config.fields) {name message : String}
    (hfound : (problemsOf fields session.effectiveAnswers session.predicates).get? name = some message) :
    session.Current name message := by
  obtain ⟨field, hfield, hname, hproblem⟩ := (get?_problemsOf_eq_some_iff hnames).mp hfound
  exact ⟨config, hconfig, field, hfields field hfield, hname, hproblem⟩

/-- Looking for problems in the whole form leaves what it finds. -/
theorem WellTyped.outdatesNothing_validateAll (h : session.WellTyped) :
    session.OutdatesNothing session.validateAll.2 := by
  cases hconfig : session.config with
  | none => exact outdatesNothing_of_empty (by simp only [validateAll, hconfig])
  | some config =>
    have herrors : session.validateAll.2.errors = config.problems session.effectiveAnswers session.predicates := by
      simp only [validateAll, hconfig]
    intro name message hmessage
    rw [herrors] at hmessage
    have hnames := (h config hconfig).accepted.nodup_names
    have hcurrent : session.Current name message :=
      current_of_problemsOf hconfig hnames (fun _ hfield => hfield) hmessage
    exact .inl (hcurrent.congr rfl rfl rfl)

/-- Looking for problems in a step replaces what was recorded for its fields. -/
theorem WellTyped.outdatesNothing_validateStep (h : session.WellTyped) (id : String) :
    session.OutdatesNothing (session.validateStep id).2 := by
  unfold validateStep
  cases hfound : session.config.bind (·.step? id) with
  | none => exact outdatesNothing_of_same rfl rfl rfl rfl
  | some step =>
    obtain ⟨config, hconfig, hstep⟩ := Option.bind_eq_some_iff.mp hfound
    have hmem : step ∈ config.steps := List.mem_of_find?_eq_some hstep
    refine outdatesNothing_of_recorded rfl rfl fun name message hmessage => ?_
    dsimp only at hmessage
    rw [get?_recordProblems] at hmessage
    split at hmessage
    · have hnames := (h config hconfig).accepted.nodup_step_names hmem
      have hcurrent : session.Current name message :=
        current_of_problemsOf hconfig hnames (fun field hfield => List.mem_flatMap.mpr ⟨step, hmem, hfield⟩) hmessage
      exact .inl (hcurrent.congr rfl rfl rfl)
    · exact .inr ⟨hmessage, rfl⟩

/-- A request to go on records what looking for problems in a step does, wherever it leads. -/
theorem WellTyped.outdatesNothing_advanceStep (h : session.WellTyped) :
    session.OutdatesNothing session.advanceStep.2 := by
  unfold advanceStep
  split
  · exact outdatesNothing_of_same rfl rfl rfl rfl
  · split
    · exact outdatesNothing_of_same rfl rfl rfl rfl
    · next step _ =>
      dsimp only
      split
      · exact (h.outdatesNothing_validateStep step.id).trans (outdatesNothing_of_same rfl rfl rfl rfl)
      · exact h.outdatesNothing_validateStep step.id

/-! ## Forms -/

/-- Taking up a first form, or the loaded one again, outdates nothing. -/
theorem WellTyped.outdatesNothing_applyConfig (h : session.WellTyped) {config : TemplateConfig}
    (hloaded : ∀ loaded, session.config = some loaded → loaded = config) (now : Nat) :
    session.OutdatesNothing (session.applyConfig now config) := by
  cases hconfig : session.config with
  | none => exact fun name message hmessage => .inr ⟨hmessage, not_current_of_config_none hconfig name message⟩
  | some loaded =>
    obtain rfl := hloaded loaded hconfig
    refine outdatesNothing_of_same hconfig.symm rfl rfl ?_
    rw [effectiveAnswers_eq, effectiveAnswers_eq, (h loaded hconfig).answers_applyConfig,
      (h loaded hconfig).queued_applyConfig]

end FormSession

namespace FormAction

/-- The action registers no rule. -/
def KeepsRules : FormAction σ → Prop
  | .register _ _ => False
  | _ => True

end FormAction

namespace TimedForm

/-- The action takes up a form in the place of another one. -/
def ReplacesForm (state : TimedForm σ) (action : FormAction σ) : Prop :=
  ∃ loaded config, state.session.config = some loaded ∧ action = .applyConfig config ∧ loaded ≠ config

variable [DraftStore σ] {state : TimedForm σ} {actions : List (FormAction σ)}

/-- An action that replaces no form outdates nothing. -/
theorem outdatesNothing_step {action : FormAction σ} (hrules : action.KeepsRules) (htyped : state.session.WellTyped)
    (hform : ¬state.ReplacesForm action) : state.session.OutdatesNothing (state.step action).2.session := by
  cases action with
  | selectTemplate id => exact FormSession.outdatesNothing_of_empty rfl
  | applyConfig config =>
    refine htyped.outdatesNothing_applyConfig (fun loaded hloaded => ?_) state.clock.now
    by_contra hother
    exact hform ⟨loaded, config, hloaded, rfl, hother⟩
  | update batch => exact state.session.outdatesNothing_update state.clock.now batch
  | updateNow batch => exact state.session.outdatesNothing_updateNow batch
  | flushDue => exact state.session.outdatesNothing_flushDue state.clock.now
  | flushNow => exact state.session.outdatesNothing_flushNow
  | resetForm => exact FormSession.outdatesNothing_of_empty rfl
  | clearTemplate => exact FormSession.outdatesNothing_of_empty rfl
  | submit =>
    have hflushed : state.session.OutdatesNothing { state.session.flushNow.2 with submitted := true } :=
      state.session.outdatesNothing_flushNow.trans (FormSession.outdatesNothing_of_same rfl rfl rfl rfl)
    have hsubmitted : { state.session.flushNow.2 with submitted := true }.WellTyped := htyped.flushNow.of_contents rfl
    exact hflushed.trans hsubmitted.outdatesNothing_validateAll
  | validateStep id => exact htyped.outdatesNothing_validateStep id
  | validateAll => exact htyped.outdatesNothing_validateAll
  | advanceStep => exact htyped.outdatesNothing_advanceStep
  | retreatStep =>
    simp only [step, FormSession.retreatStep]
    split <;> exact FormSession.outdatesNothing_of_same rfl rfl rfl rfl
  | goToStep position =>
    simp only [step, FormSession.goToStep]
    split <;> exact FormSession.outdatesNothing_of_same rfl rfl rfl rfl
  | touch name => exact FormSession.outdatesNothing_of_same rfl rfl rfl rfl
  | register name predicate => exact hrules.elim
  | advanceClock span => exact FormSession.outdatesNothing_of_same rfl rfl rfl rfl
  | changeDrafts drafts => exact FormSession.outdatesNothing_of_same rfl rfl rfl rfl

/-- A run that replaces no form outdates nothing. -/
theorem outdatesNothing_run (hactions : ∀ action ∈ actions, action.Accepted ∧ action.KeepsRules)
    (htyped : state.session.WellTyped)
    (hforms : ∀ earlier action later, actions = earlier ++ action :: later → ¬(state.run earlier).ReplacesForm action) :
    state.session.OutdatesNothing (state.run actions).session := by
  induction actions generalizing state with
  | nil => exact FormSession.outdatesNothing_of_same rfl rfl rfl rfl
  | cons action rest ih =>
    obtain ⟨haccepted, hrules⟩ := hactions action List.mem_cons_self
    have hstep := outdatesNothing_step hrules htyped (hforms [] action rest rfl)
    refine hstep.trans (ih (fun later hlater => hactions later (List.mem_cons_of_mem _ hlater))
      (wellTyped_step state action haccepted htyped) fun earlier next later hsplit => ?_)
    exact hforms (action :: earlier) next later (congrArg (action :: ·) hsplit)

/-- If what is recorded when a form is replaced is current under the new form, all problems are current in the end. -/
theorem errorsCurrent_run (hactions : ∀ action ∈ actions, action.Accepted ∧ action.KeepsRules)
    (htyped : state.session.WellTyped) (hcurrent : state.session.ErrorsCurrent)
    (hforms : ∀ earlier action later, actions = earlier ++ action :: later → (state.run earlier).ReplacesForm action →
      ∀ name message, (state.run earlier).session.errors.get? name = some message →
        ((state.run earlier).step action).2.session.Current name message) :
    (state.run actions).session.ErrorsCurrent := by
  induction actions generalizing state with
  | nil => exact hcurrent
  | cons action rest ih =>
    obtain ⟨haccepted, hrules⟩ := hactions action List.mem_cons_self
    have hstep : (state.step action).2.session.ErrorsCurrent := by
      by_cases hreplaces : state.ReplacesForm action
      · have hkept := hforms [] action rest rfl hreplaces
        obtain ⟨loaded, config, -, rfl, -⟩ := hreplaces
        exact hkept
      · exact hcurrent.of_outdatesNothing (outdatesNothing_step hrules htyped hreplaces)
    refine ih (fun later hlater => hactions later (List.mem_cons_of_mem _ hlater))
      (wellTyped_step state action haccepted htyped) hstep fun earlier next later hsplit => ?_
    exact hforms (action :: earlier) next later (congrArg (action :: ·) hsplit)

/-- In a run of a new session with any rules, the recorded problems are current all along exactly if, each time a form
is replaced, those that are recorded then are still problems under the new form. While no form is replaced, a problem
that is not current was recorded and not current before. -/
theorem errors_current_iff_of_run (clock : Clock) (drafts : σ) (settings : FormSettings) (predicates : Predicates)
    (actions : List (FormAction σ)) (hactions : ∀ action ∈ actions, action.Accepted ∧ action.KeepsRules) :
    let start : TimedForm σ := ⟨clock, { FormSession.start drafts settings with predicates }⟩
    ((∀ earlier later, actions = earlier ++ later → (start.run earlier).session.ErrorsCurrent) ↔
        ∀ earlier action later, actions = earlier ++ action :: later → (start.run earlier).ReplacesForm action →
          ∀ name message, (start.run earlier).session.errors.get? name = some message →
            ((start.run earlier).step action).2.session.Current name message) ∧
      ∀ earlier since, actions = earlier ++ since →
        (∀ prior action later, since = prior ++ action :: later →
          ¬((start.run earlier).run prior).ReplacesForm action) →
        (start.run earlier).session.OutdatesNothing (start.run actions).session := by
  intro start
  have hnone : start.session.config = none := rfl
  have htyped (earlier later : List (FormAction σ)) (hsplit : actions = earlier ++ later) :
      (start.run earlier).session.WellTyped :=
    run_induction wellTyped_step (FormSession.wellTyped_of_config_none hnone)
      fun action haction => (hactions action (hsplit ▸ List.mem_append_left later haction)).1
  refine ⟨⟨fun hcurrent => ?_, fun hforms earlier later hsplit => ?_⟩, fun earlier since hsplit hforms => ?_⟩
  · intro earlier action later hsplit hreplaces name message hmessage
    have hafter : ((start.run earlier).step action).2.session.ErrorsCurrent := by
      rw [← run_concat]
      exact hcurrent (earlier ++ [action]) later (by simpa using hsplit)
    obtain ⟨loaded, config, -, rfl, -⟩ := hreplaces
    exact hafter name message hmessage
  · refine errorsCurrent_run (fun action haction => hactions action (hsplit ▸ List.mem_append_left later haction))
      (FormSession.wellTyped_of_config_none hnone) (fun name message hmessage => ?_) fun prior action next hprior => ?_
    · cases hmessage
    · exact hforms prior action (next ++ later) (by rw [hsplit, hprior, List.append_assoc, List.cons_append])
  · rw [hsplit, run_append]
    exact outdatesNothing_run (fun action haction => hactions action (hsplit ▸ List.mem_append_right earlier haction))
      (htyped earlier since hsplit) hforms

/-- A form with one field, which has to be filled in or not. -/
def nameForm (required : Bool) : TemplateConfig :=
  ⟨none, none, [⟨"1", "", none, [⟨"name", none, .text, none, none, none, [], required, .none⟩]⟩]⟩

/-- Forms with one field are accepted. -/
theorem accepted_nameForm (required : Bool) : (nameForm required).Accepted := ⟨nameForm required, rfl⟩

/-- A blank name is recorded as a problem until the name is queued. -/
theorem errors_current_until_name_written :
    let start : TimedForm MemoryDrafts := ⟨.start, { FormSession.start .empty {} with predicates := .builtIn }⟩
    let found : List (FormAction MemoryDrafts) := [.applyConfig (nameForm true), .validateAll]
    let mended : List (FormAction MemoryDrafts) := [.update (.singleton "name" (.text "Ada"))]
    (∀ action ∈ found ++ mended, action.Accepted ∧ action.KeepsRules) ∧
      (start.run found).session.errors.get? "name" = some "name is required" ∧
      (start.run (found ++ mended)).session.errors.get? "name" = none ∧
      ∀ earlier later, found ++ mended = earlier ++ later → (start.run earlier).session.ErrorsCurrent := by
  intro start found mended
  have hactions : ∀ action ∈ found ++ mended, action.Accepted ∧ action.KeepsRules := by
    simp [found, mended, FormAction.Accepted, FormAction.KeepsRules, accepted_nameForm]
  have hforms : ∀ earlier action later, found ++ mended = earlier ++ action :: later →
      ¬(start.run earlier).ReplacesForm action := by
    rintro earlier action later hsplit ⟨loaded, config, hloaded, rfl, -⟩
    cases earlier with
    | nil => cases hloaded
    | cons first rest =>
      have hlate : FormAction.applyConfig config ∈ (found ++ mended).tail := by
        rw [hsplit]
        simp
      simp [found, mended] at hlate
  obtain ⟨hcurrent, -⟩ := errors_current_iff_of_run .start .empty {} .builtIn (found ++ mended) hactions
  exact ⟨hactions, by decide, by decide, hcurrent.mpr fun earlier action later hsplit hreplaces =>
    absurd hreplaces (hforms earlier action later hsplit)⟩

/-- The name was blank where it had to be filled in, and it stays recorded as a problem under a form where it may be
blank. -/
theorem stale_problem_of_replaced_form :
    let actions : List (FormAction MemoryDrafts) :=
      [.applyConfig (nameForm true), .validateAll, .applyConfig (nameForm false)]
    let session := (run ⟨.start, .start .empty {}⟩ actions).session
    (∀ action ∈ actions, action.Accepted ∧ action.KeepsRules) ∧
      session.config = some (nameForm false) ∧
      session.errors.get? "name" = some "name is required" ∧
      ¬session.Current "name" "name is required" := by
  intro actions session
  refine ⟨?_, rfl, by decide, ?_⟩
  · simp [actions, FormAction.Accepted, FormAction.KeepsRules, accepted_nameForm]
  · rintro ⟨config, hconfig, field, hfield, -, hproblem⟩
    obtain rfl : nameForm false = config := Option.some.inj hconfig
    obtain rfl : field = ⟨"name", none, .text, none, none, none, [], false, .none⟩ := List.mem_singleton.mp hfield
    have hnone : session.problemAt? ⟨"name", none, .text, none, none, none, [], false, .none⟩ = none := by decide
    rw [hnone] at hproblem
    cases hproblem

end TimedForm

end SiteBuilder
