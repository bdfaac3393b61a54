import SiteBuilder.Proofs.Form.Arrival

/-!
# Refused writes

A write is refused exactly if one of its answers does not fit its field, and what is said then is said of the first of
these in the order of names. All answers are typed before anything is done with the first of them, so nothing has
happened when a write is refused, however many answers before the misfit would have fitted.
-/

namespace SiteBuilder

/-- A traversal fails with the cause of the first element that fails. -/
theorem mapM_eq_error_iff {α β ε : Type} {f : α → Except ε β} {inputs : List α} {cause : ε} :
    inputs.mapM f = .error cause ↔
      ∃ before input after, inputs = before ++ input :: after ∧
        (∀ earlier ∈ before, ∃ output, f earlier = .ok output) ∧ f input = .error cause := by
  induction inputs with
  | nil => simp [pure, Except.pure]
  | cons first rest ih =>
    rw [List.mapM_cons]
    cases hfirst : f first with
    | error found =>
      constructor
      · intro h
        cases h
        exact ⟨[], first, rest, rfl, by simp, hfirst⟩
      · rintro ⟨before, input, after, hsplit, hearlier, hinput⟩
        cases before with
        | nil =>
          cases hsplit
          cases hfirst.symm.trans hinput
          rfl
        | cons other before =>
          cases hsplit
          obtain ⟨output, houtput⟩ := hearlier first List.mem_cons_self
          cases hfirst.symm.trans houtput
    | ok output =>
      have hrest : (do let outputs ← rest.mapM f; pure (output :: outputs)) = .error cause ↔
          rest.mapM f = .error cause := by
        cases rest.mapM f with
        | error found => exact ⟨fun h => h, fun h => h⟩
        | ok outputs => exact ⟨nofun, nofun⟩
      refine hrest.trans (ih.trans ?_)
      constructor
      · rintro ⟨before, input, after, rfl, hearlier, hinput⟩
        exact ⟨first :: before, input, after, rfl, List.forall_mem_cons.mpr ⟨⟨output, hfirst⟩, hearlier⟩, hinput⟩
      · rintro ⟨before, input, after, hsplit, hearlier, hinput⟩
        cases before with
        | nil =>
          cases hsplit
          cases hfirst.symm.trans hinput
        | cons other before =>
          cases hsplit
          exact ⟨before, input, after, rfl, (List.forall_mem_cons.mp hearlier).2, hinput⟩

namespace TemplateConfig

/-- The mismatch is that of the first answer of a batch, in the order of names, that does not fit its field. -/
structure FirstMisfit (config : TemplateConfig) (batch : AnswerSet) (mismatch : Mismatch) : Prop where
  /-- The batch has an answer to the field, which has no stored form of it. -/
  misfit : ∃ field answer, config.field? mismatch.field = some field ∧ batch.get? mismatch.field = some answer ∧
    field.kind.stored? answer = none ∧ mismatch = ⟨mismatch.field, field.kind, answer.display⟩
  /-- The answers to earlier names fit. -/
  earlier : ∀ name answer, name < mismatch.field → batch.get? name = some answer →
    ∃ stored, config.coerce name answer = .ok stored

/-- An answer is refused if it is one to a field whose kind has no stored form of it. -/
theorem coerce_eq_error_iff {config : TemplateConfig} {name : String} {answer : Answer} {mismatch : Mismatch} :
    config.coerce name answer = .error mismatch ↔
      ∃ field, config.field? name = some field ∧ field.kind.stored? answer = none ∧
        mismatch = ⟨name, field.kind, answer.display⟩ := by
  unfold coerce
  cases config.field? name with
  | none => simp
  | some field =>
    unfold FieldKind.coerce
    cases hstored : field.kind.stored? answer with
    | none => simp [hstored, eq_comm]
    | some stored => simp [hstored]

end TemplateConfig

/-- Typing the entries of a batch fails with its first misfit. -/
theorem mapM_coerce_eq_error_iff {config : TemplateConfig} {batch : AnswerSet} {mismatch : Mismatch} :
    (batch.entries.mapM fun entry : String × Answer => (config.coerce entry.1 entry.2).map (entry.1, ·)) =
        .error mismatch ↔ config.FirstMisfit batch mismatch := by
  have hentry (entry : String × Answer) :
      (config.coerce entry.1 entry.2).map (entry.1, ·) = .error mismatch ↔
        config.coerce entry.1 entry.2 = .error mismatch := by
    cases config.coerce entry.1 entry.2 <;> simp [Except.map]
  have hfits (entry : String × Answer) :
      (∃ pair, (config.coerce entry.1 entry.2).map (entry.1, ·) = .ok pair) ↔
        ∃ stored, config.coerce entry.1 entry.2 = .ok stored := by
    cases config.coerce entry.1 entry.2 <;> simp [Except.map]
  rw [mapM_eq_error_iff]
  simp only [hentry, hfits]
  -- The entries are ascending, so those before the misfit are those of the earlier names.
  constructor
  · rintro ⟨before, ⟨name, answer⟩, after, hsplit, hearlier, hrefused⟩
    obtain ⟨field, hfield, hstored, rfl⟩ := TemplateConfig.coerce_eq_error_iff.mp hrefused
    have hascending := batch.ascending
    rw [hsplit, List.pairwise_append] at hascending
    have hanswer : batch.get? name = some answer := by
      rw [← NameMap.mem_entries_iff, hsplit]
      simp
    refine ⟨⟨field, answer, hfield, hanswer, hstored, rfl⟩, fun other written hlt hother => ?_⟩
    rw [← NameMap.mem_entries_iff, hsplit, List.mem_append, List.mem_cons] at hother
    rcases hother with hbefore | heq | hafter
    · exact hearlier _ hbefore
    · exact absurd ((Prod.mk.inj heq).1 ▸ hlt) (String.lt_irrefl _)
    · have hgt : name < other := List.rel_of_pairwise_cons hascending.2.1 hafter
      exact absurd (String.lt_trans hlt hgt) (String.lt_irrefl _)
  · rintro ⟨⟨field, answer, hfield, hanswer, hstored, hmismatch⟩, hearlier⟩
    obtain ⟨before, after, hsplit⟩ := List.append_of_mem (NameMap.mem_entries_iff.mpr hanswer)
    have hascending := batch.ascending
    rw [hsplit, List.pairwise_append] at hascending
    refine ⟨before, _, after, hsplit, fun entry hentry => ?_, ?_⟩
    · have hmem : entry ∈ batch.entries := hsplit ▸ List.mem_append_left _ hentry
      exact hearlier entry.1 entry.2 (hascending.2.2 entry hentry _ List.mem_cons_self)
        (NameMap.mem_entries_iff.mp hmem)
    · exact TemplateConfig.coerce_eq_error_iff.mpr ⟨field, hfield, hstored, hmismatch⟩

/-- Typing a batch fails with its first misfit under the form, if there is one. -/
theorem coerceAll_eq_error_iff {loaded : Option TemplateConfig} {batch : AnswerSet} {mismatch : Mismatch} :
    coerceAll loaded batch = .error mismatch ↔
      ∃ config, loaded = some config ∧ config.FirstMisfit batch mismatch := by
  cases loaded with
  | none => simp [coerceAll]
  | some config =>
    simp only [Option.some.injEq, exists_eq_left', ← mapM_coerce_eq_error_iff, coerceAll]
    cases batch.entries.mapM fun entry : String × Answer => (config.coerce entry.1 entry.2).map (entry.1, ·) <;>
      simp [Except.map]

namespace TimedForm

variable {σ : Type} [DraftStore σ] {state : TimedForm σ} {action : FormAction σ} {mismatch : Mismatch}

/-- A write is refused with its first misfit, whether it is to wait or not. -/
theorem refused_iff {batch : AnswerSet} (haction : action.Writes batch) :
    (state.step action).1 = .written (.error mismatch) ↔
      ∃ config, state.session.config = some config ∧ config.FirstMisfit batch mismatch := by
  rw [← coerceAll_eq_error_iff]
  cases action with
  | update given =>
    obtain rfl : given = batch := haction
    simp only [step, FormSession.update]
    cases coerceAll state.session.config given <;> simp
  | updateNow given =>
    obtain rfl : given = batch := haction
    simp only [step, FormSession.updateNow]
    cases coerceAll state.session.config given <;> simp
  | _ => exact haction.elim

/-- A write that is refused leaves the session and its store as they are. -/
theorem step_of_refused (h : (state.step action).1 = .written (.error mismatch)) : (state.step action).2 = state := by
  cases action with
  | update batch =>
    simp only [step, FormSession.update] at h ⊢
    cases htyped : coerceAll state.session.config batch with
    | error cause => rfl
    | ok typed => simp [htyped] at h
  | updateNow batch =>
    simp only [step, FormSession.updateNow] at h ⊢
    cases htyped : coerceAll state.session.config batch with
    | error cause => rfl
    | ok typed => simp [htyped] at h
  | _ => cases h

end TimedForm

end SiteBuilder
