import Mathlib.Data.List.Nodup
import SiteBuilder.Proofs.Form.Shape
import SiteBuilder.Proofs.NameMap

/-!
# Accepted forms

An accepted form is one that `TemplateConfig.check` has let through. Its fields have different names, so
that a name denotes one field, and an answer to a name is typed by the kind of that field alone.
-/

namespace SiteBuilder.TemplateConfig

variable {config : TemplateConfig}

/-- The form is the outcome of a successful check. -/
def Accepted (config : TemplateConfig) : Prop := ∃ source : TemplateConfig, source.check = .ok config

/-- Filling in identifiers changes no field. -/
theorem fields_withIds (position : Nat) (steps : List Step) :
    (withIds position steps).flatMap (·.fields) = steps.flatMap (·.fields) := by
  induction steps generalizing position with
  | nil => rfl
  | cons step rest ih =>
    rw [withIds, List.flatMap_cons, List.flatMap_cons, ih]
    split <;> rfl

/-- Fields without a fault have names that differ from each other and from the names before them. -/
theorem nodup_of_firstFault {seen : List String} {fields : List Field}
    (h : firstFault seen fields = none) :
    (fields.map (·.name)).Nodup ∧ ∀ field ∈ fields, field.name ∉ seen := by
  induction fields generalizing seen with
  | nil => simp
  | cons field rest ih =>
    rw [firstFault] at h
    split at h
    · cases h
    · next hnew =>
      split at h
      · cases h
      · obtain ⟨hnodup, hseen⟩ := ih h
        have hfield : field.name ∉ seen := by simpa using hnew
        constructor
        · rw [List.map_cons, List.nodup_cons]
          refine ⟨fun hmem => ?_, hnodup⟩
          obtain ⟨later, hlater, hname⟩ := List.mem_map.mp hmem
          exact hseen later hlater (hname ▸ List.mem_cons_self)
        · intro other hother
          rcases List.mem_cons.mp hother with rfl | hother
          · exact hfield
          · exact fun hmem => hseen other hother (List.mem_cons_of_mem _ hmem)

/-- Fields without a fault have patterns that can be read. -/
theorem exists_pattern_of_firstFault {seen : List String} {fields : List Field}
    (h : firstFault seen fields = none) {field : Field} (hfield : field ∈ fields) {p : String}
    (hp : field.validation.pattern = some p) : ∃ pattern, Pattern.parse? p = some pattern := by
  induction fields generalizing seen with
  | nil => cases hfield
  | cons first rest ih =>
    rw [firstFault] at h
    split at h
    · cases h
    · split at h
      · cases h
      · next hreadable =>
        rcases List.mem_cons.mp hfield with rfl | hlater
        · rw [hp] at hreadable
          exact Option.ne_none_iff_exists'.mp (by simpa using hreadable)
        · exact ih h hlater

/-- Filling in identifiers adds and drops no step. -/
theorem length_withIds (position : Nat) (steps : List Step) : (withIds position steps).length = steps.length := by
  induction steps generalizing position with
  | nil => rfl
  | cons step rest ih => rw [withIds, List.length_cons, List.length_cons, ih]

/-- An accepted form has a step, and its fields have no fault. -/
theorem Accepted.checked (h : config.Accepted) :
    0 < config.stepCount ∧ firstFault [] config.fields = none := by
  obtain ⟨source, hcheck⟩ := h
  unfold check at hcheck
  split at hcheck
  · cases hcheck
  · next hsteps =>
    split at hcheck
    · cases hcheck
    · next hfault =>
      cases hcheck
      unfold stepCount fields
      rw [length_withIds, fields_withIds]
      exact ⟨List.length_pos_iff.mpr (by simpa using hsteps), hfault⟩

/-- No two fields of an accepted form share a name. -/
theorem Accepted.nodup_names (h : config.Accepted) : (config.fields.map (·.name)).Nodup :=
  (nodup_of_firstFault h.checked.2).1

/-- A name that is found is the name of the field that is found. -/
theorem mem_of_field? {name : String} {field : Field} (h : config.field? name = some field) :
    field ∈ config.fields ∧ field.name = name :=
  ⟨List.mem_of_find?_eq_some h, by simpa using List.find?_some h⟩

/-- In an accepted form, every field is found by its name. -/
theorem Accepted.field?_name (h : config.Accepted) {field : Field} (hfield : field ∈ config.fields) :
    config.field? field.name = some field := by
  cases hfound : config.field? field.name with
  | none =>
    have hne := List.find?_eq_none.mp hfound field hfield
    simp at hne
  | some other =>
    obtain ⟨hother, hname⟩ := mem_of_field? hfound
    rw [List.inj_on_of_nodup_map h.nodup_names hother hfield hname]

/-- Typing an answer to a field goes by the kind of the field. -/
theorem coerce_of_field? {name : String} {field : Field} (h : config.field? name = some field)
    (answer : Answer) : config.coerce name answer = field.kind.coerce name answer := by
  rw [coerce, h]

/-- An answer to no field is left as it is. -/
theorem coerce_of_field?_none {name : String} (h : config.field? name = none) (answer : Answer) :
    config.coerce name answer = .ok answer := by
  rw [coerce, h]

/-- Every answer to a field has the shape of the field. -/
def Types (config : TemplateConfig) (answers : AnswerSet) : Prop :=
  ∀ name answer field, answers.get? name = some answer → config.field? name = some field →
    field.kind.Holds answer

/-- Answers that are typed are left as they are by typing them again. -/
theorem Types.coerce {answers : AnswerSet} (h : config.Types answers) {name : String} {answer : Answer}
    (hanswer : answers.get? name = some answer) : config.coerce name answer = .ok answer := by
  cases hfield : config.field? name with
  | none => exact coerce_of_field?_none hfield answer
  | some field =>
    rw [coerce_of_field? hfield, FieldKind.coerce_eq_ok_iff]
    exact FieldKind.stored?_of_holds (h name answer field hanswer hfield)

/-- No answers are typed. -/
theorem types_empty : config.Types ∅ := by
  intro name answer field hanswer
  rw [NameMap.get?_empty] at hanswer
  cases hanswer

/-- Writing typed answers over typed answers keeps them typed. -/
theorem Types.overlay {answers batch : AnswerSet} (hanswers : config.Types answers)
    (hbatch : config.Types batch) : config.Types (answers.overlay batch) := by
  intro name answer field hanswer hfield
  rw [NameMap.get?_overlay] at hanswer
  rcases Option.or_eq_some_iff.mp hanswer with hanswer | ⟨-, hanswer⟩
  · exact hbatch name answer field hanswer hfield
  · exact hanswers name answer field hanswer hfield

/-- Answers that come from typing are typed. -/
theorem types_of_coerce {answers : AnswerSet}
    (h : ∀ name answer, answers.get? name = some answer → ∃ written, config.coerce name written = .ok answer) :
    config.Types answers := by
  intro name answer field hanswer hfield
  obtain ⟨written, hwritten⟩ := h name answer hanswer
  rw [coerce_of_field? hfield, FieldKind.coerce_eq_ok_iff] at hwritten
  exact FieldKind.holds_of_stored? hwritten

/-- The answers an accepted form starts with are typed. -/
theorem Accepted.types_defaults (h : config.Accepted) : config.Types config.defaults := by
  intro name answer field hanswer hfield
  obtain ⟨other, hother, hpair⟩ := List.mem_map.mp (NameMap.mem_of_get?_ofList hanswer)
  obtain ⟨rfl, rfl⟩ := Prod.mk.inj hpair
  rw [h.field?_name hother] at hfield
  exact Option.some.inj hfield ▸ other.holds_defaultValue

/-- The answers a form starts with answer every field. -/
theorem contains_defaults {field : Field} (hfield : field ∈ config.fields) :
    config.defaults.contains field.name = true := by
  refine NameMap.contains_ofList.mpr ?_
  rw [List.map_map]
  exact List.mem_map.mpr ⟨field, hfield, rfl⟩

/-- An accepted form starts every field with its default. -/
theorem Accepted.get?_defaults (h : config.Accepted) {field : Field} (hfield : field ∈ config.fields) :
    config.defaults.get? field.name = some field.defaultValue := by
  rw [defaults, NameMap.get?_ofList_eq_some_iff]
  · exact List.mem_map.mpr ⟨field, hfield, rfl⟩
  · rw [List.map_map]
    exact h.nodup_names

/-- A form of one step, with fields that have a name and a kind and nothing else. -/
def simple (fields : List (String × FieldKind)) : TemplateConfig where
  name := none
  description := none
  steps := [⟨"1", "", none, fields.map fun (name, kind) =>
    ⟨name, none, kind, none, none, none, [], false, .none⟩⟩]

/-- A simple form is accepted when its names differ. -/
theorem accepted_simple {fields : List (String × FieldKind)} (h : firstFault [] (simple fields).fields = none) :
    (simple fields).Accepted := by
  refine ⟨simple fields, ?_⟩
  rw [check, h]
  rfl

end SiteBuilder.TemplateConfig
