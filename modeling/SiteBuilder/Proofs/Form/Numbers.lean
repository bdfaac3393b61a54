import SiteBuilder.Form.Document
import SiteBuilder.Proofs.Form.Accepted
import SiteBuilder.Proofs.Json.Values
import SiteBuilder.Proofs.NameMap

/-!
# The numbers of a form

A form holds numbers as defaults and bounds, and lengths. In a form that is read from JSON, the numbers are finite and
the lengths have 64 bits: a reader that asks a value of a JSON text for a number gets one that the text can hold, and
checking a form changes none of them.
-/

namespace SiteBuilder

open Decimal

/-! ## Reading values of JSON texts -/

namespace Datum

variable {α : Type} {value : Datum} {fields : NameMap Datum} {name : String} {f : Datum → Option α}

/-- The results of a traversal come from its inputs. -/
theorem exists_of_mapM_eq_some {β γ : Type} {g : β → Option γ} {inputs : List β} {outputs : List γ}
    (h : inputs.mapM g = some outputs) : ∀ output ∈ outputs, ∃ input ∈ inputs, g input = some output := by
  induction inputs generalizing outputs with
  | nil =>
    cases h
    exact List.forall_mem_nil _
  | cons input rest ih =>
    rw [List.mapM_cons] at h
    obtain ⟨first, hfirst, h⟩ := Option.bind_eq_some_iff.mp h
    obtain ⟨others, hothers, h⟩ := Option.bind_eq_some_iff.mp h
    cases h
    refine List.forall_mem_cons.mpr ⟨⟨input, List.mem_cons_self, hfirst⟩, fun output houtput => ?_⟩
    obtain ⟨found, hfound, heq⟩ := ih hothers output houtput
    exact ⟨found, List.mem_cons_of_mem _ hfound, heq⟩

/-- The fields of a value that JSON can hold are such values. -/
theorem IsJson.of_fields? (h : value.IsJson) {declared : List String} (hfields : value.fields? declared = some fields)
    {found : Datum} (hfound : fields.get? name = some found) : found.IsJson := by
  cases h with
  | null | bool | int | float | text | unreadable => cases hfields
  | list hitems =>
    simp only [fields?] at hfields
    split at hfields
    · cases hfields
      exact hitems _ (List.of_mem_zip (NameMap.mem_of_get?_ofList hfound)).2
    · cases hfields
  | record hentries =>
    simp only [fields?] at hfields
    split at hfields
    · cases hfields
      exact hentries _ (List.mem_of_mem_filter (NameMap.mem_of_get?_ofList hfound))
    · cases hfields

/-- A field that may be left out is read from a value, or it has its default. -/
theorem exists_of_defaulted? {default a : α} (h : defaulted? fields name default f = some a) :
    a = default ∨ ∃ found, fields.get? name = some found ∧ f found = some a := by
  unfold defaulted? at h
  split at h
  · exact .inl (Option.some.inj h).symm
  · next found hfound => exact .inr ⟨found, hfound, h⟩

/-- A field that may hold no value is read from a value if it has one. -/
theorem exists_of_absent? {a : α} (hjson : ∀ found, fields.get? name = some found → found.IsJson)
    (h : absent? fields name f = some (some a)) : ∃ found, fields.get? name = some found ∧ f found = some a := by
  unfold absent? at h
  split at h
  · cases h
  · next found hfound =>
    refine ⟨found, hfound, ?_⟩
    have hread : (f found).map some = some (some a) := by
      cases hjson found hfound with
      | null => cases h
      | _ => exact h
    obtain ⟨b, hb, heq⟩ := Option.map_eq_some_iff.mp hread
    cases heq
    exact hb

/-- A field that may hold no value holds what its reader makes of values that JSON can hold. -/
theorem forall_of_absent? {o : Option α} {P : α → Prop}
    (hjson : ∀ found, fields.get? name = some found → found.IsJson)
    (hread : ∀ found a, found.IsJson → f found = some a → P a) (h : absent? fields name f = some o) :
    ∀ a ∈ o.toList, P a := by
  intro a ha
  obtain rfl : o = some a := Option.mem_toList.mp ha
  obtain ⟨found, hfound, heq⟩ := exists_of_absent? hjson h
  exact hread found a (hjson found hfound) heq

/-- The items of a list are read from values that JSON can hold. -/
theorem IsJson.exists_of_items? (h : value.IsJson) {results : List α} (hitems : value.items? f = some results) :
    ∀ result ∈ results, ∃ item : Datum, item.IsJson ∧ f item = some result := by
  cases h with
  | null | bool | int | float | text | record | unreadable => cases hitems
  | list hjson =>
    intro result hresult
    obtain ⟨item, hitem, heq⟩ := exists_of_mapM_eq_some hitems result hresult
    exact ⟨item, hjson item hitem, heq⟩

/-- A number of a JSON text is finite. -/
theorem IsJson.isFinite_of_float? (h : value.IsJson) {x : Float} (hx : value.float? = some x) : x.isFinite = true := by
  cases h with
  | null | bool | text | list | record | unreadable => cases hx
  | float hfinite =>
    cases hx
    exact hfinite
  | @int n hbits =>
    have hsize := isFinite_nearestFloat hbits
    simp only [float?] at hx
    split at hx
    · cases hx
      exact isFinite_neg hsize
    · cases hx
      exact hsize

/-- A length of a JSON text has 64 bits. -/
theorem IsJson.lt_of_size? (h : value.IsJson) {n : Nat} (hn : value.size? = some n) : n < 2 ^ 64 := by
  cases h with
  | null | bool | text | float | list | record | unreadable => cases hn
  | int =>
    have hsize : (Nat.pow 2 64 : Int) = 2 ^ 64 := rfl
    simp only [size?] at hn
    split at hn
    · next hbits =>
      cases hn
      omega
    · cases hn

end Datum

/-! ## Reading forms -/

/-- The lengths that rules ask for. -/
def ValidationRules.lengths (rules : ValidationRules) : List Nat := rules.minLength.toList ++ rules.maxLength.toList

/-- The bounds that rules ask for. -/
def ValidationRules.numbers (rules : ValidationRules) : List Float := rules.min.toList ++ rules.max.toList

/-- The number that an answer is, if it is one. -/
def Answer.numbers : Answer → List Float
  | .number x => [x]
  | .bool _ | .text _ => []

/-- The numbers of a field: its default, if that is a number, and its bounds. -/
def Field.numbers (field : Field) : List Float :=
  field.default.toList.flatMap Answer.numbers ++ field.validation.numbers

/-- The numbers of a form. -/
def TemplateConfig.numbers (config : TemplateConfig) : List Float := config.fields.flatMap Field.numbers

/-- The lengths and numbers of a field can be written. -/
structure Field.InRange (field : Field) : Prop where
  lengths : ∀ n ∈ field.validation.lengths, n < 2 ^ 64
  numbers : ∀ x ∈ field.numbers, x.isFinite = true

/-- A number that is read as an answer is finite. -/
theorem Answer.isFinite_of_ofDatum? {value : Datum} {answer : Answer} (hjson : value.IsJson)
    (h : ofDatum? value = some answer) : ∀ x ∈ answer.numbers, x.isFinite = true := by
  cases hjson with
  | null | list | record | unreadable => cases h
  | bool | text =>
    cases h
    exact List.forall_mem_nil _
  | float hfinite =>
    cases h
    exact List.forall_mem_singleton.mpr hfinite
  | @int n hbits =>
    have hnumber : (Datum.int n).float?.map Answer.number = some answer := h
    obtain ⟨x, hx, rfl⟩ := Option.map_eq_some_iff.mp hnumber
    exact List.forall_mem_singleton.mpr (Datum.IsJson.isFinite_of_float? (.int hbits) hx)

/-- The lengths and numbers of rules that are read from JSON can be written. -/
theorem ValidationRules.inRange_of_ofDatum? {value : Datum} {rules : ValidationRules} (hjson : value.IsJson)
    (h : ofDatum? value = some rules) :
    (∀ n ∈ rules.lengths, n < 2 ^ 64) ∧ ∀ x ∈ rules.numbers, x.isFinite = true := by
  simp only [ofDatum?, Option.bind_eq_bind, Option.bind_eq_some_iff] at h
  obtain ⟨fields, hfields, required, -, pattern, -, minLength, hminLength, maxLength, hmaxLength, min, hmin, max, hmax,
    custom, -, message, -, heq⟩ := h
  cases heq
  have hvalue : ∀ {name : String} found, fields.get? name = some found → found.IsJson :=
    fun _ hfound => hjson.of_fields? hfields hfound
  have hlength {name : String} {length : Option Nat} (h : Datum.absent? fields name Datum.size? = some length) :
      ∀ n ∈ length.toList, n < 2 ^ 64 :=
    Datum.forall_of_absent? hvalue (fun _ _ hfound => hfound.lt_of_size?) h
  have hnumber {name : String} {bound : Option Float} (h : Datum.absent? fields name Datum.float? = some bound) :
      ∀ x ∈ bound.toList, x.isFinite = true :=
    Datum.forall_of_absent? hvalue (fun _ _ hfound => hfound.isFinite_of_float?) h
  exact ⟨List.forall_mem_append.mpr ⟨hlength hminLength, hlength hmaxLength⟩,
    List.forall_mem_append.mpr ⟨hnumber hmin, hnumber hmax⟩⟩

/-- The lengths and numbers of a field that is read from JSON can be written. -/
theorem Field.inRange_of_ofDatum? {value : Datum} {field : Field} (hjson : value.IsJson)
    (h : ofDatum? value = some field) : field.InRange := by
  simp only [ofDatum?, Option.bind_eq_bind, Option.bind_eq_some_iff] at h
  obtain ⟨fields, hfields, name, -, label, -, kind, -, default, hdefault, placeholder, -, help, -, options, -,
    required, -, validation, hvalidation, heq⟩ := h
  cases heq
  have hvalue : ∀ {name : String} found, fields.get? name = some found → found.IsJson :=
    fun _ hfound => hjson.of_fields? hfields hfound
  have hrules : (∀ n ∈ validation.lengths, n < 2 ^ 64) ∧ ∀ x ∈ validation.numbers, x.isFinite = true := by
    rcases Datum.exists_of_defaulted? hvalidation with rfl | ⟨found, hfound, hread⟩
    · exact ⟨List.forall_mem_nil _, List.forall_mem_nil _⟩
    · exact ValidationRules.inRange_of_ofDatum? (hvalue found hfound) hread
  have hanswer : ∀ answer ∈ default.toList, ∀ x ∈ answer.numbers, x.isFinite = true :=
    Datum.forall_of_absent? hvalue (fun _ _ hfound => Answer.isFinite_of_ofDatum? hfound) hdefault
  refine ⟨hrules.1, List.forall_mem_append.mpr ⟨fun x hx => ?_, hrules.2⟩⟩
  obtain ⟨answer, hmem, hnumber⟩ := List.mem_flatMap.mp hx
  exact hanswer answer hmem x hnumber

/-- The fields of a step that is read from JSON can be written. -/
theorem Step.inRange_of_ofDatum? {value : Datum} {step : Step} (hjson : value.IsJson)
    (h : ofDatum? value = some step) : ∀ field ∈ step.fields, field.InRange := by
  simp only [ofDatum?, Option.bind_eq_bind, Option.bind_eq_some_iff] at h
  obtain ⟨fields, hfields, id, -, title, -, description, -, inner, hinner, heq⟩ := h
  cases heq
  rcases Datum.exists_of_defaulted? hinner with rfl | ⟨found, hfound, hread⟩
  · exact List.forall_mem_nil _
  · intro field hfield
    obtain ⟨item, hitem, hread⟩ := (hjson.of_fields? hfields hfound).exists_of_items? hread field hfield
    exact Field.inRange_of_ofDatum? hitem hread

namespace TemplateConfig

/-- Steps are read from JSON with fields that can be written. -/
theorem inRange_of_items? {value : Datum} {steps : List Step} (hjson : value.IsJson)
    (h : value.items? Step.ofDatum? = some steps) : ∀ field ∈ steps.flatMap (·.fields), field.InRange := by
  intro field hfield
  obtain ⟨step, hstep, hfield⟩ := List.mem_flatMap.mp hfield
  obtain ⟨item, hitem, hread⟩ := hjson.exists_of_items? h step hstep
  exact Step.inRange_of_ofDatum? hitem hread field hfield

/-- The fields of a document in JSON can be written, wherever its steps stand. -/
theorem inRange_of_ofDatum? {value : Datum} {config : TemplateConfig} (hjson : value.IsJson)
    (h : ofDatum? value = some config) : ∀ field ∈ config.fields, field.InRange := by
  simp only [ofDatum?, Option.bind_eq_bind, Option.bind_eq_some_iff] at h
  obtain ⟨fields, hfields, name, -, description, -, steps, hsteps, nested, hnested, heq⟩ := h
  cases heq
  have hvalue : ∀ {name : String} found, fields.get? name = some found → found.IsJson :=
    fun _ hfound => hjson.of_fields? hfields hfound
  have hempty : ∀ field ∈ ([] : List Step).flatMap (·.fields), field.InRange := List.forall_mem_nil _
  show ∀ field ∈ (if (nested.getD []).isEmpty then steps.getD [] else nested.getD []).flatMap (·.fields), field.InRange
  split
  · cases steps with
    | none => exact hempty
    | some steps =>
      obtain ⟨found, hfound, hread⟩ := Datum.exists_of_absent? hvalue hsteps
      exact inRange_of_items? (hvalue found hfound) hread
  · cases nested with
    | none => exact hempty
    | some nested =>
      obtain ⟨found, hfound, hread⟩ := Datum.exists_of_absent? hvalue hnested
      simp only [nestedSteps?, Option.bind_eq_bind, Option.bind_eq_some_iff] at hread
      obtain ⟨inner, hinner, hread⟩ := hread
      rcases Datum.exists_of_defaulted? hread with rfl | ⟨items, hitems, hread⟩
      · exact hempty
      · exact inRange_of_items? ((hvalue found hfound).of_fields? hinner hitems) hread

/-- Checking a form leaves its fields. -/
theorem fields_of_check {source config : TemplateConfig} (h : source.check = .ok config) :
    config.fields = source.fields := by
  unfold check at h
  split at h
  · cases h
  · split at h
    · cases h
    · cases h
      exact fields_withIds 1 source.steps

/-- A form of a JSON text can be written: its lengths have 64 bits, and its numbers are finite. -/
theorem inRange_of_ofJson {text : String} {config : TemplateConfig} (h : ofJson text = .ok config) :
    ∀ field ∈ config.fields, field.InRange := by
  unfold ofJson ofDocument at h
  split at h
  · next source hsource =>
    obtain ⟨value, hread, hsource⟩ := Option.bind_eq_some_iff.mp hsource
    rw [fields_of_check h]
    exact inRange_of_ofDatum? (Json.isJson_of_read hread) hsource
  · cases h

end TemplateConfig

end SiteBuilder
