import SiteBuilder.Form.Document
import SiteBuilder.Proofs.Form.Accepted

/-!
# What the check of a form decides

A form is accepted exactly if it has a step, its fields have different names and every pattern that they declare can
be read. It is then the form that was given, with positions for the identifiers that were missing. A form that is
refused for a field is refused for the first one, in the order of the document, that has the name of an earlier field
or a pattern that cannot be read; a field with both is refused for its name. Which patterns can be read is left to
`Pattern.parse?`.
-/

namespace SiteBuilder

/-! ## Faults of fields -/

namespace Field

/-- The pattern of a field can be read, if it declares one. -/
def Readable (field : Field) : Prop :=
  ∀ p, field.validation.pattern = some p → ∃ pattern, Pattern.parse? p = some pattern

/-- What is wrong with a field that comes after fields with certain names: its name is one of these, or else its
pattern cannot be read. -/
def FaultAfter (names : List String) (field : Field) (fault : SchemaError) : Prop :=
  (field.name ∈ names ∧ fault = .duplicateField field.name) ∨
    (field.name ∉ names ∧ ¬field.Readable ∧ fault = .invalidPattern field.name)

variable {names : List String} {field : Field}

/-- The test for a pattern that cannot be read. -/
theorem any_isNone_parse?_iff :
    (field.validation.pattern.any fun p => (Pattern.parse? p).isNone) = true ↔ ¬field.Readable := by
  unfold Readable
  cases field.validation.pattern with
  | none => simp
  | some p => simp [Option.eq_none_iff_forall_ne_some]

/-- A field has at most one fault. -/
theorem FaultAfter.unique {fault other : SchemaError} (h : field.FaultAfter names fault)
    (hother : field.FaultAfter names other) : fault = other := by
  rcases h with ⟨hname, rfl⟩ | ⟨hname, -, rfl⟩ <;> rcases hother with ⟨hother, rfl⟩ | ⟨hother, -, rfl⟩
  · rfl
  · exact absurd hname hother
  · exact absurd hother hname
  · rfl

/-- A field has no fault if its name is new and its pattern can be read. -/
theorem not_faultAfter_iff : (∀ fault, ¬field.FaultAfter names fault) ↔ field.name ∉ names ∧ field.Readable := by
  constructor
  · intro h
    have hname : field.name ∉ names := fun hseen => h _ (.inl ⟨hseen, rfl⟩)
    exact ⟨hname, not_not.mp fun hunreadable => h _ (.inr ⟨hname, hunreadable, rfl⟩)⟩
  · rintro ⟨hname, hreadable⟩ fault (⟨hseen, -⟩ | ⟨-, hunreadable, -⟩)
    · exact hname hseen
    · exact hunreadable hreadable

/-- The order of the names is of no concern to the fault of a field. -/
theorem faultAfter_congr {others : List String} (h : ∀ name, name ∈ names ↔ name ∈ others) (fault : SchemaError) :
    field.FaultAfter names fault ↔ field.FaultAfter others fault := by
  rw [FaultAfter, FaultAfter, h]

end Field

namespace TemplateConfig

/-- Fields with different names whose patterns can be read. -/
structure Faultless (fields : List Field) : Prop where
  names : (fields.map (·.name)).Nodup
  patterns : ∀ field ∈ fields, field.Readable

/-- Fields without a fault among themselves, none of which has one of certain names. -/
def FaultlessAfter (seen : List String) (fields : List Field) : Prop :=
  Faultless fields ∧ ∀ field ∈ fields, field.name ∉ seen

/-- The fault is that of the first field that has one. -/
def FirstFault (fields : List Field) (fault : SchemaError) : Prop :=
  ∃ earlier field later, fields = earlier ++ field :: later ∧ Faultless earlier ∧
    field.FaultAfter (earlier.map (·.name)) fault

variable {seen : List String} {field : Field} {rest fields : List Field} {fault : SchemaError}

/-- No fields have no fault. -/
theorem faultless_nil : Faultless [] := ⟨List.nodup_nil, List.forall_mem_nil _⟩

/-- Without names before them, fields have the faults that they have among themselves. -/
theorem faultlessAfter_nil : FaultlessAfter [] fields ↔ Faultless fields := by simp [FaultlessAfter]

/-- Fields have no fault if the first has none and the others have none after it. -/
theorem faultlessAfter_cons :
    FaultlessAfter seen (field :: rest) ↔
      (∀ fault, ¬field.FaultAfter seen fault) ∧ FaultlessAfter (field.name :: seen) rest := by
  rw [Field.not_faultAfter_iff]
  constructor
  · rintro ⟨⟨hnames, hpatterns⟩, hseen⟩
    rw [List.map_cons, List.nodup_cons] at hnames
    rw [List.forall_mem_cons] at hpatterns hseen
    refine ⟨⟨hseen.1, hpatterns.1⟩, ⟨hnames.2, hpatterns.2⟩, fun later hlater => ?_⟩
    rw [List.mem_cons, not_or]
    exact ⟨fun heq => hnames.1 (heq ▸ List.mem_map.mpr ⟨later, hlater, rfl⟩), hseen.2 later hlater⟩
  · rintro ⟨⟨hname, hpattern⟩, ⟨hnames, hpatterns⟩, hseen⟩
    have hfirst : field.name ∉ rest.map (·.name) := by
      intro hmem
      obtain ⟨later, hlater, hsame⟩ := List.mem_map.mp hmem
      exact hseen later hlater (hsame ▸ List.mem_cons_self)
    refine ⟨⟨List.nodup_cons.mpr ⟨hfirst, hnames⟩, List.forall_mem_cons.mpr ⟨hpattern, hpatterns⟩⟩, ?_⟩
    exact List.forall_mem_cons.mpr ⟨hname, fun later hlater hmem => hseen later hlater (List.mem_cons_of_mem _ hmem)⟩

/-- A fault of the first field is the first fault. -/
theorem firstFault_cons_of_faultAfter (h : field.FaultAfter seen fault) :
    firstFault seen (field :: rest) = some fault := by
  rw [firstFault]
  rcases h with ⟨hname, rfl⟩ | ⟨hname, hpattern, rfl⟩
  · rw [if_pos (by simpa using hname)]
  · rw [if_neg (by simpa using hname), if_pos (Field.any_isNone_parse?_iff.mpr hpattern)]

/-- If the first field has no fault, the first one is that of the others after it. -/
theorem firstFault_cons_of_not_faultAfter (h : ∀ fault, ¬field.FaultAfter seen fault) :
    firstFault seen (field :: rest) = firstFault (field.name :: seen) rest := by
  obtain ⟨hname, hpattern⟩ := Field.not_faultAfter_iff.mp h
  rw [firstFault, if_neg (by simpa using hname), if_neg fun hnone => Field.any_isNone_parse?_iff.mp hnone hpattern]

/-- No fault is found in fields that have none. -/
theorem firstFault_eq_none_iff : firstFault seen fields = none ↔ FaultlessAfter seen fields := by
  constructor
  · intro h
    obtain ⟨hnames, hseen⟩ := nodup_of_firstFault h
    exact ⟨⟨hnames, fun field hfield p hp => exists_pattern_of_firstFault h hfield hp⟩, hseen⟩
  · intro h
    induction fields generalizing seen with
    | nil => rfl
    | cons field rest ih =>
      obtain ⟨hfield, hrest⟩ := faultlessAfter_cons.mp h
      rw [firstFault_cons_of_not_faultAfter hfield]
      exact ih hrest

/-- The fault that is found is that of a field before which no field has one. -/
theorem firstFault_eq_some_iff :
    firstFault seen fields = some fault ↔
      ∃ earlier field later, fields = earlier ++ field :: later ∧ FaultlessAfter seen earlier ∧
        field.FaultAfter (earlier.map (·.name) ++ seen) fault := by
  induction fields generalizing seen with
  | nil => simp [firstFault]
  | cons first rest ih =>
    by_cases hfirst : ∀ fault, ¬first.FaultAfter seen fault
    · rw [firstFault_cons_of_not_faultAfter hfirst, ih]
      -- Taking the first field to the others before the fault moves its name, and nothing else.
      have hnames (earlier : List Field) (name : String) :
          name ∈ earlier.map (·.name) ++ first.name :: seen ↔ name ∈ (first :: earlier).map (·.name) ++ seen := by
        simp only [List.map_cons, List.cons_append, List.mem_append, List.mem_cons]
        exact or_left_comm
      constructor
      · rintro ⟨earlier, field, later, rfl, hearlier, hfault⟩
        exact ⟨first :: earlier, field, later, rfl, faultlessAfter_cons.mpr ⟨hfirst, hearlier⟩,
          (Field.faultAfter_congr (hnames earlier) fault).mp hfault⟩
      · rintro ⟨earlier, field, later, hsplit, hearlier, hfault⟩
        cases earlier with
        | nil =>
          cases hsplit
          exact absurd hfault (hfirst fault)
        | cons other earlier =>
          cases hsplit
          exact ⟨earlier, field, later, rfl, (faultlessAfter_cons.mp hearlier).2,
            (Field.faultAfter_congr (hnames earlier) fault).mpr hfault⟩
    · obtain ⟨found, hfound⟩ := not_forall_not.mp hfirst
      rw [firstFault_cons_of_faultAfter hfound, Option.some.injEq]
      constructor
      · rintro rfl
        exact ⟨[], first, rest, rfl, ⟨faultless_nil, List.forall_mem_nil _⟩, hfound⟩
      · rintro ⟨earlier, field, later, hsplit, hearlier, hfault⟩
        cases earlier with
        | nil =>
          cases hsplit
          exact hfound.unique hfault
        | cons other earlier =>
          cases hsplit
          exact absurd hfound ((faultlessAfter_cons.mp hearlier).1 found)

/-- The first fault of all fields is found. -/
theorem firstFault_nil_eq_some_iff : firstFault [] fields = some fault ↔ FirstFault fields fault := by
  simp only [firstFault_eq_some_iff, FirstFault, faultlessAfter_nil, List.append_nil]

/-! ## The check -/

/-- A step at a position, with the position for an identifier that is missing. -/
def numbered (position : Nat) (step : Step) : Step :=
  if step.id = "" then { step with id := toString position } else step

/-- Identifiers are filled in by the positions of the steps. -/
theorem withIds_eq_mapIdx (position : Nat) (steps : List Step) :
    withIds position steps = steps.mapIdx fun index step => numbered (position + index) step := by
  induction steps generalizing position with
  | nil => rfl
  | cons step rest ih =>
    rw [withIds, List.mapIdx_cons, ih (position + 1)]
    simp only [Nat.add_assoc, Nat.add_comm 1]
    rfl

/-- What a form comes to when it is checked. -/
structure Judged (source : TemplateConfig) (verdict : Except SchemaError TemplateConfig) : Prop where
  /-- It is accepted exactly if it has a step and its fields have no fault. -/
  accepted_iff : (∃ config, verdict = .ok config) ↔ source.steps ≠ [] ∧ Faultless source.fields
  /-- What is accepted has the same steps, with positions, from one on, for the identifiers that are missing. -/
  numbers : ∀ config, verdict = .ok config →
    config = { source with steps := source.steps.mapIdx fun index step => numbered (index + 1) step }
  /-- Each field is found by its name in what is accepted. -/
  finds : ∀ config, verdict = .ok config → ∀ field ∈ source.fields, config.field? field.name = some field
  /-- It is refused for having no steps, or else for the first fault of its fields. -/
  refused_iff : ∀ cause, verdict = .error cause ↔
    source.steps = [] ∧ cause = .noSteps ∨ source.steps ≠ [] ∧ FirstFault source.fields cause

/-- The check of any form is right. -/
theorem judged_check (source : TemplateConfig) : Judged source source.check := by
  have hfaultless : Faultless source.fields ↔ firstFault [] source.fields = none := by
    rw [firstFault_eq_none_iff, faultlessAfter_nil]
  cases hsteps : source.steps with
  | nil =>
    have hcheck : source.check = .error .noSteps := by rw [check, hsteps, List.isEmpty_nil, if_pos rfl]
    rw [hcheck]
    refine ⟨?_, ?_, ?_, fun cause => ?_⟩
    · simp [hsteps]
    · rintro config ⟨⟩
    · rintro config ⟨⟩
    · simp [hsteps, eq_comm]
  | cons first rest =>
    have hne : source.steps ≠ [] := hsteps ▸ List.cons_ne_nil first rest
    cases hfault : firstFault [] source.fields with
    | some fault =>
      have hcheck : source.check = .error fault := by
        rw [check, if_neg (by simpa using hne), hfault]
      rw [hcheck]
      refine ⟨?_, ?_, ?_, fun cause => ?_⟩
      · simp [hfaultless, hfault]
      · rintro config ⟨⟩
      · rintro config ⟨⟩
      · simp [hne, ← firstFault_nil_eq_some_iff, hfault]
    | none =>
      have hcheck : source.check = .ok { source with steps := withIds 1 source.steps } := by
        rw [check, if_neg (by simpa using hne), hfault]
      have haccepted : Accepted { source with steps := withIds 1 source.steps } := ⟨source, hcheck⟩
      rw [hcheck]
      refine ⟨?_, ?_, ?_, fun cause => ?_⟩
      · simp [hne, hfaultless, hfault]
      · rintro config ⟨⟩
        simp only [withIds_eq_mapIdx, Nat.add_comm 1]
      · rintro config ⟨⟩ field hfield
        refine haccepted.field?_name ?_
        rw [fields, fields_withIds]
        exact hfield
      · simp [hne, ← firstFault_nil_eq_some_iff, hfault]

end TemplateConfig

/-! ## Documents -/

/-- What the document of a form holds. Steps may stand in two places. -/
structure FormDocument where
  name : Option String
  description : Option String
  /-- The steps at the top. -/
  top : Option (List Step)
  /-- The steps under `formConfig`. -/
  nested : Option (List Step)
  deriving DecidableEq

namespace FormDocument

/-- What a value holds as the document of a form. -/
def ofDatum? (value : Datum) : Option FormDocument := do
  let fields ← value.fields? ["name", "description", "steps", "formConfig"]
  let name ← Datum.absent? fields "name" Datum.text?
  let description ← Datum.absent? fields "description" Datum.text?
  let top ← Datum.absent? fields "steps" (Datum.items? Step.ofDatum?)
  let nested ← Datum.absent? fields "formConfig" TemplateConfig.nestedSteps?
  return ⟨name, description, top, nested⟩

/-- The form of a document: of the nested steps, if there are any, and otherwise of those at the top. -/
def form : FormDocument → TemplateConfig
  | ⟨name, description, _, some (first :: rest)⟩ => ⟨name, description, first :: rest⟩
  | ⟨name, description, some steps, _⟩ => ⟨name, description, steps⟩
  | ⟨name, description, none, _⟩ => ⟨name, description, []⟩

end FormDocument

namespace TemplateConfig

/-- What is read from a document to be checked is its form. -/
theorem ofDatum?_eq (value : Datum) : ofDatum? value = (FormDocument.ofDatum? value).map FormDocument.form := by
  have hform (name description : Option String) (top nested : Option (List Step)) :
      some (⟨name, description, if (nested.getD []).isEmpty then top.getD [] else nested.getD []⟩ : TemplateConfig) =
        some (FormDocument.form ⟨name, description, top, nested⟩) := by
    rcases nested with _ | _ | ⟨first, rest⟩ <;> cases top <;> rfl
  unfold ofDatum? FormDocument.ofDatum?
  simp only [Option.bind_eq_bind, Option.map_bind, Function.comp_def, Option.pure_def, Option.map_some, hform]

/-- The check of a document that can be read is right. -/
theorem judged_ofDocument {read : Option Datum} {document : FormDocument}
    (h : read.bind FormDocument.ofDatum? = some document) : Judged document.form (ofDocument read) := by
  obtain ⟨value, rfl, hdocument⟩ := Option.bind_eq_some_iff.mp h
  have hform : (some value).bind ofDatum? = some document.form := by
    rw [Option.bind_some, ofDatum?_eq, hdocument, Option.map_some]
  rw [ofDocument, hform]
  exact judged_check document.form

/-- Forms are judged rightly, whether their steps are given as they are or in a document of either format. -/
theorem judged_of_steps_or_document :
    (∀ steps, Judged ⟨none, none, steps⟩ (ofSteps steps)) ∧
      (∀ text document, (Json.read text).bind FormDocument.ofDatum? = some document →
        Judged document.form (ofJson text)) ∧
      ∀ text document, (Yaml.read text).bind FormDocument.ofDatum? = some document →
        Judged document.form (ofYaml text) := by
  refine ⟨fun steps => ?_, fun text document hread => ?_, fun text document hread => ?_⟩
  · exact judged_check ⟨none, none, steps⟩
  · exact judged_ofDocument hread
  · exact judged_ofDocument hread

/-- A document with steps in both places has those under `formConfig` checked: they are accepted, and of the three the
second keeps its identifier. -/
theorem judged_of_nested_and_top_steps :
    let text := "\x7b\"steps\":[\x7b\"title\":\"Old\"\x7d],\"formConfig\":\x7b\"steps\":[\x7b\"title\":\"You\"," ++
      "\"fields\":[\x7b\"name\":\"name\",\"validation\":\x7b\"pattern\":\"^.+$\"\x7d\x7d]\x7d," ++
      "\x7b\"id\":7,\"title\":\"Site\"\x7d,\x7b\"title\":\"End\"\x7d]\x7d\x7d"
    let name : Field := ⟨"name", none, .text, none, none, none, [], false,
      { ValidationRules.none with pattern := some "^.+$" }⟩
    let nested : List Step := [⟨"", "You", none, [name]⟩, ⟨"7", "Site", none, []⟩, ⟨"", "End", none, []⟩]
    (Json.read text).bind FormDocument.ofDatum? = some ⟨none, none, some [⟨"", "Old", none, []⟩], some nested⟩ ∧
      Judged ⟨none, none, nested⟩ (ofJson text) ∧
      ∃ config, ofJson text = .ok config ∧ config.steps.map (·.id) = ["1", "7", "3"] := by
  intro text name nested
  have hread : (Json.read text).bind FormDocument.ofDatum? =
      some ⟨none, none, some [⟨"", "Old", none, []⟩], some nested⟩ := by decide +kernel
  have hjudged : Judged ⟨none, none, nested⟩ (ofJson text) := judged_of_steps_or_document.2.1 text _ hread
  have hfaultless : Faultless (fields ⟨none, none, nested⟩) :=
    faultlessAfter_nil.mp (firstFault_eq_none_iff.mp (by decide +kernel))
  obtain ⟨config, hconfig⟩ := hjudged.accepted_iff.mpr ⟨List.cons_ne_nil _ _, hfaultless⟩
  refine ⟨hread, hjudged, config, hconfig, ?_⟩
  rw [hjudged.numbers config hconfig]
  decide +kernel

end TemplateConfig

end SiteBuilder
