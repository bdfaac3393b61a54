import SiteBuilder.Proofs.Form.Document
import SiteBuilder.Proofs.Form.Numbers
import SiteBuilder.Proofs.Json.Compact

/-!
# Forms that are written and read again

A form is written with every part of it, under the names its reader asks for, and with no value for what it lacks. Its
steps stand at the top of what is written, its identifiers are texts, and its kinds have their first names. Reading
all this gives the form that was written, and checking it finds nothing to fill in, as that was done when the form was
accepted. What is assumed is that JSON reads the numbers of the form as they are written.
-/

namespace SiteBuilder

open Json

/-! ## Reading what was written -/

namespace Datum

variable {α : Type} {fields : NameMap Datum} {name : String} {value : Datum} {f : Datum → Option α}

/-- A reader of a record's fields finds the entries of a record whose names are the first ones it asks for. -/
theorem bind_fields?_record {entries : List (String × Datum)} {declared : List String}
    {read : NameMap Datum → Option α} {result : α} (others : List String)
    (hdeclared : entries.map (·.1) ++ others = declared) (hnames : declared.Nodup)
    (hread : ∀ fields : NameMap Datum, (∀ name, fields.get? name = entries.lookup name) → read fields = some result) :
    ((Datum.record entries).fields? declared).bind read = some result := by
  have hdistinct : (entries.map (·.1)).Nodup := (List.nodup_append.mp (hdeclared ▸ hnames)).1
  have hknown : entries.filter (fun entry => declared.contains entry.1) = entries := by
    rw [List.filter_eq_self]
    intro entry hentry
    rw [List.contains_iff_mem, ← hdeclared]
    exact List.mem_append_left _ (List.mem_map_of_mem hentry)
  simp only [fields?, hknown, if_pos hdistinct, Option.bind_some]
  exact hread _ (NameMap.get?_ofList hdistinct)

/-- What is written for a value that may be absent is read as that value, or as its absence. -/
theorem optional?_ofOption {g : α → Datum} {o : Option α} (h : ∀ a, o = some a → (g a).optional? f = some (some a)) :
    (ofOption g o).optional? f = some o := by
  cases o with
  | none => rfl
  | some a => exact h a rfl

/-- A text that may be absent is read as it was. -/
theorem optional?_ofOption_text (o : Option String) : (ofOption .text o).optional? text? = some o :=
  optional?_ofOption fun _ _ => rfl

/-- Results are traversed as they were written. -/
theorem mapM_map_eq_some {β : Type} {f : β → Option α} {g : α → β} {results : List α}
    (h : ∀ a ∈ results, f (g a) = some a) : (results.map g).mapM f = some results := by
  induction results with
  | nil => rfl
  | cons a rest ih =>
    rw [List.map_cons, List.mapM_cons, h a List.mem_cons_self, ih fun b hb => h b (List.mem_cons_of_mem _ hb)]
    rfl

/-- A list is read item by item. -/
theorem items?_map {g : α → Datum} {results : List α} (h : ∀ a ∈ results, f (g a) = some a) :
    (Datum.list (results.map g)).items? f = some results :=
  mapM_map_eq_some h

end Datum

/-- An answer is read from its value. -/
theorem Answer.optional?_toDatum (answer : Answer) : answer.toDatum.optional? ofDatum? = some (some answer) := by
  cases answer <;> rfl

/-- A kind is read from its name. -/
theorem FieldKind.ofDatum?_label (kind : FieldKind) : ofDatum? (.text kind.label) = some kind := by
  cases kind <;> rfl

/-- An option is read from its value, which is a record exactly if it has a label or may have one. -/
theorem FieldOption.ofDatum?_toDatum (option : FieldOption) : ofDatum? option.toDatum = some option := by
  cases option with
  | plain value => rfl
  | labeled value label =>
    have hreadable : (Datum.record [("value", .text value), ("label", .ofOption .text label)]).isReadable = true := by
      cases label <;> rfl
    simp only [toDatum, ofDatum?, Datum.resolved, hreadable, Bool.not_true, Bool.false_eq_true, ↓reduceIte]
    refine Datum.bind_fields?_record [] rfl (by decide) fun fields hget => ?_
    simp only [Datum.required?, Datum.defaulted?, hget, List.lookup_cons, String.reduceBEq, beq_self_eq_true]
    cases label <;> rfl

/-- A length of 64 bits is read as it was. -/
theorem Datum.optional?_ofOption_size {o : Option Nat} (h : ∀ n ∈ o.toList, n < 2 ^ 64) :
    (ofOption (fun n : Nat => .int n) o).optional? size? = some o := by
  refine optional?_ofOption fun n hn => ?_
  have hbits : n < 2 ^ 64 := h n (Option.mem_toList.mpr hn)
  have hsize : (Datum.int n).size? = some n := by
    have hfits : (0 : Int) ≤ n ∧ (n : Int) < (Nat.pow 2 64 : Int) := ⟨by omega, by exact_mod_cast hbits⟩
    rw [size?, if_pos hfits, Int.toNat_natCast]
  simp only [optional?, hsize, Option.map_some]

/-- A number that may be absent is read as it was. -/
theorem Datum.optional?_ofOption_float (o : Option Float) : (ofOption .float o).optional? float? = some o :=
  optional?_ofOption fun _ _ => rfl

/-- Rules are read from their value. -/
theorem ValidationRules.ofDatum?_toDatum {rules : ValidationRules} (h : ∀ n ∈ rules.lengths, n < 2 ^ 64) :
    ofDatum? rules.toDatum = some rules := by
  obtain ⟨hminLength, hmaxLength⟩ := List.forall_mem_append.mp h
  unfold ofDatum? toDatum
  refine Datum.bind_fields?_record [] rfl (by decide) fun fields hget => ?_
  simp only [Datum.defaulted?, Datum.absent?, hget, List.lookup_cons, String.reduceBEq, beq_self_eq_true,
    Datum.optional?_ofOption_text, Datum.optional?_ofOption_size hminLength, Datum.optional?_ofOption_size hmaxLength,
    Datum.optional?_ofOption_float]
  rfl

/-- A field is read from its value. -/
theorem Field.ofDatum?_toDatum {field : Field} (h : ∀ n ∈ field.validation.lengths, n < 2 ^ 64) :
    ofDatum? field.toDatum = some field := by
  have hdefault : (Datum.ofOption Answer.toDatum field.default).optional? Answer.ofDatum? = some field.default :=
    Datum.optional?_ofOption fun answer _ => answer.optional?_toDatum
  have hoptions :
      (Datum.list (field.options.map FieldOption.toDatum)).items? FieldOption.ofDatum? = some field.options :=
    Datum.items?_map fun option _ => option.ofDatum?_toDatum
  unfold ofDatum? toDatum
  refine Datum.bind_fields?_record [] rfl (by decide) fun fields hget => ?_
  simp only [Datum.required?, Datum.defaulted?, Datum.absent?, hget, List.lookup_cons, String.reduceBEq,
    beq_self_eq_true, Datum.optional?_ofOption_text, hdefault, hoptions, FieldKind.ofDatum?_label,
    ValidationRules.ofDatum?_toDatum h]
  rfl

/-- A step is read from its value. -/
theorem Step.ofDatum?_toDatum {step : Step} (h : ∀ field ∈ step.fields, field.InRange) :
    ofDatum? step.toDatum = some step := by
  have hfields : (Datum.list (step.fields.map Field.toDatum)).items? Field.ofDatum? = some step.fields :=
    Datum.items?_map fun field hfield => Field.ofDatum?_toDatum (h field hfield).lengths
  unfold ofDatum? toDatum
  refine Datum.bind_fields?_record [] rfl (by decide) fun fields hget => ?_
  simp only [Datum.required?, Datum.defaulted?, Datum.absent?, hget, List.lookup_cons, String.reduceBEq,
    beq_self_eq_true, Datum.optional?_ofOption_text, hfields]
  rfl

/-- The steps of a form are read from their values. -/
theorem TemplateConfig.items?_steps {config : TemplateConfig} (h : ∀ field ∈ config.fields, field.InRange) :
    (Datum.list (config.steps.map Step.toDatum)).items? Step.ofDatum? = some config.steps :=
  Datum.items?_map fun step hstep => Step.ofDatum?_toDatum fun field hfield =>
    h field (List.mem_flatMap.mpr ⟨step, hstep, hfield⟩)

/-- A form is read from its value, where its steps stand at the top. -/
theorem TemplateConfig.ofDatum?_toDatum {config : TemplateConfig} (h : ∀ field ∈ config.fields, field.InRange) :
    ofDatum? config.toDatum = some config := by
  have hsteps : (Datum.list (config.steps.map Step.toDatum)).optional? (Datum.items? Step.ofDatum?) =
      some (some config.steps) := by
    simp only [Datum.optional?, items?_steps h, Option.map_some]
  unfold ofDatum? toDatum
  refine Datum.bind_fields?_record ["formConfig"] rfl (by decide) fun fields hget => ?_
  simp only [Datum.absent?, hget, List.lookup_cons, String.reduceBEq, beq_self_eq_true, Datum.optional?_ofOption_text,
    hsteps]
  rfl

/-! ## Documents that are read back -/

/-- What is written for a value that may be absent is read back. -/
theorem readsBack_ofOption {α : Type} {height : Nat} {g : α → Datum} {o : Option α}
    (h : ∀ a ∈ o.toList, ReadsBack height (g a)) : ReadsBack height (.ofOption g o) := by
  cases o with
  | none => exact readsBack_null
  | some a => exact h a List.mem_cons_self

/-- A text that may be absent is read back. -/
theorem readsBack_ofOption_text {height : Nat} (o : Option String) : ReadsBack height (.ofOption .text o) :=
  readsBack_ofOption fun s _ => readsBack_text s

/-- A finite number is read back if JSON reads what it writes for it. -/
theorem readsBack_float {height : Nat} {x : Float} (hfinite : x.isFinite = true) (h : (Answer.number x).IsReadBack) :
    ReadsBack height (.float x) :=
  (readAs_of_read (h (Decimal.isFinite_iff.mp hfinite))).readsBack (by simp only [compact, pretty, prettyAt])

/-- The value of an option is read back. -/
theorem FieldOption.readsBack_toDatum (option : FieldOption) : ReadsBack 1 option.toDatum := by
  cases option with
  | plain value => exact readsBack_text value
  | labeled value label =>
    refine readsBack_record 0 ?_
    simp only [List.forall_mem_cons]
    exact ⟨readsBack_text value, readsBack_ofOption_text label, List.forall_mem_nil _⟩

/-- The value of rules is read back if their numbers are. -/
theorem ValidationRules.readsBack_toDatum {rules : ValidationRules} (hlengths : ∀ n ∈ rules.lengths, n < 2 ^ 64)
    (hnumbers : ∀ x ∈ rules.numbers, ReadsBack 0 (.float x)) : ReadsBack 1 rules.toDatum := by
  obtain ⟨hminLength, hmaxLength⟩ := List.forall_mem_append.mp hlengths
  obtain ⟨hmin, hmax⟩ := List.forall_mem_append.mp hnumbers
  refine readsBack_record 0 ?_
  simp only [List.forall_mem_cons]
  exact ⟨readsBack_bool rules.required, readsBack_ofOption_text rules.pattern,
    readsBack_ofOption fun n hn => readsBack_int (hminLength n hn),
    readsBack_ofOption fun n hn => readsBack_int (hmaxLength n hn), readsBack_ofOption hmin, readsBack_ofOption hmax,
    readsBack_ofOption_text rules.custom, readsBack_ofOption_text rules.message, List.forall_mem_nil _⟩

/-- The value of an answer is read back if it is no number or a number that is. -/
theorem Answer.readsBack_toDatum {height : Nat} {answer : Answer}
    (h : ∀ x ∈ answer.numbers, ReadsBack height (.float x)) : ReadsBack height answer.toDatum := by
  cases answer with
  | bool b => exact readsBack_bool b
  | text s => exact readsBack_text s
  | number x => exact h x List.mem_cons_self

/-- The value of a field is read back if its numbers are. -/
theorem Field.readsBack_toDatum {field : Field} (hrange : field.InRange)
    (hnumbers : ∀ x ∈ field.numbers, (Answer.number x).IsReadBack) : ReadsBack 3 field.toDatum := by
  have hread {height : Nat} : ∀ x ∈ field.numbers, ReadsBack height (.float x) :=
    fun x hx => readsBack_float (hrange.numbers x hx) (hnumbers x hx)
  have hdefault : ReadsBack 2 (.ofOption Answer.toDatum field.default) :=
    readsBack_ofOption fun answer hanswer => Answer.readsBack_toDatum fun x hx =>
      (List.forall_mem_append.mp hread).1 x (List.mem_flatMap.mpr ⟨answer, hanswer, hx⟩)
  have hoptions : ReadsBack 2 (.list (field.options.map FieldOption.toDatum)) := by
    refine readsBack_list fun item hitem => ?_
    obtain ⟨option, -, rfl⟩ := List.mem_map.mp hitem
    exact option.readsBack_toDatum
  have hvalidation : ReadsBack 2 field.validation.toDatum :=
    (ValidationRules.readsBack_toDatum hrange.lengths (List.forall_mem_append.mp hread).2).mono (by decide)
  refine readsBack_record 2 ?_
  simp only [List.forall_mem_cons]
  exact ⟨readsBack_text field.name, readsBack_ofOption_text field.label, readsBack_text field.kind.label, hdefault,
    readsBack_ofOption_text field.placeholder, readsBack_ofOption_text field.help, hoptions,
    readsBack_bool field.required, hvalidation, List.forall_mem_nil _⟩

/-- The value of a step is read back if the numbers of its fields are. -/
theorem Step.readsBack_toDatum {step : Step} (hrange : ∀ field ∈ step.fields, field.InRange)
    (hnumbers : ∀ field ∈ step.fields, ∀ x ∈ field.numbers, (Answer.number x).IsReadBack) :
    ReadsBack 5 step.toDatum := by
  have hfields : ReadsBack 4 (.list (step.fields.map Field.toDatum)) := by
    refine readsBack_list fun item hitem => ?_
    obtain ⟨field, hfield, rfl⟩ := List.mem_map.mp hitem
    exact Field.readsBack_toDatum (hrange field hfield) (hnumbers field hfield)
  refine readsBack_record 4 ?_
  simp only [List.forall_mem_cons]
  exact ⟨readsBack_text step.id, readsBack_text step.title, readsBack_ofOption_text step.description, hfields,
    List.forall_mem_nil _⟩

namespace TemplateConfig

variable {config : TemplateConfig}

/-- The value of a form is read back if its numbers are. -/
theorem readsBack_toDatum (hrange : ∀ field ∈ config.fields, field.InRange)
    (hnumbers : ∀ x ∈ config.numbers, (Answer.number x).IsReadBack) : ReadsBack 7 config.toDatum := by
  have hsteps : ReadsBack 6 (.list (config.steps.map Step.toDatum)) := by
    refine readsBack_list fun item hitem => ?_
    obtain ⟨step, hstep, rfl⟩ := List.mem_map.mp hitem
    have hmem : ∀ field ∈ step.fields, field ∈ config.fields :=
      fun field hfield => List.mem_flatMap.mpr ⟨step, hstep, hfield⟩
    exact Step.readsBack_toDatum (fun field hfield => hrange field (hmem field hfield))
      fun field hfield x hx => hnumbers x (List.mem_flatMap.mpr ⟨field, hmem field hfield, hx⟩)
  refine readsBack_record 6 ?_
  simp only [List.forall_mem_cons]
  exact ⟨readsBack_ofOption_text config.name, readsBack_ofOption_text config.description, hsteps,
    List.forall_mem_nil _⟩

/-- Every step has an identifier after identifiers were given. -/
theorem id_ne_of_mem_withIds {position : Nat} {steps : List Step} {step : Step} (h : step ∈ withIds position steps) :
    step.id ≠ "" := by
  induction steps generalizing position with
  | nil => cases h
  | cons first rest ih =>
    rcases List.mem_cons.mp h with rfl | hrest
    · split
      · intro hempty
        have hdigits : Decimal.digitsOf position = [] := by simpa using hempty
        exact Nat.toDigits_ne_nil hdigits
      · assumption
    · exact ih hrest

/-- Steps that have identifiers keep them. -/
theorem withIds_eq_self {position : Nat} {steps : List Step} (h : ∀ step ∈ steps, step.id ≠ "") :
    withIds position steps = steps := by
  induction steps generalizing position with
  | nil => rfl
  | cons first rest ih =>
    obtain ⟨hfirst, hrest⟩ := List.forall_mem_cons.mp h
    rw [withIds, if_neg hfirst, ih hrest]

/-- An accepted form is accepted as it is. -/
theorem Accepted.check_eq (h : config.Accepted) : config.check = .ok config := by
  obtain ⟨hsteps, hfault⟩ := h.checked
  have hids : ∀ step ∈ config.steps, step.id ≠ "" := by
    obtain ⟨source, hcheck⟩ := h
    unfold check at hcheck
    split at hcheck
    · cases hcheck
    · split at hcheck
      · cases hcheck
      · cases hcheck
        exact fun step => id_ne_of_mem_withIds
  have hne : ¬config.steps.isEmpty = true := by
    rw [List.isEmpty_iff, ← List.length_eq_zero_iff]
    exact Nat.ne_of_gt hsteps
  rw [check, if_neg hne, hfault]
  show Except.ok { config with steps := withIds 1 config.steps } = .ok config
  rw [withIds_eq_self hids]

/-- A form of a JSON text is accepted. -/
theorem accepted_of_ofJson {text : String} (h : ofJson text = .ok config) : config.Accepted := by
  unfold ofJson ofDocument at h
  split at h
  · next source _ => exact ⟨source, h⟩
  · cases h

/-- The form that is read from a form that was written is the form that was written. -/
theorem ofJson_compact_toDatum {text : String} (h : ofJson text = .ok config)
    (hnumbers : ∀ x ∈ config.numbers, (Answer.number x).IsReadBack) :
    ofJson (compact config.toDatum) = .ok config := by
  have hrange := inRange_of_ofJson h
  have hread : Json.read (compact config.toDatum) = some config.toDatum :=
    read_compact ((readsBack_toDatum hrange hnumbers).mono (by decide))
  rw [ofJson, hread, ofDocument, Option.bind_some, ofDatum?_toDatum hrange]
  exact (accepted_of_ofJson h).check_eq

end TemplateConfig

end SiteBuilder
