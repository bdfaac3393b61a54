import SiteBuilder.Form.Validation
import SiteBuilder.Proofs.Decimal.Order
import SiteBuilder.Proofs.Form.Accepted
import SiteBuilder.Proofs.Form.Format

/-!
# What validation asks for

Validation passes a field if its answer is blank and need not be given, or else is not blank and keeps all
rules of the field: the form of its kind, the bounds of a number, the bounds on its length, its pattern and its
named predicate. The order of the rules decides the message only.

The bounds of a number are kept as far as floats can be compared. What is no number is neither below nor
above any bound, so it keeps all of them.
-/

namespace SiteBuilder

namespace Field

variable {field : Field} {answer : Answer} {predicates : Predicates}

/-- An answer has the form that the kind of a field asks for. A choice among no options is free. -/
def FitsKind (field : Field) (answer : Answer) : Prop :=
  match field.kind with
  | .text | .textarea => True
  | .number => ∃ n, answer.number? = some n
  | .color => Format.Color (Text.trim answer.display)
  | .url => Format.PageAddress answer.display
  | .email => Format.EmailAddress (Text.trim answer.display)
  | .boolean => ∃ b, answer = .bool b
  | .select => field.options = [] ∨ ∃ option ∈ field.options, option.value = answer.display

/-- An answer keeps all rules of a field, where `atMost` says what it is to keep a bound of a number. -/
structure Keeps (field : Field) (atMost : Float → Float → Prop) (predicates : Predicates) (answer : Answer) :
    Prop where
  kind : field.FitsKind answer
  min : field.kind = .number → ∀ least, field.validation.min = some least →
    ∀ n, answer.number? = some n → atMost least n
  max : field.kind = .number → ∀ most, field.validation.max = some most →
    ∀ n, answer.number? = some n → atMost n most
  minLength : ∀ least, field.validation.minLength = some least → least ≤ answer.display.length
  maxLength : ∀ most, field.validation.maxLength = some most → answer.display.length ≤ most
  pattern : ∀ p, field.validation.pattern = some p →
    ∃ pattern, Pattern.parse? p = some pattern ∧ pattern.occursIn answer.display = true
  predicate : ∀ name, field.validation.custom = some name →
    ∀ predicate, predicates.get? name = some predicate → predicate answer = true

/-- The value of a field is blank and need not be given, or it is not blank and keeps all rules. -/
def Passes (field : Field) (atMost : Float → Float → Prop) (predicates : Predicates) (value : Option Answer) :
    Prop :=
  ((∀ answer, value = some answer → answer.isBlank = true) ∧ field.isRequired = false) ∨
    ∃ answer, value = some answer ∧ answer.isBlank = false ∧ field.Keeps atMost predicates answer

/-- Where a field bounds the number that its value denotes, both are numbers. -/
def Comparable (field : Field) (value : Option Answer) : Prop :=
  field.kind = .number → ∀ answer n bound, value = some answer → answer.number? = some n →
    (field.validation.min = some bound ∨ field.validation.max = some bound) →
    n.isNaN = false ∧ bound.isNaN = false

/-- The rule of the kind is kept if the answer has its form and, being a number, is within the bounds. -/
theorem kindProblem?_eq_none_iff :
    field.kindProblem? answer = none ↔
      field.FitsKind answer ∧
        (field.kind = .number → ∀ least, field.validation.min = some least →
          ∀ n, answer.number? = some n → Decimal.NotAbove least n) ∧
        (field.kind = .number → ∀ most, field.validation.max = some most →
          ∀ n, answer.number? = some n → Decimal.NotAbove n most) := by
  unfold kindProblem? FitsKind
  cases hkind : field.kind with
  | text | textarea => simp
  | number =>
    cases answer.number? with
    | none => simp
    | some n =>
      have hmin : field.validation.min.any (n < ·) = false ↔
          ∀ least, field.validation.min = some least → Decimal.NotAbove least n := by
        simp [Option.any_eq_false, Decimal.notAbove_iff_not_lt]
      have hmax : field.validation.max.any (· < n) = false ↔
          ∀ most, field.validation.max = some most → Decimal.NotAbove n most := by
        simp [Option.any_eq_false, Decimal.notAbove_iff_not_lt]
      simp only [forall_const, Option.some.injEq, forall_eq', exists_eq', true_and]
      rw [← hmin, ← hmax]
      cases field.validation.min.any (n < ·) <;> cases field.validation.max.any (· < n) <;> simp
  | color => simp [Format.isHexColor_iff]
  | url => simp [Format.isWebUrl_iff]
  | email => simp [Format.isEmail_iff]
  | boolean => cases answer <;> simp
  | select => simp [or_iff_not_imp_left]

/-- The rule of the length is kept if the number of characters is within its bounds. -/
theorem lengthProblem?_eq_none_iff {text : String} :
    field.lengthProblem? text = none ↔
      (∀ least, field.validation.minLength = some least → least ≤ text.length) ∧
        ∀ most, field.validation.maxLength = some most → text.length ≤ most := by
  have hmin : field.validation.minLength.any (text.length < ·) = false ↔
      ∀ least, field.validation.minLength = some least → least ≤ text.length := by
    simp [Option.any_eq_false]
  have hmax : field.validation.maxLength.any (· < text.length) = false ↔
      ∀ most, field.validation.maxLength = some most → text.length ≤ most := by
    simp [Option.any_eq_false]
  rw [lengthProblem?, ← hmin, ← hmax]
  cases field.validation.minLength.any (text.length < ·) <;>
    cases field.validation.maxLength.any (· < text.length) <;> simp

/-- A pattern that can be read asks for a text in which it occurs. -/
theorem matchesPattern_iff {text : String}
    (hreadable : ∀ p, field.validation.pattern = some p → ∃ pattern, Pattern.parse? p = some pattern) :
    field.matchesPattern text = true ↔
      ∀ p, field.validation.pattern = some p →
        ∃ pattern, Pattern.parse? p = some pattern ∧ pattern.occursIn text = true := by
  unfold matchesPattern
  cases hp : field.validation.pattern with
  | none => simp
  | some p =>
    obtain ⟨pattern, hpattern⟩ := hreadable p hp
    simp [hpattern]

/-- A registered predicate asks for answers that it accepts. -/
theorem passesPredicate_iff :
    field.passesPredicate predicates answer = true ↔
      ∀ name, field.validation.custom = some name →
        ∀ predicate, predicates.get? name = some predicate → predicate answer = true := by
  unfold passesPredicate
  cases field.validation.custom with
  | none => simp
  | some name => cases hpredicate : predicates.get? name <;> simp [hpredicate]

/-- An answer that is not blank has no problem if it keeps all rules. -/
theorem filledProblem?_eq_none_iff
    (hreadable : ∀ p, field.validation.pattern = some p → ∃ pattern, Pattern.parse? p = some pattern) :
    field.filledProblem? predicates answer = none ↔ field.Keeps Decimal.NotAbove predicates answer := by
  have hparts : field.filledProblem? predicates answer = none ↔
      field.kindProblem? answer = none ∧ field.lengthProblem? answer.display = none ∧
        field.matchesPattern answer.display = true ∧ field.passesPredicate predicates answer = true := by
    unfold filledProblem?
    cases field.kindProblem? answer with
    | some problem => simp
    | none =>
      cases field.lengthProblem? answer.display with
      | some problem => simp
      | none => cases field.matchesPattern answer.display <;> simp
  rw [hparts, kindProblem?_eq_none_iff, lengthProblem?_eq_none_iff, matchesPattern_iff hreadable,
    passesPredicate_iff]
  constructor
  · rintro ⟨⟨hkind, hmin, hmax⟩, ⟨hminLength, hmaxLength⟩, hpattern, hpredicate⟩
    exact ⟨hkind, hmin, hmax, hminLength, hmaxLength, hpattern, hpredicate⟩
  · rintro ⟨hkind, hmin, hmax, hminLength, hmaxLength, hpattern, hpredicate⟩
    exact ⟨⟨hkind, hmin, hmax⟩, ⟨hminLength, hmaxLength⟩, hpattern, hpredicate⟩

/-- A blank value has no problem if it need not be given, any other if it keeps all rules. -/
theorem problem?_eq_none_iff_passes
    (hreadable : ∀ p, field.validation.pattern = some p → ∃ pattern, Pattern.parse? p = some pattern)
    (value : Option Answer) :
    field.problem? value predicates = none ↔ field.Passes Decimal.NotAbove predicates value := by
  unfold problem? Passes
  rw [Option.map_eq_none_iff]
  cases value with
  | none => simp
  | some answer =>
    cases hblank : answer.isBlank with
    | true =>
      have hfilter : (some answer).filter (!·.isBlank) = none := Option.filter_some_neg (by simp [hblank])
      rw [hfilter]
      simp [hblank]
    | false =>
      have hfilter : (some answer).filter (!·.isBlank) = some answer := Option.filter_some_pos (by simp [hblank])
      rw [hfilter]
      simp [hblank, filledProblem?_eq_none_iff hreadable]

/-- Rules that are kept with bounds in one sense are kept with bounds in another that follows from it. -/
theorem Keeps.imp {atMost atMost' : Float → Float → Prop} (h : field.Keeps atMost predicates answer)
    (hbounds : field.kind = .number → ∀ n bound, answer.number? = some n →
      (field.validation.min = some bound ∨ field.validation.max = some bound) →
      (atMost bound n → atMost' bound n) ∧ (atMost n bound → atMost' n bound)) :
    field.Keeps atMost' predicates answer where
  kind := h.kind
  min hkind least hleast n hn := (hbounds hkind n least hn (Or.inl hleast)).1 (h.min hkind least hleast n hn)
  max hkind most hmost n hn := (hbounds hkind n most hn (Or.inr hmost)).2 (h.max hkind most hmost n hn)
  minLength := h.minLength
  maxLength := h.maxLength
  pattern := h.pattern
  predicate := h.predicate

/-- Where bounds and numbers can be compared, keeping a bound is being on the right side of it. -/
theorem keeps_iff_of_comparable (hcomparable : field.Comparable (some answer)) :
    field.Keeps Decimal.NotAbove predicates answer ↔ field.Keeps (· ≤ ·) predicates answer := by
  constructor
  · refine fun h => h.imp fun hkind n bound hn hbound => ?_
    obtain ⟨hnumber, hlimit⟩ := hcomparable hkind answer n bound rfl hn hbound
    exact ⟨(Decimal.notAbove_iff_le hlimit hnumber).mp, (Decimal.notAbove_iff_le hnumber hlimit).mp⟩
  · refine fun h => h.imp fun hkind n bound hn hbound => ?_
    obtain ⟨hnumber, hlimit⟩ := hcomparable hkind answer n bound rfl hn hbound
    exact ⟨(Decimal.notAbove_iff_le hlimit hnumber).mpr, (Decimal.notAbove_iff_le hnumber hlimit).mpr⟩

/-- Where bounds and numbers can be compared, passing is being on the right sides of the bounds. -/
theorem passes_iff_of_comparable {value : Option Answer} (hcomparable : field.Comparable value) :
    field.Passes Decimal.NotAbove predicates value ↔ field.Passes (· ≤ ·) predicates value := by
  refine or_congr_right (exists_congr fun answer => and_congr_right fun hvalue => and_congr_right fun _ => ?_)
  exact keeps_iff_of_comparable (hvalue ▸ hcomparable)

end Field

namespace TemplateConfig

variable {config : TemplateConfig}

/-- Validation of a field of an accepted form is exact: the value passes if it is blank and need not be given,
or if it is not blank and keeps all rules. A bound of a number is kept by what is not beyond it, which is what
is on its right side unless the bound or the number is no number. -/
theorem problem?_eq_none_iff (hconfig : config.Accepted) {field : Field} (hfield : field ∈ config.fields)
    (value : Option Answer) (predicates : Predicates) :
    (field.problem? value predicates = none ↔ field.Passes Decimal.NotAbove predicates value) ∧
      (field.Comparable value →
        (field.problem? value predicates = none ↔ field.Passes (· ≤ ·) predicates value)) := by
  have hexact : field.problem? value predicates = none ↔ field.Passes Decimal.NotAbove predicates value :=
    field.problem?_eq_none_iff_passes
      (fun _ hp => exists_pattern_of_firstFault hconfig.checked.2 hfield hp) value
  exact ⟨hexact, fun hcomparable => hexact.trans (Field.passes_iff_of_comparable hcomparable)⟩

/-- A field for an age. -/
def ageField : Field where
  name := "age"
  label := none
  kind := .number
  default := none
  placeholder := none
  help := none
  options := []
  required := false
  validation := { ValidationRules.none with min := some 0.0, max := some 150.0 }

/-- A form that asks for an age. -/
def ageForm : TemplateConfig := ⟨none, none, [⟨"1", "", none, [ageField]⟩]⟩

/-- The form that asks for an age is accepted. -/
theorem accepted_ageForm : ageForm.Accepted := ⟨ageForm, rfl⟩

/-- An age that is a number is compared with the bounds. -/
theorem problem?_of_age_eq_none_iff :
    ageField.problem? (some (.number 36.0)) .builtIn = none ↔
      ageField.Passes (· ≤ ·) .builtIn (some (.number 36.0)) := by
  have hfield : ageField ∈ ageForm.fields := List.mem_singleton.mpr rfl
  refine (problem?_eq_none_iff accepted_ageForm hfield _ _).2 fun _ answer n bound hvalue hn hbound => ?_
  cases hvalue
  cases hn
  rcases hbound with hmin | hmax
  · cases hmin
    decide
  · cases hmax
    decide

/-- The word for no number passes as an age, although it is not within the bounds. -/
theorem nan_passes_as_age :
    ageForm.Accepted ∧ ageField ∈ ageForm.fields ∧
      ageField.problem? (some (.text "nan")) .builtIn = none ∧
      ¬ ageField.Passes (· ≤ ·) .builtIn (some (.text "nan")) := by
  refine ⟨accepted_ageForm, List.mem_singleton.mpr rfl, by decide +kernel, ?_⟩
  rintro (⟨hblank, -⟩ | ⟨answer, hanswer, -, hkeeps⟩)
  · exact absurd (hblank _ rfl) (by decide)
  · cases hanswer
    have hnumber : (Answer.text "nan").number? = some (0.0 / 0.0) := by decide +kernel
    exact absurd (hkeeps.min rfl _ rfl _ hnumber) (by decide)

end TemplateConfig

end SiteBuilder
