import SiteBuilder.Form.Validation
import SiteBuilder.Proofs.Form.Accepted

/-!
# The problems of a list of fields

The problems of fields with different names are those of the single fields, each under the name of its
field. The fields of a form, and so those of each of its steps, have different names once the form is
accepted.
-/

namespace SiteBuilder

variable {fields : List Field} {answers : AnswerSet} {predicates : Predicates}

/-- There are no problems if no field has one. -/
theorem problemsOf_eq_empty_iff :
    problemsOf fields answers predicates = ∅ ↔
      ∀ field ∈ fields, field.problem? (answers.get? field.name) predicates = none := by
  have hcontains (field : Field) (hfield : field ∈ fields) (message : String)
      (hproblem : field.problem? (answers.get? field.name) predicates = some message) :
      (problemsOf fields answers predicates).contains field.name = true := by
    refine NameMap.contains_ofList.mpr (List.mem_map.mpr ⟨(field.name, message), ?_, rfl⟩)
    exact List.mem_filterMap.mpr ⟨field, hfield, by rw [hproblem]; rfl⟩
  constructor
  · intro hempty field hfield
    by_contra hproblem
    obtain ⟨message, hmessage⟩ := Option.ne_none_iff_exists'.mp hproblem
    have hfound := hcontains field hfield message hmessage
    rw [hempty] at hfound
    cases hfound
  · intro hpass
    have hnone : (fields.filterMap fun field =>
        (field.problem? (answers.get? field.name) predicates).map (field.name, ·)) = [] :=
      List.filterMap_eq_nil_iff.mpr fun field hfield => by rw [hpass field hfield]; rfl
    rw [problemsOf, hnone]
    rfl

/-- Each problem is that of the field with its name, and each problem of a field is there. -/
theorem get?_problemsOf_eq_some_iff (hnames : (fields.map (·.name)).Nodup) {name message : String} :
    (problemsOf fields answers predicates).get? name = some message ↔
      ∃ field ∈ fields, field.name = name ∧
        field.problem? (answers.get? field.name) predicates = some message := by
  have hdistinct : ((fields.filterMap fun field =>
      (field.problem? (answers.get? field.name) predicates).map (field.name, ·)).map (·.1)).Nodup := by
    refine List.pairwise_map.mpr ((List.pairwise_map.mp hnames).filterMap _ ?_)
    intro first second hne pair hpair later hlater
    obtain ⟨_, -, rfl⟩ := Option.map_eq_some_iff.mp hpair
    obtain ⟨_, -, rfl⟩ := Option.map_eq_some_iff.mp hlater
    exact hne
  rw [problemsOf, NameMap.get?_ofList_eq_some_iff hdistinct, List.mem_filterMap]
  constructor
  · rintro ⟨field, hfield, hpair⟩
    obtain ⟨found, hfound, heq⟩ := Option.map_eq_some_iff.mp hpair
    obtain ⟨rfl, rfl⟩ := Prod.mk.inj heq
    exact ⟨field, hfield, rfl, hfound⟩
  · rintro ⟨field, hfield, rfl, hproblem⟩
    exact ⟨field, hfield, by rw [hproblem]; rfl⟩

namespace TemplateConfig

variable {config : TemplateConfig}

/-- No two fields of a step of an accepted form share a name. -/
theorem Accepted.nodup_step_names (h : config.Accepted) {step : Step} (hstep : step ∈ config.steps) :
    (step.fields.map (·.name)).Nodup := by
  have hnames := h.nodup_names
  rw [fields, List.map_flatMap, List.nodup_flatMap] at hnames
  exact hnames.1 step hstep

end TemplateConfig

end SiteBuilder
