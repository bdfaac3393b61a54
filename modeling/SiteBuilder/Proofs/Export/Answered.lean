import SiteBuilder.Proofs.Export.Bundle

/-!
# Which answers the README lists

The README lists a field exactly if something is left of the text of its answer without the blanks around it. So a
box that is not checked is listed, with `false`, and an answer of several lines takes as many. What it says is put
together from the texts of the answers and the labels as they are: none of them is read as a page template.
-/

namespace SiteBuilder

namespace AnswerSet

/-- The text is what is left of the answer to a name without the blanks around it, and something is left. -/
def Fills (answers : AnswerSet) (name text : String) : Prop :=
  ∃ answer, answers.get? name = some answer ∧ text = Text.trim answer.display ∧ text ≠ ""

/-- The text is that of the first of some names with an answer that is not blank; if none has one, it is a standard
text. -/
inductive FirstFilled (answers : AnswerSet) (standard : String) : List String → String → Prop
  | none : FirstFilled answers standard [] standard
  | here {name text : String} (rest : List String) (h : answers.Fills name text) :
    FirstFilled answers standard (name :: rest) text
  | later {name text : String} {rest : List String} (hblank : ∀ value, ¬answers.Fills name value)
    (hrest : FirstFilled answers standard rest text) : FirstFilled answers standard (name :: rest) text

/-- Of some fields, each one with an answer that is not blank is listed with its label and its answer, in order. -/
inductive Lists (answers : AnswerSet) : List Field → List (String × String) → Prop
  | nil : Lists answers [] []
  | skip {field : Field} {fields : List Field} {listed : List (String × String)}
    (hblank : ∀ value, ¬answers.Fills field.name value) (hrest : Lists answers fields listed) :
    Lists answers (field :: fields) listed
  | list {field : Field} {value : String} {fields : List Field} {listed : List (String × String)}
    (h : answers.Fills field.name value) (hrest : Lists answers fields listed) :
    Lists answers (field :: fields) ((field.label.getD field.name, value) :: listed)

variable {answers : AnswerSet}

/-- Which answers are filled in, and with what. -/
theorem filled?_eq_some_iff {name text : String} : answers.filled? name = some text ↔ answers.Fills name text := by
  rw [filled?, Option.filter_eq_some_iff, display?, Option.map_map, Option.map_eq_some_iff]
  simp only [Function.comp_apply, bne_iff_ne, ne_eq]
  constructor
  · rintro ⟨⟨answer, hanswer, rfl⟩, hne⟩
    exact ⟨answer, hanswer, rfl, hne⟩
  · rintro ⟨answer, hanswer, rfl, hne⟩
    exact ⟨⟨answer, hanswer, rfl⟩, hne⟩

/-- An answer that is not filled in is blank. -/
theorem filled?_eq_none_iff {name : String} :
    answers.filled? name = none ↔ ∀ value, ¬answers.Fills name value := by
  simp only [Option.eq_none_iff_forall_ne_some, ne_eq, filled?_eq_some_iff]

/-- The first answer of some names is looked for in their order. -/
theorem firstFilled_findSome? (standard : String) (names : List String) :
    answers.FirstFilled standard names ((names.findSome? answers.filled?).getD standard) := by
  induction names with
  | nil => exact .none
  | cons name rest ih =>
    rw [List.findSome?_cons]
    cases hfilled : answers.filled? name with
    | none => exact .later (filled?_eq_none_iff.mp hfilled) ih
    | some text => exact .here rest (filled?_eq_some_iff.mp hfilled)

/-- The fields that are filled in are listed. -/
theorem lists_filterMap (fields : List Field) :
    answers.Lists fields
      (fields.filterMap fun field => (answers.filled? field.name).map fun value => (field.shownLabel, value)) := by
  induction fields with
  | nil => exact .nil
  | cons field rest ih =>
    cases hfilled : answers.filled? field.name with
    | none =>
      rw [List.filterMap_cons_none (by rw [hfilled]; rfl)]
      exact .skip (filled?_eq_none_iff.mp hfilled) ih
    | some value =>
      rw [List.filterMap_cons_some (by rw [hfilled]; rfl)]
      exact .list (filled?_eq_some_iff.mp hfilled) ih

/-- Something is listed exactly if some field has an answer that is not blank. -/
theorem Lists.ne_nil_iff {fields : List Field} {listed : List (String × String)} (h : answers.Lists fields listed) :
    listed ≠ [] ↔ ∃ field ∈ fields, ∃ value, answers.Fills field.name value := by
  induction h with
  | nil => simp
  | skip hblank hrest ih => simp [ih, hblank]
  | list hfills hrest ih => exact ⟨fun _ => ⟨_, List.mem_cons_self, _, hfills⟩, fun _ => List.cons_ne_nil _ _⟩

end AnswerSet

namespace Readme

variable (answers : AnswerSet) (config : TemplateConfig) (settings : ExportSettings)

/-- The title is the answer to `name` or else the name of the template. -/
theorem firstFilled_title : answers.FirstFilled (config.name.getD "website") ["name"] (title answers config) := by
  have htitle : title answers config = (["name"].findSome? answers.filled?).getD (config.name.getD "website") := by
    rw [title, templateName, List.findSome?_cons]
    cases answers.filled? "name" <;> rfl
  rw [htitle]
  exact AnswerSet.firstFilled_findSome? _ _

/-- What a site is about is the answer to `bio`, or else to `description`, or else the standard text. -/
theorem firstFilled_siteDescription :
    answers.FirstFilled settings.defaultDescription ["bio", "description"] (siteDescription answers settings) := by
  have hsummary : siteDescription answers settings =
      (["bio", "description"].findSome? answers.filled?).getD settings.defaultDescription := by
    rw [siteDescription, List.findSome?_cons, List.findSome?_cons]
    cases answers.filled? "bio" <;> cases answers.filled? "description" <;> rfl
  rw [hsummary]
  exact AnswerSet.firstFilled_findSome? _ _

/-- The README can be filled in whatever the answers, the form and the settings are, and so a bundle with it can be
prepared. It says the title, what the site is about, the answers that are not blank under a heading if there are any,
and where the site comes from. -/
theorem text_lists_answered_fields :
    ∃ title summary listed text, Readme.text answers config settings = .ok text ∧
      answers.FirstFilled (config.name.getD "website") ["name"] title ∧
      answers.FirstFilled settings.defaultDescription ["bio", "description"] summary ∧
      answers.Lists config.fields listed ∧
      (listed ≠ [] ↔ ∃ field ∈ config.fields, ∃ value, answers.Fills field.name value) ∧
      text = "# " ++ title ++ "\n\n" ++ summary ++ "\n" ++
        (if listed = [] then "" else
          "\n## Details\n\n" ++ String.join (listed.map fun entry => "- **" ++ entry.1 ++ ":** " ++ entry.2 ++ "\n")) ++
        "\nBuilt from the " ++ Text.titleCase (config.name.getD "website") ++ " template with sitestudio." ∧
      ∀ files : FileSet, Bundle.prepare files answers config settings =
        .ok ⟨if settings.generateReadme && !Bundle.shipsReadme files then files.insert "README.md" text else files,
          answers⟩ := by
  have hlisted : answers.Lists config.fields (details answers config) := AnswerSet.lists_filterMap config.fields
  refine ⟨title answers config, siteDescription answers settings, details answers config,
    filled answers config settings, text_eq answers config settings, firstFilled_title answers config,
    firstFilled_siteDescription answers settings, hlisted, hlisted.ne_nil_iff, ?_, fun files => ?_⟩
  · have hend : " template with " ++ (tool ++ ("." ++ "")) = " template with sitestudio." := rfl
    have hline : detailLine = fun entry => "- **" ++ (entry.1 ++ (":** " ++ (entry.2 ++ "\n"))) := by
      funext entry
      simp only [detailLine, String.append_assoc]
    simp only [filled, detailSection, hline, templateName, List.isEmpty_iff, String.join_cons, String.join_nil,
      String.append_assoc, hend]
  · exact Bundle.prepare_eq files answers config settings

end Readme

end SiteBuilder
