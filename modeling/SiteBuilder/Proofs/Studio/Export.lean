import SiteBuilder.Proofs.Export.Bundle
import SiteBuilder.Proofs.Form.Submission
import SiteBuilder.Proofs.Studio.Form

/-!
# Exports are of the latest form and files

An export submits the form, and a submission commits the queue first. So what is validated, what the files are
rendered with and what the bundle says it was made from are all the same answers: those that were effective before
the export. Nothing is left to commit afterwards, so exporting once more changes nothing and gives the same.
-/

namespace SiteBuilder

variable {σ : Type}

namespace Studio

/-! ## The ends of an export -/

/-- How an export ends. -/
inductive ExportEnd (studio : Studio σ) : Except StudioError Bundle → Prop where
  /-- No template is selected. -/
  | noTemplate (htemplate : studio.form.templateId = none) : ExportEnd studio (.error .noTemplate)
  /-- The files or the form of the template are not there. -/
  | notLoaded (htemplate : studio.form.templateId ≠ none)
      (hloaded : studio.files = none ∨ studio.form.config = none) : ExportEnd studio (.error .notLoaded)
  /-- The form has problems. -/
  | invalid (files : FileSet) (config : TemplateConfig) (htemplate : studio.form.templateId ≠ none)
      (hfiles : studio.files = some files) (hconfig : studio.form.config = some config)
      (hproblems : config.problems studio.form.effectiveAnswers studio.form.predicates ≠ ∅) :
      ExportEnd studio (.error (.invalid (config.problems studio.form.effectiveAnswers studio.form.predicates)))
  /-- There is a bundle. -/
  | exported (files : FileSet) (config : TemplateConfig) (htemplate : studio.form.templateId ≠ none)
      (hfiles : studio.files = some files) (hconfig : studio.form.config = some config)
      (hproblems : config.problems studio.form.effectiveAnswers studio.form.predicates = ∅) :
      ExportEnd studio (.ok ⟨Bundle.filesOf (files.render studio.form.effectiveAnswers) studio.form.effectiveAnswers
        config studio.settings.export_, studio.form.effectiveAnswers⟩)

variable {studio : Studio σ} {result : Except StudioError Bundle}

/-- There is a bundle exactly if the template is loaded and its form has no problems. -/
theorem ExportEnd.exists_ok_iff (hend : studio.ExportEnd result) :
    (∃ bundle, result = .ok bundle) ↔
      studio.form.templateId ≠ none ∧ ∃ files config, studio.files = some files ∧ studio.form.config = some config ∧
        config.problems studio.form.effectiveAnswers studio.form.predicates = ∅ := by
  cases hend with
  | noTemplate htemplate => exact ⟨nofun, fun h => absurd htemplate h.1⟩
  | notLoaded htemplate hloaded =>
    refine ⟨nofun, ?_⟩
    rintro ⟨-, files, config, hfiles, hconfig, -⟩
    simp [hfiles, hconfig] at hloaded
  | invalid files config htemplate hfiles hconfig hproblems =>
    refine ⟨nofun, ?_⟩
    rintro ⟨-, -, other, -, hother, hnone⟩
    cases hconfig.symm.trans hother
    exact absurd hnone hproblems
  | exported files config htemplate hfiles hconfig hproblems =>
    exact ⟨fun _ => ⟨htemplate, files, config, hfiles, hconfig, hproblems⟩, fun _ => ⟨_, rfl⟩⟩

/-- There is no bundle but the one of the latest answers. -/
theorem ExportEnd.exists_eq {bundle : Bundle} (hend : studio.ExportEnd (.ok bundle)) :
    ∃ files config, studio.files = some files ∧ studio.form.config = some config ∧
      bundle = ⟨Bundle.filesOf (files.render studio.form.effectiveAnswers) studio.form.effectiveAnswers config
        studio.settings.export_, studio.form.effectiveAnswers⟩ := by
  cases hend with
  | exported files config htemplate hfiles hconfig hproblems => exact ⟨files, config, hfiles, hconfig, rfl⟩

/-- A bundle exports the files as the rendered files show them. -/
theorem ExportEnd.exports {bundle : Bundle} (hend : studio.ExportEnd (.ok bundle)) :
    ∃ files config rendered, studio.files = some files ∧ studio.form.config = some config ∧
      studio.renderedFiles? = some rendered ∧
        bundle.Exports files studio.form.effectiveAnswers config studio.settings.export_ ∧
        ∀ path content, files.get? path = some content →
          rendered.get? path = some (SiteBuilder.render content studio.form.effectiveAnswers) := by
  obtain ⟨files, config, hfiles, hconfig, rfl⟩ := hend.exists_eq
  refine ⟨files, config, files.render studio.form.effectiveAnswers, hfiles, hconfig, ?_,
    Bundle.exports_filesOf _ _ _ _, ?_⟩
  · rw [renderedFiles?, hfiles]
    rfl
  · intro path content hcontent
    rw [FileSet.get?_render, hcontent]
    rfl

/-- The problems in the way are those of the form with the effective answers. -/
theorem ExportEnd.eq_invalid_iff (hend : studio.ExportEnd result) (problems : ValidationErrors) :
    result = .error (.invalid problems) ↔
      studio.form.templateId ≠ none ∧ ∃ files config, studio.files = some files ∧ studio.form.config = some config ∧
        problems = config.problems studio.form.effectiveAnswers studio.form.predicates ∧ problems ≠ ∅ := by
  cases hend with
  | noTemplate htemplate => exact ⟨nofun, fun h => absurd htemplate h.1⟩
  | notLoaded htemplate hloaded =>
    refine ⟨nofun, ?_⟩
    rintro ⟨-, files, config, hfiles, hconfig, -⟩
    simp [hfiles, hconfig] at hloaded
  | invalid files config htemplate hfiles hconfig hproblems =>
    constructor
    · intro h
      cases h
      exact ⟨htemplate, files, config, hfiles, hconfig, rfl, hproblems⟩
    · rintro ⟨-, -, other, -, hother, rfl, -⟩
      cases hconfig.symm.trans hother
      rfl
  | exported files config htemplate hfiles hconfig hproblems =>
    refine ⟨nofun, ?_⟩
    rintro ⟨-, -, other, -, hother, rfl, hsome⟩
    cases hconfig.symm.trans hother
    exact absurd hproblems hsome

/-- No export fails while its bundle is prepared. -/
theorem ExportEnd.ne_exporting (hend : studio.ExportEnd result) (cause : ExportError) :
    result ≠ .error (.exporting cause) := by
  rintro rfl
  cases hend

end Studio

variable [DraftStore σ]

namespace Studio

/-! ## Exports -/

variable {studio : Studio σ} {files : FileSet} {config : TemplateConfig}

/-- An export of a loaded template gives the bundle of its files, or the problems of its form. -/
theorem exportBundle_of_loaded (htemplate : studio.form.templateId ≠ none) (hfiles : studio.files = some files)
    (hconfig : studio.form.config = some config) (now : Nat) :
    (studio.exportBundle now).1 =
      if (config.problems studio.form.effectiveAnswers studio.form.predicates).isEmpty then
        .ok ⟨Bundle.filesOf (files.render studio.form.effectiveAnswers) studio.form.effectiveAnswers config
          studio.settings.export_, studio.form.effectiveAnswers⟩
      else .error (.invalid (config.problems studio.form.effectiveAnswers studio.form.predicates)) := by
  obtain ⟨id, hid⟩ := Option.ne_none_iff_exists'.mp htemplate
  have hresult := studio.form.submit_result
  have hproblems : studio.form.validateAll.1 =
      config.problems studio.form.effectiveAnswers studio.form.predicates := by
    simp only [FormSession.validateAll, hconfig]
  rw [hproblems] at hresult
  unfold exportBundle
  rw [hid, hfiles, hconfig]
  simp only [Option.isNone_some, Bool.false_eq_true, ↓reduceIte]
  by_cases hvalid : (config.problems studio.form.effectiveAnswers studio.form.predicates).isEmpty = true
  · rw [if_pos hvalid] at hresult ⊢
    rw [hresult]
    dsimp only
    rw [Bundle.prepare_eq]
    split <;> rfl
  · rw [if_neg hvalid] at hresult ⊢
    rw [hresult]

/-- Without a template nothing is exported. -/
theorem exportBundle_of_no_template (htemplate : studio.form.templateId = none) (now : Nat) :
    studio.exportBundle now = (.error .noTemplate, studio) := by
  unfold exportBundle
  rw [htemplate]
  rfl

/-- A template that has not been loaded is not exported. -/
theorem exportBundle_of_not_loaded (htemplate : studio.form.templateId ≠ none)
    (hloaded : studio.files = none ∨ studio.form.config = none) (now : Nat) :
    studio.exportBundle now = (.error .notLoaded, studio) := by
  obtain ⟨id, hid⟩ := Option.ne_none_iff_exists'.mp htemplate
  unfold exportBundle
  rw [hid]
  rcases hloaded with hnone | hnone
  · rw [hnone]
    rfl
  · rw [hnone]
    cases studio.files <;> rfl

/-- Every export comes to one of its ends. -/
theorem exportEnd_exportBundle (studio : Studio σ) (now : Nat) : studio.ExportEnd (studio.exportBundle now).1 := by
  by_cases htemplate : studio.form.templateId = none
  · rw [exportBundle_of_no_template htemplate]
    exact .noTemplate htemplate
  by_cases hloaded : studio.files = none ∨ studio.form.config = none
  · rw [exportBundle_of_not_loaded htemplate hloaded]
    exact .notLoaded htemplate hloaded
  obtain ⟨hfiles, hconfig⟩ := not_or.mp hloaded
  obtain ⟨files, hfiles⟩ := Option.ne_none_iff_exists'.mp hfiles
  obtain ⟨config, hconfig⟩ := Option.ne_none_iff_exists'.mp hconfig
  rw [exportBundle_of_loaded htemplate hfiles hconfig]
  split
  · next hproblems => exact .exported files config htemplate hfiles hconfig (NameMap.isEmpty_iff.mp hproblems)
  · next hproblems =>
    exact .invalid files config htemplate hfiles hconfig fun hempty => hproblems (NameMap.isEmpty_iff.mpr hempty)

/-- An export keeps the files and the settings, and leaves the form submitted. -/
theorem exportBundle_keeps (htemplate : studio.form.templateId ≠ none) (hfiles : studio.files = some files)
    (hconfig : studio.form.config = some config) (now : Nat) :
    (studio.exportBundle now).2.form = studio.form.submit.2 ∧ (studio.exportBundle now).2.files = studio.files ∧
      (studio.exportBundle now).2.settings = studio.settings := by
  have hexports : studio.exports = true := by
    simp [exports, Option.isSome_iff_ne_none.mpr htemplate, hfiles, hconfig]
  rw [exportBundle_eq, if_pos hexports]
  split <;> exact ⟨rfl, rfl, rfl⟩

/-- Exporting once more right away, or later, gives the same and changes nothing. -/
theorem exportBundle_again (studio : Studio σ) (now later : Nat) :
    (studio.exportBundle now).2.exportBundle later = studio.exportBundle now := by
  by_cases htemplate : studio.form.templateId = none
  · rw [exportBundle_of_no_template htemplate, exportBundle_of_no_template htemplate]
  by_cases hloaded : studio.files = none ∨ studio.form.config = none
  · rw [exportBundle_of_not_loaded htemplate hloaded, exportBundle_of_not_loaded htemplate hloaded]
  obtain ⟨hfiles, hconfig⟩ := not_or.mp hloaded
  obtain ⟨files, hfiles⟩ := Option.ne_none_iff_exists'.mp hfiles
  obtain ⟨config, hconfig⟩ := Option.ne_none_iff_exists'.mp hconfig
  obtain ⟨hform, hkeptFiles, hsettings⟩ := exportBundle_keeps htemplate hfiles hconfig now
  have hresult := exportBundle_of_loaded htemplate hfiles hconfig now
  generalize studio.exportBundle now = outcome at hform hkeptFiles hsettings hresult ⊢
  have hselection : outcome.2.form.selection = studio.form.selection := by
    rw [hform]
    exact studio.form.selection_flushNow
  have htemplate' : outcome.2.form.templateId ≠ none := by
    rw [show outcome.2.form.templateId = studio.form.templateId from congrArg Prod.fst hselection]
    exact htemplate
  have hconfig' : outcome.2.form.config = some config := (congrArg Prod.snd hselection).trans hconfig
  have hfiles' : outcome.2.files = some files := hkeptFiles.trans hfiles
  have hanswers : outcome.2.form.effectiveAnswers = studio.form.effectiveAnswers := by
    rw [hform, FormSession.effectiveAnswers_submit]
  have hpredicates : outcome.2.form.predicates = studio.form.predicates := by
    rw [hform]
    exact studio.form.predicates_submit
  have hsame : outcome.2.form.submit.2 = outcome.2.form := by rw [hform, FormSession.submit_submit]
  have hexports : outcome.2.exports = true := by
    simp [exports, Option.isSome_iff_ne_none.mpr htemplate', hfiles', hconfig']
  refine Prod.ext ?_ ?_
  · rw [exportBundle_of_loaded htemplate' hfiles' hconfig' later, hanswers, hpredicates, hsettings, hresult]
  · rw [exportBundle_eq, if_pos hexports, hsame, if_neg (by simp)]

/-- Whatever state a studio is in, and with the answers that are effective in it, the queued ones too:

* an export gives a bundle exactly if a template is selected, its files and its form are there, and the form has no
  problems with the answers;
* the bundle is made from the answers, holds every file rendered with them as the rendered files show it, each under
  its own path, and nothing else but a README, if one is wanted and no path is that of one in whatever case;
* it is refused as invalid exactly with the problems that the form has with the answers, and never for want of a
  README;
* exporting once more gives the same and changes nothing. -/
theorem exportBundle_of_latest (studio : Studio σ) (now : Nat) :
    let answers := studio.form.effectiveAnswers
    let outcome := studio.exportBundle now
    ((∃ bundle, outcome.1 = .ok bundle) ↔
        studio.form.templateId ≠ none ∧ ∃ files config, studio.files = some files ∧
          studio.form.config = some config ∧ config.problems answers studio.form.predicates = ∅) ∧
      (∀ bundle, outcome.1 = .ok bundle → ∃ files config rendered, studio.files = some files ∧
        studio.form.config = some config ∧ studio.renderedFiles? = some rendered ∧
          bundle.Exports files answers config studio.settings.export_ ∧
          ∀ path content, files.get? path = some content →
            rendered.get? path = some (SiteBuilder.render content answers)) ∧
      (∀ problems, outcome.1 = .error (.invalid problems) ↔
        studio.form.templateId ≠ none ∧ ∃ files config, studio.files = some files ∧
          studio.form.config = some config ∧ problems = config.problems answers studio.form.predicates ∧
            problems ≠ ∅) ∧
      (∀ cause, outcome.1 ≠ .error (.exporting cause)) ∧
      ∀ later, outcome.2.exportBundle later = outcome := by
  intro answers outcome
  have hend : studio.ExportEnd outcome.1 := exportEnd_exportBundle studio now
  refine ⟨hend.exists_ok_iff, fun bundle hbundle => ?_, hend.eq_invalid_iff, hend.ne_exporting,
    exportBundle_again studio now⟩
  rw [hbundle] at hend
  exact hend.exports

end Studio

end SiteBuilder
