import SiteBuilder.Export.Bundle
import SiteBuilder.Proofs.Export.Readme
import SiteBuilder.Proofs.NameMap
import SiteBuilder.Site.Placeholder

/-!
# What a bundle holds

A bundle holds the files it was prepared from, each under its own path, and a README besides if one is wanted and
none is there. Rendering changes no path, so whether a site ships a README can be seen from its templates.
-/

namespace SiteBuilder

namespace FileSet

/-- Every file is rendered by itself. -/
theorem get?_render (files : FileSet) (answers : AnswerSet) (path : String) :
    (files.render answers).get? path = (files.get? path).map (SiteBuilder.render · answers) :=
  NameMap.get?_mapWithName _ _ _

/-- Rendering changes no path. -/
theorem names_render (files : FileSet) (answers : AnswerSet) : (files.render answers).names = files.names := by
  simp only [NameMap.names, FileSet.render, NameMap.mapWithName, List.map_map, Function.comp_def]

end FileSet

namespace Bundle

/-- The files of a bundle that is prepared: with a README if one is wanted and none is there. -/
def filesOf (files : FileSet) (answers : AnswerSet) (config : TemplateConfig) (settings : ExportSettings) : FileSet :=
  if settings.generateReadme && !shipsReadme files then
    files.insert Readme.path (Readme.filled answers config settings)
  else files

/-- A bundle can always be prepared. -/
theorem prepare_eq (files : FileSet) (answers : AnswerSet) (config : TemplateConfig) (settings : ExportSettings) :
    prepare files answers config settings = .ok ⟨filesOf files answers config settings, answers⟩ := by
  unfold prepare filesOf
  rw [Readme.text_eq]
  split <;> rfl

/-- A site ships no README if none of its paths is that of one, in whatever case. -/
theorem shipsReadme_eq_false_iff {files : FileSet} :
    shipsReadme files = false ↔ ∀ path ∈ files.names, Text.sameIgnoringAsciiCase path Readme.path = false := by
  simp [shipsReadme]

/-- The files of a bundle are those it is prepared from, and a README if one is wanted and no file has its path in
whatever case. -/
theorem get?_filesOf_eq_some_iff {files : FileSet} {answers : AnswerSet} {config : TemplateConfig}
    {settings : ExportSettings} {path text : String} :
    (filesOf files answers config settings).get? path = some text ↔
      files.get? path = some text ∨
        path = Readme.path ∧ settings.generateReadme = true ∧
          (∀ shipped ∈ files.names, Text.sameIgnoringAsciiCase shipped Readme.path = false) ∧
            text = Readme.filled answers config settings := by
  rw [← shipsReadme_eq_false_iff, filesOf]
  by_cases hadds : settings.generateReadme = true ∧ shipsReadme files = false
  · have hmissing : files.get? Readme.path = none := by
      refine Option.eq_none_iff_forall_ne_some.mpr fun content hcontent => ?_
      have hname : Readme.path ∈ files.names := List.mem_map.mpr ⟨_, NameMap.mem_entries_iff.mpr hcontent, rfl⟩
      simpa [Text.sameIgnoringAsciiCase] using shipsReadme_eq_false_iff.mp hadds.2 Readme.path hname
    rw [if_pos (by simpa using hadds), NameMap.get?_insert]
    by_cases hreadme : path = Readme.path
    · subst hreadme
      simp [hmissing, hadds, eq_comm]
    · simp [hreadme]
  · rw [if_neg (by simpa using hadds)]
    exact ⟨.inl, fun h => h.resolve_right fun hreadme => hadds ⟨hreadme.2.1, hreadme.2.2.1⟩⟩

/-- A bundle of rendered files: each file is there under its own path, and nothing else but a README, if one is
wanted and no file has its path in whatever case. -/
structure Exports (bundle : Bundle) (files : FileSet) (answers : AnswerSet) (config : TemplateConfig)
    (settings : ExportSettings) : Prop where
  madeFrom : bundle.answers = answers
  shipped : ∀ path content, files.get? path = some content →
    bundle.files.get? path = some (SiteBuilder.render content answers)
  extra : ∀ path, files.get? path = none → ∀ text,
    bundle.files.get? path = some text ↔
      path = "README.md" ∧ settings.generateReadme = true ∧
        (∀ shipped ∈ files.names, Text.sameIgnoringAsciiCase shipped "README.md" = false) ∧
          text = Readme.filled answers config settings

/-- A bundle that is prepared from rendered files exports them. -/
theorem exports_filesOf (files : FileSet) (answers : AnswerSet) (config : TemplateConfig)
    (settings : ExportSettings) :
    Exports ⟨filesOf (files.render answers) answers config settings, answers⟩ files answers config settings := by
  have hrendered (path : String) :
      (files.render answers).get? path = (files.get? path).map (SiteBuilder.render · answers) :=
    files.get?_render answers path
  refine ⟨rfl, fun path content hcontent => ?_, fun path hpath text => ?_⟩
  · exact get?_filesOf_eq_some_iff.mpr (.inl (by rw [hrendered, hcontent]; rfl))
  · rw [get?_filesOf_eq_some_iff, hrendered, hpath, FileSet.names_render]
    exact or_iff_right nofun

end Bundle

end SiteBuilder
