import SiteBuilder.Proofs.CommandLine.Verdict
import SiteBuilder.Proofs.Disk.Archives
import SiteBuilder.Proofs.Site.ArchiveName
import SiteBuilder.Proofs.Studio.Delivery

/-!
# Where an archive is written

Whatever name is suggested for it, an archive is written into the folder that was asked for and not into one below it,
above it or elsewhere, as the name that is made of the suggestion is a single name in a path. Nothing else that the
program does puts an archive on the disk.
-/

namespace SiteBuilder

namespace Archive

/-- The name of an archive's file. -/
def IsFilename (filename : String) : Prop := ∃ stem, IsArchiveName stem ∧ filename = stem ++ ".zip"

/-- An archive that is packed has the name of an archive's file. -/
theorem isFilename_ofFiles (files : FileSet) (suggested : String) : IsFilename (ofFiles files suggested).filename :=
  ⟨_, isArchiveName_sanitizeName suggested, rfl⟩

/-- The name of an archive's file is a single name in a path, if there is no character in it that no path can have. -/
theorem IsFilename.isPlain {filename : String} (h : IsFilename filename) (hnul : Char.ofNat 0 ∉ filename.toList) :
    Path.IsPlain filename := by
  obtain ⟨stem, hstem, rfl⟩ := h
  have hlast : (stem ++ ".zip").toList.getLast? = some 'p' := by simp
  constructor
  · exact fun h => by simp [h] at hlast
  · exact fun h => by simp [h] at hlast
  · exact fun h => by simp [h] at hlast
  · simp [hstem.no_slash]
  · exact hnul

/-- The name of an archive's file has no slash. -/
theorem IsFilename.no_slash {filename : String} (h : IsFilename filename) : '/' ∉ filename.toList := by
  obtain ⟨stem, hstem, rfl⟩ := h
  simp [hstem.no_slash]

end Archive

namespace Disk

variable {disk after : Disk} {out : String} {location : List String} {archive other : Archive}

/-- An archive stands in the very folder that a path leads to, under its own file name. -/
def HoldsDirectly (disk : Disk) (out : String) (location : List String) (archive : Archive) : Prop :=
  Archive.IsFilename archive.filename ∧ ∃ folder entries, disk.OpenFolder out folder entries ∧
    location = folder ++ [archive.filename] ∧ entries.lookup archive.filename = some (.archive archive)

/-- An archive that is written into a folder stands there, and no other archive is new. -/
theorem holdsDirectly_of_write (hfilename : Archive.IsFilename archive.filename)
    (h : disk.write (Path.join out archive.filename) (.archive archive) = .ok after) :
    (∃ location, after.HoldsDirectly out location archive) ∧
      ∀ location other, after.root.at? location = some (.archive other) →
        disk.root.at? location = some (.archive other) ∨ after.HoldsDirectly out location other := by
  obtain ⟨place, hplace, -, hfile, rfl⟩ := put_of_write h
  obtain ⟨-, hclean, -, hfolder, -⟩ := walk_of_place hplace
  have hnul : Char.ofNat 0 ∉ archive.filename.toList := fun hmem =>
    hclean ((Path.mem_join_iff (by decide) hfilename.no_slash).mpr (Or.inr hmem))
  obtain ⟨hname, entries, hopen⟩ := openFolder_of_place (hfilename.isPlain hnul) hplace
  have hlies : (disk.put place (some (.archive archive))).HoldsDirectly out (place.folder ++ [archive.filename])
      archive := by
    refine ⟨hfilename, _, _, hopen.put hfile (some (.archive archive)), rfl, ?_⟩
    rw [hname]
    exact Node.lookup_setEntry_self _ _ _
  refine ⟨⟨_, hlies⟩, fun location other hstands => ?_⟩
  refine (archive_of_at?_put hfolder hstands).imp_right ?_
  rintro ⟨below, rfl, hbelow⟩
  cases below with
  | nil =>
    cases hbelow
    rw [List.append_nil, hname]
    exact hlies
  | cons name below => cases hbelow

end Disk

namespace CommandLine

/-- The drafts of an opened studio are those it was given, or one more was kept. -/
theorem drafts_of_openedStudio {σ : Type} [DraftStore σ] {settings : Settings} {drafts : σ} {id : String}
    {answers : AnswerSet} {content : TemplateContent} {studio : Studio σ}
    (h : openedStudio settings drafts id answers content = .ok studio) :
    studio.form.drafts = drafts ∨ ∃ saved, studio.form.drafts = (DraftStore.save drafts id saved).2 := by
  have hloaded (opened : Studio σ) : (opened.contentLoaded 0 id content).2.form.drafts = opened.form.drafts := by
    rw [Studio.contentLoaded]
    split <;> rfl
  rw [openedStudio] at h
  by_cases hempty : answers.isEmpty = true
  · rw [if_pos hempty] at h
    cases h
    exact Or.inl (hloaded _)
  · rw [if_neg hempty] at h
    cases h
    rw [hloaded]
    let filled : FormSession σ := { (FormSession.start drafts settings.form).selectTemplate id with
      queue := .idle, errors := FormSession.withoutErrorsOf ∅ answers }
    show (filled.commit ((∅ : AnswerSet).overlay answers)).drafts = drafts ∨
      ∃ saved, (filled.commit ((∅ : AnswerSet).overlay answers)).drafts = (DraftStore.save drafts id saved).2
    rw [FormSession.commit]
    split
    · exact Or.inl rfl
    · exact Or.inr ⟨_, rfl⟩

variable {τ : Type} (machine : Machine (StateM τ)) (settings : Settings) (choice : TemplateChoice)

/-- Opening a studio puts no archive on the disk. -/
theorem leads_openStudio (start : Disk) :
    Task.Leads (fun report => report.disk = start) (openStudio machine settings choice)
      fun _ report => start.NoNewArchive report.disk := by
  have hfailed (cause : CommandError) (report : Report) (h : report.disk = start) :
      start.NoNewArchive report.disk := h ▸ .refl start
  refine .of_finds (finds_loadChosen machine settings choice) (fun found _ => ?_) hfailed
  refine .of_disk (.of_finds (Task.finds_orFail fun _ _ => trivial) (fun answers _ => ?_) hfailed)
  refine .of_disk (.of_finds (Task.finds_orFail fun _ hopened => drafts_of_openedStudio hopened)
    (fun studio hdrafts => ?_) hfailed)
  rintro report world rfl
  show report.disk.NoNewArchive (studio.form.drafts.diskAfter report.disk)
  rcases hdrafts with hsame | ⟨saved, hsaved⟩
  · rw [hsame]
    cases settings.drafts.folder <;> exact .refl report.disk
  · rw [hsaved]
    exact DraftPlace.noNewArchive_save report.disk settings.drafts.folder found.1 saved

variable {name : Option String} {out : String}

/-- What an export leaves: archives that stood on the disk before, and, if it succeeds, the new one in its folder. -/
def ExportedInto (start : Disk) (out : String) (result : Except CommandError Unit) (report : Report) : Prop :=
  (∀ location archive, report.disk.root.at? location = some (.archive archive) →
      start.root.at? location = some (.archive archive) ∨ report.disk.HoldsDirectly out location archive) ∧
    (result = .ok () → ∃ location archive, report.disk.HoldsDirectly out location archive)

/-- An export that fails before it writes leaves no new archive. -/
theorem ExportedInto.of_failed {start : Disk} {report : Report} (h : start.NoNewArchive report.disk)
    (cause : CommandError) : ExportedInto start out (.error cause) report :=
  ⟨fun location archive hstands => Or.inl (h location archive hstands), nofun⟩

/-- An export writes its archive into the folder that was asked for. -/
theorem leads_exportArchive (start : Disk) :
    Task.Leads (fun report => report.disk = start) (exportArchive machine settings choice name out)
      (ExportedInto start out) := by
  refine (leads_openStudio machine settings choice start).bind (fun studio => ?_) fun cause _ h => .of_failed h cause
  cases hpacked : (studio.exportArchive 0 name).1 with
  | error cause =>
    have hlogged : Task.Leads (fun report => start.NoNewArchive report.disk)
        (logInvalid cause : Task (StateM τ) Unit) fun _ report => start.NoNewArchive report.disk := by
      cases cause with
      | invalid problems => exact Task.leads_logProblems start.NoNewArchive problems
      | noTemplate | notLoaded | exporting cause => exact fun _ _ h => h
    exact hlogged.bind (fun _ report world h => .of_failed h _) fun cause report h => .of_failed h cause
  | ok archive =>
    have hfilename : Archive.IsFilename archive.filename := by
      obtain ⟨bundle, suggested, -, rfl⟩ := Studio.exists_ofFiles_of_exportArchive hpacked
      exact Archive.isFilename_ofFiles bundle.files suggested
    have hmade : Task.Leads (fun report => start.NoNewArchive report.disk)
        (change (·.makeFolders out) .disk : Task (StateM τ) Unit) fun _ report => start.NoNewArchive report.disk :=
      Task.leads_change (fun _ _ h hmake => h.trans (Disk.noNewArchive_of_makeFolders hmake)) fun _ _ h _ => h
    refine hmade.bind (fun _ => ?_) fun cause report h => .of_failed h cause
    have hwritten : Task.Leads (fun report => start.NoNewArchive report.disk)
        (change (·.write (archivePath out archive) (.archive archive)) fun _ => .write (archivePath out archive) :
          Task (StateM τ) Unit) (ExportedInto start out) := by
      refine Task.leads_change (fun report disk h hwrite => ?_) fun report _ h _ => .of_failed h _
      obtain ⟨hstands, hnew⟩ := Disk.holdsDirectly_of_write hfilename hwrite
      refine ⟨fun location other hother => (hnew location other hother).imp_left (h location other), fun _ => ?_⟩
      obtain ⟨location, hlocation⟩ := hstands
      exact ⟨location, archive, hlocation⟩
    refine hwritten.bind (fun _ => ?_) fun _ _ h => h
    exact fun report world h => ⟨h.1, fun _ => h.2 rfl⟩

/-- An invocation to export, with settings of its own or without, writes its archive into the folder that was asked
for. -/
theorem leads_perform_exportArchive (start : Disk) (file : Option String) :
    Task.Leads (fun report => report.disk = start) (perform machine ⟨file, .exportArchive choice name out⟩)
      (ExportedInto start out) := by
  cases file with
  | none => exact leads_exportArchive machine {} choice start
  | some path =>
    rw [perform]
    dsimp only
    refine .of_disk ?_
    cases Settings.load? start path with
    | none => exact fun report world h => .of_failed (h ▸ .refl start) _
    | some settings => exact leads_exportArchive machine settings choice start

/-- A run of the program leaves the disk of what it is invoked for. -/
theorem disk_run {arguments : List String} {invocation : Invocation} (hparse : parse arguments = .ok invocation)
    (disk : Disk) (world : τ) :
    ((run machine disk arguments).run world).1.disk =
      ((perform machine invocation).reportAfter ⟨disk, [], []⟩ world).disk := by
  rw [run, hparse, Task.reportAfter]
  dsimp only
  rw [StateT.run_bind]
  rfl

/-- The name that sanitizing makes of a text

* is a name for an archive: it is not empty, it has no blank, slash or backslash in it, and no hyphen at an end;
* is not changed by sanitizing it again;
* is the text itself if that is such a name.

So wherever an archive stands after an export that was not there before, it stands directly in the folder that the
export was to write to. There is one after an export that succeeds. -/
theorem archive_names_are_safe_and_stable (machine : Machine (StateM τ)) (disk : Disk) (world : τ)
    (arguments : List String) (file : Option String) (choice : TemplateChoice) (name : Option String) (out : String)
    (hcommand : parse arguments = .ok ⟨file, .exportArchive choice name out⟩) :
    (∀ text, Archive.IsArchiveName (Archive.sanitizeName text) ∧
        Archive.sanitizeName (Archive.sanitizeName text) = Archive.sanitizeName text ∧
        (Archive.IsArchiveName text → Archive.sanitizeName text = text)) ∧
      let outcome := ((run machine disk arguments).run world).1
      (∀ location archive, outcome.disk.root.at? location = some (.archive archive) →
          disk.root.at? location = some (.archive archive) ∨ outcome.disk.HoldsDirectly out location archive) ∧
        (outcome.status = 0 → ∃ location archive, outcome.disk.HoldsDirectly out location archive) := by
  constructor
  · intro text
    have hname := Archive.isArchiveName_sanitizeName text
    exact ⟨hname, Archive.sanitizeName_eq_self_iff.mpr hname, Archive.sanitizeName_eq_self_iff.mpr⟩
  · intro outcome
    obtain ⟨hnew, hwritten⟩ := leads_perform_exportArchive machine choice disk file ⟨disk, [], []⟩ world rfl
    rw [← disk_run machine hcommand disk world] at hnew hwritten
    exact ⟨hnew, fun hstatus => hwritten ((status_eq_zero_iff_perform hcommand).mp hstatus)⟩

/-- A disk with a template that has a README of its own. -/
def documentedDisk : Disk :=
  .ofNode (.folder [("t", .folder [("README.md", .ofText "About it"), ("config.json", ageForm),
    ("index.html", .ofText "Hello")])])

/-- An archive whose name is to lead out of the folder stands in the folder. -/
theorem archive_named_out_of_folder_stands_in_it :
    let arguments := ["export", "zip", "-t", "t", "--name", " ../../my site/ ", "-o", "out"]
    let choice : TemplateChoice := ⟨some "t", none, none, none⟩
    parse arguments = .ok ⟨none, .exportArchive choice (some " ../../my site/ ") "out"⟩ ∧
      Archive.sanitizeName " ../../my site/ " = "..-..-my-site" ∧
      Archive.sanitizeName "..-..-my-site" = "..-..-my-site" ∧
      ∃ location archive,
        ((run offline documentedDisk arguments).run ()).1.disk.HoldsDirectly "out" location archive := by
  intro arguments choice
  have hcommand : parse arguments = .ok ⟨none, .exportArchive choice (some " ../../my site/ ") "out"⟩ :=
    ok_of_toOption (by decide +kernel)
  obtain ⟨hnames, -, hwritten⟩ := archive_names_are_safe_and_stable offline documentedDisk () arguments none choice
    (some " ../../my site/ ") "out" hcommand
  have hsanitized : Archive.sanitizeName " ../../my site/ " = "..-..-my-site" := by decide +kernel
  have hagain := (hnames " ../../my site/ ").2.1
  rw [hsanitized] at hagain
  exact ⟨hcommand, hsanitized, hagain, hwritten (by decide +kernel)⟩

end CommandLine

end SiteBuilder
