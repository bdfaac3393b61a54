import SiteBuilder.Proofs.CommandLine.Verdict
import SiteBuilder.Proofs.Template.LeftOut

/-!
# The file of answers in a template's folder

A file of answers may lie in the folder of the template that it fills in. It is none of the template's files then,
however its path is spelled, and all others are loaded. That fails for a path with a backslash, which is compared with
a slash in its place: the answers are loaded as a file of the template, and a file at the other path is not.
-/

namespace SiteBuilder.CommandLine

open SiteBuilder.Path (ofNames)

variable {τ : Type} {machine : Machine (StateM τ)} {settings : Settings} {choice : TemplateChoice} {report : Report}
  {world : τ} {folder answers : String} {entries : List (String × Node)} {names : List String}

/-- A template in a folder can be rendered, and loading it is reading it. -/
theorem loadTemplate_inFolder (read : Descriptor → Except LoadError TemplateContent) (id folder : String) :
    loadTemplate (m := StateM τ) (fun descriptor => pure (read descriptor)) none (.inFolder id folder) =
      pure (read (.inFolder id folder), none) := by
  have hsupported : (Descriptor.inFolder id folder).ensureSupported = .ok () := if_pos rfl
  rw [loadTemplate, hsupported]
  dsimp only [Option.bind_none]
  rw [pure_bind]
  cases read (.inFolder id folder) <;> rfl

/-- A template in a folder has the identifier that the folder's name gives it, and is loaded if it can be read. -/
theorem result_loadChosen_eq_ok_iff (hfolder : choice.folder = some folder) {found : String × TemplateContent} :
    (loadChosen machine settings choice).result report world = .ok found ↔
      found.1 = (Path.fileName? folder).getD "template" ∧
        loadLocal report.disk settings folder choice.answers
          (.inFolder ((Path.fileName? folder).getD "template") "") = .ok found.2 := by
  rw [loadChosen, Task.result_disk_bind, hfolder]
  dsimp only
  rw [pure_bind]
  dsimp only
  rw [loadTemplate_inFolder]
  generalize loadLocal report.disk settings folder choice.answers
    (.inFolder ((Path.fileName? folder).getD "template") "") = read
  rw [liftM_pure, pure_bind, Task.result_orFail_bind_eq_ok_iff]
  simp only [Task.result_pure, Except.ok.injEq]
  constructor
  · rintro ⟨content, hread, rfl⟩
    exact ⟨rfl, hread⟩
  · rintro ⟨hid, hread⟩
    exact ⟨found.2, hread, Prod.ext hid.symm rfl⟩

/-- The file of answers lies below the folder of a template: `names` lead from there to it. The folder has files and
folders in it. -/
structure LiesInside (disk : Disk) (folder answers : String) (entries : List (String × Node)) (names : List String) :
    Prop where
  regular : (Node.folder entries).Regular
  located : ∃ base, disk.locate folder = .ok base ∧ disk.root.at? base = some (.folder entries) ∧
    disk.locate answers = .ok (base ++ names)
  isFile : ∃ bytes, (Node.folder entries).at? names = some (.file bytes)

variable {disk : Disk}

/-- The folder of a template is found. -/
theorem LiesInside.find_eq (h : LiesInside disk folder answers entries names) :
    disk.find (Path.join folder "") = .ok (.folder entries) := by
  obtain ⟨base, hbase, hentries, -⟩ := h.located
  refine Disk.find_eq_ok_iff.mpr ⟨base, ?_, hentries⟩
  rw [Disk.locate_join hbase rfl (by decide)]
  show disk.walk base [""] = .ok base
  rw [Disk.walk, hentries]
  rfl

/-- The path that is to be left out is the one that leads from the folder to the file. -/
theorem LiesInside.leftOut_eq (h : LiesInside disk folder answers entries names) :
    leftOut disk folder (some answers) = [ofNames names] := by
  obtain ⟨base, hbase, -, hanswers⟩ := h.located
  obtain ⟨bytes, hfile⟩ := h.isFile
  have hne : names ≠ [] := by
    rintro rfl
    cases hfile
  rw [leftOut, Option.bind_some, Disk.pathWithin_of_locate hbase hanswers hne]
  rfl

/-- The template of a folder that the file of answers lies in

* is loaded exactly if its form is there and accepted;
* has all files of the folder, but for the one at the path of the answers with a slash for every backslash;
* so it has all files but for the answers exactly if their path has no backslash, or neither their path nor the one
  with slashes is that of a file. -/
theorem answers_left_out_iff (machine : Machine (StateM τ)) (settings : Settings) (choice : TemplateChoice)
    (report : Report) (world : τ) {folder answers : String} {entries : List (String × Node)} {names : List String}
    (hfolder : choice.folder = some folder) (hanswers : choice.answers = some answers)
    (hinside : LiesInside report.disk folder answers entries names) :
    let configFile := settings.template.configFile
    let loaded := (loadChosen machine settings choice).result report world
    let files := LocalFolder.shipped configFile entries
    ((∃ found, loaded = .ok found) ↔ ∃ text config,
        report.disk.readText (Path.join (Path.join folder "") configFile) = .ok text ∧
          TemplateConfig.ofNamedText configFile text = .ok config) ∧
      ∀ id content, loaded = .ok (id, content) →
        content.files = files.erase (LocalFolder.normalized (ofNames names)) ∧
          (content.files = files.erase (ofNames names) ↔ ('\\' ∈ (ofNames names).toList →
            files.get? (ofNames names) = none ∧ files.get? (LocalFolder.normalized (ofNames names)) = none)) := by
  intro configFile loaded files
  have hloaded (found : String × TemplateContent) : loaded = .ok found ↔
      found.1 = (Path.fileName? folder).getD "template" ∧
        (∃ text, report.disk.readText (Path.join (Path.join folder "") configFile) = .ok text ∧
          TemplateConfig.ofNamedText configFile text = .ok found.2.config) ∧
        found.2.files = files.erase (LocalFolder.normalized (ofNames names)) := by
    refine (result_loadChosen_eq_ok_iff hfolder).trans (and_congr_right fun _ => ?_)
    rw [loadLocal, hanswers, hinside.leftOut_eq]
    exact LocalFolder.read_eq_ok_iff _ hinside.regular hinside.find_eq
  constructor
  · constructor
    · rintro ⟨found, hfound⟩
      obtain ⟨-, ⟨text, hread, hform⟩, -⟩ := (hloaded found).mp hfound
      exact ⟨text, found.2.config, hread, hform⟩
    · rintro ⟨text, config, hread, hform⟩
      exact ⟨(_, ⟨config, _⟩), (hloaded _).mpr ⟨rfl, ⟨text, hread, hform⟩, rfl⟩⟩
  · intro id content hcontent
    obtain ⟨-, -, hfiles⟩ := (hloaded _).mp hcontent
    refine ⟨hfiles, ?_⟩
    rw [hfiles]
    by_cases hbackslash : '\\' ∈ (ofNames names).toList
    · have hne : LocalFolder.normalized (ofNames names) ≠ ofNames names :=
        mt LocalFolder.normalized_eq_self_iff.mp (not_not_intro hbackslash)
      rw [NameMap.erase_eq_erase_iff hne]
      exact ⟨fun h _ => h.symm, fun h => (h hbackslash).symm⟩
    · rw [LocalFolder.normalized_eq_self_iff.mpr hbackslash]
      exact iff_of_true rfl fun h => absurd h hbackslash

/-! ### Answers beside a page -/

/-- The entries of a folder with a template and a file of answers in a folder below. -/
def pageWithAnswersBelow : List (String × Node) :=
  [("config.json", ageForm), ("index.html", .ofText "{age}"),
    ("mine", .folder [("answers.json", .ofText "\x7b\"age\":36\x7d")])]

/-- Answers in a folder below are left out, though their path takes a turn. -/
theorem answers_below_left_out :
    let disk := Disk.ofNode (.folder [("t", .folder pageWithAnswersBelow)])
    let choice : TemplateChoice := ⟨some "t/", none, none, some "./t/mine/../mine/./answers.json"⟩
    LiesInside disk "t/" "./t/mine/../mine/./answers.json" pageWithAnswersBelow ["mine", "answers.json"] ∧
      ∃ found, (loadChosen offline {} choice).result ⟨disk, [], []⟩ () = .ok found ∧
        found.2.files = (LocalFolder.shipped "config.json" pageWithAnswersBelow).erase "mine/answers.json" := by
  intro disk choice
  have hbelow : (Node.folder [("answers.json", .ofText "\x7b\"age\":36\x7d")]).Regular :=
    .folder _ (by decide +kernel) (by decide +kernel) (by simpa using .file _)
  have hregular : (Node.folder pageWithAnswersBelow).Regular := by
    refine .folder _ (by decide +kernel) (by decide +kernel) ?_
    simp only [pageWithAnswersBelow, List.forall_mem_cons]
    exact ⟨.file _, .file _, hbelow, nofun⟩
  have hinside : LiesInside disk "t/" "./t/mine/../mine/./answers.json" pageWithAnswersBelow
      ["mine", "answers.json"] :=
    ⟨hregular, ⟨["t"], by decide +kernel, rfl, by decide +kernel⟩, ⟨_, rfl⟩⟩
  obtain ⟨hloads, hfiles⟩ := answers_left_out_iff offline {} choice ⟨disk, [], []⟩ () rfl rfl hinside
  have hform : TemplateConfig.ofNamedText "config.json" (ageForm.text?.getD "") = .ok ageTemplate.config :=
    ok_of_toOption (by decide +kernel)
  obtain ⟨found, hfound⟩ := hloads.mpr ⟨_, _, by decide +kernel, hform⟩
  exact ⟨hinside, found, hfound, (hfiles _ _ hfound).2.mpr fun h => absurd h (by decide +kernel)⟩

/-- Answers whose name has a backslash are loaded as a file of the template. -/
theorem answers_with_backslash_loaded :
    let entries := [("config.json", ageForm), ("index.html", .ofText "{age}"),
      ("my\\answers.json", .ofText "\x7b\"age\":36\x7d")]
    let disk := Disk.ofNode (.folder [("t", .folder entries)])
    let choice : TemplateChoice := ⟨some "t", none, none, some "t/my\\answers.json"⟩
    LiesInside disk "t" "t/my\\answers.json" entries ["my\\answers.json"] ∧
      ∃ content, (loadChosen offline {} choice).result ⟨disk, [], []⟩ () = .ok ("t", content) ∧
        content.files.get? "my\\answers.json" = some "\x7b\"age\":36\x7d" := by
  intro entries disk choice
  have hregular : (Node.folder entries).Regular := by
    refine .folder _ (by decide +kernel) (by decide +kernel) ?_
    simp only [entries, List.forall_mem_cons]
    exact ⟨.file _, .file _, .file _, nofun⟩
  refine ⟨⟨hregular, ⟨["t"], by decide +kernel, rfl, by decide +kernel⟩, ⟨_, rfl⟩⟩, ?_⟩
  exact ⟨⟨.simple [("age", .number)], .ofList [("index.html", "{age}"),
    ("my\\answers.json", "\x7b\"age\":36\x7d")]⟩, ok_of_toOption (by decide +kernel), by decide +kernel⟩

end SiteBuilder.CommandLine
