import SiteBuilder.Proofs.Template.LocalFolder
import SiteBuilder.Proofs.Text.Cut

/-!
# What a local template leaves out

What is to be left out of a template is named by paths as seen from its folder. They are compared with slashes for
backslashes, and the files of the folder are not: so a path without backslashes takes its file and nothing else, and
one with a backslash takes another file, if there is one, and leaves its own.
-/

namespace SiteBuilder

namespace LocalFolder

open SiteBuilder.Path (ofNames)

variable (configFile : String) (excluded : List String)

/-! ## Files -/

mutual

/-- What is to be left out of a folder's entries is missing from their files, and nothing else is. -/
theorem filesOf_excluded (folder : String) (entries : List (String × Node)) :
    filesOf configFile excluded folder entries =
      (filesOf configFile [] folder entries).filter fun file => file.1 ∉ excluded := by
  cases entries with
  | nil => rfl
  | cons entry rest =>
    obtain ⟨name, node⟩ := entry
    rw [filesOf, filesOf, filesOf_excluded folder rest]
    split
    · rfl
    · rw [List.filter_append, fileOrFolder_excluded folder name node]

/-- What is to be left out of an entry is missing from its files, and nothing else is. -/
theorem fileOrFolder_excluded (folder name : String) (node : Node) :
    fileOrFolder configFile excluded folder name node =
      (fileOrFolder configFile [] folder name node).filter fun file => file.1 ∉ excluded := by
  cases node with
  | folder entries => rw [fileOrFolder, fileOrFolder, filesOf_excluded (below folder name) entries]
  | archive contents => rfl
  | file bytes =>
    rw [fileOrFolder, fileOrFolder]
    by_cases hconfig : folder = "" ∧ name = configFile
    · rw [if_pos hconfig, if_pos hconfig]
      rfl
    · -- What is no text is no file either way.
      rw [if_neg hconfig, if_neg hconfig]
      cases Text.Utf8.decodeText? bytes <;> by_cases hout : below folder name ∈ excluded <;> simp [hout]

end

/-- The files of a template in a folder: the texts in it that are not hidden, but for the form at its place. -/
def shipped (entries : List (String × Node)) : FileSet :=
  .ofList (((Node.folder entries).texts.filter fun text => text.1 ≠ [configFile]).map
    fun text => (ofNames text.1, text.2))

variable {configFile} {entries : List (String × Node)}

/-- What is read of a folder are its files without those that are to be left out. -/
theorem ofList_filesOf_excluded (h : (Node.folder entries).Regular) :
    NameMap.ofList (filesOf configFile excluded "" entries) =
      excluded.foldl NameMap.erase (shipped configFile entries) := by
  rw [filesOf_excluded, NameMap.ofList_filter_notMem (nodup_paths_filesOf configFile h), filesOf_top configFile h,
    shipped]

/-- A template is read from a folder exactly if its form is. Its files are those of the folder without the ones that
are to be left out. -/
theorem read_eq_ok_iff {disk : Disk} {root : String} {descriptor : Descriptor} {content : TemplateContent}
    (h : (Node.folder entries).Regular)
    (hfolder : disk.find (Path.join root descriptor.folder) = .ok (.folder entries)) :
    read disk root configFile excluded descriptor = .ok content ↔
      (∃ text, disk.readText (Path.join (Path.join root descriptor.folder) configFile) = .ok text ∧
        TemplateConfig.ofNamedText configFile text = .ok content.config) ∧
      content.files = (excluded.map normalized).foldl NameMap.erase (shipped configFile entries) := by
  rw [read_of_find hfolder, ofList_filesOf_excluded _ h]
  dsimp only
  cases disk.readText (Path.join (Path.join root descriptor.folder) configFile) with
  | error cause => exact ⟨nofun, fun ⟨⟨_, htext, _⟩, _⟩ => nomatch htext⟩
  | ok text =>
    dsimp only
    cases hform : TemplateConfig.ofNamedText configFile text with
    | error cause =>
      refine ⟨nofun, ?_⟩
      rintro ⟨⟨_, ⟨⟩, hconfig⟩, -⟩
      cases hform.symm.trans hconfig
    | ok config =>
      constructor
      · rintro ⟨⟩
        exact ⟨⟨text, rfl, hform⟩, rfl⟩
      · rintro ⟨⟨_, ⟨⟩, hconfig⟩, hfiles⟩
        obtain rfl : config = content.config := Except.ok.inj (hform.symm.trans hconfig)
        exact congrArg (fun files => Except.ok (TemplateContent.mk content.config files)) hfiles.symm

/-! ## Paths -/

/-- A path is compared with a slash for every backslash. -/
theorem normalized_eq (path : String) :
    normalized path = String.ofList (path.toList.map fun c => if '\\' = c then '/' else c) :=
  congrArg String.ofList (Text.replaceFrom_singleton '\\' '/' path.toList)

/-- A path is compared as it is exactly if it has no backslash. -/
theorem normalized_eq_self_iff {path : String} : normalized path = path ↔ '\\' ∉ path.toList := by
  rw [normalized_eq, ← String.toList_inj, String.toList_ofList]
  constructor
  · intro h hmem
    -- There is no backslash in what the path is compared as.
    rw [← h] at hmem
    obtain ⟨c, -, hc⟩ := List.mem_map.mp hmem
    split at hc
    · cases hc
    · next hother => exact hother hc.symm
  · intro h
    refine (List.map_congr_left fun c hc => if_neg ?_).trans (List.map_id _)
    rintro rfl
    exact h hc

end LocalFolder

/-- What follows a list of parts. -/
theorem Path.stripPrefix?_append (root path : List Path.Part) : Path.stripPrefix? root (root ++ path) = some path := by
  induction root with
  | nil => rfl
  | cons part root ih => rw [List.cons_append, stripPrefix?, if_pos rfl, ih]

/-- What lies below a folder has the path of the names that lead there, however the two are spelled. -/
theorem Disk.pathWithin_of_locate {disk : Disk} {folder path : String} {base names : List String}
    (hfolder : disk.locate folder = .ok base) (hpath : disk.locate path = .ok (base ++ names)) (hne : names ≠ []) :
    disk.pathWithin folder path = some (Path.ofNames names) := by
  obtain ⟨name, rest, rfl⟩ := List.exists_cons_of_ne_nil hne
  have htext : ((name :: rest).map Path.Part.name).map Path.Part.text = name :: rest := by
    rw [List.map_map]
    exact List.map_id _
  rw [pathWithin, hfolder, hpath]
  dsimp only
  rw [List.map_append, Path.stripPrefix?_append, Option.some_or]
  exact congrArg (fun texts => some ("/".intercalate texts)) htext

end SiteBuilder
