import SiteBuilder.Proofs.Template.Tree
import SiteBuilder.Template.LocalFolder

/-!
# Templates read from a disk

A folder on a disk gives its sources. The file that is named as its form is left out if it is named without a
slash; a file whose path has one stays among them. The form itself is read from wherever its path leads.
-/

namespace SiteBuilder.LocalFolder

open SiteBuilder.Path (IsHidden IsName Visible ofNames)

/-- What is in a folder is read entry by entry, and hidden entries are passed over. -/
theorem filesOf_eq (configFile : String) (excluded : List String) (folder : String)
    (entries : List (String × Node)) :
    filesOf configFile excluded folder entries = entries.flatMap fun entry =>
      if IsHidden entry.1 then [] else fileOrFolder configFile excluded folder entry.1 entry.2 := by
  induction entries with
  | nil => rfl
  | cons entry rest ih =>
    rw [filesOf, List.flatMap_cons, ih]
    split <;> rfl

/-- The path of a name below the path of names. -/
theorem below_ofNames {base : List String} (hbase : ∀ name ∈ base, IsName name) (name : String) :
    below (ofNames base) name = ofNames (base ++ [name]) := by
  rw [below]
  split
  · next hempty => rw [(Path.ofNames_eq_empty_iff hbase).mp hempty, List.nil_append, Path.ofNames_singleton]
  · next hempty =>
    have hne : base ≠ [] := mt (Path.ofNames_eq_empty_iff hbase).mpr hempty
    rw [Path.ofNames_append hne (List.cons_ne_nil _ _), Path.ofNames_singleton]

/-- What is read of an entry are the texts below it, but for a text at the very place of the form. -/
theorem fileOrFolder_eq (configFile : String) {node : Node} (h : node.Regular) {base : List String}
    (hbase : ∀ name ∈ base, IsName name) {name : String} (hname : IsName name) :
    fileOrFolder configFile [] (ofNames base) name node =
      ((node.texts.map fun text => (base ++ name :: text.1, text.2)).filter
        fun text => text.1 ≠ [configFile]).map fun text => (ofNames text.1, text.2) := by
  induction h generalizing base name with
  | file bytes =>
    have hplace : (ofNames base = "" ∧ name = configFile) ↔ base ++ [name] = [configFile] := by
      rw [Path.ofNames_eq_empty_iff hbase]
      constructor
      · rintro ⟨rfl, rfl⟩
        rfl
      · intro heq
        cases base with
        | nil => exact ⟨rfl, List.head_eq_of_cons_eq heq⟩
        | cons first base => simp at heq
    rw [fileOrFolder, Node.texts_file, below_ofNames hbase]
    by_cases hconfig : base ++ [name] = [configFile]
    · rw [if_pos (hplace.mpr hconfig)]
      cases Text.Utf8.decodeText? bytes <;> simp [hconfig]
    · rw [if_neg (mt hplace.mp hconfig)]
      cases Text.Utf8.decodeText? bytes <;> simp [hconfig]
  | folder entries names distinct inner ih =>
    have hbelow : ∀ other ∈ base ++ [name], IsName other := by
      simpa [or_imp, forall_and] using ⟨hbase, hname⟩
    rw [fileOrFolder, below_ofNames hbase, filesOf_eq, Node.texts_folder, List.map_flatMap, List.filter_flatMap,
      List.map_flatMap]
    refine List.flatMap_congr fun entry hentry => ?_
    split
    · rfl
    · rw [ih entry hentry hbelow (names entry hentry), List.map_map]
      simp only [List.append_assoc, List.singleton_append, Function.comp_def]

/-- What is read of a folder are its texts, but for the form at its place. -/
theorem filesOf_top (configFile : String) {entries : List (String × Node)} (h : (Node.folder entries).Regular) :
    filesOf configFile [] "" entries =
      ((Node.folder entries).texts.filter fun text => text.1 ≠ [configFile]).map
        fun text => (ofNames text.1, text.2) := by
  cases h with
  | folder entries names distinct inner =>
    rw [filesOf_eq, Node.texts_folder, List.filter_flatMap, List.map_flatMap]
    refine List.flatMap_congr fun entry hentry => ?_
    split
    · rfl
    · have htop : ∀ name ∈ ([] : List String), IsName name := nofun
      exact fileOrFolder_eq configFile (inner entry hentry) htop (names entry hentry)

/-- No two files that are read of a folder have the same path. -/
theorem nodup_paths_filesOf (configFile : String) {entries : List (String × Node)}
    (h : (Node.folder entries).Regular) : ((filesOf configFile [] "" entries).map Prod.fst).Nodup := by
  rw [filesOf_top configFile h]
  exact (Node.nodup_paths h).sublist ((List.filter_sublist.map _).map _)

/-- A text is at the place of the form if it has its path, and the path has no slash. -/
theorem eq_singleton_iff {configFile : String} {entries : List (String × Node)}
    (h : (Node.folder entries).Regular) {text : List String × String} (htext : text ∈ (Node.folder entries).texts) :
    text.1 = [configFile] ↔ ofNames text.1 = configFile ∧ '/' ∉ configFile.toList := by
  have hnames := Node.isName_of_mem_texts h htext
  constructor
  · intro hplace
    have hslash := (Path.slash_notMem_ofNames_iff hnames).mpr (Or.inr ⟨configFile, hplace⟩)
    rw [hplace, Path.ofNames_singleton] at hslash
    exact ⟨by rw [hplace, Path.ofNames_singleton], hslash⟩
  · rintro ⟨rfl, hslash⟩
    rcases (Path.slash_notMem_ofNames_iff hnames).mp hslash with hnone | ⟨name, hname⟩
    · obtain ⟨bytes, hat, -⟩ := (Node.mem_texts_iff h).mp htext
      rw [hnone] at hat
      cases hat
    · rw [hname, Path.ofNames_singleton]

/-- What is read of a folder are its sources, but for the form if it is named without a slash. -/
theorem ofList_filesOf_eq (configFile : String) {entries : List (String × Node)}
    (h : (Node.folder entries).Regular) :
    NameMap.ofList (filesOf configFile [] "" entries) =
      if '/' ∈ configFile.toList then (Node.folder entries).sources
      else (Node.folder entries).sources.erase configFile := by
  have hread (path text : String) : (path, text) ∈ filesOf configFile [] "" entries ↔
      (path = configFile → '/' ∈ configFile.toList) ∧ (Node.folder entries).sources.get? path = some text := by
    rw [Node.sources, NameMap.get?_ofList_eq_some_iff (Node.nodup_paths h), filesOf_top configFile h,
      List.mem_map, List.mem_map]
    constructor
    · rintro ⟨found, hfound, heq⟩
      obtain ⟨hmem, hplace⟩ := List.mem_filter.mp hfound
      have hother := mt (eq_singleton_iff h hmem).mpr (of_decide_eq_true hplace)
      cases heq
      exact ⟨fun hpath => Decidable.byContradiction fun hslash => hother ⟨hpath, hslash⟩, found, hmem, rfl⟩
    · rintro ⟨hpath, found, hmem, heq⟩
      cases heq
      refine ⟨found, List.mem_filter.mpr ⟨hmem, decide_eq_true fun hplace => ?_⟩, rfl⟩
      obtain ⟨hconfig, hslash⟩ := (eq_singleton_iff h hmem).mp hplace
      exact hslash (hpath hconfig)
  ext path text
  rw [NameMap.get?_ofList_eq_some_iff (nodup_paths_filesOf configFile h), hread]
  by_cases hslash : '/' ∈ configFile.toList
  · simp [hslash]
  · by_cases hpath : path = configFile <;> simp [hslash, hpath]

/-! ## The form -/

variable {disk : Disk}

/-- A folder on a disk gives its files and the form that its path leads to. -/
theorem read_of_find {root configFile : String} {excluded : List String} {descriptor : Descriptor}
    {entries : List (String × Node)} (hfolder : disk.find (Path.join root descriptor.folder) = .ok (.folder entries)) :
    read disk root configFile excluded descriptor =
      let configPath := Path.join (Path.join root descriptor.folder) configFile
      match disk.readText configPath with
      | .error cause => .error (.notFound (Text.quotedPath configPath ++ ": " ++ cause.message))
      | .ok text => (TemplateConfig.ofNamedText configFile text).map
          (⟨·, .ofList (filesOf configFile (excluded.map normalized) "" entries)⟩) := by
  have hisFolder : disk.isFolder (Path.join root descriptor.folder) = true := by
    rw [Disk.isFolder, hfolder]
    rfl
  rw [read]
  simp only [hisFolder, hfolder, Bool.not_true, Bool.false_eq_true, if_false]
  cases disk.readText (Path.join (Path.join root descriptor.folder) configFile) with
  | error cause => rfl
  | ok text => cases TemplateConfig.ofNamedText configFile text <;> rfl

/-- A regular folder on a disk gives its sources and the form that its path leads to. -/
theorem read_eq {root configFile : String} {descriptor : Descriptor} {entries : List (String × Node)}
    (h : (Node.folder entries).Regular)
    (hfolder : disk.find (Path.join root descriptor.folder) = .ok (.folder entries)) :
    read disk root configFile [] descriptor =
      let configPath := Path.join (Path.join root descriptor.folder) configFile
      match disk.readText configPath with
      | .error cause => .error (.notFound (Text.quotedPath configPath ++ ": " ++ cause.message))
      | .ok text => (TemplateConfig.ofNamedText configFile text).map (⟨·,
          if '/' ∈ configFile.toList then (Node.folder entries).sources
          else (Node.folder entries).sources.erase configFile⟩) := by
  rw [read_of_find hfolder, List.map_nil, ofList_filesOf_eq configFile h]

section

variable {folder configFile text : String} {entries : List (String × Node)}

/-- A form among the sources of a folder is read from there. -/
theorem readText_of_source (h : (Node.folder entries).Regular) (hfolder : disk.find folder = .ok (.folder entries))
    (hsource : (Node.folder entries).sources.get? configFile = some text) :
    disk.readText (Path.join folder configFile) = .ok text := by
  obtain ⟨names, bytes, hat, -, htext, rfl⟩ := (Node.get?_sources_eq_some_iff h).mp hsource
  obtain ⟨location, hlocate, hentries⟩ := Disk.find_eq_ok_iff.mp hfolder
  have hnames := (h.at? hat).1
  have hne : names ≠ [] := by
    rintro rfl
    cases hat
  have hjoin := Disk.locate_join hlocate (Path.isAbsolute_ofNames hnames) (Path.nul_notMem_ofNames hnames)
  rw [Path.pieces_ofNames hne hnames, Disk.walk_names hentries hat hnames] at hjoin
  have hfind : disk.find (Path.join folder (ofNames names)) = .ok (.file bytes) :=
    Disk.find_eq_ok_iff.mpr ⟨_, hjoin, by rw [Node.at?_append, hentries, Option.bind_some, hat]⟩
  exact Disk.readText_eq_ok_iff.mpr ⟨_, hfind, htext⟩

/-- A form that is named without a slash, and is not hidden, is among the sources of the folder. -/
theorem source_of_readText (h : (Node.folder entries).Regular) (hfolder : disk.find folder = .ok (.folder entries))
    (hslash : '/' ∉ configFile.toList) (hvisible : ¬IsHidden configFile)
    (hread : disk.readText (Path.join folder configFile) = .ok text) :
    (Node.folder entries).sources.get? configFile = some text := by
  obtain ⟨location, hlocate, hentries⟩ := Disk.find_eq_ok_iff.mp hfolder
  obtain ⟨node, hfind, htext⟩ := Disk.readText_eq_ok_iff.mp hread
  obtain ⟨inner, hinner, hnode⟩ := Disk.find_eq_ok_iff.mp hfind
  have hrelative : Path.isAbsolute configFile = false :=
    decide_eq_false fun hhead => hslash (List.mem_of_mem_head? hhead)
  have hnul := Disk.nul_notMem_of_locate_join (Disk.locate_eq_ok_iff.mp hlocate).1 hrelative hinner
  rw [Disk.locate_join hlocate hrelative hnul, Text.pieces_of_slash_notMem hslash] at hinner
  have hup : configFile ≠ ".." := fun heq => hvisible (by rw [heq]; rfl)
  rcases Disk.walk_singleton hup hinner with rfl | rfl
  · cases hentries.symm.trans hnode
    cases htext
  · rw [Node.at?_append, hentries, Option.bind_some] at hnode
    cases node with
    | file bytes =>
      refine (Node.get?_sources_eq_some_iff h).mpr ⟨[configFile], bytes, hnode, ?_, htext, ?_⟩
      · simpa [Visible] using hvisible
      · rw [Path.ofNames_singleton]
    | archive contents => cases htext
    | folder inner => cases htext

end

end SiteBuilder.LocalFolder
