import SiteBuilder.Proofs.Disk.Walk
import SiteBuilder.Proofs.NameMap
import SiteBuilder.Site.Files

/-!
# The texts of a tree

A tree is regular if it consists of files and folders whose names can be told apart. Its texts are the files
that can be read as text and are not hidden, each with its location, and its sources are these texts by their
paths: a path is that of one file at most.
-/

namespace SiteBuilder

/-- A name that starts with a dot hides what has it. -/
abbrev Path.IsHidden (name : String) : Prop := name.toList.head? = some '.'

/-- Whether no name on the way hides what is at a location. -/
abbrev Path.Visible (location : List String) : Prop := ∀ name ∈ location, ¬IsHidden name

namespace Node

/-- A tree of files and folders, where nothing in a folder shares its name. -/
inductive Regular : Node → Prop where
  | file (bytes : List UInt8) : Regular (.file bytes)
  | folder (entries : List (String × Node)) (names : ∀ entry ∈ entries, Path.IsName entry.1)
    (distinct : (entries.map Prod.fst).Nodup) (inner : ∀ entry ∈ entries, Regular entry.2) :
    Regular (.folder entries)

/-- The files below a node that are texts and not hidden, with their locations. -/
def texts (node : Node) : List (List String × String) :=
  node.files.filterMap fun file =>
    if Path.Visible file.1 then file.2.text?.map (file.1, ·) else none

/-- The texts below a node by their paths. -/
def sources (node : Node) : FileSet := .ofList (node.texts.map fun text => (Path.ofNames text.1, text.2))

/-! ## Locations -/

/-- What is below a regular node is regular, and so are the names on the way. -/
theorem Regular.at? {node inner : Node} (h : node.Regular) {location : List String}
    (hinner : node.at? location = some inner) : (∀ name ∈ location, Path.IsName name) ∧ inner.Regular := by
  induction location generalizing node with
  | nil =>
    cases hinner
    exact ⟨nofun, h⟩
  | cons name location ih =>
    obtain ⟨next, hnext, hrest⟩ := Option.bind_eq_some_iff.mp hinner
    cases h with
    | file bytes => cases hnext
    | folder entries names distinct inner =>
      have hmem : (name, next) ∈ entries := (NameMap.lookup_eq_some_iff_mem distinct).mp hnext
      obtain ⟨hnames, hregular⟩ := ih (inner _ hmem) hrest
      refine ⟨?_, hregular⟩
      rintro other (_ | ⟨_, hother⟩)
      · exact names _ hmem
      · exact hnames other hother

/-- The files below a folder are those below its entries. -/
theorem entryFiles_eq (entries : List (String × Node)) :
    entryFiles entries =
      entries.flatMap fun entry => entry.2.files.map fun file => (entry.1 :: file.1, file.2) := by
  induction entries with
  | nil => rfl
  | cons entry rest ih => rw [entryFiles, ih, List.flatMap_cons]

/-- The files of a regular node are what stands below it and is no folder. -/
theorem mem_files_iff {node file : Node} (h : node.Regular) {location : List String} :
    (location, file) ∈ node.files ↔ node.at? location = some file ∧ file.isFolder = false := by
  induction h generalizing location with
  | file bytes =>
    cases location with
    | nil =>
      rw [files, Node.at?]
      · constructor
        · intro hmem
          cases List.mem_singleton.mp hmem
          exact ⟨rfl, rfl⟩
        · rintro ⟨⟨⟩, -⟩
          exact List.mem_singleton.mpr rfl
      · intro entries hfolder
        cases hfolder
    | cons name location =>
      rw [files]
      · constructor
        · intro hmem
          cases List.mem_singleton.mp hmem
        · rintro ⟨hat, -⟩
          cases hat
      · intro entries hfolder
        cases hfolder
  | folder entries names distinct inner ih =>
    rw [files, entryFiles_eq, List.mem_flatMap]
    cases location with
    | nil =>
      constructor
      · rintro ⟨entry, -, hmem⟩
        obtain ⟨_, -, heq⟩ := List.mem_map.mp hmem
        cases heq
      · rintro ⟨⟨⟩, hfolder⟩
        cases hfolder
    | cons name location =>
      constructor
      · rintro ⟨⟨name, next⟩, hentry, hmem⟩
        obtain ⟨_, hfile, heq⟩ := List.mem_map.mp hmem
        cases heq
        obtain ⟨hat, hplain⟩ := (ih _ hentry).mp hfile
        exact ⟨Option.bind_eq_some_iff.mpr ⟨next, (NameMap.lookup_eq_some_iff_mem distinct).mpr hentry, hat⟩, hplain⟩
      · rintro ⟨hat, hplain⟩
        obtain ⟨next, hnext, hrest⟩ := Option.bind_eq_some_iff.mp hat
        have hentry := (NameMap.lookup_eq_some_iff_mem distinct).mp hnext
        exact ⟨_, hentry, List.mem_map.mpr ⟨_, (ih _ hentry).mpr ⟨hrest, hplain⟩, rfl⟩⟩

/-- No two files of a regular node are at the same location. -/
theorem nodup_files {node : Node} (h : node.Regular) : (node.files.map Prod.fst).Nodup := by
  induction h with
  | file bytes => exact List.nodup_singleton _
  | folder entries names distinct inner ih =>
    rw [files, entryFiles_eq, List.map_flatMap, List.nodup_flatMap]
    constructor
    · intro entry hentry
      have hmap : (entry.2.files.map fun file => (entry.1 :: file.1, file.2)).map Prod.fst =
          (entry.2.files.map Prod.fst).map (entry.1 :: ·) := by
        rw [List.map_map, List.map_map]
        rfl
      rw [hmap]
      exact (ih entry hentry).map List.cons_injective
    · refine (List.pairwise_map.mp distinct).imp fun {a b} hne location ha hb => hne ?_
      obtain ⟨_, hmema, rfl⟩ := List.mem_map.mp ha
      obtain ⟨_, -, rfl⟩ := List.mem_map.mp hmema
      obtain ⟨_, hmemb, hlocation⟩ := List.mem_map.mp hb
      obtain ⟨_, -, rfl⟩ := List.mem_map.mp hmemb
      exact (List.cons.inj hlocation).1.symm

/-! ## Texts -/

/-- A file has at most one text, at the location of the file itself. -/
theorem texts_file (bytes : List UInt8) :
    (Node.file bytes).texts = (Text.Utf8.decodeText? bytes).toList.map ([], ·) := by
  rw [texts, files]
  · cases htext : Text.Utf8.decodeText? bytes <;> simp [Path.Visible, text?, htext]
  · intro entries hfolder
    cases hfolder

/-- The texts below a folder are those below its entries that are not hidden. -/
theorem texts_folder (entries : List (String × Node)) :
    (Node.folder entries).texts = entries.flatMap fun entry =>
      if Path.IsHidden entry.1 then [] else entry.2.texts.map fun text => (entry.1 :: text.1, text.2) := by
  rw [texts, files, entryFiles_eq, List.filterMap_flatMap]
  refine List.flatMap_congr fun entry _ => ?_
  rw [List.filterMap_map]
  split
  · next hhidden =>
    refine List.filterMap_eq_nil_iff.mpr fun file _ => if_neg fun hvisible => ?_
    exact hvisible entry.1 List.mem_cons_self hhidden
  · next hhidden =>
    rw [texts, List.map_filterMap]
    refine List.filterMap_congr fun file _ => ?_
    have hvisible : Path.Visible (entry.1 :: file.1) ↔ Path.Visible file.1 := by simp [Path.Visible, hhidden]
    by_cases hrest : Path.Visible file.1
    · rw [Function.comp_apply, if_pos (hvisible.mpr hrest), if_pos hrest, Option.map_map]
      rfl
    · rw [Function.comp_apply, if_neg (mt hvisible.mp hrest), if_neg hrest]
      rfl

/-- The texts below a regular node are the files there that are not hidden and can be read. -/
theorem mem_texts_iff {node : Node} (h : node.Regular) {location : List String} {text : String} :
    (location, text) ∈ node.texts ↔ ∃ bytes, node.at? location = some (.file bytes) ∧
      Path.Visible location ∧ Text.Utf8.decodeText? bytes = some text := by
  rw [texts, List.mem_filterMap]
  constructor
  · rintro ⟨⟨found, file⟩, hfile, hread⟩
    split at hread
    · next hvisible =>
      obtain ⟨_, htext, heq⟩ := Option.map_eq_some_iff.mp hread
      cases heq
      cases file with
      | file bytes => exact ⟨bytes, ((mem_files_iff h).mp hfile).1, hvisible, htext⟩
      | archive contents => cases htext
      | folder entries => cases htext
    · cases hread
  · rintro ⟨bytes, hat, hvisible, htext⟩
    refine ⟨(location, .file bytes), (mem_files_iff h).mpr ⟨hat, rfl⟩, ?_⟩
    rw [if_pos hvisible, Option.map_eq_some_iff]
    exact ⟨text, htext, rfl⟩

/-- No two texts below a regular node are at the same location. -/
theorem nodup_texts {node : Node} (h : node.Regular) : (node.texts.map Prod.fst).Nodup := by
  refine List.pairwise_map.mpr ((List.pairwise_map.mp (nodup_files h)).filterMap _ ?_)
  intro a b hne x hx y hy
  split at hx
  · split at hy
    · obtain ⟨_, _, rfl⟩ := Option.map_eq_some_iff.mp hx
      obtain ⟨_, _, rfl⟩ := Option.map_eq_some_iff.mp hy
      exact hne
    · cases hy
  · cases hx

/-- The names on the way to a text below a regular node. -/
theorem isName_of_mem_texts {node : Node} (h : node.Regular) {text : List String × String}
    (htext : text ∈ node.texts) : ∀ name ∈ text.1, Path.IsName name := by
  obtain ⟨bytes, hat, -⟩ := (mem_texts_iff h).mp htext
  exact (h.at? hat).1

/-- No two texts below a regular node have the same path. -/
theorem nodup_paths {node : Node} (h : node.Regular) :
    ((node.texts.map fun text => (Path.ofNames text.1, text.2)).map Prod.fst).Nodup := by
  rw [List.map_map]
  refine List.pairwise_map.mpr ((List.pairwise_map.mp (nodup_texts h)).imp_of_mem ?_)
  intro a b ha hb hne hpath
  exact hne ((Path.ofNames_inj (isName_of_mem_texts h ha) (isName_of_mem_texts h hb)).mp hpath)

/-- The sources below a regular node are the files there that are not hidden and can be read, by their paths. -/
theorem get?_sources_eq_some_iff {node : Node} (h : node.Regular) {path text : String} :
    node.sources.get? path = some text ↔ ∃ location bytes, node.at? location = some (.file bytes) ∧
      Path.Visible location ∧ Text.Utf8.decodeText? bytes = some text ∧ path = Path.ofNames location := by
  rw [sources, NameMap.get?_ofList_eq_some_iff (nodup_paths h), List.mem_map]
  constructor
  · rintro ⟨⟨location, found⟩, hmem, heq⟩
    cases heq
    obtain ⟨bytes, hat, hvisible, htext⟩ := (mem_texts_iff h).mp hmem
    exact ⟨location, bytes, hat, hvisible, htext, rfl⟩
  · rintro ⟨location, bytes, hat, hvisible, htext, rfl⟩
    exact ⟨(location, text), (mem_texts_iff h).mpr ⟨bytes, hat, hvisible, htext⟩, rfl⟩

end Node

end SiteBuilder
