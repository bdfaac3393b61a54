import Mathlib.Algebra.GroupWithZero.Nat
import SiteBuilder.Disk.Change
import SiteBuilder.Proofs.Template.Tree
import SiteBuilder.Proofs.Text.Cut
import SiteBuilder.Template.RemoteFolder

/-!
# Templates read from a repository

A service that shows a tree of files and folders lists each folder in some order. The folders that are still
to be read stand for the texts below them, and each folder that is read trades its own texts and folders for
itself. So every text of the template's folder is read once, whatever the order, and what the read comes to is
decided by the text that has the path of the form.
-/

namespace SiteBuilder

open SiteBuilder.Path (IsHidden IsName Visible ofNames)

/-- What a service says about an entry of the folder at a location. -/
def FolderEntry.ofNode (location : List String) (entry : String × Node) : FolderEntry where
  name := entry.1
  path := ofNames (location ++ [entry.1])
  kind := if entry.2.isFolder then "dir" else "file"

variable {m : Type → Type} [Monad m]

/-- A branch of a repository shows a tree: every folder with its entries in some order, and every file with its
bytes. -/
structure RepositoryContents.Serves (contents : RepositoryContents m) (repository : RepositoryName)
    (branch : String) (tree : Node) : Prop where
  folder : ∀ location entries, tree.at? location = some (.folder entries) →
    ∃ items : List (String × Node), items.Perm entries ∧
    contents.folder repository.owner repository.name (ofNames location) branch =
      pure (.ok (items.map (FolderEntry.ofNode location)))
  file : ∀ location bytes, tree.at? location = some (.file bytes) →
    contents.file repository.owner repository.name (ofNames location) branch = pure (.ok bytes)

/-- A service that shows a tree, in the order of its entries. -/
def RepositoryContents.ofTree (tree : Node) : RepositoryContents Id where
  folder _ _ path _ :=
    match tree.at? (Path.namesOf path) with
    | some (.folder entries) => .ok (entries.map (FolderEntry.ofNode (Path.namesOf path)))
    | _ => .error (.status 404 "Not Found")
  file _ _ path _ :=
    match tree.at? (Path.namesOf path) with
    | some (.file bytes) => .ok bytes
    | _ => .error (.status 404 "Not Found")

/-- Every regular tree can be shown. -/
theorem RepositoryContents.serves_ofTree {tree : Node} (htree : tree.Regular) (repository : RepositoryName)
    (branch : String) : (RepositoryContents.ofTree tree).Serves repository branch tree where
  folder location entries hat := by
    refine ⟨entries, List.Perm.refl _, ?_⟩
    dsimp only [ofTree]
    rw [Path.namesOf_ofNames (htree.at? hat).1, hat]
    rfl
  file location bytes hat := by
    dsimp only [ofTree]
    rw [Path.namesOf_ofNames (htree.at? hat).1, hat]
    rfl

namespace RemoteFolder

/-! ## Taking up texts -/

/-- Take up a text that has been read: the form, or else one of the files. -/
def take (configFile : String) (found : Found) (text : String × String) : Except LoadError Found :=
  if text.1 = configFile then
    (TemplateConfig.ofNamedText configFile text.2).map fun config => { found with config := some config }
  else .ok { found with files := found.files.insert text.1 text.2 }

/-- What is still to be read does not matter for what is taken up. -/
theorem take_folders (configFile : String) (found : Found) (folders : List String) (text : String × String) :
    take configFile { found with folders } text =
      (take configFile found text).map fun found => { found with folders } := by
  rw [take, take]
  split
  · cases TemplateConfig.ofNamedText configFile text.2 <;> rfl
  · rfl

/-- Taking up a text leaves what is still to be read. -/
theorem folders_of_take {configFile : String} {found next : Found} {text : String × String}
    (h : take configFile found text = .ok next) : next.folders = found.folders := by
  have hsame := take_folders configFile found found.folders text
  rw [h] at hsame
  have hnext : next = { next with folders := found.folders } := Except.ok.inj hsame
  have hfolders := congrArg Found.folders hnext
  exact hfolders

/-- What is still to be read does not matter for what is taken up of several texts. -/
theorem foldlM_take_folders (configFile : String) (found : Found) (folders : List String)
    (texts : List (String × String)) :
    texts.foldlM (take configFile) { found with folders } =
      (texts.foldlM (take configFile) found).map fun found => { found with folders } := by
  induction texts generalizing found with
  | nil => rfl
  | cons text rest ih =>
    rw [List.foldlM_cons, List.foldlM_cons, take_folders]
    cases take configFile found text with
    | error cause => rfl
    | ok next => exact ih next

/-- All texts are taken up unless one of them is a form that is refused. -/
theorem foldlM_take_eq (configFile : String) (found : Found) {texts : List (String × String)}
    (hnames : (texts.map Prod.fst).Nodup) :
    texts.foldlM (take configFile) found =
      let config := match texts.lookup configFile with
        | none => Except.ok found.config
        | some text => (TemplateConfig.ofNamedText configFile text).map some
      let files := (texts.filter fun text => text.1 ≠ configFile).foldl
        (fun (files : FileSet) text => files.insert text.1 text.2) found.files
      config.map fun config => { found with config, files } := by
  induction texts generalizing found with
  | nil => rfl
  | cons text rest ih =>
    obtain ⟨hfirst, hrest⟩ := List.nodup_cons.mp hnames
    rw [List.foldlM_cons, take, NameMap.lookup_entry, List.filter_cons]
    by_cases hconfig : text.1 = configFile
    · have hnone : rest.lookup configFile = none := by
        refine List.lookup_eq_none_iff.mpr fun other hother => bne_iff_ne.mpr fun heq => hfirst ?_
        rw [hconfig, heq]
        exact List.mem_map_of_mem hother
      rw [if_pos hconfig, if_pos hconfig.symm, if_neg (by simpa using hconfig)]
      dsimp only
      cases TemplateConfig.ofNamedText configFile text.2 with
      | error cause => rfl
      | ok config =>
        have h := ih { found with config := some config } hrest
        rw [hnone] at h
        exact h
    · rw [if_neg hconfig, if_neg (Ne.symm hconfig), if_pos (by simpa using hconfig)]
      exact ih { found with files := found.files.insert text.1 text.2 } hrest

/-! ## Reading a folder -/

/-- The texts of the files among the entries of a folder, by their paths as seen from the template. -/
def textsIn (base : List String) (entries : List (String × Node)) : List (String × String) :=
  entries.flatMap fun entry =>
    if IsHidden entry.1 then [] else entry.2.text?.toList.map (ofNames (base ++ [entry.1]), ·)

/-- The folders among the entries of a folder, with their locations as seen from the template. -/
def foldersIn (base : List String) (entries : List (String × Node)) : List (List String × List (String × Node)) :=
  entries.flatMap fun entry =>
    if IsHidden entry.1 then []
    else
      match entry.2 with
      | .folder inner => [(base ++ [entry.1], inner)]
      | _ => []

/-- What is below a folder has the path as seen from there. -/
theorem relativeTo_ofNames {location names : List String} (hlocation : ∀ name ∈ location, IsName name)
    (hnames : ∀ name ∈ names, IsName name) (hne : names ≠ []) :
    relativeTo (ofNames location) (ofNames (location ++ names)) = ofNames names := by
  rw [relativeTo]
  split
  · next hempty => rw [(Path.ofNames_eq_empty_iff hlocation).mp hempty, List.nil_append]
  · next hempty =>
    have hlocation' : location ≠ [] := mt (Path.ofNames_eq_empty_iff hlocation).mpr hempty
    have hafter : Text.afterStart? (ofNames location).toList (ofNames (location ++ names)).toList =
        some ('/' :: (ofNames names).toList) := by
      rw [Text.afterStart?_eq_some_iff, Path.ofNames_append hlocation' hne]
      simp
    have hstart : (ofNames names).toList.dropWhile (· == '/') = (ofNames names).toList := by
      have hrelative := of_decide_eq_false (Path.isAbsolute_ofNames hnames)
      cases hcs : (ofNames names).toList with
      | nil => rfl
      | cons c cs =>
        rw [hcs] at hrelative
        exact List.dropWhile_cons_of_neg (by simpa using hrelative)
    rw [hafter]
    dsimp only
    rw [List.dropWhile_cons_of_pos (by simp), hstart, String.ofList_toList]

section

variable {contents : RepositoryContents m} {place : Place}

/-- A hidden entry is passed over. -/
theorem readEntries_hidden (found : Found) {entry : FolderEntry} (entries : List FolderEntry)
    (hhidden : IsHidden entry.name) :
    readEntries contents place found (entry :: entries) = readEntries contents place found entries := by
  rw [readEntries, if_pos hhidden]

/-- A folder is put before those that are still to be read. -/
theorem readEntries_folder (found : Found) {entry : FolderEntry} (entries : List FolderEntry)
    (hvisible : ¬IsHidden entry.name) (hkind : entry.kind = "dir") :
    readEntries contents place found (entry :: entries) =
      readEntries contents place { found with folders := entry.path :: found.folders } entries := by
  rw [readEntries, if_neg hvisible, if_pos hkind]

variable [LawfulMonad m]

/-- A file is taken up if it is a text. -/
theorem readEntries_file (found : Found) {entry : FolderEntry} (entries : List FolderEntry)
    (hvisible : ¬IsHidden entry.name) (hkind : entry.kind = "file") {bytes : List UInt8}
    (hbytes : contents.file place.repository.owner place.repository.name entry.path place.branch =
      pure (.ok bytes)) :
    readEntries contents place found (entry :: entries) =
      match Text.Utf8.decodeText? bytes with
      | none => readEntries contents place found entries
      | some text =>
        match take place.configFile found (relativeTo place.folder entry.path, text) with
        | .error cause => pure (.error cause)
        | .ok found => readEntries contents place found entries := by
  rw [readEntries, if_neg hvisible, if_neg (by rw [hkind]; decide), if_pos hkind, hbytes, pure_bind]
  dsimp only
  cases Text.Utf8.decodeText? bytes with
  | none => rfl
  | some text =>
    dsimp only [take]
    split
    · cases TemplateConfig.ofNamedText place.configFile text <;> rfl
    · rfl

variable {tree : Node} {location : List String}

/-- Reading a listing takes up the texts in it and puts its folders before those that are still to be read. -/
theorem readEntries_eq (hserves : contents.Serves place.repository place.branch tree)
    (hplace : place.folder = ofNames location) (hlocation : ∀ name ∈ location, IsName name) {base : List String}
    (hbase : ∀ name ∈ base, IsName name) (found : Found) {entries : List (String × Node)}
    (hentries : ∀ entry ∈ entries, IsName entry.1 ∧ entry.2.Regular ∧
      tree.at? (location ++ base ++ [entry.1]) = some entry.2) :
    readEntries contents place found (entries.map (FolderEntry.ofNode (location ++ base))) =
      pure ((textsIn base entries).foldlM (take place.configFile)
        { found with
          folders := ((foldersIn base entries).map fun folder => ofNames (location ++ folder.1)).reverse ++
            found.folders }) := by
  induction entries generalizing found with
  | nil => rfl
  | cons entry rest ih =>
    obtain ⟨name, node⟩ := entry
    obtain ⟨hname, hnode, hat⟩ := hentries _ List.mem_cons_self
    have hrest := fun found => ih found fun entry hentry => hentries entry (List.mem_cons_of_mem _ hentry)
    rw [List.map_cons, textsIn, foldersIn, List.flatMap_cons, List.flatMap_cons, ← textsIn, ← foldersIn]
    by_cases hhidden : IsHidden name
    · rw [readEntries_hidden found _ hhidden, hrest, if_pos hhidden, if_pos hhidden]
      rfl
    · rw [if_neg hhidden, if_neg hhidden]
      cases hnode with
      | folder inner =>
        rw [readEntries_folder found _ hhidden rfl, hrest]
        simp [FolderEntry.ofNode, Node.text?]
      | file bytes =>
        have hpath : relativeTo place.folder (ofNames (location ++ base ++ [name])) = ofNames (base ++ [name]) := by
          rw [hplace, List.append_assoc]
          exact relativeTo_ofNames hlocation (by simpa [or_imp, forall_and] using ⟨hbase, hname⟩) (by simp)
        rw [readEntries_file found _ hhidden rfl (hserves.file _ _ hat), FolderEntry.ofNode, hpath]
        cases htext : Text.Utf8.decodeText? bytes with
        | none => simp [hrest, Node.text?, htext]
        | some text =>
          simp only [Node.text?, htext, Option.toList_some, List.map_singleton, List.singleton_append,
            List.nil_append, List.foldlM_cons, take_folders]
          cases htake : take place.configFile found (ofNames (base ++ [name]), text) with
          | error cause => rfl
          | ok next =>
            dsimp only
            rw [hrest, folders_of_take htake]
            rfl

/-! ## Reading all folders -/

/-- The texts below a folder, by their paths as seen from the template. -/
def textsBelow (folder : List String × List (String × Node)) : List (String × String) :=
  (Node.folder folder.2).texts.map fun text => (ofNames (folder.1 ++ text.1), text.2)

/-- The order of a folder's entries does not matter for the texts below it. -/
theorem textsBelow_congr (base : List String) {items entries : List (String × Node)} (hperm : items.Perm entries) :
    (textsBelow (base, items)).Perm (textsBelow (base, entries)) := by
  rw [textsBelow, textsBelow, Node.texts_folder, Node.texts_folder]
  exact (hperm.flatMap_right _).map _

/-- The number of folders from a folder on. -/
def folderCount (folder : List String × List (String × Node)) : Nat := (Node.folder folder.2).folders.length

/-- The texts below a folder are those in it and those below its folders. -/
theorem textsBelow_perm (base : List String) {entries : List (String × Node)}
    (hentries : ∀ entry ∈ entries, entry.2.Regular) :
    (textsBelow (base, entries)).Perm (textsIn base entries ++ (foldersIn base entries).flatMap textsBelow) := by
  rw [textsBelow, Node.texts_folder, List.map_flatMap]
  induction entries with
  | nil => exact List.Perm.nil
  | cons entry rest ih =>
    obtain ⟨name, node⟩ := entry
    have hrest := ih fun entry hentry => hentries entry (List.mem_cons_of_mem _ hentry)
    rw [textsIn, foldersIn, List.flatMap_cons, List.flatMap_cons, List.flatMap_cons, ← textsIn, ← foldersIn]
    by_cases hhidden : IsHidden name
    · rw [if_pos hhidden, if_pos hhidden, if_pos hhidden]
      exact hrest
    · rw [if_neg hhidden, if_neg hhidden, if_neg hhidden]
      cases hentries _ List.mem_cons_self with
      | folder inner =>
        have hbelow : List.map (fun text => (ofNames (base ++ text.1), text.2))
            ((Node.folder inner).texts.map fun text => (name :: text.1, text.2)) =
              textsBelow (base ++ [name], inner) := by
          rw [textsBelow, List.map_map]
          simp only [List.append_assoc, List.singleton_append, Function.comp_def]
        rw [hbelow]
        exact (hrest.append_left _).trans (List.perm_append_comm_assoc _ _ _)
      | file bytes =>
        rw [Node.texts_file]
        cases htext : Text.Utf8.decodeText? bytes with
        | none => simpa [Node.text?, htext] using hrest
        | some text => simpa [Node.text?, htext] using hrest

/-- The folders from a folder on are the folder itself and those from its entries on. -/
theorem folderCount_eq (base : List String) (entries : List (String × Node)) :
    folderCount (base, entries) = (entries.map fun entry => entry.2.folders.length).sum + 1 := by
  rw [folderCount, Node.folders, List.length_cons]
  induction entries with
  | nil => rfl
  | cons entry rest ih =>
    rw [Node.entryFolders, List.length_append, List.length_map, Nat.add_assoc, ih, List.map_cons, List.sum_cons,
      Nat.add_assoc]

/-- The folders in a folder are fewer than those from it on. -/
theorem sum_folderCount_lt (base : List String) (entries : List (String × Node)) :
    ((foldersIn base entries).map folderCount).sum < folderCount (base, entries) := by
  rw [folderCount_eq, Nat.lt_succ_iff]
  induction entries with
  | nil => exact Nat.zero_le _
  | cons entry rest ih =>
    obtain ⟨name, node⟩ := entry
    rw [foldersIn, List.flatMap_cons, ← foldersIn, List.map_append, List.sum_append, List.map_cons, List.sum_cons]
    refine Nat.add_le_add ?_ ih
    split
    · exact Nat.zero_le _
    · cases node with
      | folder inner => simp [folderCount]
      | file bytes => exact Nat.zero_le _
      | archive contents => exact Nat.zero_le _

/-- What stands in a folder of a regular tree, each entry with its name and its place. -/
theorem entries_of_regular (htree : tree.Regular) {entries : List (String × Node)}
    (hat : tree.at? location = some (.folder entries)) :
    ∀ entry ∈ entries, IsName entry.1 ∧ entry.2.Regular ∧ tree.at? (location ++ [entry.1]) = some entry.2 := by
  obtain ⟨-, hregular⟩ := htree.at? hat
  cases hregular with
  | folder _ names distinct inner =>
    rintro ⟨name, node⟩ hentry
    refine ⟨names _ hentry, inner _ hentry, ?_⟩
    rw [Node.at?_append, hat, Option.bind_some, Node.at?, Node.child?, Node.entries,
      (NameMap.lookup_eq_some_iff_mem distinct).mpr hentry]
    rfl

/-- The folders in a folder are where they are seen from the template. -/
theorem at?_of_mem_foldersIn {base : List String} {entries : List (String × Node)}
    (hentries : ∀ entry ∈ entries, tree.at? (location ++ base ++ [entry.1]) = some entry.2)
    {folder : List String × List (String × Node)} (hfolder : folder ∈ foldersIn base entries) :
    tree.at? (location ++ folder.1) = some (.folder folder.2) := by
  obtain ⟨⟨name, node⟩, hentry, hmem⟩ := List.mem_flatMap.mp hfolder
  split at hmem
  · cases hmem
  · cases node with
    | folder inner =>
      rw [List.mem_singleton.mp hmem, ← List.append_assoc]
      exact hentries _ hentry
    | file bytes => cases hmem
    | archive contents => cases hmem

/-- The folders that are left once a folder has been listed: those in it, then those that were pending. -/
def leftAfter (base : List String) (items : List (String × Node))
    (pending : List (List String × List (String × Node))) : List (List String × List (String × Node)) :=
  (foldersIn base items).reverse ++ pending

section

variable (base : List String) {items entries : List (String × Node)} (hperm : items.Perm entries)
  (pending : List (List String × List (String × Node)))

include hperm

/-- From the folders that are left on there are fewer folders than before. -/
theorem sum_folderCount_leftAfter_lt :
    ((leftAfter base items pending).map folderCount).sum < (((base, entries) :: pending).map folderCount).sum := by
  have hcount : folderCount (base, items) = folderCount (base, entries) := by
    rw [folderCount_eq, folderCount_eq, (hperm.map _).sum_nat]
  have hlt := sum_folderCount_lt base items
  rw [leftAfter, List.map_append, List.map_reverse, List.sum_append, List.sum_reverse, List.map_cons, List.sum_cons]
  omega

/-- The texts in a folder and those below the folders that are left are the texts that were below before. -/
theorem textsIn_leftAfter_perm (hitems : ∀ item ∈ items, item.2.Regular) :
    (textsIn base items ++ (leftAfter base items pending).flatMap textsBelow).Perm
      (((base, entries) :: pending).flatMap textsBelow) := by
  have hinner := ((List.reverse_perm (foldersIn base items)).flatMap_right textsBelow).append_left
    (textsIn base items)
  have hfolder := (textsBelow_perm base hitems).symm.trans (textsBelow_congr base hperm)
  rw [leftAfter, List.flatMap_append, ← List.append_assoc, List.flatMap_cons]
  exact (hinner.trans hfolder).append_right _

end

/-- The folders that are left are where they are seen from the template. -/
theorem at?_of_mem_leftAfter {base : List String} {items : List (String × Node)}
    {pending : List (List String × List (String × Node))}
    (hitems : ∀ item ∈ items, tree.at? (location ++ base ++ [item.1]) = some item.2)
    (hpending : ∀ folder ∈ pending, tree.at? (location ++ folder.1) = some (.folder folder.2)) :
    ∀ folder ∈ leftAfter base items pending, tree.at? (location ++ folder.1) = some (.folder folder.2) := by
  intro folder hfolder
  rcases List.mem_append.mp hfolder with hnew | hold
  · exact at?_of_mem_foldersIn hitems (List.mem_reverse.mp hnew)
  · exact hpending folder hold

/-- The paths of folders as a repository has them. -/
def pathsOf (location : List String) (folders : List (List String × List (String × Node))) : List String :=
  folders.map fun folder => ofNames (location ++ folder.1)

/-- A folder that is listed is traded for the folders in it, and its texts are taken up. -/
theorem readFolders_cons (hserves : contents.Serves place.repository place.branch tree)
    (hplace : place.folder = ofNames location) (fuel : Nat) (found : Found) {base : List String}
    {items : List (String × Node)} (pending : List (List String × List (String × Node)))
    (hnames : ∀ name ∈ location ++ base, IsName name)
    (hitems : ∀ item ∈ items, IsName item.1 ∧ item.2.Regular ∧ tree.at? (location ++ base ++ [item.1]) = some item.2)
    (hlisting : contents.folder place.repository.owner place.repository.name (ofNames (location ++ base)) place.branch =
      pure (.ok (items.map (FolderEntry.ofNode (location ++ base))))) :
    readFolders contents place (fuel + 1)
        { found with folders := ofNames (location ++ base) :: pathsOf location pending } =
      match (textsIn base items).foldlM (take place.configFile) found with
      | .error cause => pure (.error cause)
      | .ok next =>
        readFolders contents place fuel { next with folders := pathsOf location (leftAfter base items pending) } := by
  have hread := readEntries_eq hserves hplace (fun name hname => hnames name (List.mem_append_left _ hname))
    (fun name hname => hnames name (List.mem_append_right _ hname))
    { found with folders := pathsOf location pending } hitems
  have hpaths : ((foldersIn base items).map fun folder => ofNames (location ++ folder.1)).reverse ++
      pathsOf location pending = pathsOf location (leftAfter base items pending) := by
    rw [pathsOf, pathsOf, leftAfter, List.map_append, List.map_reverse]
  rw [readFolders]
  dsimp only
  rw [hlisting, pure_bind]
  dsimp only
  rw [hread, pure_bind, hpaths, foldlM_take_folders place.configFile found]
  cases (textsIn base items).foldlM (take place.configFile) found <;> rfl

/-- Folders are read until none is left, and every text below them is taken up once, in some order. -/
theorem exists_readFolders (htree : tree.Regular) (hserves : contents.Serves place.repository place.branch tree)
    (hplace : place.folder = ofNames location) (fuel : Nat) (found : Found)
    (pending : List (List String × List (String × Node)))
    (hpending : ∀ folder ∈ pending, tree.at? (location ++ folder.1) = some (.folder folder.2))
    (hfuel : (pending.map folderCount).sum < fuel) :
    ∃ texts : List (String × String), texts.Perm (pending.flatMap textsBelow) ∧
      readFolders contents place fuel { found with folders := pathsOf location pending } =
        pure (texts.foldlM (take place.configFile) { found with folders := [] }) := by
  induction fuel generalizing found pending with
  | zero => exact absurd hfuel (Nat.not_lt_zero _)
  | succ fuel ih =>
    cases pending with
    | nil => exact ⟨[], List.Perm.nil, rfl⟩
    | cons folder pending =>
      obtain ⟨base, entries⟩ := folder
      have hat : tree.at? (location ++ base) = some (.folder entries) := hpending _ List.mem_cons_self
      obtain ⟨items, hperm, hlisting⟩ := hserves.folder _ _ hat
      have hitems := fun item hitem => entries_of_regular htree hat item (hperm.mem_iff.mp hitem)
      have hstep := readFolders_cons hserves hplace fuel found pending (htree.at? hat).1 hitems hlisting
      -- The texts still to be taken up are those below the folders that are left.
      have htexts := textsIn_leftAfter_perm base hperm pending fun item hitem => (hitems item hitem).2.1
      have hclear := foldlM_take_folders place.configFile found [] (textsIn base items)
      cases htake : (textsIn base items).foldlM (take place.configFile) found with
      | error cause =>
        rw [htake] at hstep hclear
        refine ⟨_, htexts, hstep.trans ?_⟩
        rw [List.foldlM_append, hclear]
        rfl
      | ok next =>
        rw [htake] at hstep hclear
        have hleft := at?_of_mem_leftAfter (fun item hitem => (hitems item hitem).2.2)
          fun folder hfolder => hpending folder (List.mem_cons_of_mem _ hfolder)
        have hless := sum_folderCount_leftAfter_lt base hperm pending
        obtain ⟨texts, hrest, heq⟩ := ih next _ hleft (Nat.lt_of_lt_of_le hless (Nat.le_of_lt_succ hfuel))
        refine ⟨_, (hrest.append_left _).trans htexts, (hstep.trans heq).trans ?_⟩
        rw [List.foldlM_append, hclear]
        rfl

/-- A repository gives the sources of a folder without the text that has the path of the form, and the form that
is this text. -/
theorem fetch_eq {repository : RepositoryName} {descriptor : Descriptor} {configFile : String} {limit : Nat}
    {entries : List (String × Node)} (htree : tree.Regular) (hat : tree.at? location = some (.folder entries))
    (hrepository : descriptor.repository? = some repository)
    (hfolder : trimSlashes descriptor.folder = ofNames location)
    (hserves : contents.Serves repository descriptor.branch tree)
    (hlimit : (Node.folder entries).folders.length < limit) :
    fetch contents configFile limit descriptor =
      pure (match (Node.folder entries).sources.get? configFile with
        | none => .error (.notFound
          (configFile ++ " in " ++ repository.owner ++ "/" ++ repository.name ++ "/" ++ ofNames location))
        | some text => (TemplateConfig.ofNamedText configFile text).map
          (⟨·, (Node.folder entries).sources.erase configFile⟩)) := by
  have htop : ∀ folder ∈ [(([] : List String), entries)],
      tree.at? (location ++ folder.1) = some (.folder folder.2) := by
    intro folder hmem
    rw [List.mem_singleton.mp hmem, List.append_nil]
    exact hat
  let place : Place := ⟨repository, ofNames location, descriptor.branch, configFile⟩
  have hplace : place.folder = ofNames location := rfl
  obtain ⟨texts, hperm, hread⟩ := exists_readFolders htree hserves hplace limit ⟨none, ∅, []⟩ [([], entries)] htop
    (by simpa [folderCount] using hlimit)
  have hpaths := Node.nodup_paths (htree.at? hat).2
  have hsources : texts.Perm ((Node.folder entries).texts.map fun text => (ofNames text.1, text.2)) := by
    rwa [List.flatMap_singleton] at hperm
  have hnames : (texts.map Prod.fst).Nodup := (hsources.map _).nodup_iff.mpr hpaths
  have hwhole : NameMap.ofList texts = (Node.folder entries).sources := NameMap.ofList_congr hpaths hsources
  have hform : texts.lookup configFile = (Node.folder entries).sources.get? configFile := by
    rw [← NameMap.get?_ofList hnames, hwhole]
  have hfiles : (texts.filter fun text => text.1 ≠ configFile).foldl
      (fun (files : FileSet) text => files.insert text.1 text.2) ∅ =
        (Node.folder entries).sources.erase configFile := by
    rw [← hwhole, ← NameMap.ofList_filter_ne hnames]
    rfl
  rw [foldlM_take_eq configFile _ hnames] at hread
  simp only [pathsOf, List.map_singleton, List.append_nil, hform, hfiles] at hread
  rw [fetch, hrepository]
  dsimp only
  rw [hfolder, hread, pure_bind]
  cases (Node.folder entries).sources.get? configFile with
  | none => rfl
  | some text =>
    dsimp only
    cases TemplateConfig.ofNamedText configFile text <;> rfl

end

end RemoteFolder

end SiteBuilder
