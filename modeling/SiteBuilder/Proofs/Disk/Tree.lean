import SiteBuilder.Proofs.Disk.Walk
import SiteBuilder.Proofs.NameMap

/-!
# Changes of a tree

Putting a node at a place changes what is found there and below. The folders on the way get another entry, and
everything beside the way stays as it is. As long as no folder is replaced, what could be walked through before still
can be.
-/

namespace SiteBuilder

namespace Node

variable {node inner : Node} {name : String} {location other : List String} {value : Option Node}

/-- An entry is found under the name that it was put under. -/
theorem lookup_setEntry_self (name : String) (node : Node) (entries : List (String × Node)) :
    (setEntry name (some node) entries).lookup name = some node := by
  induction entries with
  | nil => simp [setEntry]
  | cons entry entries ih =>
    rw [setEntry]
    split
    · simp
    · next hne => rw [NameMap.lookup_entry, if_neg (Ne.symm hne), ih]

/-- What is found under other names stays. -/
theorem lookup_setEntry_of_ne {key : String} (h : key ≠ name) (value : Option Node) (entries : List (String × Node)) :
    (setEntry name value entries).lookup key = entries.lookup key := by
  induction entries with
  | nil => cases value <;> simp [setEntry, NameMap.lookup_entry, h]
  | cons entry entries ih =>
    rw [setEntry]
    split
    · next heq =>
      rw [← heq] at h
      cases value <;> simp [NameMap.lookup_entry, ← heq, h]
    · rw [NameMap.lookup_entry, NameMap.lookup_entry, ih]

/-- The child under a name is found at the location of the name alone. -/
theorem at?_singleton (node : Node) (name : String) : node.at? [name] = node.child? name := by
  rw [at?]
  cases node.child? name <;> rfl

/-- Under a location of several names, a node is put in the child on the way. -/
theorem set_cons (hlocation : location ≠ []) (hinner : node.child? name = some inner) :
    node.set value (name :: location) = .folder (setEntry name (some (inner.set value location)) node.entries) := by
  rw [set, hinner]
  exact hlocation

/-- Without the child on the way nothing is put. -/
theorem set_cons_of_none (hlocation : location ≠ []) (hnone : node.child? name = none) :
    node.set value (name :: location) = node := by
  rw [set, hnone]
  exact hlocation

/-- A node on the way is one in which the rest of the way was gone. -/
theorem at?_set_front {front rest : List String} (hinner : node.at? front = some inner) (hrest : rest ≠ [])
    (value : Option Node) : (node.set value (front ++ rest)).at? front = some (inner.set value rest) := by
  induction front generalizing node with
  | nil => exact congrArg (fun found => found.map (·.set value rest)) hinner
  | cons name front ih =>
    obtain ⟨child, hchild, hat⟩ := Option.bind_eq_some_iff.mp hinner
    rw [List.cons_append, set_cons (List.append_ne_nil_of_right_ne_nil _ hrest) hchild, at?, child?, entries,
      lookup_setEntry_self]
    exact ih hat

/-- What lies beside the way stays. -/
theorem at?_set_apart (hother : ¬other <+: location) (hlocation : ¬location <+: other) (value : Option Node) :
    (node.set value location).at? other = node.at? other := by
  induction location generalizing node other with
  | nil => exact absurd List.nil_prefix hlocation
  | cons name location ih =>
    cases other with
    | nil => exact absurd List.nil_prefix hother
    | cons key other =>
      by_cases hkey : key = name
      · subst hkey
        rw [List.prefix_cons_inj] at hother hlocation
        have hne : location ≠ [] := fun hnil => hlocation (hnil ▸ List.nil_prefix)
        cases hchild : node.child? key with
        | none => rw [set_cons_of_none hne hchild]
        | some inner =>
          rw [set_cons hne hchild, at?, at?, hchild, child?, entries, lookup_setEntry_self]
          exact ih hother hlocation
      · have hfolder (entry : Option Node) : (Node.folder (setEntry name entry node.entries)).at? (key :: other) =
            node.at? (key :: other) := by
          rw [at?, at?, child?, child?, entries, lookup_setEntry_of_ne hkey]
        cases location with
        | nil => exact hfolder value
        | cons next location =>
          cases hchild : node.child? name with
          | none => rw [set_cons_of_none (List.cons_ne_nil _ _) hchild]
          | some inner =>
            rw [set_cons (List.cons_ne_nil _ _) hchild]
            exact hfolder _

/-- A folder stays a folder when something is put below it. -/
theorem isFolder_set (h : node.isFolder = true) (value : Option Node) (location : List String) :
    (node.set value location).isFolder = true := by
  unfold set
  split
  · exact h
  · rfl
  · split
    · rfl
    · exact h

/-- Below what is no folder there is nothing. -/
theorem at?_cons_of_not_isFolder (h : node.isFolder = false) (name : String) (location : List String) :
    node.at? (name :: location) = none := by
  cases node with
  | folder entries => cases h
  | file bytes => rfl
  | archive contents => rfl

end Node

namespace Disk

variable {disk after later : Disk} {place : Place} {entries : List (String × Node)}

/-- A folder in which something is put has the entry for it. -/
theorem at?_put_folder (hfolder : disk.root.at? place.folder = some (.folder entries)) (node : Option Node) :
    (disk.put place node).root.at? place.folder = some (.folder (Node.setEntry place.name node entries)) :=
  Node.at?_set_front hfolder (List.cons_ne_nil _ _) node

/-- There is a folder at a location. -/
def FolderAt (disk : Disk) (location : List String) : Prop :=
  ∃ node, disk.root.at? location = some node ∧ node.isFolder = true

/-- The folders of a disk are folders after something happened to it, too. -/
structure FoldersStay (disk after : Disk) : Prop where
  working : after.working = disk.working
  folders : ∀ location, disk.FolderAt location → after.FolderAt location

/-- Folders stay while nothing happens. -/
theorem FoldersStay.refl (disk : Disk) : disk.FoldersStay disk := ⟨rfl, fun _ h => h⟩

/-- What stays twice stays. -/
theorem FoldersStay.trans (h : disk.FoldersStay after) (hlater : after.FoldersStay later) : disk.FoldersStay later :=
  ⟨hlater.working.trans h.working, fun location hfolder => hlater.folders location (h.folders location hfolder)⟩

/-- Folders stay when something is put where no folder is. -/
theorem foldersStay_put (hplace : (disk.at? place).any Node.isFolder = false) (node : Option Node) :
    disk.FoldersStay (disk.put place node) := by
  refine ⟨rfl, fun location h => ?_⟩
  obtain ⟨found, hfound, hisFolder⟩ := h
  by_cases hway : location <+: place.folder ++ [place.name]
  · obtain ⟨rest, hrest⟩ := hway
    have hne : rest ≠ [] := by
      rintro rfl
      rw [at?, ← hrest, List.append_nil, hfound] at hplace
      exact absurd hisFolder (by simpa using hplace)
    refine ⟨found.set node rest, ?_, Node.isFolder_set hisFolder node rest⟩
    rw [put, ← hrest, Node.at?_set_front hfound hne]
  · by_cases hbelow : place.folder ++ [place.name] <+: location
    · -- Where something is put there was no folder, so there was nothing below.
      obtain ⟨rest, rfl⟩ := hbelow
      obtain ⟨inner, hinner, hrest⟩ := Option.bind_eq_some_iff.mp (Node.at?_append disk.root _ rest ▸ hfound)
      cases rest with
      | nil => exact absurd (by simp) hway
      | cons name rest =>
        rw [at?, hinner] at hplace
        rw [Node.at?_cons_of_not_isFolder (by simpa using hplace)] at hrest
        cases hrest
    · exact ⟨found, by rw [put, Node.at?_set_apart hway hbelow, hfound], hisFolder⟩

/-- A walk along two lists of pieces comes to the start of the second. -/
theorem walk_append_eq_ok_iff {location first rest final : List String} :
    disk.walk location (first ++ rest) = .ok final ↔
      ∃ middle, disk.walk location first = .ok middle ∧ disk.walk middle rest = .ok final := by
  rw [walk_append]
  cases disk.walk location first with
  | error cause => simp [Except.bind]
  | ok middle => simp [Except.bind]

/-- A walk to a folder starts at a folder. -/
theorem folderAt_of_walk {location pieces final : List String} (hwalk : disk.walk location pieces = .ok final)
    (hfinal : disk.FolderAt final) : disk.FolderAt location := by
  cases pieces with
  | nil =>
    cases hwalk
    exact hfinal
  | cons piece pieces =>
    rw [walk] at hwalk
    split at hwalk
    · cases hwalk
    · next node hnode =>
      split at hwalk
      · cases hwalk
      · next hisFolder => exact ⟨node, hnode, by simpa using hisFolder⟩

/-- A folder that could be reached can be reached as long as folders stay. -/
theorem FoldersStay.walk (h : disk.FoldersStay after) {location pieces final : List String}
    (hwalk : disk.walk location pieces = .ok final) (hfinal : disk.FolderAt final) :
    after.walk location pieces = .ok final := by
  induction pieces generalizing location with
  | nil =>
    cases hwalk
    rfl
  | cons piece pieces ih =>
    obtain ⟨node, hnode, hisFolder⟩ := folderAt_of_walk hwalk hfinal
    obtain ⟨node', hnode', hisFolder'⟩ := h.folders location ⟨node, hnode, hisFolder⟩
    rw [Disk.walk, hnode] at hwalk
    rw [Disk.walk, hnode']
    simp only [hisFolder, hisFolder', Bool.not_true, Bool.false_eq_true, ↓reduceIte] at hwalk ⊢
    split at hwalk
    · next hblank => rw [if_pos hblank, ih hwalk]
    next hblank =>
    rw [if_neg hblank]
    split at hwalk
    · next hup => rw [if_pos hup, ih hwalk]
    next hup =>
    rw [if_neg hup]
    split at hwalk
    · cases hwalk
    next hlong =>
    rw [if_neg hlong]
    split at hwalk
    · -- What has the name is a folder or the end of the walk, which is one.
      obtain ⟨inner, hinner, -⟩ := h.folders _ (folderAt_of_walk hwalk hfinal)
      rw [Node.at?_append, hnode', Option.bind_some, Node.at?_singleton] at hinner
      rw [hinner, Option.isSome_some, if_pos rfl, ih hwalk]
    · cases hwalk

/-! ## What an operation does if it succeeds -/

/-- The pieces of a path without what stands for the slashes at its end. -/
def namedPieces (path : String) : List String := ((Text.pieces '/' path).reverse.dropWhile (· == "")).reverse

/-- The place of a path is in the folder that the pieces before the last one lead to. -/
theorem place_of_walk {path : String} {location : List String} (hempty : path ≠ "")
    (hnul : Char.ofNat 0 ∉ path.toList)
    (hwalk : disk.walk (disk.startOf path) (namedPieces path).dropLast = .ok location)
    (hfolder : disk.FolderAt location) :
    disk.place path = .ok ⟨location, (namedPieces path).getLastD "",
      (namedPieces path).length < (Text.pieces '/' path).length⟩ := by
  obtain ⟨node, hnode, hisFolder⟩ := hfolder
  have hcontains : path.toList.contains (Char.ofNat 0) = false := by simpa using hnul
  rw [namedPieces] at hwalk ⊢
  simp only [Disk.place, bind, Except.bind, hempty, hcontains, hwalk, hnode, hisFolder, Bool.not_true,
    Bool.false_eq_true, ↓reduceIte, pure, Except.pure]

/-- A path that has a place leads to a folder with the pieces before the last one. -/
theorem walk_of_place {path : String} (h : disk.place path = .ok place) :
    path ≠ "" ∧ Char.ofNat 0 ∉ path.toList ∧
      disk.walk (disk.startOf path) (namedPieces path).dropLast = .ok place.folder ∧ disk.FolderAt place.folder ∧
      place.name = (namedPieces path).getLastD "" := by
  simp only [Disk.place, bind, Except.bind] at h
  split at h
  · cases h
  next hempty =>
  split at h
  · cases h
  next hnul =>
  split at h
  · cases h
  next location hwalk =>
  split at h
  · next node hnode =>
    split at h
    · cases h
    next hfolder =>
    cases h
    exact ⟨hempty, by simpa using hnul, hwalk, ⟨node, hnode, by simpa using hfolder⟩, rfl⟩
  · cases h

/-- A file is written where no folder is. -/
theorem put_of_write {path : String} {file : Node} (h : disk.write path file = .ok after) :
    ∃ place, disk.place path = .ok place ∧ isTooLong place.name = false ∧
      (disk.at? place).any Node.isFolder = false ∧ after = disk.put place (some file) := by
  simp only [write, bind, Except.bind] at h
  split at h
  · cases h
  next place hplace =>
  split at h
  · cases h
  split at h
  · cases h
  next hshort =>
  split at h
  · cases h
  next hfolder =>
  cases h
  exact ⟨place, hplace, by simpa using hshort, by simpa using hfolder, rfl⟩

/-- What is removed is no folder. -/
theorem put_of_remove {path : String} (h : disk.remove path = .ok after) :
    ∃ place, disk.place path = .ok place ∧ (disk.at? place).any Node.isFolder = false ∧
      after = disk.put place none := by
  simp only [remove, bind, Except.bind] at h
  split at h
  · cases h
  next place hplace =>
  refine ⟨place, hplace, ?_⟩
  split at h
  · cases h
  split at h
  · cases h
  · cases h
  next node hnode hat =>
  split at h
  · cases h
  cases h
  rw [hat]
  cases node with
  | folder entries => exact absurd rfl (hnode entries)
  | file bytes => exact ⟨rfl, rfl⟩
  | archive contents => exact ⟨rfl, rfl⟩

/-- A folder is made where nothing is. -/
theorem put_of_makeFolder {path : String} (h : disk.makeFolder path = .ok after) :
    ∃ place, disk.place path = .ok place ∧ place.isNameless = false ∧ disk.at? place = none ∧
      after = disk.put place (some (.folder [])) := by
  simp only [makeFolder, bind, Except.bind] at h
  split at h
  · cases h
  next place hplace =>
  split at h
  · cases h
  next hname =>
  split at h
  · cases h
  split at h
  · cases h
  next hat =>
  cases h
  exact ⟨place, hplace, by simpa using hname, by simpa using hat, rfl⟩

end Disk

end SiteBuilder
