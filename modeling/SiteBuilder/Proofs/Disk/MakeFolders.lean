import Mathlib.Data.List.TakeWhile
import SiteBuilder.Proofs.Disk.Folder

/-!
# Making folders

A folder that is there stays as it is. For a path that does not lead up, only the folder itself and those on the way
to it are made, all without entries, so no file is found that was not found before. A path that leads up through a
folder that is to be made may come to a folder with files: these are found only afterwards.
-/

namespace SiteBuilder

namespace Text

/-- No piece holds a slash. -/
theorem slash_notMem_of_mem_pieces {s piece : String} (h : piece ∈ pieces '/' s) : '/' ∉ piece.toList := by
  obtain ⟨cs, hcs, rfl⟩ := List.mem_map.mp h
  rw [String.toList_ofList]
  exact not_mem_of_mem_splitBy hcs

/-- Texts with slashes between them are cut into the pieces of all. -/
theorem pieces_intercalate {texts : List String} (hne : texts ≠ []) :
    pieces '/' ("/".intercalate texts) = texts.flatMap (pieces '/') := by
  induction texts with
  | nil => exact absurd rfl hne
  | cons text texts ih =>
    cases texts with
    | nil => simp
    | cons next texts =>
      rw [String.intercalate_cons_cons, pieces_append_slash, ih (List.cons_ne_nil _ _)]
      rfl

end Text

namespace Path

variable {path : String}

/-- The names among pieces that do not lead up. -/
def namesAmong (pieces : List String) : List String := pieces.filter fun piece => piece ≠ "" ∧ piece ≠ "."

/-- The names of two lists of pieces. -/
theorem namesAmong_append (pieces more : List String) :
    namesAmong (pieces ++ more) = namesAmong pieces ++ namesAmong more :=
  List.filter_append pieces more

/-- The part of a path that is no name, where the path does not lead up. -/
def leadOf (path : String) : List Part :=
  if isAbsolute path then [.root] else if (Text.pieces '/' path).head? = some "." then [.here] else []

/-- The parts of a path that does not lead up are its names behind the root or a dot, if it starts with one. -/
theorem parts_eq (hup : ".." ∉ Text.pieces '/' path) :
    parts path = leadOf path ++ (namesAmong (Text.pieces '/' path)).map .name := by
  have hnames (pieces : List String) (hpieces : ".." ∉ pieces) :
      pieces.filterMap partOf? = (namesAmong pieces).map .name := by
    induction pieces with
    | nil => rfl
    | cons piece pieces ih =>
      obtain ⟨hpiece, hrest⟩ := List.ne_and_not_mem_of_not_mem_cons hpieces
      by_cases hblank : piece = "" ∨ piece = "."
      · have hnone : partOf? piece = none := by rw [partOf?, if_pos hblank]
        have hskip : namesAmong (piece :: pieces) = namesAmong pieces := by
          rcases hblank with rfl | rfl <;> rfl
        rw [List.filterMap_cons_none hnone, hskip, ih hrest]
      · have hsome : partOf? piece = some (.name piece) := by rw [partOf?, if_neg hblank, if_neg hpiece.symm]
        have hkeep : namesAmong (piece :: pieces) = piece :: namesAmong pieces := by
          rw [namesAmong, List.filter_cons_of_pos (by simpa using hblank)]
          rfl
        rw [List.filterMap_cons_some hsome, hkeep, List.map_cons, ih hrest]
  rw [← hnames _ hup]
  rfl

/-- The first parts of a path that does not lead up are its first names behind the root or a dot. -/
theorem eq_of_prefix_parts (hup : ".." ∉ Text.pieces '/' path) {front : List Part} (hne : front ≠ [])
    (h : front <+: parts path) :
    ∃ names, names <+: namesAmong (Text.pieces '/' path) ∧ front = leadOf path ++ names.map .name := by
  have hlead : (leadOf path).length ≤ 1 := by
    unfold leadOf
    repeat' split
    all_goals simp
  have hlength : 0 < front.length := List.length_pos_iff.mpr hne
  rw [parts_eq hup, List.prefix_iff_eq_take, List.take_append, List.take_of_length_le (by omega), ← List.map_take] at h
  exact ⟨_, List.take_prefix _ _, h⟩

/-- The first character of texts with slashes between them is that of the first text. -/
theorem head?_intercalate {text : String} (hne : text ≠ "") (texts : List String) :
    ("/".intercalate (text :: texts)).toList.head? = text.toList.head? := by
  have hchars : text.toList ≠ [] := by simpa using hne
  cases texts with
  | nil => rw [String.intercalate_singleton]
  | cons next texts =>
    rw [String.intercalate_cons_cons, String.toList_append, String.toList_append, List.append_assoc,
      List.head?_append_of_ne_nil _ hchars]

/-- The root or a dot at the start of a path, put together with names of it, is a path with these names. -/
theorem pieces_ofParts {names : List String} (hnames : names ⊆ Text.pieces '/' path)
    (hne : leadOf path ++ names.map .name ≠ []) :
    ∃ blanks, Text.pieces '/' (ofParts (leadOf path ++ names.map .name)) = blanks ++ names ∧
      namesAmong blanks = [] ∧ ".." ∉ blanks := by
  have hsingle : (names.flatMap (Text.pieces '/')) = names := by
    have heach : ∀ name ∈ names, Text.pieces '/' name = [name] := fun name hname =>
      Text.pieces_of_slash_notMem (Text.slash_notMem_of_mem_pieces (hnames hname))
    rw [List.flatMap_congr heach, List.flatMap_singleton']
  have htexts : (leadOf path ++ names.map Part.name).map Part.text = (leadOf path).map Part.text ++ names := by
    rw [List.map_append, List.map_map]
    exact congrArg _ (List.map_id names)
  refine ⟨((leadOf path).map Part.text).flatMap (Text.pieces '/'), ?_, ?_⟩
  · rw [ofParts, Text.pieces_intercalate (by simpa using hne), htexts, List.flatMap_append, hsingle]
  · unfold leadOf
    repeat' split
    all_goals decide

/-- A path starts at the root if and only if its first parts do. -/
theorem isAbsolute_ofParts {names : List String} (hnames : names ⊆ namesAmong (Text.pieces '/' path))
    (hne : leadOf path ++ names.map .name ≠ []) :
    isAbsolute (ofParts (leadOf path ++ names.map .name)) = isAbsolute path := by
  by_cases habsolute : isAbsolute path = true
  · rw [leadOf, if_pos habsolute, habsolute, isAbsolute, ofParts, List.singleton_append, List.map_cons,
      head?_intercalate (by decide)]
    rfl
  · rw [leadOf, if_neg habsolute] at hne ⊢
    have hrelative : isAbsolute path = false := by simpa using habsolute
    rw [hrelative, isAbsolute, ofParts]
    split
    · rw [List.singleton_append, List.map_cons, head?_intercalate (by decide)]
      rfl
    · next hhere =>
      rw [if_neg hhere] at hne
      cases names with
      | nil => exact absurd rfl hne
      | cons name names =>
        obtain ⟨hmem, hblank⟩ := List.mem_filter.mp (hnames List.mem_cons_self)
        have hslash := isAbsolute_of_slash_notMem (Text.slash_notMem_of_mem_pieces hmem)
        have hempty : name ≠ "" := by
          rintro rfl
          simp at hblank
        rw [List.nil_append, List.map_cons, List.map_cons, Part.text, head?_intercalate hempty]
        exact hslash

end Path

namespace Disk

open SiteBuilder.Path (namesAmong namesAmong_append)

variable {disk after later : Disk} {path name : String} {location target pieces final : List String} {place : Place}

/-! ## A folder that is there -/

/-- Behind the named pieces of a path there are only pieces without characters. -/
theorem exists_blanks (path : String) :
    ∃ blanks, Text.pieces '/' path = namedPieces path ++ blanks ∧ ∀ blank ∈ blanks, blank = "" := by
  refine ⟨((Text.pieces '/' path).reverse.takeWhile (· == "")).reverse, ?_, fun blank hblank => ?_⟩
  · rw [namedPieces, ← List.reverse_append, List.takeWhile_append_dropWhile, List.reverse_reverse]
  · have hmem := List.mem_takeWhile_imp (List.mem_reverse.mp hblank)
    simpa using hmem

/-- What is found under a name in a folder is at the location of both. -/
theorem at?_concat {entries : List (String × Node)} (h : disk.root.at? location = some (.folder entries))
    (name : String) : disk.root.at? (location ++ [name]) = entries.lookup name := by
  rw [Node.at?_append, h, Option.bind_some, Node.at?_singleton]
  rfl

/-- What is below a location is found in the folder there. -/
theorem exists_of_at?_concat {node : Node} (h : disk.root.at? (location ++ [name]) = some node) :
    ∃ entries, disk.root.at? location = some (.folder entries) ∧ entries.lookup name = some node := by
  rw [Node.at?_append] at h
  obtain ⟨inner, hinner, hchild⟩ := Option.bind_eq_some_iff.mp h
  rw [Node.at?_singleton] at hchild
  cases inner with
  | folder entries => exact ⟨entries, hinner, hchild⟩
  | file bytes => cases hchild
  | archive contents => cases hchild

/-- A folder that is there is not made. -/
theorem makeFolder_of_isFolder (h : disk.isFolder path = true) : disk.makeFolder path = .error .exists_ := by
  rw [isFolder] at h
  cases hfind : disk.find path with
  | error cause =>
    rw [hfind] at h
    cases h
  | ok node =>
    rw [hfind] at h
    obtain ⟨location, hlocate, hnode⟩ := find_eq_ok_iff.mp hfind
    obtain ⟨hempty, hnul, hwalk⟩ := locate_eq_ok_iff.mp hlocate
    have hfolder : disk.FolderAt location := ⟨node, hnode, h⟩
    obtain ⟨blanks, hpieces, -⟩ := exists_blanks path
    rw [hpieces] at hwalk
    rcases List.eq_nil_or_concat (namedPieces path) with hnamed | ⟨front, name, hnamed⟩
    · have hplace := place_of_walk hempty hnul (by rw [hnamed]; rfl) (folderAt_of_walk hwalk hfolder)
      simp [makeFolder, hplace, hnamed, Place.isNameless, bind, Except.bind]
    · rw [List.concat_eq_append] at hnamed
      rw [hnamed, List.append_assoc] at hwalk
      obtain ⟨middle, hfront, hrest⟩ := walk_append_eq_ok_iff.mp hwalk
      obtain ⟨_, hname, -⟩ := walk_append_eq_ok_iff.mp hrest
      have hplace := place_of_walk hempty hnul (by rw [hnamed, List.dropLast_concat]; exact hfront)
        (folderAt_of_walk hrest hfolder)
      rw [hnamed, List.getLastD_concat] at hplace
      by_cases hnameless : name = "." ∨ name = ".." ∨ name = ""
      · simp [makeFolder, hplace, Place.isNameless, or_assoc, hnameless, bind, Except.bind]
      · -- The walk went through what has the name, so there is something already.
        obtain ⟨hhere, hup, hblank⟩ : name ≠ "." ∧ name ≠ ".." ∧ name ≠ "" := by simpa only [not_or] using hnameless
        obtain ⟨hshort, -, entries, found, hentries, hlookup⟩ := (walk_name_eq_ok_iff hblank hhere hup).mp hname
        have hat : disk.root.at? (middle ++ [name]) = some found := (at?_concat hentries name).trans hlookup
        simp [makeFolder, hplace, Place.isNameless, hhere, hup, hblank, hshort, at?, hat, bind, Except.bind]

/-- Folders that are there are not made. -/
theorem makeFolders_of_isFolder (h : disk.isFolder path = true) : disk.makeFolders path = .ok disk := by
  rw [makeFolders]
  cases (Path.parts path).reverse with
  | nil => rfl
  | cons part before => simp [makeFoldersAt, makeFolder_of_isFolder h, h]

/-! ## Paths that do not lead up -/

/-- Only folders are above something. -/
theorem folderAt_of_append {rest : List String} (h : disk.FolderAt (location ++ rest)) : disk.FolderAt location := by
  obtain ⟨node, hnode, hisFolder⟩ := h
  rw [Node.at?_append] at hnode
  obtain ⟨inner, hinner, hrest⟩ := Option.bind_eq_some_iff.mp hnode
  refine ⟨inner, hinner, ?_⟩
  cases rest with
  | nil =>
    cases hrest
    exact hisFolder
  | cons name rest =>
    cases hfile : inner.isFolder with
    | true => rfl
    | false =>
      rw [Node.at?_cons_of_not_isFolder hfile] at hrest
      cases hrest

/-- A piece that does not lead up is followed by its name, if it has one. -/
theorem walk_cons_of_ne_up {piece : String} (hup : piece ≠ "..") :
    disk.walk location (piece :: pieces) = .ok final ↔ disk.FolderAt location ∧
      disk.walk (location ++ namesAmong [piece]) pieces = .ok final ∧
        (piece = "" ∨ piece = "." ∨
          (isTooLong piece = false ∧ (disk.root.at? (location ++ [piece])).isSome = true)) := by
  rw [walk, FolderAt]
  cases hnode : disk.root.at? location with
  | none => simp
  | some node =>
    by_cases hfolder : node.isFolder = true
    · by_cases hblank : piece = "" ∨ piece = "."
      · have hnames : namesAmong [piece] = [] := by
          rcases hblank with rfl | rfl <;> rfl
        have hends : piece = "" ∨ piece = "." ∨
            (isTooLong piece = false ∧ (disk.root.at? (location ++ [piece])).isSome = true) :=
          hblank.imp_right Or.inl
        simp [hfolder, hblank, hnames, hends]
      · obtain ⟨hempty, hhere⟩ := not_or.mp hblank
        have hnames : namesAmong [piece] = [piece] := by simp [namesAmong, hempty, hhere]
        rw [Node.at?_append, hnode, Option.bind_some, Node.at?_singleton, hnames]
        cases isTooLong piece with
        | true => simp [hfolder, hempty, hhere, hup]
        | false =>
          cases hchild : node.child? piece <;> simp [hfolder, hempty, hhere, hup, hchild]
    · simp [hfolder]

/-- A walk that does not lead up comes to the location of its names. -/
theorem eq_of_walk (hup : ".." ∉ pieces) (h : disk.walk location pieces = .ok final) :
    final = location ++ namesAmong pieces := by
  induction pieces generalizing location with
  | nil =>
    cases h
    simp [namesAmong]
  | cons piece pieces ih =>
    obtain ⟨hpiece, hpieces⟩ := List.ne_and_not_mem_of_not_mem_cons hup
    obtain ⟨-, hwalk, -⟩ := (walk_cons_of_ne_up hpiece.symm).mp h
    rw [ih hpieces hwalk, List.append_assoc, ← namesAmong_append]
    rfl

/-- Where a walk that does not lead up comes to a folder of another disk, it can be gone on that disk, too. -/
theorem walk_of_folderAt (hup : ".." ∉ pieces) (h : after.walk location pieces = .ok final)
    (hfolder : disk.FolderAt final) : disk.walk location pieces = .ok final := by
  induction pieces generalizing location with
  | nil => exact h
  | cons piece pieces ih =>
    obtain ⟨hpiece, hpieces⟩ := List.ne_and_not_mem_of_not_mem_cons hup
    obtain ⟨-, hwalk, hends⟩ := (walk_cons_of_ne_up hpiece.symm).mp h
    have hnext : disk.FolderAt (location ++ namesAmong [piece]) := by
      rw [eq_of_walk hpieces hwalk] at hfolder
      exact folderAt_of_append hfolder
    refine (walk_cons_of_ne_up hpiece.symm).mpr ⟨folderAt_of_append hnext, ih hpieces hwalk, ?_⟩
    by_cases hblank : piece = "" ∨ piece = "."
    · exact hblank.imp_right Or.inl
    · obtain ⟨hempty, hhere⟩ := not_or.mp hblank
      obtain ⟨hshort, -⟩ := (hends.resolve_left hempty).resolve_left hhere
      obtain ⟨node, hnode, -⟩ := hnext
      have hnames : namesAmong [piece] = [piece] := by simp [namesAmong, hempty, hhere]
      rw [hnames] at hnode
      exact Or.inr (Or.inr ⟨hshort, by rw [hnode]; rfl⟩)

/-- The location of a path that does not lead up. -/
def targetOf (disk : Disk) (path : String) : List String := disk.startOf path ++ namesAmong (Text.pieces '/' path)

/-- The place of a path that does not lead up and ends in a name is at its location. -/
theorem targetOf_of_place (hup : ".." ∉ Text.pieces '/' path) (h : disk.place path = .ok place)
    (hname : place.isNameless = false) : place.folder ++ [place.name] = disk.targetOf path := by
  obtain ⟨-, -, hwalk, -, hlast⟩ := walk_of_place h
  obtain ⟨blanks, hpieces, hblanks⟩ := exists_blanks path
  have hnone : namesAmong blanks = [] := by
    refine List.filter_eq_nil_iff.mpr fun blank hblank => ?_
    simp [hblanks blank hblank]
  rcases List.eq_nil_or_concat (namedPieces path) with hnamed | ⟨front, name, hnamed⟩
  · rw [hnamed] at hlast
    simp [Place.isNameless, hlast] at hname
  · rw [List.concat_eq_append] at hnamed
    rw [hnamed, List.getLastD_concat] at hlast
    rw [hnamed, List.dropLast_concat] at hwalk
    rw [hpieces, hnamed] at hup
    have hfront : ".." ∉ front := fun hmem => hup (by simp [hmem])
    obtain ⟨⟨hhere, -⟩, hempty⟩ : (name ≠ "." ∧ name ≠ "..") ∧ name ≠ "" := by
      simpa [Place.isNameless, hlast] using hname
    have hnames : namesAmong [name] = [name] := by simp [namesAmong, hempty, hhere]
    rw [eq_of_walk hfront hwalk, targetOf, hpieces, hnamed, hlast, namesAmong_append, namesAmong_append, hnames, hnone,
      List.append_nil, List.append_assoc]

/-- Something happened to a disk on the way to a location only, and no folder went away. -/
structure OnlyOnWay (disk : Disk) (target : List String) (after : Disk) : Prop where
  stay : disk.FoldersStay after
  beside : ∀ location, ¬location <+: target → after.root.at? location = disk.root.at? location

/-- Nothing happened. -/
theorem OnlyOnWay.refl (disk : Disk) (target : List String) : disk.OnlyOnWay target disk :=
  ⟨.refl disk, fun _ _ => rfl⟩

/-- What happens twice on the way to a location happens there only. -/
theorem OnlyOnWay.trans (h : disk.OnlyOnWay target after) (hlater : after.OnlyOnWay target later) :
    disk.OnlyOnWay target later :=
  ⟨h.stay.trans hlater.stay, fun location hbeside => (hlater.beside location hbeside).trans (h.beside location hbeside)⟩

/-- A folder that is made has no entries, so nothing is found that was not found before. -/
theorem onlyOnWay_of_makeFolder (hup : ".." ∉ Text.pieces '/' path) (htarget : disk.targetOf path <+: target)
    (h : disk.makeFolder path = .ok after) : disk.OnlyOnWay target after := by
  obtain ⟨place, hplace, hname, hnone, rfl⟩ := put_of_makeFolder h
  refine ⟨foldersStay_put (by rw [hnone]; rfl) _, fun location hbeside => ?_⟩
  obtain ⟨-, -, -, ⟨node, hnode, hisFolder⟩, -⟩ := walk_of_place hplace
  rw [← targetOf_of_place hup hplace hname] at htarget
  have hway : ¬location <+: place.folder ++ [place.name] := fun hbegins => hbeside (hbegins.trans htarget)
  by_cases hbelow : place.folder ++ [place.name] <+: location
  · -- Below the new folder there is nothing, as there was before.
    obtain ⟨rest, rfl⟩ := hbelow
    cases node with
    | file bytes => cases hisFolder
    | archive contents => cases hisFolder
    | folder entries =>
      have hmade : (disk.put place (some (.folder []))).root.at? (place.folder ++ [place.name]) =
          some (.folder []) := by
        rw [at?_concat (at?_put_folder hnode _), Node.lookup_setEntry_self]
      rw [Node.at?_append, hmade, Node.at?_append, show disk.root.at? (place.folder ++ [place.name]) = none from hnone]
      cases rest with
      | nil => exact absurd (by simp) hway
      | cons name rest => rfl
  · exact Node.at?_set_apart hway hbelow _

/-- A path does not lead up, and it leads to a location or to a folder on the way there. -/
structure OnWay (disk : Disk) (target : List String) (path : String) : Prop where
  not_up : ".." ∉ Text.pieces '/' path
  location : disk.targetOf path <+: target

/-- The folders on the way to one are there or are made first, and then it is made itself or is there. -/
theorem exists_of_makeFoldersAt_cons {part : Path.Part} {before : List Path.Part}
    (h : disk.makeFoldersAt path (part :: before) = .ok after) :
    ∃ made, (made = disk ∨ disk.makeFoldersAt (Path.ofParts before.reverse) before = .ok made) ∧
      (made.makeFolder path = .ok after ∨ after = made) := by
  rw [makeFoldersAt] at h
  dsimp only at h
  split at h
  · cases hinner : disk.makeFoldersAt (Path.ofParts before.reverse) before with
    | error cause =>
      rw [hinner] at h
      cases h
    | ok made =>
      refine ⟨made, Or.inr rfl, ?_⟩
      rw [hinner] at h
      simp only [bind, Except.bind] at h
      split at h
      · next hmake => exact Or.inl (hmake.trans h)
      · split at h
        · exact Or.inr (Except.ok.inj h).symm
        · cases h
  · refine ⟨disk, Or.inl rfl, ?_⟩
    split at h
    · next hmake => exact Or.inl (hmake.trans h)
    · split at h
      · exact Or.inr (Except.ok.inj h).symm
      · cases h

/-- Making a folder and those on the way to it only makes folders on the way. -/
theorem onlyOnWay_of_makeFoldersAt {parts : List Path.Part} (hpath : parts ≠ [] → disk.OnWay target path)
    (hparts : ∀ front, front ≠ [] → front <+: parts.reverse → disk.OnWay target (Path.ofParts front))
    (h : disk.makeFoldersAt path parts = .ok after) : disk.OnlyOnWay target after := by
  induction parts generalizing path after with
  | nil =>
    cases h
    exact .refl disk target
  | cons part before ih =>
    obtain ⟨hup, htarget⟩ := hpath (List.cons_ne_nil _ _)
    have hbefore : ∀ front, front ≠ [] → front <+: before.reverse → disk.OnWay target (Path.ofParts front) := by
      intro front hne hfront
      rw [List.reverse_cons] at hparts
      exact hparts front hne (hfront.trans (List.prefix_append _ _))
    obtain ⟨made, hmade, hresult⟩ := exists_of_makeFoldersAt_cons h
    have hway : disk.OnlyOnWay target made := by
      rcases hmade with rfl | hinner
      · exact .refl made target
      · exact ih (fun hne => hbefore _ (by simpa using hne) List.prefix_rfl) hbefore hinner
    have hsame : made.targetOf path = disk.targetOf path := by
      rw [targetOf, targetOf, startOf, startOf, hway.stay.working]
    rcases hresult with hmake | rfl
    · exact hway.trans (onlyOnWay_of_makeFolder hup (hsame ▸ htarget) hmake)
    · exact hway

/-- The first parts of a path that does not lead up are a path to a folder on the way. -/
theorem onWay_ofParts (disk : Disk) (hup : ".." ∉ Text.pieces '/' path) {front : List Path.Part} (hne : front ≠ [])
    (h : front <+: Path.parts path) : disk.OnWay (disk.targetOf path) (Path.ofParts front) := by
  obtain ⟨names, hnames, rfl⟩ := Path.eq_of_prefix_parts hup hne h
  have hpieces : names ⊆ Text.pieces '/' path := fun name hname =>
    (List.mem_filter.mp (hnames.subset hname)).1
  obtain ⟨blanks, hfront, hblanks, hnotUp⟩ := Path.pieces_ofParts hpieces hne
  have hkept : namesAmong names = names := by
    refine List.filter_eq_self.mpr fun name hname => ?_
    exact (List.mem_filter.mp (hnames.subset hname)).2
  constructor
  · rw [hfront, List.mem_append, not_or]
    exact ⟨hnotUp, fun hmem => hup (hpieces hmem)⟩
  · rw [targetOf, targetOf, startOf, startOf, Path.isAbsolute_ofParts hnames.subset hne, hfront, namesAmong_append,
      hblanks, hkept, List.nil_append]
    exact (List.prefix_append_right_inj _).mpr hnames

/-- Making a folder at a path that does not lead up happens on the way to its location only. -/
theorem onlyOnWay_of_makeFolders (hup : ".." ∉ Text.pieces '/' path) (h : disk.makeFolders path = .ok after) :
    disk.OnlyOnWay (disk.targetOf path) after := by
  refine onlyOnWay_of_makeFoldersAt (fun _ => ⟨hup, List.prefix_rfl⟩) (fun front hne hfront => ?_) h
  rw [List.reverse_reverse] at hfront
  exact disk.onWay_ofParts hup hne hfront

/-- Making a folder changes nothing of what is found in it, if it is there or if its path does not lead up. -/
theorem find_of_makeFolders {folder : String} {node : Node}
    (hfolder : disk.isFolder folder = true ∨ ".." ∉ Text.pieces '/' folder) (hname : Path.IsPlain name)
    (h : disk.makeFolders folder = .ok after) :
    after.find (Path.join folder name) = .ok node ↔ disk.find (Path.join folder name) = .ok node := by
  rcases hfolder with hthere | hup
  · rw [makeFolders_of_isFolder hthere] at h
    cases h
    exact Iff.rfl
  · have hway := onlyOnWay_of_makeFolders hup h
    have hstart : after.startOf folder = disk.startOf folder := by rw [startOf, startOf, hway.stay.working]
    have hbefore : ".." ∉ Path.piecesBefore folder ∧
        namesAmong (Path.piecesBefore folder) = namesAmong (Text.pieces '/' folder) := by
      rcases Path.pieces_eq_piecesBefore folder with hpieces | hpieces
      · rw [← hpieces]
        exact ⟨hup, rfl⟩
      · rw [hpieces, List.mem_append, not_or] at hup
        refine ⟨hup.1, ?_⟩
        rw [hpieces, namesAmong_append]
        exact (List.append_nil _).symm
    have hbeside : after.root.at? (disk.targetOf folder ++ [name]) = disk.root.at? (disk.targetOf folder ++ [name]) :=
      hway.beside _ fun hbegins => absurd hbegins.length_le (by simp)
    rw [find_join_eq_ok_iff hname, find_join_eq_ok_iff hname]
    refine and_congr_right fun _ => ⟨?_, ?_⟩
    · rintro ⟨location, entries, ⟨hnul, hwalk, hentries⟩, hlookup⟩
      rw [hstart] at hwalk
      obtain rfl : location = disk.targetOf folder := by rw [eq_of_walk hbefore.1 hwalk, hbefore.2, targetOf]
      rw [at?_concat hentries, hlookup] at hbeside
      obtain ⟨found, hfound, hsame⟩ := exists_of_at?_concat hbeside.symm
      exact ⟨_, found, ⟨hnul, walk_of_folderAt hbefore.1 hwalk ⟨_, hfound, rfl⟩, hfound⟩, hsame⟩
    · rintro ⟨location, entries, ⟨hnul, hwalk, hentries⟩, hlookup⟩
      have hstays := hway.stay.walk hwalk ⟨_, hentries, rfl⟩
      obtain rfl : location = disk.targetOf folder := by rw [eq_of_walk hbefore.1 hwalk, hbefore.2, targetOf]
      rw [at?_concat hentries, hlookup] at hbeside
      obtain ⟨found, hfound, hsame⟩ := exists_of_at?_concat hbeside
      exact ⟨_, found, ⟨hnul, hstart ▸ hstays, hfound⟩, hsame⟩

end Disk

end SiteBuilder
