import SiteBuilder.Proofs.Disk.Tree

/-!
# Files in a folder

The path of a file in a folder is followed along the pieces of the folder's path and then by the name, whether or not
a slash ends the folder's path. So what is found there is what the folder holds under the name, and when a file is
written or removed, what is found under the other names stays.
-/

namespace SiteBuilder

namespace Path

/-- A text that is read as a name in a path, if it is not too long for one. -/
structure IsPlain (name : String) : Prop where
  nonempty : name ≠ ""
  not_here : name ≠ "."
  not_up : name ≠ ".."
  no_slash : '/' ∉ name.toList
  no_nul : Char.ofNat 0 ∉ name.toList

/-- The pieces of a folder's path that stand before the name in the path of a file in it. -/
def piecesBefore (folder : String) : List String :=
  if folder.toList.getLast?.all (· == '/') then (Text.pieces '/' folder).dropLast else Text.pieces '/' folder

variable {folder name : String}

/-- A name is no absolute path. -/
theorem isAbsolute_of_slash_notMem (h : '/' ∉ name.toList) : isAbsolute name = false := by
  rw [isAbsolute, decide_eq_false_iff_not]
  exact fun hhead => h (List.mem_of_mem_head? hhead)

/-- A path that needs no slash before a name has no characters or ends in a slash. -/
theorem eq_append_slash (h : folder.toList.getLast?.all (· == '/') = true) :
    folder = "" ∨ ∃ front, folder = front ++ "/" := by
  by_cases hempty : folder = ""
  · exact Or.inl hempty
  · obtain ⟨cs, c, hcs⟩ : ∃ cs c, folder.toList = cs ++ [c] :=
      ⟨_, _, (List.dropLast_concat_getLast (by simpa using hempty)).symm⟩
    have hc : c = '/' := by simpa [hcs] using h
    refine Or.inr ⟨String.ofList cs, ?_⟩
    rw [← String.toList_inj, hcs, hc]
    simp

/-- Behind a slash at the end of a path there is one piece without characters. -/
theorem pieces_append_slash (front : String) : Text.pieces '/' (front ++ "/") = Text.pieces '/' front ++ [""] := by
  have hpieces := Text.pieces_append_slash front ""
  rwa [String.append_empty] at hpieces

/-- The pieces before the name of a file are those of the folder's path, at most without one at the end that has no
characters. -/
theorem pieces_eq_piecesBefore (folder : String) :
    Text.pieces '/' folder = piecesBefore folder ∨ Text.pieces '/' folder = piecesBefore folder ++ [""] := by
  rw [piecesBefore]
  split
  · next hslash =>
    rcases eq_append_slash hslash with rfl | ⟨front, rfl⟩
    · exact Or.inr rfl
    · rw [pieces_append_slash, List.dropLast_concat]
      exact Or.inr rfl
  · exact Or.inl rfl

/-- The path of a file has one piece more than stand before its name. -/
theorem pieces_join (hname : '/' ∉ name.toList) :
    Text.pieces '/' (join folder name) = piecesBefore folder ++ [name] := by
  have hpieces := Text.pieces_of_slash_notMem hname
  rw [join, if_neg (by simp [isAbsolute_of_slash_notMem hname]), piecesBefore]
  split
  · next hslash =>
    rcases eq_append_slash hslash with rfl | ⟨front, rfl⟩
    · rw [String.empty_append, hpieces]
      rfl
    · rw [Text.pieces_append_slash, hpieces, pieces_append_slash, List.dropLast_concat]
  · rw [Text.pieces_append_slash, hpieces]

/-- The characters of a file's path are those of the folder's path and of the name, apart from slashes. -/
theorem mem_join_iff {c : Char} (hc : c ≠ '/') (hname : '/' ∉ name.toList) :
    c ∈ (join folder name).toList ↔ c ∈ folder.toList ∨ c ∈ name.toList := by
  rw [join, if_neg (by simp [isAbsolute_of_slash_notMem hname])]
  split <;> simp [hc]

/-- The path of a file has the characters of its name. -/
theorem join_ne_empty (hname : IsPlain name) : join folder name ≠ "" := by
  rw [join, if_neg (by simp [isAbsolute_of_slash_notMem hname.no_slash])]
  split <;> simp [hname.nonempty]

end Path

namespace Disk

variable {disk after : Disk} {folder name other : String} {location : List String} {entries : List (String × Node)}
  {node : Node} {place : Place}

/-- The path of a file starts where the path of its folder does. -/
theorem startOf_join (hname : '/' ∉ name.toList) : disk.startOf (Path.join folder name) = disk.startOf folder := by
  have habsolute := Path.isAbsolute_of_slash_notMem hname
  by_cases hempty : folder = ""
  · have hjoin : Path.join "" name = name := by
      rw [Path.join, if_neg (by simp [habsolute])]
      exact String.empty_append
    rw [hempty, hjoin, startOf, if_neg (by simp [habsolute])]
    rfl
  · rcases join_eq hempty habsolute with ⟨_, -, hjoin⟩ | hjoin
    · rw [hjoin, startOf_append hempty]
    · rw [hjoin, String.append_assoc, startOf_append hempty]

/-- At a path there is a folder to put files in, by its location and what it holds. The path without characters is
that of the working folder here. -/
structure OpenFolder (disk : Disk) (folder : String) (location : List String) (entries : List (String × Node)) :
    Prop where
  no_nul : Char.ofNat 0 ∉ folder.toList
  walk : disk.walk (disk.startOf folder) (Path.piecesBefore folder) = .ok location
  node : disk.root.at? location = some (.folder entries)

/-- A path is that of one folder. -/
theorem OpenFolder.unique {location' : List String} {entries' : List (String × Node)}
    (h : disk.OpenFolder folder location entries) (h' : disk.OpenFolder folder location' entries') :
    location' = location ∧ entries' = entries := by
  obtain rfl : location' = location := Except.ok.inj (h'.walk.symm.trans h.walk)
  have hnode := h'.node.symm.trans h.node
  exact ⟨rfl, by simpa using hnode⟩

/-- A name leads from a folder to what the folder holds under it. -/
theorem walk_name_eq_ok_iff (hempty : name ≠ "") (hhere : name ≠ ".") (hup : name ≠ "..") {final : List String} :
    disk.walk location [name] = .ok final ↔ isTooLong name = false ∧ final = location ++ [name] ∧
      ∃ entries node, disk.root.at? location = some (.folder entries) ∧ entries.lookup name = some node := by
  rw [Disk.walk]
  cases hnode : disk.root.at? location with
  | none => simp
  | some node =>
    cases node with
    | file bytes => simp [Node.isFolder]
    | archive contents => simp [Node.isFolder]
    | folder entries =>
      cases isTooLong name with
      | true => simp [Node.isFolder, hempty, hhere, hup]
      | false =>
        cases hlookup : entries.lookup name <;>
          simp [Node.isFolder, hempty, hhere, hup, Node.child?, Node.entries, hlookup, Disk.walk, eq_comm]

/-- What is found at the path of a file is what the folder holds under the name. -/
theorem find_join_eq_ok_iff (hname : Path.IsPlain name) :
    disk.find (Path.join folder name) = .ok node ↔ isTooLong name = false ∧
      ∃ location entries, disk.OpenFolder folder location entries ∧ entries.lookup name = some node := by
  have hnul : Char.ofNat 0 ∉ (Path.join folder name).toList ↔ Char.ofNat 0 ∉ folder.toList := by
    rw [Path.mem_join_iff (by decide) hname.no_slash]
    simp [hname.no_nul]
  simp only [find_eq_ok_iff, locate_eq_ok_iff, hnul, startOf_join hname.no_slash, Path.pieces_join hname.no_slash,
    walk_append_eq_ok_iff, walk_name_eq_ok_iff hname.nonempty hname.not_here hname.not_up]
  constructor
  · rintro ⟨_, ⟨-, hclean, location, hfolder, hshort, rfl, entries, found, hentries, -⟩, hnode⟩
    rw [Node.at?_append, hentries, Option.bind_some, Node.at?_singleton] at hnode
    exact ⟨hshort, location, entries, ⟨hclean, hfolder, hentries⟩, hnode⟩
  · rintro ⟨hshort, location, entries, ⟨hclean, hfolder, hentries⟩, hlookup⟩
    refine ⟨location ++ [name], ⟨Path.join_ne_empty hname, hclean, ?_⟩, ?_⟩
    · exact ⟨location, hfolder, hshort, rfl, entries, node, hentries, hlookup⟩
    · rw [Node.at?_append, hentries, Option.bind_some, Node.at?_singleton]
      exact hlookup

/-- The place of a file is in its folder. -/
theorem openFolder_of_place (hname : Path.IsPlain name) (h : disk.place (Path.join folder name) = .ok place) :
    place.name = name ∧ ∃ entries, disk.OpenFolder folder place.folder entries := by
  have hpieces : namedPieces (Path.join folder name) = Path.piecesBefore folder ++ [name] := by
    rw [namedPieces, Path.pieces_join hname.no_slash]
    simp [hname.nonempty]
  obtain ⟨-, hclean, hwalk, ⟨node, hnode, hisFolder⟩, hplace⟩ := walk_of_place h
  rw [hpieces] at hwalk hplace
  rw [List.dropLast_concat, startOf_join hname.no_slash] at hwalk
  have hnul : Char.ofNat 0 ∉ folder.toList := fun hmem =>
    hclean ((Path.mem_join_iff (by decide) hname.no_slash).mpr (Or.inl hmem))
  refine ⟨by simpa using hplace, node.entries, hnul, hwalk, ?_⟩
  cases node with
  | folder entries => exact hnode
  | file bytes => cases hisFolder
  | archive contents => cases hisFolder

/-- A folder stays open when something is put in it, and has the entry for it. -/
theorem OpenFolder.put (h : disk.OpenFolder folder place.folder entries)
    (hplace : (disk.at? place).any Node.isFolder = false) (node : Option Node) :
    (disk.put place node).OpenFolder folder place.folder (Node.setEntry place.name node entries) := by
  have hfolder : disk.FolderAt place.folder := ⟨_, h.node, rfl⟩
  exact ⟨h.no_nul, (foldersStay_put hplace node).walk h.walk hfolder, at?_put_folder h.node node⟩

/-- A file that was written is found. -/
theorem find_of_write (hname : Path.IsPlain name) {file : Node}
    (h : disk.write (Path.join folder name) file = .ok after) : after.find (Path.join folder name) = .ok file := by
  obtain ⟨place, hplace, hshort, hfile, rfl⟩ := put_of_write h
  obtain ⟨hname', entries, hopen⟩ := openFolder_of_place hname hplace
  rw [hname'] at hshort
  refine (find_join_eq_ok_iff hname).mpr ⟨hshort, _, _, hopen.put hfile (some file), ?_⟩
  rw [hname']
  exact Node.lookup_setEntry_self _ _ _

/-- What is a folder at a path stays one as long as folders stay. -/
theorem FoldersStay.isFolder (h : disk.FoldersStay after) {path : String} (hpath : disk.isFolder path = true) :
    after.isFolder path = true := by
  rw [Disk.isFolder] at hpath ⊢
  cases hfind : disk.find path with
  | error cause =>
    rw [hfind] at hpath
    cases hpath
  | ok node =>
    rw [hfind] at hpath
    obtain ⟨location, hlocate, hnode⟩ := find_eq_ok_iff.mp hfind
    obtain ⟨hempty, hnul, hwalk⟩ := locate_eq_ok_iff.mp hlocate
    have hfolder : disk.FolderAt location := ⟨node, hnode, hpath⟩
    obtain ⟨found, hfound, hisFolder⟩ := h.folders location hfolder
    have hstart : after.startOf path = disk.startOf path := by rw [startOf, startOf, h.working]
    have hwalk' := hstart ▸ h.walk hwalk hfolder
    rw [find_eq_ok_iff.mpr ⟨location, locate_eq_ok_iff.mpr ⟨hempty, hnul, hwalk'⟩, hfound⟩]
    exact hisFolder

/-- What is found under other names stays when something is put in a folder. -/
theorem find_put_of_ne (h : disk.OpenFolder folder place.folder entries)
    (hplace : (disk.at? place).any Node.isFolder = false) (value : Option Node) (hother : Path.IsPlain other)
    (hne : other ≠ place.name) :
    (disk.put place value).find (Path.join folder other) = .ok node ↔
      disk.find (Path.join folder other) = .ok node := by
  have hput := h.put hplace value
  rw [find_join_eq_ok_iff hother, find_join_eq_ok_iff hother]
  refine and_congr_right fun _ => ⟨?_, ?_⟩
  · rintro ⟨location, found, hopen, hlookup⟩
    obtain ⟨rfl, rfl⟩ := hput.unique hopen
    rw [Node.lookup_setEntry_of_ne hne] at hlookup
    exact ⟨_, _, h, hlookup⟩
  · rintro ⟨location, found, hopen, hlookup⟩
    obtain ⟨rfl, rfl⟩ := h.unique hopen
    refine ⟨_, _, hput, ?_⟩
    rw [Node.lookup_setEntry_of_ne hne, hlookup]

end Disk

end SiteBuilder
