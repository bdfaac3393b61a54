import SiteBuilder.Disk.Basic
import SiteBuilder.Proofs.Form.Format

/-!
# Paths of names

The path of names is cut at its slashes into the same names, so names are told apart by their paths. A path
put behind the path of a folder is followed from that folder, and the path of names leads to the node at
that location below it.
-/

namespace SiteBuilder

namespace Text

variable {separator : Char}

/-- A list is split at a separator between its two parts. -/
theorem splitBy_append_cons (before after : List Char) :
    splitBy (· == separator) (before ++ separator :: after) =
      splitBy (· == separator) before ++ splitBy (· == separator) after := by
  induction before with
  | nil => simp [splitBy]
  | cons c before ih =>
    rw [List.cons_append, splitBy, splitBy, ih]
    split
    · rfl
    · cases hpieces : splitBy (· == separator) before with
      | nil =>
        rw [splitBy_eq_splitOnP] at hpieces
        exact absurd hpieces (List.splitOnP_ne_nil _ _)
      | cons piece pieces => rfl

/-- A text is cut at a slash between its two parts. -/
theorem pieces_append_slash (before after : String) :
    pieces '/' (before ++ "/" ++ after) = pieces '/' before ++ pieces '/' after := by
  have htext : (before ++ "/" ++ after).toList = before.toList ++ '/' :: after.toList := by simp
  rw [pieces, htext, splitBy_append_cons, List.map_append, pieces, pieces]

/-- A text without a slash is one piece. -/
theorem pieces_of_slash_notMem {s : String} (h : '/' ∉ s.toList) : pieces '/' s = [s] := by
  have hsplit : splitBy (· == '/') s.toList = [s.toList] :=
    (splitBy_eq_iff (List.cons_ne_nil _ _)).mpr ⟨List.intercalate_singleton.symm, by simpa using h⟩
  rw [pieces, hsplit, List.map_singleton, String.ofList_toList]

end Text

namespace Path

/-- A name that a file or a folder can have. -/
structure IsName (name : String) : Prop where
  nonempty : name ≠ ""
  not_here : name ≠ "."
  not_up : name ≠ ".."
  no_slash : '/' ∉ name.toList
  no_nul : Char.ofNat 0 ∉ name.toList
  short : Disk.isTooLong name = false

instance : DecidablePred IsName := fun name =>
  decidable_of_iff (name ≠ "" ∧ name ≠ "." ∧ name ≠ ".." ∧ '/' ∉ name.toList ∧ Char.ofNat 0 ∉ name.toList ∧
      Disk.isTooLong name = false)
    ⟨fun ⟨a, b, c, d, e, f⟩ => ⟨a, b, c, d, e, f⟩, fun ⟨a, b, c, d, e, f⟩ => ⟨a, b, c, d, e, f⟩⟩

/-- The path of names. -/
def ofNames (names : List String) : String := "/".intercalate names

/-- The names of a path. -/
def namesOf (path : String) : List String := if path = "" then [] else Text.pieces '/' path

variable {names others : List String}

@[simp]
theorem ofNames_nil : ofNames [] = "" := rfl

@[simp]
theorem ofNames_singleton (name : String) : ofNames [name] = name := String.intercalate_singleton

/-- Two paths are put together by a slash. -/
theorem ofNames_append (hnames : names ≠ []) (hothers : others ≠ []) :
    ofNames (names ++ others) = ofNames names ++ "/" ++ ofNames others := by
  induction names with
  | nil => exact absurd rfl hnames
  | cons name names ih =>
    cases names with
    | nil =>
      obtain ⟨other, rest, rfl⟩ := List.exists_cons_of_ne_nil hothers
      simp [ofNames, String.intercalate_cons_cons]
    | cons next names =>
      have hrest := ih (List.cons_ne_nil next names)
      simp only [ofNames, List.cons_append, String.intercalate_cons_cons] at hrest ⊢
      rw [hrest]
      simp only [String.append_assoc]

/-- A path of names is cut at its slashes into the names. -/
theorem pieces_ofNames (hne : names ≠ []) (hnames : ∀ name ∈ names, IsName name) :
    Text.pieces '/' (ofNames names) = names := by
  have hsplit : Text.splitBy (· == '/') (ofNames names).toList = names.map String.toList := by
    refine (Text.splitBy_eq_iff (by simpa using hne)).mpr ⟨?_, ?_⟩
    · rw [ofNames, String.toList_intercalate]
      rfl
    · intro piece hpiece
      obtain ⟨name, hname, rfl⟩ := List.mem_map.mp hpiece
      exact (hnames name hname).no_slash
  rw [Text.pieces, hsplit, List.map_map]
  exact List.map_id'' (fun _ => String.ofList_toList) names

/-- Only no names at all have the path without characters. -/
theorem ofNames_eq_empty_iff (hnames : ∀ name ∈ names, IsName name) : ofNames names = "" ↔ names = [] := by
  refine ⟨fun hempty => Decidable.byContradiction fun hne => ?_, fun hnil => hnil ▸ rfl⟩
  have hpieces : Text.pieces '/' "" = names := hempty ▸ pieces_ofNames hne hnames
  have hmem : "" ∈ names := hpieces ▸ List.mem_singleton.mpr rfl
  exact (hnames "" hmem).nonempty rfl

/-- The names of a path of names. -/
theorem namesOf_ofNames (hnames : ∀ name ∈ names, IsName name) : namesOf (ofNames names) = names := by
  rw [namesOf]
  split
  · next hempty => exact ((ofNames_eq_empty_iff hnames).mp hempty).symm
  · next hempty => exact pieces_ofNames (mt (ofNames_eq_empty_iff hnames).mpr hempty) hnames

/-- Names are told apart by their paths. -/
theorem ofNames_inj (hnames : ∀ name ∈ names, IsName name) (hothers : ∀ name ∈ others, IsName name) :
    ofNames names = ofNames others ↔ names = others := by
  refine ⟨fun h => ?_, fun h => h ▸ rfl⟩
  rw [← namesOf_ofNames hnames, h, namesOf_ofNames hothers]

/-- The path of a single name has no slash, and that of several has one. -/
theorem slash_notMem_ofNames_iff (hnames : ∀ name ∈ names, IsName name) :
    '/' ∉ (ofNames names).toList ↔ names = [] ∨ ∃ name, names = [name] := by
  constructor
  · intro hslash
    match names with
    | [] => exact Or.inl rfl
    | [name] => exact Or.inr ⟨name, rfl⟩
    | name :: next :: rest => simp [ofNames, String.intercalate_cons_cons] at hslash
  · rintro (rfl | ⟨name, rfl⟩)
    · exact List.not_mem_nil
    · rw [ofNames_singleton]
      exact (hnames name List.mem_cons_self).no_slash

/-- A path of names does not start at the root. -/
theorem isAbsolute_ofNames (hnames : ∀ name ∈ names, IsName name) : isAbsolute (ofNames names) = false := by
  by_cases hne : names = []
  · rw [hne]
    rfl
  · have hpieces := pieces_ofNames hne hnames
    rw [Text.pieces] at hpieces
    rw [isAbsolute, decide_eq_false_iff_not]
    intro hhead
    obtain ⟨rest, hrest⟩ := List.head?_eq_some_iff.mp hhead
    -- The piece before a slash at the start would be a name without characters.
    rw [hrest, Text.splitBy, if_pos (beq_self_eq_true _), List.map_cons] at hpieces
    exact (hnames _ (hpieces ▸ List.mem_cons_self)).nonempty rfl

/-- Every character of a path is a slash or one of a name's. -/
theorem mem_ofNames {c : Char} (h : c ∈ (ofNames names).toList) : c = '/' ∨ ∃ name ∈ names, c ∈ name.toList := by
  induction names with
  | nil => cases h
  | cons name rest ih =>
    cases rest with
    | nil => exact Or.inr ⟨name, List.mem_cons_self, by simpa using h⟩
    | cons next rest =>
      rw [ofNames, String.intercalate_cons_cons] at h
      simp only [String.toList_append, List.mem_append] at h
      rcases h with (hname | hslash) | hrest
      · exact Or.inr ⟨name, List.mem_cons_self, hname⟩
      · exact Or.inl (by simpa using hslash)
      · refine (ih hrest).imp_right ?_
        rintro ⟨other, hother, hc⟩
        exact ⟨other, List.mem_cons_of_mem _ hother, hc⟩

/-- A path of names can be followed. -/
theorem nul_notMem_ofNames (hnames : ∀ name ∈ names, IsName name) : Char.ofNat 0 ∉ (ofNames names).toList := by
  intro hnul
  rcases mem_ofNames hnul with hslash | ⟨name, hname, hmem⟩
  · exact absurd hslash (by decide)
  · exact (hnames name hname).no_nul hmem

end Path

namespace Node

variable {node inner : Node}

/-- A node below a node below another is below that. -/
theorem at?_append (node : Node) (first rest : List String) :
    node.at? (first ++ rest) = (node.at? first).bind (·.at? rest) := by
  induction first generalizing node with
  | nil => rfl
  | cons name first ih =>
    rw [List.cons_append, at?, at?, Option.bind_assoc]
    exact congrArg _ (funext fun inner => ih inner)

/-- What has something under a name is a folder. -/
theorem isFolder_of_child? {name : String} (h : node.child? name = some inner) : node.isFolder = true := by
  cases node with
  | folder entries => rfl
  | file bytes => cases h
  | archive contents => cases h

end Node

namespace Disk

variable {disk : Disk}

/-- Pieces are followed one after the other. -/
theorem walk_append (location first rest : List String) :
    disk.walk location (first ++ rest) = (disk.walk location first).bind (disk.walk · rest) := by
  induction first generalizing location with
  | nil => rfl
  | cons piece first ih =>
    rw [List.cons_append, walk, walk]
    repeat' split
    all_goals first | rfl | exact ih _

/-- A walk along names leads to the node below. -/
theorem walk_names {location names : List String} {node target : Node}
    (hnode : disk.root.at? location = some node) (htarget : node.at? names = some target)
    (hnames : ∀ name ∈ names, Path.IsName name) : disk.walk location names = .ok (location ++ names) := by
  induction names generalizing location node with
  | nil => rw [walk, List.append_nil]
  | cons name names ih =>
    obtain ⟨inner, hinner, hrest⟩ := Option.bind_eq_some_iff.mp htarget
    have hname := hnames name List.mem_cons_self
    have hat : disk.root.at? (location ++ [name]) = some inner := by
      rw [Node.at?_append, hnode, Option.bind_some, Node.at?, hinner]
      rfl
    have hlater := ih hat hrest fun other hother => hnames other (List.mem_cons_of_mem _ hother)
    rw [walk, hnode]
    simp [Node.isFolder_of_child? hinner, hname.nonempty, hname.not_here, hname.not_up, hname.short, hinner, hlater]

/-- A walk by one piece that does not lead up stays where it is or leads to what has the name. -/
theorem walk_singleton {location after : List String} {piece : String} (hup : piece ≠ "..")
    (h : disk.walk location [piece] = .ok after) : after = location ∨ after = location ++ [piece] := by
  rw [walk] at h
  repeat' split at h
  · cases h
  · cases h
  · exact Or.inl (by simpa [walk] using h.symm)
  · cases h
  · exact Or.inr (by simpa [walk] using h.symm)
  · cases h

/-- The parts of a path that is found. -/
theorem locate_eq_ok_iff {path : String} {location : List String} :
    disk.locate path = .ok location ↔ path ≠ "" ∧ Char.ofNat 0 ∉ path.toList ∧
      disk.walk (disk.startOf path) (Text.pieces '/' path) = .ok location := by
  rw [locate]
  split
  · next h => simp [h]
  · next h =>
    split
    · next hnul =>
      have hmem : Char.ofNat 0 ∈ path.toList := by simpa using hnul
      simp [hmem]
    · next hnul =>
      have hmem : Char.ofNat 0 ∉ path.toList := by simpa using hnul
      simp [h, hmem]

/-- What is found is the node at the location of the path. -/
theorem find_eq_ok_iff {path : String} {node : Node} :
    disk.find path = .ok node ↔ ∃ location, disk.locate path = .ok location ∧ disk.root.at? location = some node := by
  rw [find]
  cases disk.locate path with
  | error cause => exact ⟨nofun, fun ⟨_, h, _⟩ => nomatch h⟩
  | ok location =>
    rw [Except.bind]
    cases hat : disk.root.at? location with
    | none => simp [hat]
    | some found => simp [hat]

/-- What is read is the text of the node at the path. -/
theorem readText_eq_ok_iff {path text : String} :
    disk.readText path = .ok text ↔ ∃ node, disk.find path = .ok node ∧ node.text? = some text := by
  rw [readText]
  cases hfind : disk.find path with
  | error cause => exact ⟨nofun, fun ⟨_, h, _⟩ => nomatch h⟩
  | ok node =>
    cases node with
    | folder entries => simp [Node.isFolder, Node.text?, bind, Except.bind]
    | archive contents => simp [Node.isFolder, Node.text?, bind, Except.bind]
    | file bytes =>
      cases htext : Text.Utf8.decodeText? bytes <;>
        simp [Node.isFolder, Node.text?, bind, Except.bind, htext]

/-- Nothing is walked by a piece without characters. -/
theorem walk_blank {location after : List String} (h : disk.walk location [""] = .ok after) : location = after := by
  rw [walk] at h
  split at h
  · cases h
  · split at h
    · cases h
    · simpa [walk] using h

/-- A path starts where a path starts that it continues. -/
theorem startOf_append {folder : String} (hne : folder ≠ "") (rest : String) :
    disk.startOf (folder ++ rest) = disk.startOf folder := by
  have hhead : (folder ++ rest).toList.head? = folder.toList.head? := by
    obtain ⟨c, cs, hcs⟩ := List.exists_cons_of_ne_nil (show folder.toList ≠ [] by simpa using hne)
    rw [String.toList_append, hcs, List.cons_append, List.head?_cons, List.head?_cons]
  rw [startOf, startOf, Path.isAbsolute, Path.isAbsolute, hhead]

/-- A path is put behind a folder with one slash between them, where the folder's path does not end in one. -/
theorem join_eq {folder path : String} (hne : folder ≠ "") (hrelative : Path.isAbsolute path = false) :
    (∃ front, folder = front ++ "/" ∧ Path.join folder path = folder ++ path) ∨
      Path.join folder path = folder ++ "/" ++ path := by
  rw [Path.join, if_neg (by simp [hrelative])]
  split
  · next hslash =>
    left
    obtain ⟨cs, c, hcs⟩ : ∃ cs c, folder.toList = cs ++ [c] :=
      ⟨_, _, (List.dropLast_concat_getLast (by simpa using hne)).symm⟩
    rw [hcs] at hslash
    have hc : c = '/' := by simpa using hslash
    refine ⟨String.ofList cs, ?_, rfl⟩
    rw [← String.toList_inj, hcs, hc]
    simp
  · exact Or.inr rfl

/-- A path that can be followed in a folder could be followed by itself. -/
theorem nul_notMem_of_locate_join {folder path : String} {location : List String} (hne : folder ≠ "")
    (hrelative : Path.isAbsolute path = false) (h : disk.locate (Path.join folder path) = .ok location) :
    Char.ofNat 0 ∉ path.toList := by
  obtain ⟨-, hclean, -⟩ := locate_eq_ok_iff.mp h
  intro hnul
  rcases join_eq hne hrelative with ⟨_, _, hjoin⟩ | hjoin <;> exact hclean (by simp [hjoin, hnul])

/-- A path in a folder is followed from the folder. -/
theorem locate_join {folder path : String} {location : List String} (hfolder : disk.locate folder = .ok location)
    (hrelative : Path.isAbsolute path = false) (hnul : Char.ofNat 0 ∉ path.toList) :
    disk.locate (Path.join folder path) = disk.walk location (Text.pieces '/' path) := by
  obtain ⟨hne, hclean, hwalk⟩ := locate_eq_ok_iff.mp hfolder
  have hfollowed (front rest : String) (hjoined : folder ++ rest = front ++ "/" ++ path)
      (hrest : Char.ofNat 0 ∉ rest.toList)
      (hfront : disk.walk (disk.startOf folder) (Text.pieces '/' front) = .ok location) :
      disk.locate (folder ++ rest) = disk.walk location (Text.pieces '/' path) := by
    rw [locate, if_neg (by simp [hne]), if_neg (by simp [hclean, hrest]), startOf_append hne, hjoined,
      Text.pieces_append_slash, walk_append, hfront]
    rfl
  rcases join_eq hne hrelative with ⟨front, hfront, hjoin⟩ | hjoin
  · rw [hjoin]
    refine hfollowed front path (by rw [hfront]) hnul ?_
    -- The slash at the end of the folder's path leads nowhere else.
    have hpieces : Text.pieces '/' folder = Text.pieces '/' front ++ [""] := by
      have h := Text.pieces_append_slash front ""
      rwa [String.append_empty, ← hfront] at h
    rw [hpieces, walk_append] at hwalk
    cases hbefore : disk.walk (disk.startOf folder) (Text.pieces '/' front) with
    | error cause => rw [hbefore] at hwalk; cases hwalk
    | ok before =>
      rw [hbefore] at hwalk
      rw [walk_blank hwalk]
  · rw [hjoin, String.append_assoc]
    exact hfollowed folder ("/" ++ path) String.append_assoc.symm (by simpa using hnul) hwalk

end Disk

end SiteBuilder
