import Mathlib.Data.List.Induction
import Mathlib.Data.List.Nodup
import Mathlib.Data.List.Perm.Basic
import SiteBuilder.NameMap

/-!
# Lookups in maps

A map is determined by its lookups, and each operation is described by what it does to them. Later
arguments neither list entries nor depend on their order.
-/

namespace SiteBuilder.NameMap

universe u v

variable {α : Type u} {β : Type v}

/-! ## Lookups and entries -/

/-- The first entry decides the lookup of its own name. -/
theorem lookup_entry (entry : String × α) (rest : List (String × α)) (key : String) :
    (entry :: rest).lookup key = if key = entry.1 then some entry.2 else rest.lookup key := by
  obtain ⟨name, value⟩ := entry
  by_cases h : key = name
  · simp [h]
  · have hname : (key == name) = false := by simpa using h
    simp [h, List.lookup_cons, hname]

/-- Ascending names are distinct. -/
theorem nodup_of_ascending {entries : List (String × α)} (h : entries.Pairwise (fun a b => a.1 < b.1)) :
    (entries.map Prod.fst).Nodup := by
  refine List.pairwise_map.mpr (h.imp fun {a b} hlt heq => ?_)
  rw [heq] at hlt
  exact String.lt_irrefl b.1 hlt

/-- In a list with distinct names, an entry is the lookup of its name. -/
theorem lookup_eq_some_iff_mem {entries : List (String × α)} (hdistinct : (entries.map Prod.fst).Nodup)
    {key : String} {value : α} : entries.lookup key = some value ↔ (key, value) ∈ entries := by
  induction entries with
  | nil => simp
  | cons entry rest ih =>
    obtain ⟨hfirst, hrest⟩ := List.nodup_cons.mp hdistinct
    rw [lookup_entry, List.mem_cons]
    by_cases h : key = entry.1
    · subst h
      have habsent : (entry.1, value) ∉ rest := fun hmem => hfirst (List.mem_map.mpr ⟨_, hmem, rfl⟩)
      simp [habsent, Prod.ext_iff, eq_comm]
    · simp [h, ih hrest, Prod.ext_iff]

/-- The entries of a map are its lookups. -/
theorem mem_entries_iff {map : NameMap α} {key : String} {value : α} :
    (key, value) ∈ map.entries ↔ map.get? key = some value :=
  (lookup_eq_some_iff_mem (nodup_of_ascending map.ascending)).symm

/-- Maps with the same lookups are equal. -/
@[ext]
theorem ext {a b : NameMap α} (h : ∀ key, a.get? key = b.get? key) : a = b := by
  have hnodup (map : NameMap α) : map.entries.Nodup := by
    refine map.ascending.imp ?_
    rintro entry _ hlt rfl
    exact String.lt_irrefl _ hlt
  have hperm : a.entries.Perm b.entries := by
    refine (List.perm_ext_iff_of_nodup (hnodup a) (hnodup b)).mpr fun entry => ?_
    rw [mem_entries_iff, mem_entries_iff, h]
  have hentries : a.entries = b.entries :=
    hperm.eq_of_pairwise (fun _ _ _ _ hab hba => absurd (String.lt_trans hab hba) (String.lt_irrefl _))
      a.ascending b.ascending
  cases a
  cases b
  simpa using hentries

/-- A name has a value exactly when some lookup says so. -/
theorem contains_iff {map : NameMap α} {key : String} :
    map.contains key = true ↔ ∃ value, map.get? key = some value := by
  simp [contains, Option.isSome_iff_exists]

/-! ## Operations -/

@[simp]
theorem get?_empty (key : String) : (∅ : NameMap α).get? key = none := rfl

/-- Insertion into a list changes the lookup of one name. -/
theorem lookup_insertEntry (name key : String) (value : α) (entries : List (String × α)) :
    (insertEntry name value entries).lookup key =
      if key = name then some value else entries.lookup key := by
  induction entries with
  | nil => simp [insertEntry, lookup_entry]
  | cons entry rest ih =>
    rw [insertEntry]
    split
    · simp only [lookup_entry]
    · split
      next heq => simp only [lookup_entry, heq]; split <;> rfl
      next hne =>
        rw [lookup_entry, lookup_entry, ih]
        by_cases h : key = entry.1
        · have hkey : key ≠ name := fun hk => hne (hk ▸ h)
          rw [if_pos h, if_pos h, if_neg hkey]
        · rw [if_neg h, if_neg h]

@[simp]
theorem get?_insert (map : NameMap α) (name key : String) (value : α) :
    (map.insert name value).get? key = if key = name then some value else map.get? key :=
  lookup_insertEntry name key value map.entries

/-- Erasing a name leaves the lookups of the others. -/
@[simp]
theorem get?_erase (map : NameMap α) (name key : String) :
    (map.erase name).get? key = if key = name then none else map.get? key := by
  apply Option.ext
  intro value
  rw [← mem_entries_iff]
  simp only [erase, List.mem_filter, mem_entries_iff, bne_iff_ne, ne_eq]
  by_cases h : key = name
  · simp [h]
  · simp [h]

/-- Erasing several names leaves the lookups of the others. -/
theorem get?_foldl_erase (map : NameMap α) (names : List String) (key : String) :
    (names.foldl erase map).get? key = if key ∈ names then none else map.get? key := by
  induction names using List.reverseRecOn with
  | nil => rfl
  | append_singleton earlier last ih =>
    rw [List.foldl_concat, get?_erase, ih]
    by_cases hlast : key = last <;> simp [hlast]

/-- Erasing either of two names comes to the same exactly if neither has a value. -/
theorem erase_eq_erase_iff {map : NameMap α} {name other : String} (hne : name ≠ other) :
    map.erase name = map.erase other ↔ map.get? name = none ∧ map.get? other = none := by
  constructor
  · intro h
    have hname := congrArg (·.get? name) h
    have hother := congrArg (·.get? other) h
    simp only [get?_erase, if_pos, if_neg hne, if_neg hne.symm] at hname hother
    exact ⟨hname.symm, hother⟩
  · rintro ⟨hname, hother⟩
    ext key value
    rw [get?_erase, get?_erase]
    by_cases hkey : key = name
    · subst hkey
      simp [hne, hname]
    · by_cases hkey' : key = other
      · subst hkey'
        simp [hkey, hother]
      · simp [hkey, hkey']

/-- A lookup after writing entries over a map from left to right. -/
theorem get?_foldl_insert (map : NameMap α) {entries : List (String × α)}
    (hascending : entries.Pairwise (fun a b => a.1 < b.1)) (key : String) :
    (entries.foldl (fun acc entry => acc.insert entry.1 entry.2) map).get? key =
      (entries.lookup key).or (map.get? key) := by
  induction entries generalizing map with
  | nil => simp
  | cons entry rest ih =>
    rw [List.foldl_cons, ih _ hascending.of_cons, lookup_entry, get?_insert]
    by_cases h : key = entry.1
    · subst h
      have habsent : rest.lookup entry.1 = none := by
        rw [Option.eq_none_iff_forall_not_mem]
        intro value hvalue
        have hmem := (lookup_eq_some_iff_mem (nodup_of_ascending hascending.of_cons)).mp hvalue
        exact String.lt_irrefl entry.1 ((List.pairwise_cons.mp hascending).1 (entry.1, value) hmem)
      simp [habsent]
    · simp [h]

/-- An overlay decides the names it has a value for. -/
@[simp]
theorem get?_overlay (map other : NameMap α) (key : String) :
    (map.overlay other).get? key = (other.get? key).or (map.get? key) :=
  get?_foldl_insert map other.ascending key

/-- Each value of a filtered map comes from the value of the same name. -/
@[simp]
theorem get?_filterMap (f : String → α → Option β) (map : NameMap α) (key : String) :
    (map.filterMap f).get? key = (map.get? key).bind (f key) := by
  apply Option.ext
  intro value
  rw [← mem_entries_iff]
  simp only [filterMap, List.mem_filterMap, Option.map_eq_some_iff, Prod.mk.injEq, Prod.exists,
    mem_entries_iff, Option.bind_eq_some_iff]
  constructor
  · rintro ⟨name, old, hold, _, hnew, rfl, rfl⟩
    exact ⟨old, hold, hnew⟩
  · rintro ⟨old, hold, hnew⟩
    exact ⟨key, old, hold, value, hnew, rfl, rfl⟩

/-- Replacing values replaces what is found. -/
@[simp]
theorem get?_mapWithName (f : String → α → β) (map : NameMap α) (key : String) :
    (map.mapWithName f).get? key = (map.get? key).map (f key) := by
  apply Option.ext
  intro value
  rw [← mem_entries_iff]
  simp only [mapWithName, List.mem_map, Prod.mk.injEq, Prod.exists, mem_entries_iff, Option.map_eq_some_iff]
  constructor
  · rintro ⟨name, old, hold, rfl, rfl⟩
    exact ⟨old, hold, rfl⟩
  · rintro ⟨old, hold, rfl⟩
    exact ⟨key, old, hold, rfl, rfl⟩

/-- Inserting pairs adds their names. -/
theorem contains_foldl_insert (map : NameMap α) (pairs : List (String × α)) (key : String) :
    (pairs.foldl (fun acc pair => acc.insert pair.1 pair.2) map).contains key = true ↔
      key ∈ pairs.map (·.1) ∨ map.contains key = true := by
  induction pairs generalizing map with
  | nil => simp
  | cons pair rest ih =>
    rw [List.foldl_cons, ih, contains, contains, get?_insert]
    by_cases h : key = pair.1 <;> simp [h]

/-- Inserting pairs adds no other values than theirs. -/
theorem mem_of_get?_foldl_insert {map : NameMap α} {pairs : List (String × α)} {key : String} {value : α}
    (h : (pairs.foldl (fun acc pair => acc.insert pair.1 pair.2) map).get? key = some value) :
    (key, value) ∈ pairs ∨ map.get? key = some value := by
  induction pairs generalizing map with
  | nil => exact Or.inr h
  | cons pair rest ih =>
    rcases ih h with hmem | hget
    · exact Or.inl (List.mem_cons_of_mem _ hmem)
    · rw [get?_insert] at hget
      split at hget
      next heq =>
        cases hget
        exact Or.inl (heq ▸ List.mem_cons_self)
      next => exact Or.inr hget

/-- A map of pairs has the names of the pairs. -/
theorem contains_ofList {pairs : List (String × α)} {key : String} :
    (ofList pairs).contains key = true ↔ key ∈ pairs.map (·.1) :=
  (contains_foldl_insert empty pairs key).trans (or_iff_left nofun)

/-- Every value of a map of pairs is that of a pair. -/
theorem mem_of_get?_ofList {pairs : List (String × α)} {key : String} {value : α}
    (h : (ofList pairs).get? key = some value) : (key, value) ∈ pairs :=
  (mem_of_get?_foldl_insert h).resolve_right nofun

/-- In a map of pairs with distinct names, the lookups are the pairs. -/
theorem get?_ofList_eq_some_iff {pairs : List (String × α)} (hnames : (pairs.map (·.1)).Nodup) {key : String}
    {value : α} : (ofList pairs).get? key = some value ↔ (key, value) ∈ pairs := by
  refine ⟨mem_of_get?_ofList, fun hmem => ?_⟩
  have hcontains : (ofList pairs).contains key = true :=
    contains_ofList.mpr (List.mem_map.mpr ⟨(key, value), hmem, rfl⟩)
  obtain ⟨found, hfound⟩ := contains_iff.mp hcontains
  have hpair : (key, found) = (key, value) :=
    List.inj_on_of_nodup_map hnames (mem_of_get?_ofList hfound) hmem rfl
  rw [hfound, (Prod.mk.inj hpair).2]

/-- A map of pairs with distinct names has the value that a search of the pairs finds. -/
theorem get?_ofList {pairs : List (String × α)} (hnames : (pairs.map (·.1)).Nodup) (key : String) :
    (ofList pairs).get? key = pairs.lookup key := by
  refine Option.ext fun value => ?_
  rw [get?_ofList_eq_some_iff hnames, lookup_eq_some_iff_mem hnames]

/-- The last pair of a name decides its value. -/
theorem get?_ofList_eq_lookup_reverse (pairs : List (String × α)) (key : String) :
    (ofList pairs).get? key = pairs.reverse.lookup key := by
  induction pairs using List.reverseRecOn with
  | nil => rfl
  | append_singleton earlier pair ih =>
    have hlast : ofList (earlier ++ [pair]) = (ofList earlier).insert pair.1 pair.2 := List.foldl_concat _ _ _ _
    rw [hlast, get?_insert, List.reverse_concat, lookup_entry, ih]

/-- Maps are equal if their entries are. -/
theorem entries_inj {a b : NameMap α} : a.entries = b.entries ↔ a = b := by
  refine ⟨fun hentries => ?_, congrArg entries⟩
  cases a
  cases hentries
  rfl

/-- A map is that of its entries. -/
theorem ofList_entries (map : NameMap α) : ofList map.entries = map := by
  ext key
  rw [get?_ofList (nodup_of_ascending map.ascending), get?]

/-- The order of pairs with distinct names does not matter. -/
theorem ofList_congr {pairs others : List (String × α)} (hnames : (pairs.map (·.1)).Nodup)
    (hperm : others.Perm pairs) : ofList others = ofList pairs := by
  have hothers : (others.map (·.1)).Nodup := (hperm.map _).nodup_iff.mpr hnames
  ext key value
  rw [get?_ofList_eq_some_iff hothers, get?_ofList_eq_some_iff hnames, hperm.mem_iff]

/-- Leaving out the pairs of several names erases them. -/
theorem ofList_filter_notMem {pairs : List (String × α)} (hnames : (pairs.map (·.1)).Nodup) (names : List String) :
    ofList (pairs.filter fun pair => pair.1 ∉ names) = names.foldl erase (ofList pairs) := by
  ext key value
  rw [get?_ofList_eq_some_iff (hnames.sublist (List.filter_sublist.map _)), get?_foldl_erase, List.mem_filter]
  by_cases h : key ∈ names
  · simp [h]
  · rw [if_neg h, get?_ofList_eq_some_iff hnames]
    simp [h]

/-- Leaving out the pairs of a name erases it. -/
theorem ofList_filter_ne {pairs : List (String × α)} (hnames : (pairs.map (·.1)).Nodup) (name : String) :
    ofList (pairs.filter fun pair => pair.1 ≠ name) = (ofList pairs).erase name := by
  simpa using ofList_filter_notMem hnames [name]

/-! ## Overlays -/

@[simp]
theorem overlay_empty (map : NameMap α) : map.overlay ∅ = map := rfl

@[simp]
theorem empty_overlay (map : NameMap α) : (∅ : NameMap α).overlay map = map := by
  ext key
  simp

/-- Writing a map over itself changes nothing. -/
theorem overlay_self (map : NameMap α) : map.overlay map = map := by
  ext name value
  rw [get?_overlay, Option.or_self]

/-- Overlays are merged in the order they are written. -/
theorem overlay_assoc (a b c : NameMap α) : (a.overlay b).overlay c = a.overlay (b.overlay c) := by
  ext key
  simp [Option.or_assoc]

/-- Inserting into an overlay inserts into what is written. -/
theorem overlay_insert (map other : NameMap α) (name : String) (value : α) :
    map.overlay (other.insert name value) = (map.overlay other).insert name value := by
  ext key
  rw [get?_overlay, get?_insert, get?_insert, get?_overlay]
  split <;> rfl

/-- Inserting pairs from left to right writes their map over a map. -/
theorem foldl_insert_eq_overlay (map : NameMap α) (pairs : List (String × α)) :
    pairs.foldl (fun acc pair => acc.insert pair.1 pair.2) map = map.overlay (ofList pairs) := by
  induction pairs using List.reverseRecOn with
  | nil => rfl
  | append_singleton earlier pair ih => rw [ofList, List.foldl_concat, List.foldl_concat, overlay_insert, ih, ofList]

/-- The pairs of a second list are written over those of the first. -/
theorem ofList_append (pairs more : List (String × α)) :
    ofList (pairs ++ more) = (ofList pairs).overlay (ofList more) := by
  rw [ofList, List.foldl_append]
  exact foldl_insert_eq_overlay (ofList pairs) more

/-- A map is empty when no lookup finds anything. -/
theorem isEmpty_iff {map : NameMap α} : map.isEmpty = true ↔ map = ∅ := by
  constructor
  · intro h
    have hentries : map.entries = [] := List.isEmpty_iff.mp h
    cases map
    cases hentries
    rfl
  · rintro rfl
    rfl

/-- An overlay is empty when both parts are. -/
theorem isEmpty_overlay (map other : NameMap α) :
    (map.overlay other).isEmpty = (map.isEmpty && other.isEmpty) := by
  rw [Bool.eq_iff_iff, Bool.and_eq_true, isEmpty_iff, isEmpty_iff, isEmpty_iff]
  constructor
  · intro h
    have hnone (key : String) : (other.get? key).or (map.get? key) = none := by
      rw [← get?_overlay, h, get?_empty]
    refine ⟨ext fun key => ?_, ext fun key => ?_⟩
    · exact (Option.or_eq_none_iff.mp (hnone key)).2
    · exact (Option.or_eq_none_iff.mp (hnone key)).1
  · rintro ⟨rfl, rfl⟩
    rfl

end SiteBuilder.NameMap
