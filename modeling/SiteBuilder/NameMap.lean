/-!
# Maps from names to values

Answers, validation messages, files and stored drafts are all keyed by a name and always listed
in the order of their names. `NameMap` keeps that order as an invariant: its entries are
strictly ascending, so a name occurs at most once and two maps with the same lookups are equal.

The order is that of the characters' code points, which is also the order of the names' UTF-8
bytes.
-/

namespace SiteBuilder

universe u v

/-- Entries listed by strictly ascending names. -/
structure NameMap (α : Type u) where
  /-- The entries, first name first. -/
  entries : List (String × α)
  /-- Each entry's name comes before the names of all later entries. -/
  ascending : entries.Pairwise (fun a b => a.1 < b.1)

namespace NameMap

variable {α : Type u} {β : Type v}

/-- Put an entry into its place, replacing an entry of the same name. -/
def insertEntry (name : String) (value : α) : List (String × α) → List (String × α)
  | [] => [(name, value)]
  | entry :: rest =>
    if name < entry.1 then (name, value) :: entry :: rest
    else if name = entry.1 then (name, value) :: rest
    else entry :: insertEntry name value rest

/-- An entry after an insertion is the new one or an old one. -/
theorem mem_insertEntry {name : String} {value : α} {entries : List (String × α)}
    {entry : String × α} (h : entry ∈ insertEntry name value entries) :
    entry = (name, value) ∨ entry ∈ entries := by
  induction entries with
  | nil => exact .inl (by simpa [insertEntry] using h)
  | cons head rest ih =>
    rw [insertEntry] at h
    split at h
    · simpa using h
    · split at h
      · rcases List.mem_cons.1 h with h | h
        · exact .inl h
        · exact .inr (List.mem_cons_of_mem _ h)
      · rcases List.mem_cons.1 h with h | h
        · exact .inr (h ▸ List.mem_cons_self)
        · exact (ih h).imp_right (List.mem_cons_of_mem _)

/-- Insertion keeps the names ascending. -/
theorem insertEntry_ascending (name : String) (value : α) {entries : List (String × α)}
    (h : entries.Pairwise (fun a b => a.1 < b.1)) :
    (insertEntry name value entries).Pairwise (fun a b => a.1 < b.1) := by
  induction entries with
  | nil => simp [insertEntry]
  | cons head rest ih =>
    have head_lt : ∀ {entry : String × α}, entry ∈ rest → head.1 < entry.1 :=
      List.rel_of_pairwise_cons h
    rw [insertEntry]
    split
    case isTrue lt =>
      refine List.pairwise_cons.2 ⟨fun entry mem => ?_, h⟩
      rcases List.mem_cons.1 mem with mem | mem
      · exact mem ▸ lt
      · exact String.lt_trans lt (head_lt mem)
    case isFalse not_lt =>
      split
      case isTrue eq =>
        exact List.pairwise_cons.2 ⟨fun entry mem => eq ▸ head_lt mem, h.of_cons⟩
      case isFalse ne =>
        refine List.pairwise_cons.2 ⟨fun entry mem => ?_, ih h.of_cons⟩
        rcases mem_insertEntry mem with mem | mem
        · subst mem
          rcases Std.lt_trichotomy name head.1 with lt | eq | gt
          · exact absurd lt not_lt
          · exact absurd eq ne
          · exact gt
        · exact head_lt mem

/-- The map without entries. -/
def empty : NameMap α := ⟨[], .nil⟩

instance : EmptyCollection (NameMap α) := ⟨empty⟩

instance : Inhabited (NameMap α) := ⟨empty⟩

/-- The value of a name. -/
def get? (map : NameMap α) (name : String) : Option α := map.entries.lookup name

/-- Whether a name has a value. -/
def contains (map : NameMap α) (name : String) : Bool := (map.get? name).isSome

/-- Give a name a value, in place of the one it may have. -/
def insert (map : NameMap α) (name : String) (value : α) : NameMap α :=
  ⟨insertEntry name value map.entries, insertEntry_ascending name value map.ascending⟩

/-- The map without one name. -/
def erase (map : NameMap α) (name : String) : NameMap α :=
  ⟨map.entries.filter (·.1 != name), map.ascending.filter _⟩

/-- The names, in order. -/
def names (map : NameMap α) : List String := map.entries.map (·.1)

/-- The values, in the order of their names. -/
def values (map : NameMap α) : List α := map.entries.map (·.2)

/-- The number of names. -/
def size (map : NameMap α) : Nat := map.entries.length

/-- Whether no name has a value. -/
def isEmpty (map : NameMap α) : Bool := map.entries.isEmpty

/-- Write every entry of `other` over the map. -/
def overlay (map other : NameMap α) : NameMap α :=
  other.entries.foldl (fun acc entry => acc.insert entry.1 entry.2) map

/-- Insert the pairs from left to right; a later pair replaces an earlier one of the same name. -/
def ofList (pairs : List (String × α)) : NameMap α :=
  pairs.foldl (fun acc entry => acc.insert entry.1 entry.2) empty

/-- The map with exactly one name. -/
def singleton (name : String) (value : α) : NameMap α := empty.insert name value

/-- Replace each value by one computed from its name and the value, dropping the names for which
there is none. -/
def filterMap (f : String → α → Option β) (map : NameMap α) : NameMap β :=
  ⟨map.entries.filterMap fun entry => (f entry.1 entry.2).map (entry.1, ·), by
    refine map.ascending.filterMap _ fun a b lt x hx y hy => ?_
    obtain ⟨_, _, rfl⟩ := Option.map_eq_some_iff.1 hx
    obtain ⟨_, _, rfl⟩ := Option.map_eq_some_iff.1 hy
    exact lt⟩

/-- Replace each value by one computed from its name and the value. -/
def mapWithName (f : String → α → β) (map : NameMap α) : NameMap β :=
  ⟨map.entries.map fun entry => (entry.1, f entry.1 entry.2),
    List.pairwise_map.2 map.ascending⟩

instance [DecidableEq α] : DecidableEq (NameMap α) := fun a b =>
  if h : a.entries = b.entries then
    .isTrue (by cases a; cases b; simp_all)
  else
    .isFalse fun eq => h (eq ▸ rfl)

end NameMap

end SiteBuilder
