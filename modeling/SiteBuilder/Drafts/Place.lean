import SiteBuilder.Drafts.Folder

/-!
# Where drafts are kept

Drafts are kept in a folder if there is one, and else in memory.
-/

namespace SiteBuilder

/-- A place to keep drafts. -/
inductive DraftPlace where
  | inMemory (store : MemoryDrafts)
  | inFolder (store : FolderDrafts)

namespace DraftPlace

/-- The place for a folder that may be given. -/
def ofFolder (disk : Disk) : Option String → DraftPlace
  | some folder => .inFolder ⟨disk, folder⟩
  | none => .inMemory .empty

/-- The disk after what was done in a place, given the one before. -/
def diskAfter (disk : Disk) : DraftPlace → Disk
  | .inMemory _ => disk
  | .inFolder store => store.disk

instance : DraftStore DraftPlace where
  load place id :=
    match place with
    | .inMemory store => DraftStore.load store id
    | .inFolder store => DraftStore.load store id
  save place id answers :=
    match place with
    | .inMemory store =>
      let (result, store) := DraftStore.save store id answers
      (result, .inMemory store)
    | .inFolder store =>
      let (result, store) := DraftStore.save store id answers
      (result, .inFolder store)
  clear place id :=
    match place with
    | .inMemory store =>
      let (result, store) := DraftStore.clear store id
      (result, .inMemory store)
    | .inFolder store =>
      let (result, store) := DraftStore.clear store id
      (result, .inFolder store)

end DraftPlace

end SiteBuilder
