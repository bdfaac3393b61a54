import SiteBuilder.Drafts.Place
import SiteBuilder.Proofs.Disk.MakeFolders

/-!
# Archives on a disk

An archive comes to stand on a disk only where one is put. Making folders and keeping drafts put folders without
entries and texts, so no archive stands anywhere after them that did not stand there before.
-/

namespace SiteBuilder

namespace Disk

variable {disk after later : Disk} {place : Place} {location : List String} {archive : Archive} {path : String}

/-- What was put in a folder is found at its place. -/
theorem at?_put_place (hfolder : disk.FolderAt place.folder) (node : Node) :
    (disk.put place (some node)).root.at? (place.folder ++ [place.name]) = some node := by
  obtain ⟨found, hfound, hisFolder⟩ := hfolder
  cases found with
  | file bytes => cases hisFolder
  | archive contents => cases hisFolder
  | folder entries => rw [at?_concat (at?_put_folder hfound _), Node.lookup_setEntry_self]

/-- An archive that stands on a disk after something was put in a folder stood there before or is part of that. -/
theorem archive_of_at?_put (hfolder : disk.FolderAt place.folder) {node : Node}
    (h : (disk.put place (some node)).root.at? location = some (.archive archive)) :
    disk.root.at? location = some (.archive archive) ∨
      ∃ below, location = place.folder ++ [place.name] ++ below ∧ node.at? below = some (.archive archive) := by
  by_cases hbelow : place.folder ++ [place.name] <+: location
  · obtain ⟨below, rfl⟩ := hbelow
    rw [Node.at?_append, at?_put_place hfolder, Option.bind_some] at h
    exact Or.inr ⟨below, rfl, h⟩
  by_cases hway : location <+: place.folder ++ [place.name]
  · -- On the way there are only folders, as there were before.
    rcases List.prefix_concat_iff.mp hway with rfl | ⟨rest, hrest⟩
    · exact absurd List.prefix_rfl hbelow
    · obtain ⟨found, hfound, hisFolder⟩ := folderAt_of_append (hrest ▸ hfolder)
      have hput := Node.at?_set_front hfound (List.append_ne_nil_of_right_ne_nil rest (List.cons_ne_nil place.name []))
        (some node)
      rw [← List.append_assoc, hrest] at hput
      have hfolder' := Node.isFolder_set hisFolder (some node) (rest ++ [place.name])
      rw [Option.some.inj (hput.symm.trans h)] at hfolder'
      cases hfolder'
  · left
    rwa [put, Node.at?_set_apart hway hbelow] at h

/-- No archive stands anywhere on a disk that did not stand there before something happened to it. -/
def NoNewArchive (disk after : Disk) : Prop :=
  ∀ location archive, after.root.at? location = some (.archive archive) →
    disk.root.at? location = some (.archive archive)

/-- Nothing happened. -/
theorem NoNewArchive.refl (disk : Disk) : disk.NoNewArchive disk := fun _ _ h => h

/-- What is not new after each of two things is not new after both. -/
theorem NoNewArchive.trans (h : disk.NoNewArchive after) (hlater : after.NoNewArchive later) :
    disk.NoNewArchive later :=
  fun location archive hstands => h location archive (hlater location archive hstands)

/-- What is put in a folder brings no archive if there is none in it. -/
theorem noNewArchive_put (hfolder : disk.FolderAt place.folder) {node : Node}
    (hnode : ∀ below archive, node.at? below ≠ some (.archive archive)) :
    disk.NoNewArchive (disk.put place (some node)) := by
  intro location archive hstands
  refine (archive_of_at?_put hfolder hstands).resolve_right ?_
  rintro ⟨below, -, hbelow⟩
  exact hnode below archive hbelow

/-- Writing a file that is no archive puts no archive on the disk. -/
theorem noNewArchive_of_write {bytes : List UInt8} (h : disk.write path (.file bytes) = .ok after) :
    disk.NoNewArchive after := by
  obtain ⟨place, hplace, -, -, rfl⟩ := put_of_write h
  obtain ⟨-, -, -, hfolder, -⟩ := walk_of_place hplace
  refine noNewArchive_put hfolder fun below archive hbelow => ?_
  cases below <;> cases hbelow

/-- A folder that is made has no archive in it. -/
theorem noNewArchive_of_makeFolder (h : disk.makeFolder path = .ok after) : disk.NoNewArchive after := by
  obtain ⟨place, hplace, -, -, rfl⟩ := put_of_makeFolder h
  obtain ⟨-, -, -, hfolder, -⟩ := walk_of_place hplace
  refine noNewArchive_put hfolder fun below archive hbelow => ?_
  cases below <;> cases hbelow

/-- Folders that are made on the way to one have no archives in them. -/
theorem noNewArchive_of_makeFoldersAt {parts : List Path.Part} (h : disk.makeFoldersAt path parts = .ok after) :
    disk.NoNewArchive after := by
  induction parts generalizing path after with
  | nil =>
    cases h
    exact .refl disk
  | cons part before ih =>
    obtain ⟨made, hmade, hresult⟩ := exists_of_makeFoldersAt_cons h
    have hkept : disk.NoNewArchive made := by
      rcases hmade with rfl | hinner
      · exact .refl made
      · exact ih hinner
    rcases hresult with hmake | rfl
    · exact hkept.trans (noNewArchive_of_makeFolder hmake)
    · exact hkept

/-- A folder that is made with those on the way to it has no archives in it. -/
theorem noNewArchive_of_makeFolders (h : disk.makeFolders path = .ok after) : disk.NoNewArchive after :=
  noNewArchive_of_makeFoldersAt h

end Disk

/-! ## Drafts -/

/-- Keeping a draft in a folder puts no archive on the disk. -/
theorem FolderDrafts.noNewArchive_save (store : FolderDrafts) (id : String) (answers : AnswerSet) :
    store.disk.NoNewArchive (store.save id answers).2.disk := by
  unfold save
  cases hmake : store.disk.makeFolders store.folder with
  | error cause => exact .refl _
  | ok disk =>
    have hmade := Disk.noNewArchive_of_makeFolders hmake
    dsimp only
    cases hwrite : disk.write (store.pathOf id) (document answers) with
    | error cause => exact hmade
    | ok written => exact hmade.trans (Disk.noNewArchive_of_write hwrite)

/-- Keeping a draft puts no archive on the disk, wherever drafts are kept. -/
theorem DraftPlace.noNewArchive_save (disk : Disk) (folder : Option String) (id : String) (answers : AnswerSet) :
    disk.NoNewArchive ((DraftStore.save (ofFolder disk folder) id answers).2.diskAfter disk) := by
  cases folder with
  | none => exact .refl disk
  | some folder => exact FolderDrafts.noNewArchive_save ⟨disk, folder⟩ id answers

end SiteBuilder
