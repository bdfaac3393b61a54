import SiteBuilder.Disk.Basic
import SiteBuilder.Drafts.Store
import SiteBuilder.Form.Document

/-!
# Drafts in a folder

Every draft is a JSON document of its own in one folder of a disk. Its name is made of the template's
identifier, with underscores for what is no letter, digit, hyphen or underscore. A document that cannot be
read as answers counts as no draft.
-/

namespace SiteBuilder

/-- A folder of drafts. -/
structure FolderDrafts where
  disk : Disk
  folder : String

namespace FolderDrafts

/-- A character as it stands in the name of a draft. -/
def safeChar (c : Char) : Char := if c.isAlphanum || c == '-' || c == '_' then c else '_'

/-- The path of a template's draft. -/
def pathOf (store : FolderDrafts) (id : String) : String := Path.join store.folder (id.map safeChar ++ ".json")

/-- The draft of a template. -/
def load (store : FolderDrafts) (id : String) : Except DraftError (Option AnswerSet) :=
  if store.disk.exists? (store.pathOf id) then
    match store.disk.readText (store.pathOf id) with
    | .ok text => .ok (AnswerSet.ofJson? text)
    | .error _ => .error .access
  else .ok none

/-- The document of a draft. -/
def document (answers : AnswerSet) : Node := .ofText (Json.pretty (AnswerSet.toDatum answers))

/-- Keep answers as the draft of a template. The folder is made if it is not there. -/
def save (store : FolderDrafts) (id : String) (answers : AnswerSet) : Except DraftError Unit × FolderDrafts :=
  match store.disk.makeFolders store.folder with
  | .error _ => (.error .access, store)
  | .ok disk =>
    match disk.write (store.pathOf id) (document answers) with
    | .error _ => (.error .access, { store with disk })
    | .ok disk => (.ok (), { store with disk })

/-- Forget the draft of a template. -/
def clear (store : FolderDrafts) (id : String) : Except DraftError Unit × FolderDrafts :=
  if store.disk.exists? (store.pathOf id) then
    match store.disk.remove (store.pathOf id) with
    | .ok disk => (.ok (), { store with disk })
    | .error _ => (.error .access, store)
  else (.ok (), store)

instance : DraftStore FolderDrafts := ⟨load, save, clear⟩

end FolderDrafts

end SiteBuilder
