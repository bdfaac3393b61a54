import SiteBuilder.Form.Answer

/-!
# Draft stores

A draft is the set of answers last committed for a template. A `DraftStore` keeps one per template
identifier; each of its operations may fail. `MemoryDrafts` keeps drafts for as long as the program
runs and can be put out of order and back.
-/

namespace SiteBuilder

/-- Why an operation on drafts failed. -/
inductive DraftError where
  /-- The place where drafts are kept could not be used. -/
  | access
  /-- The answers have no written form. -/
  | encoding
  deriving DecidableEq

/-- A place to keep drafts. -/
class DraftStore (σ : Type) where
  /-- The draft of a template, if there is one. -/
  load : σ → String → Except DraftError (Option AnswerSet)
  /-- Keep answers as the draft of a template. -/
  save : σ → String → AnswerSet → Except DraftError Unit × σ
  /-- Forget the draft of a template. -/
  clear : σ → String → Except DraftError Unit × σ

/-- Drafts in memory. -/
structure MemoryDrafts where
  /-- The drafts by the identifiers of their templates. -/
  drafts : NameMap AnswerSet
  /-- How many drafts were saved. -/
  writes : Nat
  /-- Whether the store works; while it does not, every operation fails and changes nothing. -/
  working : Bool
  deriving DecidableEq

namespace MemoryDrafts

/-- A store without drafts. -/
def empty : MemoryDrafts := ⟨∅, 0, true⟩

instance : DraftStore MemoryDrafts where
  load store id := if store.working then .ok (store.drafts.get? id) else .error .access
  save store id answers :=
    if store.working then
      (.ok (), { store with drafts := store.drafts.insert id answers, writes := store.writes + 1 })
    else (.error .access, store)
  clear store id :=
    if store.working then (.ok (), { store with drafts := store.drafts.erase id })
    else (.error .access, store)

end MemoryDrafts

end SiteBuilder
