import SiteBuilder.Drafts.Store
import SiteBuilder.Proofs.NameMap

/-!
# Stores whose calls may fail

What a store of drafts holds is one thing, whether it can be used at the moment is another. A faithful store
hands out what it holds or fails; a call that succeeds changes one draft only, and one that fails to save
changes none. Nothing is said about when calls fail: loading may fail while saving works.
-/

namespace SiteBuilder

/-- The drafts that a store holds are handed out and changed by calls that succeed, one draft at a time. -/
structure DraftStore.Faithful {σ : Type} [DraftStore σ] (held : σ → String → Option AnswerSet) : Prop where
  load : ∀ (store : σ) (id : String) (draft : Option AnswerSet),
    DraftStore.load store id = .ok draft → draft = held store id
  saved : ∀ (store : σ) (id : String) (answers : AnswerSet), (DraftStore.save store id answers).1 = .ok () →
    held (DraftStore.save store id answers).2 id = some answers
  unsaved : ∀ (store : σ) (id : String) (answers : AnswerSet), (DraftStore.save store id answers).1 ≠ .ok () →
    held (DraftStore.save store id answers).2 id = held store id
  cleared : ∀ (store : σ) (id : String), (DraftStore.clear store id).1 = .ok () →
    held (DraftStore.clear store id).2 id = none
  save_other : ∀ (store : σ) (id other : String) (answers : AnswerSet), other ≠ id →
    held (DraftStore.save store id answers).2 other = held store other
  clear_other : ∀ (store : σ) (id other : String), other ≠ id →
    held (DraftStore.clear store id).2 other = held store other

namespace MemoryDrafts

/-- The draft that memory holds for a template, also while the memory does not work. -/
def held (store : MemoryDrafts) (id : String) : Option AnswerSet := store.drafts.get? id

/-- Every call to memory succeeds if it works, and otherwise fails and does nothing. -/
theorem call_cases (store : MemoryDrafts) (id : String) (answers : AnswerSet) :
    (store.working = true ∧ DraftStore.load store id = .ok (store.held id) ∧
        DraftStore.save store id answers =
          (.ok (), { store with drafts := store.drafts.insert id answers, writes := store.writes + 1 }) ∧
        DraftStore.clear store id = (.ok (), { store with drafts := store.drafts.erase id })) ∨
      (store.working = false ∧ DraftStore.load store id = .error .access ∧
        DraftStore.save store id answers = (.error .access, store) ∧
        DraftStore.clear store id = (.error .access, store)) := by
  by_cases hworks : store.working = true
  · left
    exact ⟨hworks, if_pos hworks, if_pos hworks, if_pos hworks⟩
  · right
    exact ⟨by simpa using hworks, if_neg hworks, if_neg hworks, if_neg hworks⟩

/-- Drafts in memory are held faithfully. -/
theorem faithful : DraftStore.Faithful held where
  load store id draft hload := by
    rcases store.call_cases id ∅ with ⟨-, hcall, -, -⟩ | ⟨-, hcall, -, -⟩
    · exact (Except.ok.inj (hcall.symm.trans hload)).symm
    · cases hcall.symm.trans hload
  saved store id answers hsave := by
    rcases store.call_cases id answers with ⟨-, -, hcall, -⟩ | ⟨-, -, hcall, -⟩
    · simp [hcall, held]
    · simp [hcall] at hsave
  unsaved store id answers hsave := by
    rcases store.call_cases id answers with ⟨-, -, hcall, -⟩ | ⟨-, -, hcall, -⟩
    · simp [hcall] at hsave
    · simp [hcall]
  cleared store id hclear := by
    rcases store.call_cases id ∅ with ⟨-, -, -, hcall⟩ | ⟨-, -, -, hcall⟩
    · simp [hcall, held]
    · simp [hcall] at hclear
  save_other store id other answers hother := by
    rcases store.call_cases id answers with ⟨-, -, hcall, -⟩ | ⟨-, -, hcall, -⟩
    · simp [hcall, held, hother]
    · simp [hcall]
  clear_other store id other hother := by
    rcases store.call_cases id ∅ with ⟨-, -, -, hcall⟩ | ⟨-, -, -, hcall⟩
    · simp [hcall, held, hother]
    · simp [hcall]

end MemoryDrafts

end SiteBuilder
