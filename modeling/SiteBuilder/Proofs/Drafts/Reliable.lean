import SiteBuilder.Drafts.Store
import SiteBuilder.Proofs.NameMap

/-!
# Stores that do not fail

A store of drafts is reliable while saving succeeds and what is read back afterwards depends on the saved
answers alone. It need not be what was saved: a store that writes documents keeps what their format can say.
-/

namespace SiteBuilder

/-- While `works` holds of a store, saving succeeds and leaves it working, and the draft that is then
read back is what is kept of the saved answers. -/
structure DraftStore.Reliable {σ : Type} [DraftStore σ] (works : σ → Prop)
    (kept : AnswerSet → Option AnswerSet) : Prop where
  save : ∀ (store : σ) (id : String) (answers : AnswerSet), works store →
    ∃ saved : σ, DraftStore.save store id answers = (.ok (), saved) ∧ works saved ∧
      DraftStore.load saved id = .ok (kept answers)

/-- Drafts in memory are kept as they are while the memory works. -/
theorem MemoryDrafts.reliable :
    DraftStore.Reliable (fun store : MemoryDrafts => store.working = true) some where
  save store id answers hworks := by
    refine ⟨{ store with drafts := store.drafts.insert id answers, writes := store.writes + 1 }, ?_, hworks, ?_⟩
    · simp only [DraftStore.save, hworks, ↓reduceIte]
    · simp only [DraftStore.load, hworks, ↓reduceIte, NameMap.get?_insert]

end SiteBuilder
