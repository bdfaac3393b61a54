import SiteBuilder.Drafts.Store
import SiteBuilder.Proofs.NameMap

/-!
# The same draft in two stores

Two stores have the same draft of a template if loading cannot tell them apart, now or after both were asked to
save and to forget the same drafts. Where a store keeps its drafts and whether its calls fail is left open, so the
condition covers stores that come to fail in the same way. Of drafts in memory it says that loading gives the same.
-/

namespace SiteBuilder

/-- A call that may change the drafts of a store. -/
inductive DraftCall where
  | save (id : String) (answers : AnswerSet)
  | clear (id : String)

namespace DraftStore

variable {σ : Type} [DraftStore σ]

/-- A store after a call. -/
def after (store : σ) : DraftCall → σ
  | .save id answers => (save store id answers).2
  | .clear id => (clear store id).2

/-- The draft of a template is the same in two stores, whatever both are asked. -/
def SameDraft (id : String) (a b : σ) : Prop :=
  ∀ calls : List DraftCall, load (calls.foldl after a) id = load (calls.foldl after b) id

/-- A store has the same drafts as itself. -/
theorem SameDraft.refl (id : String) (store : σ) : SameDraft id store store := fun _ => rfl

/-- The answers that a form of a template starts with: those of its draft, if there is one and it can be loaded. -/
def answers (store : σ) (id : String) : AnswerSet :=
  match load store id with
  | .ok draft => draft.getD ∅
  | .error _ => ∅

/-- Without a draft that can be loaded, a form starts without answers. -/
theorem answers_of_no_draft {store : σ} {id : String} (h : ∀ draft, load store id ≠ .ok (some draft)) :
    answers store id = ∅ := by
  rw [answers]
  cases hload : load store id with
  | error cause => rfl
  | ok found =>
    cases found with
    | none => rfl
    | some draft => exact absurd hload (h draft)

variable {id : String} {a b : σ}

/-- The same draft is loaded from both stores. -/
theorem SameDraft.load_eq (h : SameDraft id a b) : load a id = load b id := h []

/-- A form starts with the same answers from both stores. -/
theorem SameDraft.answers_eq (h : SameDraft id a b) : answers a id = answers b id := by
  rw [answers, answers, h.load_eq]

/-- The draft stays the same when both stores are asked the same. -/
theorem SameDraft.after (h : SameDraft id a b) (call : DraftCall) :
    SameDraft id (DraftStore.after a call) (DraftStore.after b call) :=
  fun calls => h (call :: calls)

end DraftStore

/-- What a call makes of the draft of a template, in a store that works. -/
def DraftCall.draft (id : String) : DraftCall → Option AnswerSet → Option AnswerSet
  | .save other answers, draft => if id = other then some answers else draft
  | .clear other, draft => if id = other then none else draft

namespace MemoryDrafts

/-- What is loaded after a call depends on what was loaded before. -/
theorem load_after (store : MemoryDrafts) (call : DraftCall) (id : String) :
    DraftStore.load (DraftStore.after store call) id = (DraftStore.load store id).map (call.draft id) := by
  by_cases hworks : store.working = true
  · cases call with
    | save other answers =>
      simp only [DraftStore.after, DraftStore.save, DraftStore.load, if_pos hworks, Except.map, DraftCall.draft,
        NameMap.get?_insert]
    | clear other =>
      simp only [DraftStore.after, DraftStore.clear, DraftStore.load, if_pos hworks, Except.map, DraftCall.draft,
        NameMap.get?_erase]
  · cases call with
    | save other answers =>
      simp only [DraftStore.after, DraftStore.save, DraftStore.load, if_neg hworks, Except.map]
    | clear other => simp only [DraftStore.after, DraftStore.clear, DraftStore.load, if_neg hworks, Except.map]

/-- Two memories have the same draft of a template if the same is loaded from both. -/
theorem sameDraft_iff {id : String} {a b : MemoryDrafts} :
    DraftStore.SameDraft id a b ↔ DraftStore.load a id = DraftStore.load b id := by
  refine ⟨DraftStore.SameDraft.load_eq, fun h calls => ?_⟩
  induction calls generalizing a b with
  | nil => exact h
  | cons call rest ih => exact ih (by rw [load_after, load_after, h])

end MemoryDrafts

end SiteBuilder
