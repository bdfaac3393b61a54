import SiteBuilder.Proofs.Form.Refusal
import SiteBuilder.Proofs.Studio.Request

/-!
# Refused writes leave no trace

A studio asks its form to write and goes on only if the form has taken the writes. So a refused write changes neither
the form nor the preview, nor when either is due, and a run with refused writes is the run without them: it ends in the
same state, and everything else in it is answered alike.
-/

namespace SiteBuilder

variable {σ : Type} {m : Type → Type}

/-- The request writes a batch, through the studio or its form, to wait or to be committed at once. -/
def StudioRequest.Writes (batch : AnswerSet) : StudioRequest σ m → Prop
  | .act (.update given) | .act (.updateNow given) | .form (.update given) | .form (.updateNow given) => given = batch
  | _ => False

/-- The mismatch that a reply refuses a write with. -/
def StudioReply.refusal? : StudioReply m → Option Mismatch
  | .written (.error mismatch) | .form (.written (.error mismatch)) => some mismatch
  | _ => none

/-- A write is refused with the mismatch in its result. -/
theorem StudioReply.refusal?_written_iff {result : Except Mismatch Unit} {mismatch : Mismatch} :
    (StudioReply.written result : StudioReply m).refusal? = some mismatch ↔ result = .error mismatch := by
  cases result <;> simp [refusal?]

/-- A reply of the form is a refusal if the form refuses a write. -/
theorem StudioReply.refusal?_form_iff {reply : FormReply} {mismatch : Mismatch} :
    (StudioReply.form reply : StudioReply m).refusal? = some mismatch ↔ reply = .written (.error mismatch) := by
  rcases reply with _ | (_ | _) | _ | _ | _ | _ | _ <;> simp [refusal?]

/-- The studio answers a write that is not to wait as its form does. -/
theorem Studio.fst_updateNow [DraftStore σ] (studio : Studio σ) (now : Nat) (batch : AnswerSet) :
    (studio.updateNow now batch).1 = (studio.form.updateNow batch).1 := by
  unfold updateNow
  rcases studio.form.updateNow batch with ⟨mismatch | _, form⟩ <;> rfl

/-- The studio leaves its preview alone if its form refuses a write. -/
theorem Studio.updateNow_of_error [DraftStore σ] {studio : Studio σ} {batch : AnswerSet} {mismatch : Mismatch}
    (h : (studio.form.updateNow batch).1 = .error mismatch) (now : Nat) :
    (studio.updateNow now batch).2 = { studio with form := (studio.form.updateNow batch).2 } := by
  unfold updateNow
  rcases hwritten : studio.form.updateNow batch with ⟨cause | _, form⟩
  · rfl
  · rw [hwritten] at h
    cases h

namespace TimedStudio

variable [DraftStore σ] [Monad m]

/-- The requests of a run without the writes that are refused. -/
def heeded (state : TimedStudio σ) : List (StudioRequest σ m) → List (StudioRequest σ m)
  | [] => []
  | request :: rest =>
    if (state.reply request).refusal?.isSome then state.heeded rest else request :: (state.next request).heeded rest

variable {state : TimedStudio σ} {request : StudioRequest σ m} {mismatch : Mismatch}

/-- The studio and its form refuse a write with its first misfit. -/
theorem refusal_iff {batch : AnswerSet} (hrequest : request.Writes batch) :
    (state.reply request).refusal? = some mismatch ↔
      ∃ config, state.studio.form.config = some config ∧ config.FirstMisfit batch mismatch := by
  have hform (action : FormAction σ) (haction : action.Writes batch) :
      (state.timedForm.step action).1 = .written (.error mismatch) ↔
        ∃ config, state.studio.form.config = some config ∧ config.FirstMisfit batch mismatch :=
    TimedForm.refused_iff haction
  cases request with
  | act action =>
    cases action with
    | update given =>
      refine Iff.trans ?_ (hform (.update given) hrequest)
      exact StudioReply.refusal?_written_iff.trans ⟨congrArg FormReply.written, FormReply.written.inj⟩
    | updateNow given =>
      refine Iff.trans ?_ (hform (.updateNow given) hrequest)
      rw [reply, Studio.fst_updateNow, StudioReply.refusal?_written_iff]
      exact ⟨congrArg FormReply.written, FormReply.written.inj⟩
    | _ => exact hrequest.elim
  | form action =>
    have haction : action.Writes batch := by
      cases action with
      | update given => exact hrequest
      | updateNow given => exact hrequest
      | _ => exact hrequest.elim
    exact StudioReply.refusal?_form_iff.trans (hform action haction)
  | _ => exact hrequest.elim

/-- A request that is refused changes neither the form nor the preview. -/
theorem next_of_refusal (h : (state.reply request).refusal? = some mismatch) : state.next request = state := by
  have hform (action : FormAction σ) (hrefused : (state.timedForm.step action).1 = .written (.error mismatch)) :
      (⟨(state.timedForm.step action).2.clock,
        { state.studio with form := (state.timedForm.step action).2.session }⟩ : TimedStudio σ) = state := by
    rw [TimedForm.step_of_refused hrefused]
    rfl
  cases request with
  | act action =>
    cases action with
    | update batch =>
      have hwritten : (state.studio.form.update state.clock.now batch).1 = .error mismatch :=
        StudioReply.refusal?_written_iff.mp h
      exact hform (.update batch) (congrArg FormReply.written hwritten)
    | updateNow batch =>
      rw [reply, Studio.fst_updateNow, StudioReply.refusal?_written_iff] at h
      rw [next, step, Studio.updateNow_of_error h]
      exact hform (.updateNow batch) (congrArg FormReply.written h)
    | _ => cases h
  | form action => exact hform action (StudioReply.refusal?_form_iff.mp h)
  | _ => cases h

/-- Leaving out the writes that are refused makes no difference to where a run ends. -/
theorem after_heeded (state : TimedStudio σ) (requests : List (StudioRequest σ m)) :
    state.after (state.heeded requests) = state.after requests := by
  induction requests generalizing state with
  | nil => rfl
  | cons request rest ih =>
    rw [heeded]
    cases hrefusal : (state.reply request).refusal? with
    | none => exact ih (state.next request)
    | some mismatch =>
      have hsame : state.after (request :: rest) = state.after rest := by
        rw [after, List.foldl_cons, next_of_refusal hrefusal, after]
      exact (ih state).trans hsame.symm

/-- Leaving out the writes that are refused makes no difference to the other replies. -/
theorem replies_heeded (state : TimedStudio σ) (requests : List (StudioRequest σ m)) :
    state.replies (state.heeded requests) = (state.replies requests).filter (·.refusal?.isNone) := by
  induction requests generalizing state with
  | nil => rfl
  | cons request rest ih =>
    rw [heeded, replies, List.filter_cons]
    cases hrefusal : (state.reply request).refusal? with
    | none => exact congrArg (state.reply request :: ·) (ih (state.next request))
    | some mismatch =>
      rw [next_of_refusal hrefusal]
      exact ih state

/-- A write is refused, by a form of its own as by that of a studio and whether it is to wait or not, exactly if one
of its answers does not fit its field, and the refusal names the first of these in the order of names. Then the form
is as before, with its answers, its queue and when that is due, its problems, its revision, its position and its
drafts, and so is the preview of the studio with what it waits for. So in any run, the writes that are refused could
as well have been left out. -/
theorem refused_writes_change_nothing (form : TimedForm σ) (state : TimedStudio σ) (batch : AnswerSet)
    (mismatch : Mismatch) :
    (∀ action : FormAction σ, action.Writes batch →
      ((form.step action).1 = .written (.error mismatch) ↔
        ∃ config, form.session.config = some config ∧ config.FirstMisfit batch mismatch) ∧
      ((form.step action).1 = .written (.error mismatch) → (form.step action).2 = form)) ∧
    (∀ request : StudioRequest σ m, request.Writes batch →
      ((state.reply request).refusal? = some mismatch ↔
        ∃ config, state.studio.form.config = some config ∧ config.FirstMisfit batch mismatch) ∧
      ((state.reply request).refusal? = some mismatch → state.next request = state)) ∧
    ∀ requests : List (StudioRequest σ m),
      state.after (state.heeded requests) = state.after requests ∧
        state.replies (state.heeded requests) = (state.replies requests).filter (·.refusal?.isNone) := by
  refine ⟨fun action haction => ?_, fun request hrequest => ?_, fun requests => ?_⟩
  · exact ⟨TimedForm.refused_iff haction, TimedForm.step_of_refused⟩
  · exact ⟨refusal_iff hrequest, next_of_refusal⟩
  · exact ⟨state.after_heeded requests, state.replies_heeded requests⟩

/-- Of four answers to be written at once, the second and the third do not fit. The write is refused for the second,
and what waits in the queue goes on waiting. -/
theorem refused_write_of_two_misfits :
    let form := TemplateConfig.simple [("age", .number), ("hire", .boolean), ("hours", .number), ("name", .text)]
    let start : TimedStudio MemoryDrafts := .initial .start {} .empty .empty
    let state := start.run [.selectTemplate "t", .contentLoaded "t" ⟨form, .singleton "index.html" "Hi {name}"⟩,
      .update (.singleton "name" (.text "Ada"))]
    let batch : AnswerSet :=
      .ofList [("name", .text "Grace"), ("hours", .text "many"), ("hire", .text "perhaps"), ("age", .text "36")]
    let request : StudioRequest MemoryDrafts Id := .act (.updateNow batch)
    request.Writes batch ∧ state.studio.form.hasPendingWrites = true ∧
      (state.reply request).refusal? = some ⟨"hire", .boolean, "perhaps"⟩ ∧
      form.FirstMisfit batch ⟨"hire", .boolean, "perhaps"⟩ ∧ state.next request = state := by
  intro form start state batch request
  have hwrites : request.Writes batch := rfl
  have hrefusal : (state.reply request).refusal? = some ⟨"hire", .boolean, "perhaps"⟩ := by decide +kernel
  obtain ⟨-, hrequests, -⟩ :=
    refused_writes_change_nothing state.timedForm state batch ⟨"hire", .boolean, "perhaps"⟩ (m := Id)
  obtain ⟨hiff, hsame⟩ := hrequests request hwrites
  obtain ⟨config, hconfig, hmisfit⟩ := hiff.mp hrefusal
  obtain rfl : form = config := Option.some.inj hconfig
  exact ⟨hwrites, rfl, hrefusal, hmisfit, hsame hrefusal⟩

end TimedStudio

end SiteBuilder
