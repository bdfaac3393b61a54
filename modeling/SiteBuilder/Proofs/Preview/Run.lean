import SiteBuilder.Preview.Scheduler
import SiteBuilder.Schedule.Clock

/-!
# Runs of a preview

A run is a list of actions in any order: what the preview is told, late and false confirmations too, time
passing, and the host starting or ceasing to refuse documents. Between two actions the host may have
changed its mind, so any pattern of refusals occurs in some run.
-/

namespace SiteBuilder.Preview

/-- One thing that happens to a preview. -/
inductive PreviewAction where
  | open_ (template : String)
  | close
  | filesChanged (files : FileSet) (answers : AnswerSet)
  | answersChanged (answers : AnswerSet)
  | tick
  | retry
  | targetLoaded (generation : Nat)
  /-- Time passes. -/
  | advanceClock (span : UInt64)
  /-- The host refuses documents from now on, for a reason, or takes them in again. -/
  | changeRefusal (refusal : Option String)

/-- A preview and the clock it goes by. -/
structure TimedPreview where
  clock : Clock
  preview : Scheduler

namespace TimedPreview

/-- Let one action happen. -/
def step (state : TimedPreview) (action : PreviewAction) : TimedPreview :=
  let now := state.clock.now
  let preview := state.preview
  match action with
  | .open_ template => { state with preview := preview.open_ template }
  | .close => { state with preview := preview.close }
  | .filesChanged files answers => { state with preview := (preview.filesChanged files answers).2 }
  | .answersChanged answers => { state with preview := preview.answersChanged now answers }
  | .tick => { state with preview := (preview.tick now).2 }
  | .retry => { state with preview := preview.retry.2 }
  | .targetLoaded generation => { state with preview := (preview.targetLoaded generation).2 }
  | .advanceClock span => { state with clock := state.clock.advance span }
  | .changeRefusal refusal => { state with preview := { preview with host := { preview.host with refusal } } }

/-- Let actions happen one after the other. -/
def run (state : TimedPreview) (actions : List PreviewAction) : TimedPreview :=
  actions.foldl step state

/-- What every action keeps, a run keeps. -/
theorem run_induction {Holds : Scheduler → Prop}
    (hstep : ∀ state : TimedPreview, ∀ action, Holds state.preview → Holds (state.step action).preview)
    {state : TimedPreview} (hstart : Holds state.preview) (actions : List PreviewAction) :
    Holds (state.run actions).preview := by
  induction actions generalizing state with
  | nil => exact hstart
  | cons action rest ih => exact ih (hstep state action hstart)

end TimedPreview

end SiteBuilder.Preview
