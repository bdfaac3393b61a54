import SiteBuilder.Schedule.Clock
import SiteBuilder.Studio

/-!
# Runs of a studio

A run is a list of actions in any order: what the studio is asked, time passing, what the host of its
preview does, and changes of the draft store from outside. Contents may arrive for any template, late and
more than once. A single write is a batch with one name.
-/

namespace SiteBuilder

/-- One thing that happens to a studio. -/
inductive StudioAction (σ : Type) where
  | selectTemplate (id : String)
  | contentLoaded (id : String) (content : TemplateContent)
  | update (batch : AnswerSet)
  | updateNow (batch : AnswerSet)
  | resetForm
  | tick
  | exportBundle
  /-- The host of the preview confirms a target. -/
  | targetLoaded (generation : Nat)
  /-- A failed render is tried again. -/
  | retry
  /-- The host of the preview refuses documents from now on, for a reason, or takes them in again. -/
  | changeRefusal (refusal : Option String)
  /-- Time passes. -/
  | advanceClock (span : UInt64)
  /-- The store of drafts is changed from outside, or starts or stops to fail. -/
  | changeDrafts (drafts : σ)

/-- A studio and the clock it goes by. -/
structure TimedStudio (σ : Type) where
  clock : Clock
  studio : Studio σ

namespace TimedStudio

variable {σ : Type}

/-- A new studio and the clock it goes by. -/
def initial (clock : Clock) (settings : Settings) (drafts : σ) (host : Preview.Host) : TimedStudio σ :=
  ⟨clock, .start settings drafts host⟩

variable [DraftStore σ]

/-- Let one action happen. -/
def step (state : TimedStudio σ) (action : StudioAction σ) : TimedStudio σ :=
  let now := state.clock.now
  let studio := state.studio
  match action with
  | .selectTemplate id => { state with studio := studio.selectTemplate id }
  | .contentLoaded id content => { state with studio := (studio.contentLoaded now id content).2 }
  | .update batch => { state with studio := (studio.update now batch).2 }
  | .updateNow batch => { state with studio := (studio.updateNow now batch).2 }
  | .resetForm => { state with studio := studio.resetForm now }
  | .tick => { state with studio := (studio.tick now).2 }
  | .exportBundle => { state with studio := (studio.exportBundle now).2 }
  | .targetLoaded generation =>
    { state with studio := { studio with preview := (studio.preview.targetLoaded generation).2 } }
  | .retry => { state with studio := { studio with preview := studio.preview.retry.2 } }
  | .changeRefusal refusal =>
    let preview := { studio.preview with host := { studio.preview.host with refusal } }
    { state with studio := { studio with preview } }
  | .advanceClock span => { state with clock := state.clock.advance span }
  | .changeDrafts drafts => { state with studio := { studio with form := { studio.form with drafts } } }

/-- Let actions happen one after the other. -/
def run (state : TimedStudio σ) (actions : List (StudioAction σ)) : TimedStudio σ :=
  actions.foldl step state

@[simp]
theorem run_nil (state : TimedStudio σ) : state.run [] = state := rfl

@[simp]
theorem run_cons (state : TimedStudio σ) (action : StudioAction σ) (rest : List (StudioAction σ)) :
    state.run (action :: rest) = (state.step action).run rest := rfl

end TimedStudio

end SiteBuilder
