import SiteBuilder.Form.Session
import SiteBuilder.Proofs.Form.Accepted
import SiteBuilder.Schedule.Clock

/-!
# Runs of a form session

A run is a list of actions in any order: what a user or a program does with the session, time passing,
and changes of the draft store that the session has no part in. A single write is a batch with one
name. The store is a parameter; it may lose drafts, refuse calls and answer anything.
-/

namespace SiteBuilder

/-- One thing that happens to a session. -/
inductive FormAction (σ : Type) where
  | selectTemplate (id : String)
  | applyConfig (config : TemplateConfig)
  | update (batch : AnswerSet)
  | updateNow (batch : AnswerSet)
  | flushDue
  | flushNow
  | resetForm
  | clearTemplate
  | submit
  | validateStep (id : String)
  | validateAll
  | advanceStep
  | retreatStep
  | goToStep (position : Nat)
  | touch (name : String)
  | register (name : String) (predicate : Predicate)
  /-- Time passes. -/
  | advanceClock (span : UInt64)
  /-- The store of drafts is changed from outside, or starts or stops to fail. -/
  | changeDrafts (drafts : σ)

namespace FormAction

variable {σ : Type}

/-- The form of an action, if it takes one up, is an accepted one. -/
def Accepted : FormAction σ → Prop
  | .applyConfig config => config.Accepted
  | _ => True

end FormAction

/-- What an action hands back. -/
inductive FormReply where
  /-- Nothing. -/
  | done
  /-- Whether writes were taken. -/
  | written (result : Except Mismatch Unit)
  /-- Whether there was a queue to commit. -/
  | flushed (committed : Bool)
  /-- The problems that were found. -/
  | checked (problems : ValidationErrors)
  /-- What a request for another step came to. -/
  | stepped (outcome : StepMove)
  /-- Whether the position exists. -/
  | placed (found : Bool)
  /-- The answers to export, or the problems in the way. -/
  | submitted (outcome : Except ValidationErrors AnswerSet)

/-- A session and the clock it goes by. -/
structure TimedForm (σ : Type) where
  clock : Clock
  session : FormSession σ

namespace TimedForm

variable {σ : Type} [DraftStore σ]

/-- Let one action happen. -/
def step (state : TimedForm σ) (action : FormAction σ) : FormReply × TimedForm σ :=
  let now := state.clock.now
  let session := state.session
  match action with
  | .selectTemplate id => (.done, { state with session := session.selectTemplate id })
  | .applyConfig config => (.done, { state with session := session.applyConfig now config })
  | .update batch =>
    (.written (session.update now batch).1, { state with session := (session.update now batch).2 })
  | .updateNow batch =>
    (.written (session.updateNow batch).1, { state with session := (session.updateNow batch).2 })
  | .flushDue => (.flushed (session.flushDue now).1, { state with session := (session.flushDue now).2 })
  | .flushNow => (.flushed session.flushNow.1, { state with session := session.flushNow.2 })
  | .resetForm => (.done, { state with session := session.resetForm })
  | .clearTemplate => (.done, { state with session := session.clearTemplate })
  | .submit => (.submitted session.submit.1, { state with session := session.submit.2 })
  | .validateStep id =>
    (.checked (session.validateStep id).1, { state with session := (session.validateStep id).2 })
  | .validateAll => (.checked session.validateAll.1, { state with session := session.validateAll.2 })
  | .advanceStep => (.stepped session.advanceStep.1, { state with session := session.advanceStep.2 })
  | .retreatStep => (.stepped session.retreatStep.1, { state with session := session.retreatStep.2 })
  | .goToStep position =>
    (.placed (session.goToStep position).1, { state with session := (session.goToStep position).2 })
  | .touch name => (.done, { state with session := session.touch name })
  | .register name predicate => (.done, { state with session := session.register name predicate })
  | .advanceClock span => (.done, { state with clock := state.clock.advance span })
  | .changeDrafts drafts => (.done, { state with session := { session with drafts } })

/-- Let actions happen one after the other. -/
def run (state : TimedForm σ) (actions : List (FormAction σ)) : TimedForm σ :=
  actions.foldl (fun state action => (state.step action).2) state

/-- What the actions of a run hand back, in order. -/
def replies (state : TimedForm σ) : List (FormAction σ) → List FormReply
  | [] => []
  | action :: rest => (state.step action).1 :: (state.step action).2.replies rest

@[simp]
theorem run_nil (state : TimedForm σ) : state.run [] = state := rfl

@[simp]
theorem run_cons (state : TimedForm σ) (action : FormAction σ) (rest : List (FormAction σ)) :
    state.run (action :: rest) = (state.step action).2.run rest := rfl

/-- The second part of a run follows the first. -/
theorem run_append (state : TimedForm σ) (earlier later : List (FormAction σ)) :
    state.run (earlier ++ later) = (state.run earlier).run later := List.foldl_append

/-- The last action of a run happens after the others. -/
theorem run_concat (state : TimedForm σ) (earlier : List (FormAction σ)) (action : FormAction σ) :
    state.run (earlier ++ [action]) = ((state.run earlier).step action).2 :=
  List.foldl_concat _ _ _ _

/-- What every action of a run keeps, the run keeps. -/
theorem run_induction {Holds : FormSession σ → Prop} {Allowed : FormAction σ → Prop}
    (hstep : ∀ state : TimedForm σ, ∀ action, Allowed action → Holds state.session →
      Holds (state.step action).2.session)
    {state : TimedForm σ} (hstart : Holds state.session) {actions : List (FormAction σ)}
    (hactions : ∀ action ∈ actions, Allowed action) : Holds (state.run actions).session := by
  induction actions generalizing state with
  | nil => exact hstart
  | cons action rest ih =>
    exact ih (hstep state action (hactions action List.mem_cons_self) hstart)
      fun later hlater => hactions later (List.mem_cons_of_mem _ hlater)

end TimedForm

end SiteBuilder
