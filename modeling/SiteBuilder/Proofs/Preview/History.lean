import SiteBuilder.Proofs.Preview.Run

/-!
# What happened to a preview

A preview does not remember what it was told and when; it keeps one set of files, two copies of the answers and a
timer. The history of a run does remember, latest moment first, and says without any of these which files and
answers count and which edit is not on show yet.
-/

namespace SiteBuilder.Preview

namespace PreviewAction

/-- The action leaves the template open. -/
def Following : PreviewAction → Prop
  | .open_ _ | .close => False
  | _ => True

/-- The action hands over answers. -/
def Edits : PreviewAction → Prop
  | .answersChanged _ => True
  | _ => False

/-- The action hands over nothing and asks for nothing. -/
def Pauses : PreviewAction → Prop
  | .tick | .targetLoaded _ | .advanceClock _ | .changeRefusal _ => True
  | _ => False

/-- Whoever pauses stays with the template. -/
theorem Pauses.following {action : PreviewAction} (h : action.Pauses) : action.Following := by
  cases action with
  | open_ | close => exact h.elim
  | _ => trivial

/-- Whoever hands over answers stays with the template. -/
theorem Edits.following {action : PreviewAction} (h : action.Edits) : action.Following := by
  cases action with
  | open_ | close => exact h.elim
  | _ => trivial

end PreviewAction

/-- One action of a run and what was seen of it. -/
structure Moment where
  /-- The time the clock showed. -/
  time : Nat
  action : PreviewAction
  /-- Whether it was files, and new ones. -/
  taken : Bool
  /-- Whether it started a render. -/
  rendered : Bool

namespace Moment

/-- The files that were handed over and were new. -/
def files? (moment : Moment) : Option FileSet :=
  match moment.action with
  | .filesChanged files _ => if moment.taken then some files else none
  | _ => none

/-- The answers that were handed over, unless they came with files that were not new. -/
def answers? (moment : Moment) : Option AnswerSet :=
  match moment.action with
  | .filesChanged _ answers => if moment.taken then some answers else none
  | .answersChanged answers => some answers
  | _ => none

/-- The time at which answers were handed over by themselves. -/
def edit? (moment : Moment) : Option Nat :=
  match moment.action with
  | .answersChanged _ => some moment.time
  | _ => none

/-- The new files that were handed over last. -/
def lastFiles? : List Moment → Option FileSet
  | [] => none
  | moment :: earlier => moment.files?.or (lastFiles? earlier)

/-- The answers that were handed over last, by themselves or with new files. -/
def lastAnswers? : List Moment → Option AnswerSet
  | [] => none
  | moment :: earlier => moment.answers?.or (lastAnswers? earlier)

/-- The time of the last edit since a render was started. -/
def lastEdit? : List Moment → Option Nat
  | [] => none
  | moment :: earlier => if moment.rendered then none else moment.edit?.or (lastEdit? earlier)

end Moment

namespace TimedPreview

/-- An action starts a render. -/
def Renders (state : TimedPreview) (action : PreviewAction) : Prop :=
  (state.step action).preview.renders = state.preview.renders + 1

instance (state : TimedPreview) : DecidablePred state.Renders :=
  fun action => inferInstanceAs (Decidable ((state.step action).preview.renders = state.preview.renders + 1))

/-- What is seen of an action. -/
def moment (state : TimedPreview) (action : PreviewAction) : Moment where
  time := state.clock.now
  action := action
  taken :=
    match action with
    | .filesChanged files answers => (state.preview.filesChanged files answers).1
    | _ => false
  rendered := decide (state.Renders action)

/-- The history of a run, latest moment first. -/
def past (state : TimedPreview) : List PreviewAction → List Moment
  | [] => []
  | action :: rest => (state.step action).past rest ++ [state.moment action]

@[simp]
theorem run_cons (state : TimedPreview) (action : PreviewAction) (rest : List PreviewAction) :
    state.run (action :: rest) = (state.step action).run rest := rfl

/-- A run of two parts is a run of the second after the first. -/
theorem run_append (state : TimedPreview) (earlier later : List PreviewAction) :
    state.run (earlier ++ later) = (state.run earlier).run later := List.foldl_append

/-- The last action of a run makes the latest moment. -/
theorem past_concat (state : TimedPreview) (earlier : List PreviewAction) (action : PreviewAction) :
    state.past (earlier ++ [action]) = (state.run earlier).moment action :: state.past earlier := by
  induction earlier generalizing state with
  | nil => rfl
  | cons first rest ih =>
    rw [List.cons_append, past, ih, run_cons]
    rfl

end TimedPreview

end SiteBuilder.Preview
