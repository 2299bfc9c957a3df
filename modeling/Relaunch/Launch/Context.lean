import Relaunch.Failure
import Relaunch.Launch.Input

/-!
# Launch/Context — the state of one launch, shared by its stages

A context belongs to one launch.  Stages end the launch by marking it a success or a failure; the
first mark counts and later ones are ignored.  After each stage its outcome is noted.

* `Context.succeed_of_isTerminal`, `Context.failWith_of_isTerminal` — a mark on an ended launch
  changes nothing.
-/

namespace Relaunch

/-- How a stage came to fail. -/
inductive StageErrorKind where
  /-- The stage marked the launch as failed. -/
  | reported
  /-- The stage returned an error. -/
  | raised
  | panicked
deriving DecidableEq, Repr

def StageErrorKind.name : StageErrorKind → String
  | reported => "Reported"
  | raised => "Raised"
  | panicked => "Panicked"

/-- **Why a launch failed**, and in which stage. -/
structure StageError where
  stage : String
  kind : StageErrorKind
  cause : Failure
deriving DecidableEq, Repr

def StageError.message (e : StageError) : String :=
  "stage " ++ e.stage ++
    (match e.kind with
      | .reported => " failed: "
      | .raised => " raised an error: "
      | .panicked => " panicked: ") ++ e.cause.message

/-- What a stage left behind. -/
inductive StageStatus where
  | continued
  | succeeded
  | failed
deriving DecidableEq, Repr

def StageStatus.name : StageStatus → String
  | continued => "Continued"
  | succeeded => "Succeeded"
  | failed => "Failed"

structure StageOutcome where
  stage : String
  status : StageStatus
deriving DecidableEq, Repr

/-- How a launch ended. -/
inductive Terminal where
  | success
  | failure (e : StageError)
deriving DecidableEq, Repr

/-- **The state of a launch**: its input, the outcomes of the stages that ran, its end if it has
one, and the stage that is running. -/
structure Context where
  input : LaunchInput
  outcomes : List StageOutcome := []
  terminal : Option Terminal := none
  current : Option String := none
deriving DecidableEq, Repr

namespace Context

/-- The stage that a failure is charged to when none is running. -/
def unknownStage : String := "unknown"

def isTerminal (c : Context) : Bool := c.terminal.isSome

def isSuccess (c : Context) : Bool := c.terminal == some .success

def failure? (c : Context) : Option StageError :=
  match c.terminal with
  | some (.failure e) => some e
  | _ => none

/-- **Ends the launch**, unless it has ended. -/
def finish (c : Context) (t : Terminal) : Context :=
  match c.terminal with
  | none => { c with terminal := some t }
  | some _ => c

def succeed (c : Context) : Context := c.finish .success

def failWith (c : Context) (e : StageError) : Context := c.finish (.failure e)

/-- Ends the launch with a failure of the stage that is running. -/
def fail (c : Context) (cause : Failure) : Context :=
  c.failWith ⟨c.current.getD unknownStage, .reported, cause⟩

def enter (c : Context) (stage : String) : Context := { c with current := some stage }

def status (c : Context) : StageStatus :=
  match c.terminal with
  | none => .continued
  | some .success => .succeeded
  | some (.failure _) => .failed

/-- Notes the outcome of a stage, after which none is running. -/
def leave (c : Context) (stage : String) : Context :=
  { c with outcomes := c.outcomes ++ [⟨stage, c.status⟩], current := none }

/-! ## The first end counts -/

theorem finish_of_isTerminal {c : Context} (h : c.isTerminal) (t : Terminal) : c.finish t = c := by
  unfold isTerminal at h
  unfold finish
  split <;> simp_all

theorem succeed_of_isTerminal {c : Context} (h : c.isTerminal) : c.succeed = c :=
  finish_of_isTerminal h _

theorem failWith_of_isTerminal {c : Context} (h : c.isTerminal) (e : StageError) :
    c.failWith e = c :=
  finish_of_isTerminal h _

@[simp] theorem isTerminal_finish (c : Context) (t : Terminal) : (c.finish t).isTerminal := by
  unfold finish isTerminal
  split <;> simp_all

end Context

end Relaunch
