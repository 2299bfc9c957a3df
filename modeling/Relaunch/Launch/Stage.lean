import Relaunch.Launch.Context

/-!
# Launch/Stage — what a stage does to a context

A stage is a name and a behaviour for each input.  Most behaviours are **scripts**: actions on the
context, one after another, and an ending.  A behaviour may also be **unbuilt**: the stage panics
before there is anything to run.

`Scene.play` runs the actions of a script and `Scene.close` applies its ending.
-/

namespace Relaunch

/-- What a panic carries: a text, or something that is none. -/
inductive Payload where
  | text (s : String)
  | wordless
deriving DecidableEq, Repr

def Payload.message : Payload → String
  | text s => s
  | wordless => "unknown panic payload"

/-- One action of a stage. -/
inductive Action where
  | succeed
  | fail (cause : Failure)
  /-- Looks at the context. -/
  | observe
  /-- Looks at the input. -/
  | readInput
  | sleep (ms : Nat)
deriving DecidableEq, Repr

/-- How a script ends. -/
inductive Ending where
  | ok
  | error (cause : Failure)
  | panic (payload : Payload)
deriving DecidableEq, Repr

/-- **What a stage does with an input.** -/
inductive Behaviour where
  | unbuilt (payload : Payload)
  | script (actions : List Action) (ending : Ending)
deriving DecidableEq, Repr

structure Stage where
  name : String
  behaviour : LaunchInput → Behaviour

/-- Something a stage saw. -/
inductive Sight where
  | context (c : Context)
  | input (i : LaunchInput)
deriving DecidableEq, Repr

/-- **A running stage**: the context as it is, the time, what the stage has seen, and the times at
which its sleeps were over. -/
structure Scene where
  context : Context
  clock : Nat
  seen : List Sight := []
  pauses : List Nat := []
deriving DecidableEq, Repr

namespace Scene

def act (s : Scene) : Action → Scene
  | .succeed => { s with context := s.context.succeed }
  | .fail cause => { s with context := s.context.fail cause }
  | .observe => { s with seen := s.seen ++ [.context s.context] }
  | .readInput => { s with seen := s.seen ++ [.input s.context.input] }
  | .sleep ms =>
    let time := s.clock + ms
    { s with clock := time, pauses := s.pauses ++ [time] }

/-- The scene after some actions, in their order. -/
def play (s : Scene) (actions : List Action) : Scene := actions.foldl act s

/-- **The context after an ending**: an error or a panic is a failure of the stage, if the launch
has not ended before. -/
def close (s : Scene) (stage : String) : Ending → Context
  | .ok => s.context
  | .error cause => s.context.failWith ⟨stage, .raised, cause⟩
  | .panic payload => s.context.failWith ⟨stage, .panicked, .text payload.message⟩

end Scene

/-- The time at which a script that started at `start` and ended so is done, if it came to its
end. -/
def Ending.stop? (clock : Nat) : Ending → Option Nat
  | ok => some clock
  | error _ | panic _ => none

end Relaunch
