import Relaunch.Launch.Hooks

/-!
# Launch/Pipeline — stages run in order over one context

The stages of a pipeline run one after another until one ends the launch.  A launch that no stage
ended is a success.  Then the hook for its end is called.

A panic while a stage runs is a failure of that stage.  A panic before a stage is built, and a panic
of a hook, leave the launch without a result: it is **unwound**.

`Pipeline.run` gives the whole course of a launch, with the times at which its stages ran and those
at which it went on after a sleep.
-/

namespace Relaunch

structure Pipeline where
  stages : List Stage
  hooks : Hooks := .noop

/-- One stage of one launch: when it started and, unless it raised an error or panicked, when it
returned. -/
structure Visit where
  workload : String
  stage : String
  start : Nat
  stop : Option Nat
  seen : List Sight
deriving DecidableEq, Repr

/-- A call of a hook. -/
inductive Callback where
  | success (workload : String)
  | failure (workload : String)
deriving DecidableEq, Repr

/-- How the run of a pipeline returned. -/
inductive RunEnding where
  | finished (c : Context)
  | unwound (payload : Payload)
deriving DecidableEq, Repr

/-- **The course of a launch.** -/
structure Run where
  ending : RunEnding
  start : Nat
  finish : Nat
  /-- When its sleeps were over, in their order. -/
  pauses : List Nat := []
  visits : List Visit := []
  events : List Event := []
  callbacks : List Callback := []
  reports : List FailureReport := []
deriving DecidableEq

/-- A launch on its way through the stages. -/
structure Course where
  context : Context
  clock : Nat
  pauses : List Nat := []
  visits : List Visit := []
  events : List Event := []
deriving DecidableEq

namespace Course

/-- The course after a stage with a script. -/
def after (c : Course) (stage : String) (actions : List Action) (ending : Ending) : Course :=
  let scene := Scene.play { context := c.context.enter stage, clock := c.clock } actions
  let context := (scene.close stage ending).leave stage
  let id := c.context.input.id
  { context
    clock := scene.clock
    pauses := c.pauses ++ scene.pauses
    visits := c.visits ++ [⟨id, stage, c.clock, ending.stop? scene.clock, scene.seen⟩]
    events := c.events ++ [.stageFinished id stage context.isTerminal] }

/-- The course after a stage that panicked before it was built. -/
def unbuilt (c : Course) (stage : String) : Course :=
  { c with
    context := c.context.enter stage
    visits := c.visits ++ [⟨c.context.input.id, stage, c.clock, none, []⟩] }

/-- **The course through some stages**, and the panic that cut it short. -/
def through (c : Course) : List Stage → Course × Option Payload
  | [] => (c, none)
  | stage :: stages =>
    if c.context.isTerminal then (c, none)
    else match stage.behaviour c.context.input with
      | .unbuilt payload => (c.unbuilt stage.name, some payload)
      | .script actions ending => (c.after stage.name actions ending).through stages

end Course

namespace Pipeline

/-- The end of a launch whose stages are through: the mark of success where none was made, the log
line, and the hook. -/
def conclude (p : Pipeline) (start : Nat) (c : Course) : Run :=
  let context := c.context.succeed
  let id := context.input.id
  let (event, callback, reaction) :=
    match context.failure? with
    | some e => (Event.launchFailed id e, Callback.failure id, p.hooks.onFailure context e)
    | none => (Event.launchSucceeded id, Callback.success id, p.hooks.onSuccess context)
  { ending :=
      match reaction.panic with
      | some payload => .unwound payload
      | none => .finished context
    start := start
    finish := c.clock
    pauses := c.pauses
    visits := c.visits
    events := c.events ++ event :: reaction.events
    callbacks := [callback]
    reports := reaction.reports }

/-- **The launch of an input** that starts at a time. -/
def run (p : Pipeline) (start : Nat) (input : LaunchInput) : Run :=
  match Course.through { context := { input }, clock := start } p.stages with
  | (c, some payload) =>
    { ending := .unwound payload
      start := start
      finish := c.clock
      pauses := c.pauses
      visits := c.visits
      events := c.events }
  | (c, none) => p.conclude start c

end Pipeline

end Relaunch
