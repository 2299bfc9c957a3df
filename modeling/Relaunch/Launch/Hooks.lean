import Relaunch.Event
import Relaunch.Launch.Stage

/-!
# Launch/Hooks — callbacks at the end of a launch

Hooks react to the final context of a launch.  A reaction may log, may report to the registry, and
may panic.  `Hooks.reporter` tells the registry of every failure and survives any refusal.
-/

namespace Relaunch

/-- **What a hook does.** -/
structure Reaction where
  events : List Event := []
  reports : List FailureReport := []
  panic : Option Payload := none
deriving DecidableEq, Inhabited

structure Hooks where
  onSuccess : Context → Reaction
  onFailure : Context → StageError → Reaction

namespace Hooks

/-- Hooks that do nothing. -/
def noop : Hooks := ⟨fun _ => {}, fun _ _ => {}⟩

instance : Inhabited Hooks := ⟨noop⟩

/-- The source that failure reports name. -/
def failureSource : String := "workload-launcher"

/-- **The report of a failed launch**: the reason is the whole chain of the cause. -/
def reportOf (c : Context) (e : StageError) : FailureReport :=
  ⟨c.input.id, failureSource, e.cause.full⟩

/-- What the registry answers to a report; a call can also blow up. -/
inductive ReportReply where
  | accepted
  | refused (e : RegistryError)
  | panicked (payload : Payload)
deriving DecidableEq, Repr

/-- The reaction to the answer to a report. -/
def afterReport (c : Context) (e : StageError) : ReportReply → Reaction
  | .accepted => {
      events := [.failureReported c.input.id e.stage]
      reports := [reportOf c e] }
  | .refused error => {
      events := [.reportRefused c.input.id e.stage error]
      reports := [reportOf c e] }
  | .panicked payload => { reports := [reportOf c e], panic := some payload }

/-- **Hooks that report failures to the registry**, which answers as given. -/
def reporter (answer : FailureReport → ReportReply) : Hooks where
  onSuccess _ := {}
  onFailure c e := afterReport c e (answer (reportOf c e))

end Hooks

end Relaunch
