import Relaunch.Duration
import Relaunch.Launch.Context
import Relaunch.Launch.Summary

/-!
# Event — what a launcher logs

Every log line is an `Event`; its level, its message and its fields are functions of it.  Fields
come in no order of their own, and the number of a worker stands apart from them: it tells nothing
of what was launched.
-/

namespace Relaunch

inductive Level where
  | error
  | warn
  | info
  | debug
deriving DecidableEq, Repr

def Level.name : Level → String
  | error => "ERROR"
  | warn => "WARN"
  | info => "INFO"
  | debug => "DEBUG"

/-- The value of a field. -/
inductive FieldValue where
  | text (s : String)
  | number (n : Nat)
  | flag (b : Bool)
deriving DecidableEq, Repr

/-- **A log line.** -/
inductive Event where
  /-- A list query of an owner failed and will be tried again after a delay. -/
  | queryRetried (owner : String) (error : RegistryError) (attempt : Nat) (delay : Duration)
  | queryRecovered (owner : String) (attempt : Nat)
  | queryCompleted (owner : String) (workloads : Nat)
  | queryAborted (owner : String) (error : RegistryError) (attempts : Nat)
  /-- The socket layer refused a list query. -/
  | queryRejected (owner : String) (error : RegistryError) (attempts : Nat)
  | stageFinished (workload stage : String) (terminal : Bool)
  | launchSucceeded (workload : String)
  | launchFailed (workload : String) (error : StageError)
  | failureReported (workload stage : String)
  | reportRefused (workload stage : String) (error : RegistryError)
  /-- A launch on a worker ended by a panic that no stage's failure stands for. -/
  | launchPanicked (worker : Nat) (workload : String) (panic : String)
  /-- A claim was turned away. -/
  | claimRejected (workload : String) (reason : String)
  | batchFinished (summary : Summary)
  | claimsListed (discovered : Nat)
  /-- The registry listed a workload that is not claimed. -/
  | unclaimedListed (workload : String) (status : Status)
  | cycleFinished (discovered resumed : Nat) (summary : Summary)
  | cycleFailed (owner : String) (failure : Failure)
  | fatalQuery (context : String) (query : QueryError) (failure : Failure)
  | fatalFailure (context : String) (failure : Failure)
  | runnerStarted
  | interrupted
deriving DecidableEq

namespace Event

def level : Event → Level
  | queryAborted .. | queryRejected .. | launchPanicked .. | claimRejected .. | cycleFailed ..
  | fatalQuery .. | fatalFailure .. => .error
  | queryRetried .. | launchFailed .. | reportRefused .. | unclaimedListed .. => .warn
  | queryRecovered .. | batchFinished .. | claimsListed .. | cycleFinished .. | runnerStarted
  | interrupted => .info
  | queryCompleted .. | stageFinished .. | launchSucceeded .. | failureReported .. => .debug

def message : Event → String
  | queryRetried _ error _ _ =>
    match error.kind with
    | .serverTransient =>
      "workload registry returned a server error fetching claimed workloads; retrying"
    | _ => "failed to reach workload registry fetching claimed workloads; retrying"
  | queryRecovered .. => "fetched claimed workloads after retrying"
  | queryCompleted .. => "registry list query completed"
  | queryAborted .. => "fetching claimed workloads failed with a non-retryable error"
  | queryRejected .. =>
    "socket operation not permitted fetching claimed workloads; check network policy"
  | stageFinished .. => "launch stage finished"
  | launchSucceeded .. => "workload launch succeeded"
  | launchFailed .. => "workload launch failed"
  | failureReported .. => "reported launch failure to registry"
  | reportRefused .. => "failed to report launch failure to registry"
  | launchPanicked .. => "launch pipeline panicked"
  | claimRejected .. => "claim could not be dispatched"
  | batchFinished .. => "launch batch finished"
  | claimsListed .. => "re-hydrating claimed workloads"
  | unclaimedListed .. => "registry returned a non-claimed workload for recovery"
  | cycleFinished .. => "claim recovery cycle finished"
  | cycleFailed .. => "recovery cycle failed; retrying on next tick"
  | fatalQuery .. => "fatal registry error; initiating shutdown"
  | fatalFailure .. => "fatal launcher error; initiating shutdown"
  | runnerStarted => "runner started; waiting for Ctrl-C (SIGINT) to initiate shutdown"
  | interrupted => "Ctrl-C received; shutting down runner"

/-- A delay in whole milliseconds, as far as 64 bits go. -/
def millis (d : Duration) : Nat := min d.millis 18446744073709551615

/-- The workload that an event is about. -/
def workload? : Event → Option String
  | stageFinished workload .. | launchSucceeded workload | launchFailed workload _
  | failureReported workload _ | reportRefused workload .. | launchPanicked _ workload _
  | claimRejected workload _ | unclaimedListed workload _ => some workload
  | _ => none

/-- The worker that an event names. -/
def worker? : Event → Option Nat
  | launchPanicked worker .. => some worker
  | _ => none

/-- **The fields of an event**, the workload's and the worker's apart. -/
def details : Event → List (String × FieldValue)
  | queryRetried owner error attempt delay => [
      ("data_plane_id", .text owner), ("method", .text error.method),
      ("attempt", .number attempt), ("backoff_ms", .number (millis delay)),
      ("error", .text error.message)]
  | queryRecovered owner attempt => [("data_plane_id", .text owner), ("attempt", .number attempt)]
  | queryCompleted owner workloads => [
      ("data_plane_id", .text owner), ("workloads", .number workloads)]
  | queryAborted owner error attempts => [
      ("data_plane_id", .text owner), ("method", .text error.method),
      ("attempt", .number attempts), ("error", .text error.message)]
      ++ (error.status?.map fun status => ("status", FieldValue.number status)).toList
  | queryRejected owner error attempts => [
      ("data_plane_id", .text owner), ("method", .text error.method),
      ("attempt", .number attempts), ("error", .text error.message)]
  | stageFinished _ stage terminal => [("stage", .text stage), ("terminal", .flag terminal)]
  | launchSucceeded _ => []
  | launchFailed _ error => [("stage", .text error.stage), ("error", .text error.message)]
  | failureReported _ stage => [("stage", .text stage)]
  | reportRefused _ stage error => [("stage", .text stage), ("error", .text error.message)]
  | launchPanicked _ _ panic => [("panic", .text panic)]
  | claimRejected _ reason => [("reason", .text reason)]
  | batchFinished s => [
      ("submitted", .number s.submitted), ("succeeded", .number s.succeeded),
      ("failed", .number s.failed)]
  | claimsListed discovered => [("discovered", .number discovered)]
  | unclaimedListed _ status => [("status", .text status.name)]
  | cycleFinished discovered resumed s => [
      ("discovered", .number discovered), ("resumed", .number resumed),
      ("succeeded", .number s.succeeded), ("failed", .number s.failed)]
  | cycleFailed owner failure => [("data_plane_id", .text owner), ("error", .text failure.full)]
  | fatalQuery context query failure => [
      ("context", .text context), ("kind", .text query.error.kind.name),
      ("attempts", .number query.attempts), ("error", .text failure.full)]
  | fatalFailure context failure => [("context", .text context), ("error", .text failure.full)]
  | runnerStarted | interrupted => []

/-- All fields of an event but the worker's. -/
def fields (e : Event) : List (String × FieldValue) :=
  (e.workload?.map fun id => ("workload_id", FieldValue.text id)).toList ++ e.details

end Event

/-- An event and the time it was logged. -/
structure Entry where
  time : Nat
  event : Event
deriving DecidableEq

end Relaunch
