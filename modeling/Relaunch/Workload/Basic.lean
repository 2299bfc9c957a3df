/-!
# Workload/Basic — the records exchanged with the workload registry

The registry holds workloads, each owned by the data plane that claimed it.  A data plane asks for
the workloads it claimed (`ListRequest.claimedBy`), gets them in a `ListResponse`, and reports those
that failed (`FailureReport`).
-/

namespace Relaunch

/-- **Where a workload stands.**  Only the registry moves it. -/
inductive Status where
  | pending
  | claimed
  | launched
  | running
  | success
  | failure
  | cancelled
deriving DecidableEq, Repr

namespace Status

def name : Status → String
  | pending => "pending"
  | claimed => "claimed"
  | launched => "launched"
  | running => "running"
  | success => "success"
  | failure => "failure"
  | cancelled => "cancelled"

/-- Whether the workload will not move again. -/
def isTerminal : Status → Bool
  | success | failure | cancelled => true
  | pending | claimed | launched | running => false

def all : List Status := [pending, claimed, launched, running, success, failure, cancelled]

theorem mem_all (s : Status) : s ∈ all := by cases s <;> decide

theorem name_injective {s t : Status} (h : s.name = t.name) : s = t := by
  revert h; cases s <;> cases t <;> decide

end Status

/-- **What work a workload stands for.** -/
inductive Kind where
  | sync
  | check
  | discover
  | spec
deriving DecidableEq, Repr

namespace Kind

def name : Kind → String
  | sync => "sync"
  | check => "check"
  | discover => "discover"
  | spec => "spec"

def all : List Kind := [sync, check, discover, spec]

theorem mem_all (k : Kind) : k ∈ all := by cases k <;> decide

theorem name_injective {j k : Kind} (h : j.name = k.name) : j = k := by
  revert h; cases j <;> cases k <;> decide

end Kind

structure Label where
  key : String
  value : String
deriving DecidableEq, Repr

/-- **One unit of work**, as the registry records it. -/
structure Workload where
  id : String
  owner : Option String
  status : Status
  kind : Kind
  input : String
  logPath : String
  mutexKey : Option String
  labels : List Label
deriving DecidableEq, Repr

/-- A question to the registry: any of the owners and any of the statuses. -/
structure ListRequest where
  owners : List String
  statuses : List Status
deriving DecidableEq, Repr

/-- **The workloads an owner claimed** and has not driven further. -/
def ListRequest.claimedBy (owner : String) : ListRequest := ⟨[owner], [.claimed]⟩

structure ListResponse where
  workloads : List Workload
deriving DecidableEq, Repr

/-- What the registry is told of a workload that failed. -/
structure FailureReport where
  workload : String
  source : String
  reason : String
deriving DecidableEq, Repr

end Relaunch
