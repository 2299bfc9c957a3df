import Relaunch.Workload.Basic

/-!
# Tally — counters of what a launcher has done

Every counter only grows.  A panic is a failure too, so it moves two counters.
-/

namespace Relaunch

structure Tally where
  resumedSync : Nat := 0
  resumedCheck : Nat := 0
  resumedDiscover : Nat := 0
  resumedSpec : Nat := 0
  retries : Nat := 0
  successes : Nat := 0
  failures : Nat := 0
  panics : Nat := 0
  cycles : Nat := 0
deriving DecidableEq, Repr, Inhabited

namespace Tally

/-- How many claims of a kind were resumed. -/
def resumed (t : Tally) : Kind → Nat
  | .sync => t.resumedSync
  | .check => t.resumedCheck
  | .discover => t.resumedDiscover
  | .spec => t.resumedSpec

def resumedTotal (t : Tally) : Nat :=
  t.resumedSync + t.resumedCheck + t.resumedDiscover + t.resumedSpec

def addResumed (t : Tally) : Kind → Tally
  | .sync => { t with resumedSync := t.resumedSync + 1 }
  | .check => { t with resumedCheck := t.resumedCheck + 1 }
  | .discover => { t with resumedDiscover := t.resumedDiscover + 1 }
  | .spec => { t with resumedSpec := t.resumedSpec + 1 }

def addRetry (t : Tally) : Tally := { t with retries := t.retries + 1 }

def addSuccess (t : Tally) : Tally := { t with successes := t.successes + 1 }

def addFailure (t : Tally) : Tally := { t with failures := t.failures + 1 }

/-- A panic, which is a failure too. -/
def addPanic (t : Tally) : Tally := { t with panics := t.panics + 1, failures := t.failures + 1 }

def addCycle (t : Tally) : Tally := { t with cycles := t.cycles + 1 }

theorem resumed_addResumed (t : Tally) (j k : Kind) :
    (t.addResumed j).resumed k = t.resumed k + if j = k then 1 else 0 := by
  cases j <;> cases k <;> rfl

theorem resumedTotal_addResumed (t : Tally) (k : Kind) :
    (t.addResumed k).resumedTotal = t.resumedTotal + 1 := by
  cases k <;> simp [addResumed, resumedTotal] <;> omega

end Tally

end Relaunch
