import Relaunch.Config.Basic
import Relaunch.FatalLatch
import Relaunch.Recovery.Cycle

/-!
# Recovery/Runner — recovery cycles until the token is cancelled

A runner makes a startup cycle and then, if it has an interval, one cycle after each interval of
sleep.  How long it sleeps is up to the clock of the machine: a loop of cycles is told how long a
sleep is that begins at a time (`pause`).  No cycle is interrupted: cancellation is seen between
cycles only.

* A startup cycle that fails ends the run with its failure.
* A later cycle that fails is logged, and the next one comes after the next interval.
* A cycle that fails because the socket layer rejected its query is the last one, and its failure is
  captured.

A run that nothing can end has no result (`none`).
-/

namespace Relaunch

structure Runner where
  config : Config
  recovery : Recovery
  latch : FatalLatch := {}

namespace Runner

/-- **The runner of a configuration**, which reports failed launches to the registry. -/
def new (config : Config) (script : Script) (answer : FailureReport → Hooks.ReportReply)
    (stages : List Stage) : Runner where
  config := config
  recovery := {
    owner := config.dataPlane
    policy := config.backoff
    script := script
    pool := .new config.parallelism ⟨stages, .reporter answer⟩ 0 }

def clock (r : Runner) : Nat := r.recovery.pool.clock

def note (r : Runner) (events : List Event) : Runner :=
  { r with recovery.pool := r.recovery.pool.note events }

/-- The runner at a time, if it is not past it. -/
def wait (r : Runner) (time : Nat) : Runner :=
  { r with recovery.pool := r.recovery.pool.wait time }

def shutdown (r : Runner) : Runner := { r with recovery := r.recovery.shutdown }

def cancel (r : Runner) : Runner := { r with latch := r.latch.cancel }

/-- A log with an entry put in at its time, after those of the same time. -/
def insertEntry (e : Entry) (log : List Entry) : List Entry :=
  log.takeWhile (·.time ≤ e.time) ++ e :: log.dropWhile (·.time ≤ e.time)

variable [Clock]

/-- Exactly one cycle. -/
def recoverOnce (r : Runner) : Runner × Except Failure Summary :=
  let (recovery, result) := r.recovery.recover
  ({ r with recovery }, result)

/-- The failure is captured by the latch; what is handed back stands beside the runner. -/
def trigger (r : Runner) (context : String) (f : Failure) : Runner × Failure :=
  let t := r.latch.trigger context f
  ({ r with latch := t.latch }.note t.events, t.returned)

/-- When the token is cancelled: it already is, or it will be at a given time. -/
def cancelTime (r : Runner) (cancelAt : Option Nat) : Option Nat :=
  if r.latch.cancelled then some 0 else cancelAt

/-- When a sleep that begins now is over. -/
def wakes (r : Runner) (pause : Nat → Nat) : Nat := r.clock + pause r.clock

/-- **What comes after an interval of sleep**: the time at which the token stops it, or the next
cycle. -/
def sleeps (r : Runner) (pause : Nat → Nat) (cancelAt : Option Nat) : Except Nat Nat :=
  match r.cancelTime cancelAt with
  | none => .ok (r.wakes pause)
  | some time =>
    if time < r.wakes pause then .error (max r.clock time) else .ok (r.wakes pause)

/-- A run that is over: the failure that was captured is its result. -/
def ended (r : Runner) : Runner × Except Failure Unit :=
  match r.latch.failure with
  | some f => (r, .error f)
  | none => (r, .ok ())

/-- **The cycles after the startup cycle**, as many as there is fuel. -/
def periodic (pause : Nat → Nat) (cancelAt : Option Nat) :
    Nat → Runner → Option (Runner × Except Failure Unit)
  | 0, _ => none
  | fuel + 1, r =>
    match r.sleeps pause cancelAt with
    | .error time => some (r.wait time).ended
    | .ok time =>
      match (r.wait time).recoverOnce with
      | (r, .ok _) => periodic pause cancelAt fuel r
      | (r, .error f) =>
        if f.isSocketRejection then some (r.trigger "periodic recovery cycle" f).1.ended
        else periodic pause cancelAt fuel (r.note [.cycleFailed r.config.dataPlane f])

/-- How many cycles a run with an interval can have: each one either finds the script not yet at its
end or moves the clock towards the cancellation. -/
def cycleBound (r : Runner) (cancelAt : Option Nat) : Nat :=
  r.recovery.script.length + cancelAt.getD 0 + 2

/-- The startup cycle and those after it. -/
def cycles (r : Runner) (cancelAt : Option Nat) : Option (Runner × Except Failure Unit) :=
  match r.recoverOnce with
  | (r, .error f) =>
    if f.isSocketRejection then
      let (r, f) := r.trigger "startup recovery cycle" f
      some (r, .error f)
    else some (r, .error f)
  | (r, .ok _) =>
    match r.config.recoveryInterval with
    | none => (r.cancelTime cancelAt).map fun time => (r.wait time, .ok ())
    | some interval => periodic interval.ticks cancelAt (r.cycleBound cancelAt) r

/-- **A whole run**: cycles until one ends it or the token is cancelled, at `cancelAt` if not
before; then the pool is shut. -/
def runUntilCancelled (r : Runner) (cancelAt : Option Nat) :
    Option (Runner × Except Failure Unit) := do
  let (r, result) ← r.cycles cancelAt
  let r := r.shutdown
  let r := if cancelAt.any (· ≤ r.clock) then r.cancel else r
  some (r, result)

/-- **A run that an interrupt can end as well**: an interrupt cancels the token and is logged,
unless the token was cancelled before.  After the run the token is cancelled in any case. -/
def runUntilInterrupt (r : Runner) (cancelAt interruptAt : Option Nat) :
    Option (Runner × Except Failure Unit) := do
  let before := r.latch.cancelled
  let stop := match cancelAt, interruptAt with
    | some a, some b => some (min a b)
    | a, none => a
    | none, b => b
  let (r, result) ← (r.note [.runnerStarted]).runUntilCancelled stop
  let r := match interruptAt with
    | some time =>
      if !before && cancelAt.all (time < ·) && time ≤ r.clock then
        { r with recovery.pool.journal.log :=
            insertEntry ⟨time, .interrupted⟩ r.recovery.pool.journal.log }
      else r
    | none => r
  some (r.cancel, result)

end Runner

end Relaunch
