import Relaunch.Pool.Schedule
import Relaunch.Registry.Query

/-!
# Recovery/Cycle — taking up claimed workloads again

A recovery cycle asks the registry for the workloads that an owner claimed and launches each of
them again, whatever their status.  If the query is given up, nothing is launched and the cycle
fails with the query's error; else every row of the list goes through the pool, in its order, and
the cycle ends with the summary of that batch.
-/

namespace Relaunch

/-- **A cycle that is over**: when it started and ended, the rows it got from the registry, and its
result. -/
structure Cycle where
  start : Nat
  finish : Nat
  rows : List Workload
  result : Except Failure Summary

/-- **An owner's means of recovery**: its retry policy, what the registry will answer, its pool, and
the list calls and the cycles made so far. -/
structure Recovery where
  owner : String
  policy : Backoff
  script : Script
  pool : Pool
  calls : List Call := []
  cycles : List Cycle := []

namespace Recovery

/-- The pool at the start of a cycle. -/
def opening (p : Pool) : Pool :=
  { p with progress := p.progress.reset, tally := p.tally.addCycle }

/-- The pool after a query. -/
def afterQuery (p : Pool) (q : Query) : Pool :=
  { p.wait q.finish with
    tally.retries := p.tally.retries + q.retries
    journal.log := p.journal.log ++ q.log }

/-- What is logged of the rows of a list. -/
def listEvents (workloads : List Workload) : List Event :=
  .claimsListed workloads.length ::
    (workloads.filter (·.status ≠ .claimed)).map fun w => .unclaimedListed w.id w.status

/-- The pool that knows a list of workloads. -/
def listed (p : Pool) (workloads : List Workload) : Pool :=
  { p with progress := p.progress.discover workloads.length }.note (listEvents workloads)

/-- **The launch of every row** of a list as one batch, and its summary. -/
def relaunch (p : Pool) (workloads : List Workload) : Pool × Summary :=
  let done := p.runBatch (workloads.map LaunchInput.ofWorkload)
  let summary := (done.batches[p.batches.length]?.bind Batch.summary?).getD {}
  (done.note [.cycleFinished workloads.length done.progress.resumed summary], summary)

/-- The failure of a cycle whose query was given up. -/
def failure (owner : String) (e : QueryError) : Failure :=
  .context ("failed to list claimed workloads for " ++ owner) (.query e)

/-- **One recovery cycle.** -/
def recover [Clock] (r : Recovery) : Recovery × Except Failure Summary :=
  let q := Query.run r.policy (.claimedBy r.owner) r.pool.clock r.script
  let asked := afterQuery (opening r.pool) q
  let (done, rows, result) : Pool × List Workload × Except Failure Summary :=
    match q.result with
    | .error e => (asked, [], .error (failure r.owner e))
    | .ok response =>
      let (done, summary) := relaunch (listed asked response.workloads) response.workloads
      (done, response.workloads, .ok summary)
  ({ r with
      pool := done
      script := q.rest
      calls := r.calls ++ q.calls
      cycles := r.cycles ++ [⟨r.pool.clock, done.clock, rows, result⟩] }, result)

/-- Shuts the pool. -/
def shutdown (r : Recovery) : Recovery := { r with pool := r.pool.shutdown }

end Recovery

end Relaunch
