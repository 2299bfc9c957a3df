import Relaunch.Recovery.Cycle

/-!
# Recovery/Scan — a recovery cycle step by step

`Recovery.recover` gives a whole cycle at once.  Here the same cycle is a series of steps, between
which the pool and those who watch the progress take theirs: the cycle begins, its query comes back,
the rows go to the pool as one batch, and the cycle ends when that batch has returned.  Cycles do
not overlap, and no one else has the pool launch anything.

The state is a value (`Scan`), and `Scan.step` takes one step.  Nothing is said about the order of
steps.
-/

namespace Relaunch

/-- **Where a cycle stands**, with the time at which it began. -/
inductive Scan.Phase where
  /-- No cycle is under way. -/
  | resting
  /-- The query is under way, which takes this course. -/
  | asking (start : Nat) (query : Query)
  /-- The number of rows is recorded. -/
  | listed (start : Nat) (rows : List Workload)
  /-- The rows are launched, by the batch of that number. -/
  | launching (start : Nat) (rows : List Workload) (batch : Nat)

/-- **Recovery step by step**: where the cycle stands, the number of notices sent to those who watch
the progress, and where these stand. -/
structure Scan where
  recovery : Recovery
  phase : Scan.Phase := .resting
  epoch : Nat := 0
  waiters : List Waiter := []

namespace Scan

/-- A step that can be asked for. -/
inductive Move where
  /-- A new cycle. -/
  | ask
  /-- The query comes back. -/
  | hear
  | launch
  | conclude
  /-- A step of the pool. -/
  | pool (m : Relaunch.Move)
  /-- Someone new watches the progress. -/
  | join
  /-- A step of the observer of that number. -/
  | observer (i : Nat)

/-- Recovery where nothing has happened. -/
def new (owner : String) (policy : Backoff) (script : Script) (parallelism : Nat)
    (pipeline : Pipeline) (start : Nat) : Scan where
  recovery := { owner, policy, script, pool := .new parallelism pipeline start }

def pool (s : Scan) : Pool := s.recovery.pool

def setPool (s : Scan) (p : Pool) : Scan := { s with recovery.pool := p }

/-- The progress and those who watch it. -/
def latch (s : Scan) : Latch := ⟨s.pool.progress, s.epoch, s.waiters⟩

/-- The end of a cycle. -/
def finish (s : Scan) (start : Nat) (rows : List Workload) (result : Except Failure Summary) :
    Scan :=
  { s with
    phase := .resting
    recovery.cycles := s.recovery.cycles ++ [⟨start, s.pool.clock, rows, result⟩] }

/-- **A cycle begins**: the progress is reset, and the registry is asked. -/
def ask [Clock] (s : Scan) : Scan :=
  let r := s.recovery
  let query := Query.run r.policy (.claimedBy r.owner) r.pool.clock r.script
  { s with
    phase := .asking r.pool.clock query
    recovery := { r with
      pool := Recovery.opening r.pool
      script := query.rest
      calls := r.calls ++ query.calls } }

/-- **The query comes back**: the cycle fails, or the number of rows is recorded. -/
def hear (s : Scan) (start : Nat) (query : Query) : Scan :=
  let asked := Recovery.afterQuery s.pool query
  match query.result with
  | .error e => (s.setPool asked).finish start [] (.error (Recovery.failure s.recovery.owner e))
  | .ok response =>
    { s.setPool (Recovery.listed asked response.workloads) with
      phase := .listed start response.workloads
      epoch := s.epoch + 1 }

/-- The batch of the rows has returned, and the cycle ends. -/
def conclude (s : Scan) (start : Nat) (rows : List Workload) (summary : Summary) : Scan :=
  (s.setPool
    (s.pool.note [.cycleFinished rows.length s.pool.progress.resumed summary])).finish start rows
    (.ok summary)

/-- Whether a step of the pool asks it for a new batch. -/
def isCall : Relaunch.Move → Bool
  | .call _ => true
  | .tick _ | .close | .worker _ | .batch _ | .closing _ => false

/-- **One step**; `none` if it cannot be taken. -/
def step [Clock] (s : Scan) : Move → Option Scan
  | .ask =>
    match s.phase with
    | .resting => some s.ask
    | .asking .. | .listed .. | .launching .. => none
  | .hear =>
    match s.phase with
    | .asking start query => if query.finish ≤ s.pool.clock then some (s.hear start query) else none
    | .resting | .listed .. | .launching .. => none
  | .launch =>
    match s.phase with
    | .listed start rows =>
      some { s.setPool (s.pool.callAll [rows.map LaunchInput.ofWorkload]) with
        phase := .launching start rows s.pool.batches.length }
    | .resting | .asking .. | .launching .. => none
  | .conclude =>
    match s.phase with
    | .launching start rows batch =>
      (s.pool.batches[batch]?.bind Batch.summary?).map (s.conclude start rows)
    | .resting | .asking .. | .listed .. => none
  | .pool m =>
    if isCall m then none
    else (s.pool.step m).map fun p =>
      -- every claim at its end sends a notice
      { s.setPool p with epoch := s.epoch + (p.progress.resumed - s.pool.progress.resumed) }
  | .join => some { s with waiters := s.waiters ++ [.start] }
  | .observer i => (s.latch.step (.waiter i)).map fun l => { s with waiters := l.waiters }

/-- The state after some steps; `none` if one of them cannot be taken. -/
def steps [Clock] (s : Scan) (moves : List Move) : Option Scan := moves.foldlM step s

end Scan

end Relaunch
