import Relaunch.Launch.Pipeline
import Relaunch.Progress
import Relaunch.Tally

/-!
# Pool/Basic — workers that share one queue of launches

A pool has a fixed number of workers and one queue.  A **batch** puts its inputs into the queue and
waits until each of them has come to its end; a **closing** shuts the queue and waits for the
workers it took charge of.

The state of a pool is a value (`Pool`), and `Pool.step` takes one step of one of its parts: a
worker, a batch or a closing, as a `Move` says.  Nothing is said here about the order of steps;
`Relaunch.Pool.Schedule` takes them as promptly as it can, and `Relaunch.Pool.Rounds` settles what
comes first among the things that happen at one time.

* Workers take turns at the head of the queue: an idle worker waits for its turn, and the one whose
  turn it is takes the next job or, once the queue is empty and no one can fill it any more, leaves.
* A launch runs on one worker from its start until its time is over.  Then the worker counts the
  outcome, counts the claim as resumed, moves the progress on, and answers the batch.
* A batch holds its place at the queue from its first step until it returns.
-/

namespace Relaunch

/-- An input on its way through the pool: tickets are numbered in the order in which jobs come into
the queue, and `time` is when this one did. -/
structure Job where
  ticket : Nat
  time : Nat
  input : LaunchInput
deriving DecidableEq, Repr

/-- **Where a worker stands.** -/
inductive Worker where
  /-- It waits for its turn at the queue. -/
  | idle
  /-- It is its turn. -/
  | polling
  | running (job : Job) (run : Run)
  /-- The outcome is counted. -/
  | judged (job : Job) (outcome : Outcome)
  /-- The claim's kind is counted too. -/
  | counted (job : Job) (outcome : Outcome)
  /-- The progress has moved on too. -/
  | resumed (job : Job) (outcome : Outcome)
  | exited
deriving DecidableEq

/-- **Where a batch stands** with its inputs.  `attached` tells whether it got a place at the queue,
`rest` are the inputs it has yet to send, `tickets` are those of the jobs it sent, and `rejected`
counts the inputs that were turned away. -/
inductive Batch where
  | called (inputs : List LaunchInput)
  | sending (attached : Bool) (inputs rest : List LaunchInput) (tickets : List Nat) (rejected : Nat)
  | returned (inputs : List LaunchInput) (tickets : List Nat) (summary : Summary)
deriving DecidableEq, Repr

/-- **Where a closing stands.** -/
inductive Closing where
  | called
  /-- The queue is shut. -/
  | shut
  /-- It waits for these workers. -/
  | joining (workers : List Nat)
  | returned
deriving DecidableEq, Repr

/-- What a pool has done. -/
structure Journal where
  log : List Entry := []
  /-- The launches that started, in the order of their starts. -/
  runs : List (Job × Run) := []
deriving Inhabited

/-- **The state of a pool.** -/
structure Pool where
  pipeline : Pipeline
  clock : Nat := 0
  /-- Whether batches can still get a place at the queue. -/
  isOpen : Bool := true
  queue : List Job := []
  nextTicket : Nat := 0
  workers : List Worker
  /-- The workers that no closing has taken charge of. -/
  handles : List Nat
  batches : List Batch := []
  closings : List Closing := []
  replies : List (Nat × Outcome) := []
  progress : Progress := {}
  tally : Tally := {}
  journal : Journal := {}

/-- A step that a pool can be asked to take. -/
inductive Move where
  /-- Time goes on. -/
  | tick (time : Nat)
  /-- A new batch. -/
  | call (inputs : List LaunchInput)
  /-- A new closing. -/
  | close
  | worker (i : Nat)
  | batch (i : Nat)
  | closing (i : Nat)
deriving DecidableEq, Repr

namespace Worker

def isPolling : Worker → Bool
  | polling => true
  | _ => false

def isExited : Worker → Bool
  | exited => true
  | _ => false

def isRunning : Worker → Bool
  | running .. => true
  | _ => false

/-- The job in a worker's hands. -/
def job? : Worker → Option Job
  | running job _ | judged job _ | counted job _ | resumed job _ => some job
  | idle | polling | exited => none

/-- When the launch that runs on a worker is over. -/
def deadline? : Worker → Option Nat
  | running _ run => some run.finish
  | _ => none

end Worker

namespace Batch

/-- Whether the batch has a place at the queue. -/
def isAttached : Batch → Bool
  | sending attached .. => attached
  | called _ | returned .. => false

def inputs : Batch → List LaunchInput
  | called inputs | sending _ inputs _ _ _ | returned inputs _ _ => inputs

/-- The tickets of the jobs that the batch has sent. -/
def tickets : Batch → List Nat
  | called _ => []
  | sending _ _ _ tickets _ | returned _ tickets _ => tickets

def summary? : Batch → Option Summary
  | returned _ _ s => some s
  | called _ | sending .. => none

end Batch

/-! ## How a launch is judged -/

/-- **What a launch counts as**: a failure by panic if a stage panicked or nothing came back. -/
inductive Verdict where
  | success
  | failure
  | panic
deriving DecidableEq, Repr

def RunEnding.verdict : RunEnding → Verdict
  | .finished c =>
    match c.terminal with
    | some .success => .success
    | some (.failure e) => if e.kind = .panicked then .panic else .failure
    | none => .failure
  | .unwound _ => .panic

def Verdict.outcome : Verdict → Outcome
  | success => .succeeded
  | failure | panic => .failed

def Verdict.count : Verdict → Tally → Tally
  | success => Tally.addSuccess
  | failure => Tally.addFailure
  | panic => Tally.addPanic

/-- What a worker logs of a launch that came back with nothing. -/
def RunEnding.events (worker : Nat) (workload : String) : RunEnding → List Event
  | .finished _ => []
  | .unwound payload => [.launchPanicked worker workload payload.message]

/-- Why a claim is turned away. -/
inductive Rejection where
  | shutDown
  | queueClosed
deriving DecidableEq, Repr

def Rejection.message : Rejection → String
  | shutDown => "dispatcher is shut down"
  | queueClosed => "dispatcher queue is closed"

namespace Pool

/-- A pool with so many workers, at least one. -/
def new (parallelism : Nat) (pipeline : Pipeline) (start : Nat) : Pool where
  pipeline := pipeline
  clock := start
  workers := List.replicate (max 1 parallelism) .idle
  handles := List.range (max 1 parallelism)

/-! ## Bookkeeping -/

def note (p : Pool) (events : List Event) : Pool :=
  { p with journal.log := p.journal.log ++ events.map fun event => ⟨p.clock, event⟩ }

def setWorker (p : Pool) (i : Nat) (w : Worker) : Pool :=
  { p with workers := p.workers.set i w }

def setBatch (p : Pool) (i : Nat) (b : Batch) : Pool := { p with batches := p.batches.set i b }

def setClosing (p : Pool) (i : Nat) (c : Closing) : Pool :=
  { p with closings := p.closings.set i c }

/-- Whether anyone can still put a job into the queue. -/
def isConnected (p : Pool) : Bool := p.isOpen || p.batches.any Batch.isAttached

/-- Whether anyone is left to take a job from the queue. -/
def isServed (p : Pool) : Bool := p.workers.any fun w => !w.isExited

/-- What became of a job: its answer, or that there will be none. -/
inductive Reply where
  | answered (outcome : Outcome)
  | dropped
deriving DecidableEq, Repr

/-- **The reply to a ticket**, if it is settled. -/
def reply? (p : Pool) (ticket : Nat) : Option Reply :=
  match p.replies.lookup ticket with
  | some outcome => some (.answered outcome)
  | none =>
    if p.workers.any (fun w => w.job?.any (·.ticket == ticket)) then none
    else if p.isServed && p.queue.any (·.ticket == ticket) then none
    else some .dropped

/-- A job without an answer counts as failed. -/
def Reply.outcome : Reply → Outcome
  | answered outcome => outcome
  | dropped => .failed

/-! ## Steps -/

/-- One step of a worker. -/
def stepWorker (p : Pool) (i : Nat) : Worker → Option Pool
  | .idle => if p.workers.any Worker.isPolling then none else some (p.setWorker i .polling)
  | .polling =>
    match p.queue with
    | job :: queue =>
      let run := p.pipeline.run p.clock job.input
      some { p.setWorker i (.running job run) with
        queue := queue
        journal.runs := p.journal.runs ++ [(job, run)] }
    | [] => if p.isConnected then none else some (p.setWorker i .exited)
  | .running job run =>
    if run.finish ≤ p.clock then
      let verdict := run.ending.verdict
      some { (p.note (run.events ++ run.ending.events i job.input.id)).setWorker i
          (.judged job verdict.outcome) with
        tally := verdict.count p.tally }
    else none
  | .judged job outcome =>
    some { p.setWorker i (.counted job outcome) with tally := p.tally.addResumed job.input.kind }
  | .counted job outcome =>
    some { p.setWorker i (.resumed job outcome) with progress := p.progress.resume }
  | .resumed job outcome =>
    some { p.setWorker i .idle with replies := p.replies ++ [(job.ticket, outcome)] }
  | .exited => none

/-- Turns an input away: it counts as failed and as resumed. -/
def reject (p : Pool) (input : LaunchInput) (why : Rejection) : Pool :=
  { p.note [.claimRejected input.id why.message] with
    tally := p.tally.addFailure.addResumed input.kind
    progress := p.progress.resume }

/-- Puts an input into the queue. -/
def enqueue (p : Pool) (input : LaunchInput) : Pool :=
  { p with queue := p.queue ++ [⟨p.nextTicket, p.clock, input⟩], nextTicket := p.nextTicket + 1 }

/-- The summary of a batch whose replies are all there. -/
def summarize (submitted rejected : Nat) (replies : List Reply) : Summary :=
  replies.foldl (fun s reply => s.add reply.outcome) ⟨submitted, 0, rejected⟩

/-- **One step of a batch**: it gets its place, sends an input or has it turned away, or returns
when all replies are there. -/
def stepBatch (p : Pool) (i : Nat) : Batch → Option Pool
  | .called inputs =>
    if inputs.isEmpty then some (p.setBatch i (.returned inputs [] {}))
    else some (p.setBatch i (.sending p.isOpen inputs inputs [] 0))
  | .sending attached inputs (input :: rest) tickets rejected =>
    if !attached then
      some ((p.reject input .shutDown).setBatch i
        (.sending attached inputs rest tickets (rejected + 1)))
    else if !p.isServed then
      some ((p.reject input .queueClosed).setBatch i
        (.sending attached inputs rest tickets (rejected + 1)))
    else
      some ((p.enqueue input).setBatch i
        (.sending attached inputs rest (tickets ++ [p.nextTicket]) rejected))
  | .sending _ inputs [] tickets rejected => do
    let replies ← tickets.mapM p.reply?
    let summary := summarize inputs.length rejected replies
    some ((p.note [.batchFinished summary]).setBatch i (.returned inputs tickets summary))
  | .returned .. => none

/-- One step of a closing. -/
def stepClosing (p : Pool) (i : Nat) : Closing → Option Pool
  | .called => some { p.setClosing i .shut with isOpen := false }
  | .shut => some { p.setClosing i (.joining p.handles) with handles := [] }
  | .joining workers =>
    if workers.all fun w => (p.workers[w]?.map Worker.isExited).getD true then
      some (p.setClosing i .returned)
    else none
  | .returned => none

/-- **One step of a pool**; `none` if it cannot be taken. -/
def step (p : Pool) : Move → Option Pool
  | .tick time => if p.clock < time then some { p with clock := time } else none
  | .call inputs => some { p with batches := p.batches ++ [.called inputs] }
  | .close => some { p with closings := p.closings ++ [.called] }
  | .worker i => p.workers[i]?.bind (p.stepWorker i)
  | .batch i => p.batches[i]?.bind (p.stepBatch i)
  | .closing i => p.closings[i]?.bind (p.stepClosing i)

/-- The pool after some steps; `none` if one of them cannot be taken. -/
def steps (p : Pool) (moves : List Move) : Option Pool := moves.foldlM step p

end Pool

end Relaunch
