import Relaunch.Pool.Basic

/-!
# Pool/Schedule — running a pool as promptly as it goes

A prompt pool (`Pool.advance`) first takes the steps that take no time, in a fixed order of
preference: batches that still send go first, in their order; then the workers; then the batches
that wait; then the closings.  Where nothing is left to do at a time, the clock goes on to the end
of the launch that is over next.  `Pool.runQuiet` goes on until nothing runs any more.

Every step is a step of `Pool.step`, so what holds after any steps holds of these runs.  `Pool.work`
bounds how many steps are left, and is the fuel of the runs.
-/

namespace Relaunch

namespace Batch

/-- Whether the batch is called and still has inputs to send. -/
def isSending : Batch → Bool
  | called _ => true
  | sending _ _ rest _ _ => !rest.isEmpty
  | returned .. => false

/-- Whether the batch has sent all its inputs and waits for the replies. -/
def isWaiting : Batch → Bool
  | sending _ _ rest _ _ => rest.isEmpty
  | called _ | returned .. => false

/-- The steps left to a batch and to the jobs it has yet to send. -/
def work : Batch → Nat
  | called inputs => 12 * inputs.length + 3
  | sending _ _ rest _ _ => 12 * rest.length + 2
  | returned .. => 0

end Batch

/-- The steps left to a worker before it waits in vain. -/
def Worker.work (clock : Nat) : Worker → Nat
  | exited => 0
  | polling => 1
  | idle => 2
  | resumed .. => 3
  | counted .. => 4
  | judged .. => 5
  | running _ run => if run.finish ≤ clock then 6 else 7

def Closing.work : Closing → Nat
  | called => 3
  | shut => 2
  | joining _ => 1
  | returned => 0

namespace Pool

/-- The steps left to all of some parts. -/
def total (work : α → Nat) : List α → Nat
  | [] => 0
  | a :: rest => work a + total work rest

/-- **A bound on the steps left to a pool** that gets nothing more to do. -/
def work (p : Pool) : Nat :=
  total Batch.work p.batches + 11 * p.queue.length + total (Worker.work p.clock) p.workers
    + total Closing.work p.closings

/-- The steps that may be taken without time going on, in the order of preference. -/
def moves (p : Pool) : List Move :=
  let batches := p.batches.zipIdx
  (batches.filter (·.1.isSending)).map (fun entry => .batch entry.2)
    ++ (List.range p.workers.length).map .worker
    ++ (batches.filter (·.1.isWaiting)).map (fun entry => .batch entry.2)
    ++ (List.range p.closings.length).map .closing

/-- The pool after the step that is preferred, if any can be taken without time going on. -/
def prompt? (p : Pool) : Option Pool := p.moves.findSome? p.step

/-- **No step can be taken without time going on.** -/
def isQuiet (p : Pool) : Bool := p.prompt?.isNone

/-- When the launch that is over next is over. -/
def deadline? (p : Pool) : Option Nat := (p.workers.filterMap Worker.deadline?).min?

/-- **The next step of a prompt pool**: one that takes no time, or else the clock goes on to the
next deadline. -/
def advance (p : Pool) : Option Pool :=
  match p.prompt? with
  | some p => some p
  | none => p.deadline?.bind fun time => p.step (.tick time)

/-- Steps as long as any can be taken and there is fuel. -/
def advanceWith : Nat → Pool → Pool
  | 0, p => p
  | fuel + 1, p =>
    match p.advance with
    | some p => advanceWith fuel p
    | none => p

/-- **The pool when nothing runs any more.** -/
def runQuiet (p : Pool) : Pool := advanceWith p.work p

/-- Lets the clock go on to a time, if it is not there yet. -/
def wait (p : Pool) (time : Nat) : Pool := (p.step (.tick time)).getD p

/-- The pool with new batches. -/
def callAll (p : Pool) (batches : List (List LaunchInput)) : Pool :=
  { p with batches := p.batches ++ batches.map .called }

/-- The pool with a new closing. -/
def close (p : Pool) : Pool := { p with closings := p.closings ++ [.called] }

/-- **Shuts the pool** and waits for its workers. -/
def shutdown (p : Pool) : Pool := p.close.runQuiet

/-- **Runs a batch** and waits for it. -/
def runBatch (p : Pool) (inputs : List LaunchInput) : Pool := (p.callAll [inputs]).runQuiet

/-- The summaries of the batches from the `first` on. -/
def summariesFrom (p : Pool) (first : Nat) : List (Option Summary) :=
  (p.batches.drop first).map Batch.summary?

end Pool

end Relaunch
