import Relaunch.Pool.Schedule

/-!
# Pool/Rounds — batches side by side, round by round

`Pool.runBatches` calls several batches at once and waits for all of them.  They may return at the
same time, and this module settles in which order.

Workers and batches share one thread.  A worker whose turn it is goes on until it has to wait, and
the workers that can go on take turns in the order in which they became able to.  The batches are
looked at after every **round** of turns, which ends when no worker can go on or after sixty-one
turns.  When nothing is left to do at a time, the clock goes on to the next alarm; alarms for the
same time go off in the order in which they were set.

* A turn has an **allowance**: getting to the head of the queue, taking a job, and going on after a
  sleep each cost one.  A worker that has used up its allowance goes on in the next round, behind
  the others; of several such workers the last comes first.
* A look takes in at most as many replies as an allowance; a batch returns once it has taken in all
  of its replies.
* Up to thirty batches are looked at in their order; more than that, in the order in which they were
  told of a reply.

A round takes steps of `Pool.step` only (`Pool.reaches_runBatches`).  Should the rounds leave
anything undone, a prompt run does it at the end.
-/

namespace Relaunch

/-- How many turns a round has at most. -/
def roundLength : Nat := 61

/-- What a turn or a look may cost. -/
def allowance : Nat := 128

/-- How many batches are looked at in their order. -/
def fewBatches : Nat := 30

/-- A worker that can go on: what it may still spend, and when the sleeps of its launch are over
that it has yet to go past. -/
structure Turn where
  worker : Nat
  left : Nat := allowance
  pauses : List Nat := []

/-- A worker that sleeps until a time, and the ends of the sleeps after that one. -/
structure Alarm where
  time : Nat
  worker : Nat
  later : List Nat

/-- **A pool in the middle of a round.**  `first` is the number of the first of the batches that run
side by side. -/
structure Rounds where
  pool : Pool
  first : Nat
  /-- The workers that can go on, in order. -/
  ready : List Turn := []
  /-- The workers that have used up their allowance, the last one first. -/
  spent : List Turn := []
  /-- The workers that wait for their turn at the queue, in order. -/
  line : List Nat := []
  /-- The worker that waits at the head of an empty queue. -/
  watcher : Option Nat := none
  /-- In the order in which they were set. -/
  alarms : List Alarm := []
  /-- The batches that were told of a reply since they were last looked at, in order. -/
  told : List Nat := []
  /-- How many replies each batch has taken in. -/
  seen : List Nat
  /-- Whether there is something to look at. -/
  isDue : Bool := true
  /-- When the pool is to be shut. -/
  closeAt : Option Nat := none

namespace Rounds

/-- Takes a step of the pool, if it can be taken. -/
def move (r : Rounds) (m : Move) : Rounds := { r with pool := (r.pool.step m).getD r.pool }

/-- Takes a step so many times. -/
def moves (r : Rounds) (m : Move) (count : Nat) : Rounds := count.repeat (·.move m) r

/-! ## Turns -/

/-- The head of the queue is free: it goes to the first worker in line, which can go on. -/
def handOver (r : Rounds) : Rounds :=
  match r.line with
  | [] => r
  | i :: line =>
    { r.move (.worker i) with
      line := line
      ready := r.ready ++ [{ worker := i, left := allowance - 1 }] }

/-- The launch of a job is over on a worker: it is counted, and its batch is told. -/
def conclude (r : Rounds) (i : Nat) (job : Job) : Rounds :=
  let done := r.moves (.worker i) 4
  match done.pool.batches.findIdx? (·.tickets.contains job.ticket) with
  | some b =>
    { done with
      told := if r.told.contains b then r.told else r.told ++ [b]
      isDue := true }
  | none => done

/-- The worker when its launch has no more sleeps before it: the launch is over. -/
def concludeAt (r : Rounds) (i : Nat) (pauses : List Nat) : Rounds :=
  match r.pool.workers[i]?, pauses with
  | some (.running job _), [] => r.conclude i job
  | _, _ => r

/-- The sleeps before a worker. -/
def pausesAt (r : Rounds) (i : Nat) : List Nat :=
  match r.pool.workers[i]? with
  | some (.running _ run) => run.pauses
  | _ => []

/-- **A worker goes on** until it has to wait or has nothing left to spend. -/
def go (i : Nat) : Nat → List Nat → Rounds → Rounds
  | 0, pauses, r =>
    let r := r.concludeAt i pauses
    { r with spent := { worker := i, pauses } :: r.spent }
  | left + 1, pauses, r =>
    let r := r.concludeAt i pauses
    match r.pool.workers[i]? with
    | some (.running ..) =>
      match pauses with
      | time :: later =>
        if time ≤ r.pool.clock then go i left later r
        else { r with alarms := r.alarms ++ [⟨time, i, later⟩] }
      | [] => r
    | some .idle =>
      if r.pool.workers.any Worker.isPolling then { r with line := r.line ++ [i] }
      else go i left [] (r.move (.worker i))
    | some .polling =>
      if r.pool.queue.isEmpty then
        if r.pool.isConnected then { r with watcher := some i }
        else { (r.move (.worker i)).handOver with isDue := true }
      else
        let r := (r.move (.worker i)).handOver
        go i left (r.pausesAt i) r
    | _ => r

/-- So many turns, or fewer if no worker can go on. -/
def turns : Nat → Rounds → Rounds
  | 0, r => r
  | n + 1, r =>
    match r.ready with
    | [] => r
    | t :: ready => turns n (go t.worker t.left t.pauses { r with ready })

/-! ## Looks -/

/-- The replies that are there for some tickets. -/
def repliesTo (p : Pool) (tickets : List Nat) : Nat :=
  tickets.countP fun ticket => (p.reply? ticket).isSome

/-- **A batch is looked at**, while `left` replies can still be taken in.  At first it sends all its
inputs, and returns if there is nothing to wait for; later it takes replies in, and returns with the
last of them. -/
def lookAt (acc : Rounds × Nat) (b : Nat) : Rounds × Nat :=
  let (r, left) := acc
  match r.pool.batches[b]? with
  | some (.called inputs) => (r.moves (.batch b) (inputs.length + 2), left)
  | some (.sending _ _ _ tickets _) =>
    let before := r.seen.getD (b - r.first) 0
    let there := repliesTo r.pool tickets
    let taken := min (there - before) left
    let r := { r with seen := r.seen.set (b - r.first) (before + taken) }
    if before + taken = tickets.length then (r.move (.batch b), left - taken)
    else if before + taken < there then ({ r with told := r.told ++ [b] }, left - taken)
    else (r, left - taken)
  | _ => (r, left)

/-- The batches to look at, in order. -/
def order (r : Rounds) : List Nat :=
  if r.seen.length ≤ fewBatches then (List.range r.seen.length).map (r.first + ·) else r.told

/-- The worker at the empty queue can go on if the queue is not empty any more, or shut. -/
def rouse (r : Rounds) : Rounds :=
  match r.watcher with
  | some i =>
    if r.pool.queue.isEmpty && r.pool.isConnected then r
    else { r with watcher := none, ready := r.ready ++ [{ worker := i }] }
  | none => r

/-- **A look at the batches** and the closings. -/
def look (r : Rounds) : Rounds :=
  let (r, _) := r.order.foldl lookAt ({ r with told := [], isDue := false }, allowance)
  let r := (List.range r.pool.closings.length).foldl (fun r i => r.moves (.closing i) 3) r
  { r with isDue := !r.told.isEmpty }.rouse

/-! ## Rounds -/

/-- Whether nothing is left to do at this time. -/
def isOver (r : Rounds) : Bool := r.ready.isEmpty && !r.isDue

/-- **One round**: a look if there is something to look at, then turns. -/
def round (r : Rounds) : Rounds :=
  let r := turns roundLength (if r.isDue then r.look else r)
  { r with ready := r.ready ++ r.spent, spent := [] }

/-- Rounds until nothing is left to do at this time. -/
def instant : Nat → Rounds → Rounds
  | 0, r => r
  | fuel + 1, r => if r.isOver then r else instant fuel r.round

/-- When the next alarm goes off, or the pool is to be shut. -/
def nextTime? (r : Rounds) : Option Nat := (r.alarms.map Alarm.time ++ r.closeAt.toList).min?

/-- The pool is shut if it is time. -/
def shutDue (r : Rounds) : Rounds :=
  if r.closeAt.any (· ≤ r.pool.clock) then
    { r.move .close with closeAt := none, isDue := true }
  else r

/-- **The clock goes on**: the workers whose alarms go off can go on. -/
def wake (r : Rounds) (time : Nat) : Rounds :=
  let r := r.move (.tick time)
  let (due, rest) := r.alarms.partition (·.time ≤ time)
  let turns := due.map fun a => ({ worker := a.worker, pauses := a.time :: a.later } : Turn)
  shutDue { r with alarms := rest, ready := r.ready ++ turns }

/-- Instants until no alarm is left; `bound` is the fuel of each. -/
def instants (bound : Nat) : Nat → Rounds → Rounds
  | 0, r => r
  | fuel + 1, r =>
    let r := instant bound r
    match r.nextTime? with
    | some time => instants bound fuel (r.wake time)
    | none => r

/-- The beginning: in a pool where a worker already waits at the queue the other idle ones are in
line; else all of them are about to come to it. -/
def start (p : Pool) (batches : List (List LaunchInput)) (closeAt : Option Nat) : Rounds :=
  let idle := (List.range p.workers.length).filter fun i => p.workers[i]? == some .idle
  let watcher := p.workers.findIdx? Worker.isPolling
  let first := p.batches.length
  shutDue {
    pool := p.callAll batches
    first := first
    ready := if watcher.isNone then idle.map fun i => { worker := i } else []
    line := if watcher.isNone then [] else idle
    watcher := watcher
    told := (List.range batches.length).map (first + ·)
    seen := batches.map fun _ => 0
    closeAt := closeAt }

/-- As many instants, and rounds of an instant, as some launches can keep a pool busy: each of them
ends and sleeps so many times. -/
def bound (p : Pool) (inputs : List LaunchInput) : Nat :=
  inputs.foldl (fun n input => n + (p.pipeline.run p.clock input).pauses.length + 2)
    (2 * p.workers.length + 4)

end Rounds

namespace Pool

/-- **Runs batches side by side** and waits for all of them; with `shutdownAfter`, the pool is shut
so many milliseconds after they were called. -/
def runBatches (p : Pool) (batches : List (List LaunchInput)) (shutdownAfter : Option Nat) : Pool :=
  let closeAt := shutdownAfter.map fun ms => p.clock + ms
  let bound := Rounds.bound p batches.flatten
  (Rounds.instants bound bound (.start p batches closeAt)).pool.runQuiet

end Pool

end Relaunch
