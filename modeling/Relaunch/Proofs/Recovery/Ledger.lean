import Relaunch.Proofs.Pool.Ledger
import Relaunch.Proofs.Pool.Pending
import Relaunch.Proofs.Recovery.LifeCycle
import Relaunch.Proofs.Recovery.Scan

/-!
# Proofs/Recovery/Ledger — between cycles, the books of recovery balance

Five parts of recovery count: a cycle that begins, a query that is tried again, a worker that ends a
launch, one that resumes a claim, and a batch whose inputs are turned away.  Between cycles what
they counted is what can be read off the cycles: their rows, their summaries and their list calls.
So it is whatever the order of the steps and whatever is answered to failure reports.

* `Kept.step` — every step of a cycle keeps the books.
* `Kept.balanced` — between cycles they balance.
* `Runner.Between` — a runner between its cycles, in a run or outside of one.
* `balanced_between_cycles` — both.
-/

namespace Relaunch

/-- Every call of a query but the last is followed by a retry. -/
theorem Query.length_calls [Clock] (policy : Backoff) (request : ListRequest) (r : Retry)
    (time : Nat) (script : Script) :
    (runFrom policy request r time script).calls.length
      = (runFrom policy request r time script).retries + 1 := by
  induction script generalizing r time with
  | nil => rfl
  | cons answer rest ih =>
    simp only [runFrom, calling]
    split
    · rfl
    · rfl
    · simp only [retry, List.length_cons, ih]

namespace Recovery

/-- The rows of all lists that the registry gave. -/
def rows (r : Recovery) : List Workload := r.cycles.flatMap Cycle.rows

/-- The summaries of the cycles that had their lists. -/
def summaries (r : Recovery) : List Summary := r.cycles.filterMap (·.result.toOption)

/-- **Recovery whose books balance.** -/
structure Balanced (r : Recovery) : Prop where
  /-- Every list call is the first of its cycle, or a retry. -/
  calls : r.calls.length = r.pool.tally.cycles + r.pool.tally.retries
  cycles : r.pool.tally.cycles = r.cycles.length
  /-- A cycle whose query was given up has no rows. -/
  unlisted : ∀ c ∈ r.cycles, ∀ f, c.result = .error f → c.rows = []
  resumed (k : Kind) : r.pool.tally.resumed k = r.rows.countP (·.kind = k)
  resumedTotal : r.pool.tally.resumedTotal = r.rows.length
  ended : r.pool.tally.successes + r.pool.tally.failures = r.rows.length
  submitted : (r.summaries.map Summary.submitted).sum = r.rows.length
  succeeded : r.pool.tally.successes = (r.summaries.map Summary.succeeded).sum
  failed : r.pool.tally.failures = (r.summaries.map Summary.failed).sum
  panics_le : r.pool.tally.panics ≤ r.pool.tally.failures
  /-- No failure is reported twice, and no success is. -/
  reports_le : r.pool.reports.length ≤ r.pool.tally.failures

/-! ## Cycles and batches -/

/-- **Batches that are the cycles**: one for each that had its list, with its rows and its
summary. -/
structure Filed (cycles : List Cycle) (batches : List Batch) : Prop where
  inputs : batches.flatMap Batch.inputs = (cycles.flatMap Cycle.rows).map LaunchInput.ofWorkload
  summaries : batches.map Batch.summary? = (cycles.filterMap (·.result.toOption)).map some
  unlisted : ∀ c ∈ cycles, ∀ f, c.result = .error f → c.rows = []

variable {cycles : List Cycle} {batches : List Batch}

theorem Filed.back (filed : Filed cycles batches) : ∀ b ∈ batches, b.isReturned := by
  intro b mem
  have its := List.mem_map_of_mem (f := Batch.summary?) mem
  rw [filed.summaries] at its
  obtain ⟨summary, -, eq⟩ := List.mem_map.mp its
  cases b with
  | returned => rfl
  | _ => cases eq

/-- A cycle that has no list. -/
theorem Filed.error (filed : Filed cycles batches) (start finish : Nat) (f : Failure) :
    Filed (cycles ++ [⟨start, finish, [], .error f⟩]) batches where
  inputs := by
    rw [filed.inputs, List.flatMap_append, List.flatMap_singleton, List.append_nil]
  summaries := by
    rw [filed.summaries, List.filterMap_append]
    exact congrArg (List.map some) (List.append_nil _).symm
  unlisted c mem := by
    rcases List.mem_append.mp mem with old | new
    · exact filed.unlisted c old
    · obtain rfl := List.mem_singleton.mp new
      exact fun _ _ => rfl

/-- A cycle whose rows were launched. -/
theorem Filed.ok (filed : Filed cycles batches) (start finish : Nat) {rows : List Workload}
    {batch : Batch} {summary : Summary} (inputs : batch.inputs = rows.map LaunchInput.ofWorkload)
    (its : batch.summary? = some summary) :
    Filed (cycles ++ [⟨start, finish, rows, .ok summary⟩]) (batches ++ [batch]) where
  inputs := by
    rw [List.flatMap_append, List.flatMap_append, List.map_append, filed.inputs,
      List.flatMap_singleton, List.flatMap_singleton, inputs]
  summaries := by
    rw [List.map_append, List.filterMap_append, List.map_append, filed.summaries,
      List.map_singleton, its]
    rfl
  unlisted c mem := by
    rcases List.mem_append.mp mem with old | new
    · exact filed.unlisted c old
    · obtain rfl := List.mem_singleton.mp new
      exact nofun

/-! ## Where the books stand -/

/-- The retries of a query that is yet to be heard of. -/
def unheard : Scan.Phase → Nat
  | .asking _ query => query.retries
  | .resting | .listed .. | .launching .. => 0

/-- Whether a cycle is under way. -/
def underWay : Scan.Phase → Nat
  | .resting => 0
  | .asking .. | .listed .. | .launching .. => 1

/-- **The batches of a pool in a phase of its cycle**: those of the cycles before it, and that of
its rows once they are launched. -/
def Entered (cycles : List Cycle) (batches : List Batch) : Scan.Phase → Prop
  | .resting | .asking .. | .listed .. => Filed cycles batches
  | .launching _ rows b => ∃ done batch, batches = done ++ [batch] ∧ done.length = b ∧
    Filed cycles done ∧ batch.inputs = rows.map LaunchInput.ofWorkload

/-- **Recovery whose books are kept.** -/
structure Kept (phase : Scan.Phase) (r : Recovery) : Prop where
  ledger : r.pool.Ledger
  hooks : r.pool.pipeline.hooks.Reports
  calls : r.calls.length = r.pool.tally.cycles + r.pool.tally.retries + unheard phase
  cycles : r.pool.tally.cycles = r.cycles.length + underWay phase
  entered : Entered r.cycles r.pool.batches phase

/-- **A step of the pool stays with the batch that is at work**, if any is. -/
theorem Entered.step {phase : Scan.Phase} {p q : Pool} {m : Move}
    (entered : Entered cycles p.batches phase) (own : ∀ inputs, m ≠ .call inputs)
    (s : p.Step m q) : Entered cycles q.batches phase := by
  cases phase with
  | launching start rows b =>
    obtain ⟨done, batch, batches, length, filed, inputs⟩ := entered
    rcases s.batches_cases with same | ⟨inputs, call, -⟩ | ⟨c, old, new, at_c, pending, set, its⟩
    · exact ⟨done, batch, same.trans batches, length, filed, inputs⟩
    · exact absurd call (own inputs)
    · rw [batches] at at_c
      have lt := (List.getElem?_eq_some_iff.mp at_c).1
      rw [List.length_append, List.length_singleton] at lt
      obtain rfl : c = done.length := by
        by_contra ne
        rw [List.getElem?_append_left (by omega)] at at_c
        rw [filed.back old (List.mem_of_getElem? at_c)] at pending
        cases pending
      rw [List.getElem?_concat_length] at at_c
      cases at_c
      refine ⟨done, new, ?_, length, filed, its.trans inputs⟩
      rw [set, batches, List.set_append_right _ _ (Nat.le_refl _), Nat.sub_self]
      rfl
  | resting => exact s.batches_of_returned (Filed.back entered) own ▸ entered
  | asking => exact s.batches_of_returned (Filed.back entered) own ▸ entered
  | listed => exact s.batches_of_returned (Filed.back entered) own ▸ entered

end Recovery

namespace Scan

open Recovery

variable {s t : Scan}

theorem kept_new (owner : String) (policy : Backoff) (script : Script) (parallelism : Nat)
    (pipeline : Pipeline) (reports : pipeline.hooks.Reports) (start : Nat) :
    Kept .resting (new owner policy script parallelism pipeline start).recovery where
  ledger := Pool.ledger_new parallelism pipeline start
  hooks := reports
  calls := rfl
  cycles := rfl
  entered := ⟨rfl, rfl, nofun⟩

/-- The query comes back: its retries are counted. -/
theorem kept_hear {start : Nat} {query : Query} (kept : Kept s.phase s.recovery)
    (asks : s.phase = .asking start query) (past : query.finish ≤ s.pool.clock) :
    Kept (s.hear start query).phase (s.hear start query).recovery := by
  obtain ⟨ledger, hooks, calls, cycles, entered⟩ := kept
  rw [asks] at calls cycles entered
  simp only [unheard] at calls
  cases result : query.result with
  | error e =>
    simp only [hear, result, afterQuery_of_le past]
    refine ⟨ledger.share _ _ _ _, hooks, ?_, ?_, entered.error _ _ _⟩
    · simp only [finish, setPool, Pool.withCounts, unheard, pool]
      omega
    · simpa [finish, setPool, Pool.withCounts, underWay, pool] using cycles
  | ok response =>
    simp only [hear, result, afterQuery_of_le past]
    refine ⟨ledger.share _ _ _ _, hooks, ?_, cycles, entered⟩
    simp only [setPool, listed, Pool.note, Pool.withCounts, unheard, pool]
    omega

/-- The rows are launched. -/
theorem kept_launch {start : Nat} {rows : List Workload} (kept : Kept s.phase s.recovery)
    (waits : s.phase = .listed start rows) :
    Kept (.launching start rows s.pool.batches.length)
      (s.setPool (s.pool.callAll [rows.map LaunchInput.ofWorkload])).recovery := by
  obtain ⟨ledger, hooks, calls, cycles, entered⟩ := kept
  rw [waits] at calls cycles entered
  refine ⟨ledger.step hooks (.call _), hooks, calls, cycles, ?_⟩
  exact ⟨_, .called (rows.map LaunchInput.ofWorkload), rfl, rfl, entered, rfl⟩

/-- The batch of the rows has returned. -/
theorem kept_conclude {start b : Nat} {rows : List Workload} {summary : Summary}
    (kept : Kept s.phase s.recovery) (launches : s.phase = .launching start rows b)
    (there : s.pool.batches[b]?.bind Batch.summary? = some summary) :
    Kept (s.conclude start rows summary).phase (s.conclude start rows summary).recovery := by
  obtain ⟨ledger, hooks, calls, cycles, entered⟩ := kept
  rw [launches] at calls cycles entered
  obtain ⟨done, batch, batches, rfl, filed, inputs⟩ := entered
  have batches : s.pool.batches = done ++ [batch] := batches
  rw [batches, List.getElem?_concat_length, Option.bind_some] at there
  refine ⟨ledger.share _ _ _ _, hooks, calls, ?_, ?_⟩
  · simpa [conclude, finish, setPool, Pool.note, underWay, pool] using cycles
  · have filed := filed.ok start s.pool.clock inputs there
    rw [← batches] at filed
    exact filed

/-- The pool takes a step, which is none of the counts of others. -/
theorem kept_pool {m : Relaunch.Move} {p : Pool} (kept : Kept s.phase s.recovery)
    (own : isCall m = false) (went : s.pool.Step m p) : Kept s.phase (s.setPool p).recovery where
  ledger := kept.ledger.step kept.hooks went
  hooks := (Pool.pipeline_of_step went).symm ▸ kept.hooks
  calls := by
    obtain ⟨cycles, retries⟩ := went.others_eq
    simp only [setPool, cycles, retries]
    exact kept.calls
  cycles := went.others_eq.1.trans kept.cycles
  entered := kept.entered.step (by rintro inputs rfl; cases own) went

variable [Clock]

/-- The registry is asked: its calls are known, its retries not yet counted. -/
theorem kept_ask (kept : Kept s.phase s.recovery) (rests : s.phase = .resting) :
    Kept s.ask.phase s.ask.recovery where
  ledger := kept.ledger.share _ _ _ _
  hooks := kept.hooks
  calls := by
    have calls := kept.calls
    rw [rests] at calls
    have more : s.ask.recovery.calls
        = s.recovery.calls ++ (Query.run s.recovery.policy (.claimedBy s.recovery.owner)
          s.recovery.pool.clock s.recovery.script).calls := rfl
    rw [more, List.length_append, calls, Query.run, Query.length_calls]
    simp only [ask, opening, Tally.addCycle, unheard, Query.run]
    omega
  cycles := by
    have cycles := kept.cycles
    rw [rests] at cycles
    exact congrArg (· + 1) cycles
  entered := by
    have entered := kept.entered
    rw [rests] at entered
    exact entered

/-- **Every step keeps the books.** -/
theorem kept_step {m : Move} (kept : Kept s.phase s.recovery) (took : s.step m = some t) :
    Kept t.phase t.recovery := by
  cases Step.of_step took with
  | ask rests => exact kept_ask kept rests
  | hear asks past => exact kept_hear kept asks past
  | launch waits => exact kept_launch kept waits
  | conclude launches there => exact kept_conclude kept launches there
  | pool own went =>
    have kept := kept_pool kept own (.of_step went)
    exact kept
  | join => exact kept
  | observer => exact kept

/-! ## Any order of steps -/

/-- **A step while the registry gives these answers** to failure reports, which need not be those of
the steps before. -/
def stepUnder (s : Scan) (m : Pool.Answers × Move) : Option Scan :=
  { s with recovery.pool.pipeline.hooks := .reporter m.1 }.step m.2

/-- The state after some steps, each under its answers. -/
def stepsUnder (s : Scan) (moves : List (Pool.Answers × Move)) : Option Scan :=
  moves.foldlM stepUnder s

theorem kept_reaches (kept : Kept s.phase s.recovery) (reaches : s.Reaches t) :
    Kept t.phase t.recovery := by
  obtain ⟨moves, went⟩ := reaches
  exact Pool.foldlM_induction (P := fun s => Kept s.phase s.recovery) (fun _ => kept_step) kept went

theorem kept_stepsUnder {moves : List (Pool.Answers × Move)} (kept : Kept s.phase s.recovery)
    (went : s.stepsUnder moves = some t) : Kept t.phase t.recovery := by
  refine Pool.foldlM_induction (P := fun s => Kept s.phase s.recovery) ?_ kept went
  intro s t m _ kept took
  exact kept_step (s := { s with recovery.pool.pipeline.hooks := .reporter m.1 })
    ⟨kept.ledger.hooks _, ⟨_, rfl⟩, kept.calls, kept.cycles, kept.entered⟩ took

end Scan

/-! ## Between cycles -/

/-- Every row has one kind. -/
theorem countP_kinds (rows : List Workload) :
    rows.countP (·.kind = .sync) + rows.countP (·.kind = .check)
      + rows.countP (·.kind = .discover) + rows.countP (·.kind = .spec) = rows.length := by
  induction rows with
  | nil => rfl
  | cons row rows ih =>
    simp only [List.countP_cons, List.length_cons]
    cases row.kind <;> simp <;> omega

/-- **Between cycles, the books balance.** -/
theorem Recovery.Kept.balanced {r : Recovery} (kept : Kept .resting r) : r.Balanced := by
  have filed : Filed r.cycles r.pool.batches := kept.entered
  have closed := kept.ledger.balanced filed.back
  have inputs : r.pool.inputs = r.rows.map LaunchInput.ofWorkload := filed.inputs
  have length : r.pool.inputs.length = r.rows.length := by rw [inputs, List.length_map]
  have summaries : r.pool.summaries = r.summaries := by
    have its := congrArg (List.filterMap id) filed.summaries
    rw [List.filterMap_map, List.filterMap_map] at its
    exact its.trans List.filterMap_some
  have resumed : ∀ k, r.pool.tally.resumed k = r.rows.countP (·.kind = k) := by
    intro k
    rw [closed.resumed k, inputs, List.countP_map]
    rfl
  refine ⟨kept.calls, kept.cycles, filed.unlisted, resumed, ?_, closed.whole.trans length, ?_, ?_,
    ?_, closed.panics_le, closed.reports_le⟩
  · rw [← countP_kinds, ← resumed, ← resumed, ← resumed, ← resumed]
    rfl
  · rw [← summaries, closed.submitted, length]
  · rw [← summaries]
    exact closed.ended .succeeded
  · rw [← summaries]
    exact closed.ended .failed

/-! ## Runners -/

namespace Runner

/-- **A runner between its cycles**: what comes of it by whole cycles and whole runs, and by what a
run does between its cycles. -/
inductive Between [Clock] (first : Runner) : Runner → Prop where
  | start : Between first first
  | once {r : Runner} (h : Between first r) : Between first r.recoverOnce.1
  | run {r s : Runner} {cancelAt : Option Nat} {result : Except Failure Unit} (h : Between first r)
      (went : r.runUntilCancelled cancelAt = some (s, result)) : Between first s
  | wait {r : Runner} (h : Between first r) (time : Nat) : Between first (r.wait time)
  | note {r : Runner} (h : Between first r) (events : List Event) : Between first (r.note events)
  | trigger {r : Runner} (h : Between first r) (context : String) (f : Failure) :
      Between first (r.trigger context f).1
  | cancel {r : Runner} (h : Between first r) : Between first r.cancel
  | shutdown {r : Runner} (h : Between first r) : Between first r.shutdown

variable {answer : FailureReport → Hooks.ReportReply} {r s : Runner}

/-- **A runner whose books are kept.** -/
structure Kept (r : Runner) (answer : FailureReport → Hooks.ReportReply) : Prop where
  ready : r.Ready answer
  books : Recovery.Kept .resting r.recovery

theorem kept_new (config : Config) (script : Script) (stages : List Stage) :
    (new config script answer stages).Kept answer where
  ready := ready_new config script stages
  books := Scan.kept_new config.dataPlane config.backoff script config.parallelism
    ⟨stages, .reporter answer⟩ ⟨answer, rfl⟩ 0

/-- The cycles of a runner, step by step. -/
def scan (r : Runner) : Scan := ⟨r.recovery, .resting, 0, []⟩

theorem Kept.note (h : r.Kept answer) (events : List Event) : (r.note events).Kept answer where
  ready := h.ready.note events
  books := ⟨h.books.ledger.share _ _ _ _, h.books.hooks, h.books.calls, h.books.cycles,
    h.books.entered⟩

theorem Kept.latch (h : r.Kept answer) (latch : FatalLatch) :
    { r with latch := latch }.Kept answer where
  ready := ⟨h.ready.lived, h.ready.back, h.ready.hooks⟩
  books := h.books

theorem Kept.trigger (h : r.Kept answer) (context : String) (f : Failure) :
    (r.trigger context f).1.Kept answer :=
  (h.latch _).note _

theorem fst_ended (r : Runner) : r.ended.1 = r := by
  unfold ended
  split <;> rfl

variable [Clock]

theorem Kept.recoverOnce (h : r.Kept answer) : r.recoverOnce.1.Kept answer where
  ready := h.ready.recoverOnce
  books := by
    obtain ⟨epoch, reaches⟩ := Scan.reaches_recover (s := r.scan) rfl h.ready.lived h.ready.back
    exact Scan.kept_reaches h.books reaches

theorem Kept.wait (h : r.Kept answer) (time : Nat) : (r.wait time).Kept answer where
  ready := h.ready.wait time
  books := by
    obtain ⟨epoch, reaches⟩ := Scan.reaches_wait r.scan time
    exact Scan.kept_reaches h.books reaches

theorem Kept.shutdown (h : r.Kept answer) : r.shutdown.Kept answer where
  ready :=
    { lived := h.ready.lived.reaches (Pool.reaches_shutdown _)
      back := h.ready.rest_shutdown.back
      hooks := (congrArg Pipeline.hooks (Pool.reaches_shutdown _).pipeline_eq).trans h.ready.hooks }
  books := by
    have own : r.scan.pool.step .close = some r.scan.pool.close := rfl
    obtain ⟨epoch, shuts⟩ := Scan.reaches_step rfl own
    obtain ⟨later, leaves⟩ := Scan.reaches_runQuiet (r.scan.onward r.scan.pool.close epoch)
    exact Scan.kept_reaches h.books (shuts.trans leaves)

theorem Kept.iterate (h : r.Kept answer) (pause : Nat → Nat) (n : Nat) :
    ((again pause)^[n] r).Kept answer := by
  induction n generalizing r with
  | zero => exact h
  | succ n ih => exact ih ((h.wait _).recoverOnce.note _)

theorem Kept.stops (h : r.Kept answer) {pause : Nat → Nat} {cancelAt : Option Nat}
    {e : Runner × Except Failure Unit} (stops : r.Stops pause cancelAt e) : e.1.Kept answer := by
  cases stops with
  | cancelled =>
    rw [fst_ended]
    exact h.wait _
  | rejected =>
    rw [fst_ended]
    exact (h.wait _).recoverOnce.trigger _ _

/-- The cycles of a run. -/
theorem Kept.cycles (h : r.Kept answer) {cancelAt : Option Nat} {result : Except Failure Unit}
    (went : r.cycles cancelAt = some (s, result)) : s.Kept answer := by
  have once := h.recoverOnce
  cases started : r.startup.result with
  | error f =>
    cases rejection : f.isSocketRejection with
    | true =>
      rw [cycles_of_rejected started rejection] at went
      cases went
      exact once.trigger _ _
    | false =>
      rw [cycles_of_failed started rejection] at went
      cases went
      exact once
  | ok summary =>
    rw [cycles_of_ok started] at went
    split at went
    · obtain ⟨time, -, eq⟩ := Option.map_eq_some_iff.mp went
      cases eq
      exact once.wait time
    · rename_i interval _
      rcases periodic_cases interval.ticks cancelAt (r.recoverOnce.1.cycleBound cancelAt)
        r.recoverOnce.1 with ⟨n, e, ends, stops, -⟩ | ⟨endless, -⟩
      · cases ends.symm.trans went
        exact (once.iterate interval.ticks n).stops stops
      · cases endless.symm.trans went

theorem Kept.runUntilCancelled (h : r.Kept answer) {cancelAt : Option Nat}
    {result : Except Failure Unit} (went : r.runUntilCancelled cancelAt = some (s, result)) :
    s.Kept answer := by
  rw [runUntilCancelled_eq] at went
  obtain ⟨⟨t, ended⟩, cycles, eq⟩ := Option.map_eq_some_iff.mp went
  cases eq
  have shut := (h.cycles cycles).shutdown
  unfold finished
  split
  · exact shut.latch _
  · exact shut

/-- **A runner between its cycles keeps its books.** -/
theorem Between.kept {first : Runner} (kept : first.Kept answer) (h : first.Between r) :
    r.Kept answer := by
  induction h with
  | start => exact kept
  | once _ ih => exact ih.recoverOnce
  | run _ went ih => exact ih.runUntilCancelled went
  | wait _ time ih => exact ih.wait time
  | note _ events ih => exact ih.note events
  | trigger _ context f ih => exact ih.trigger context f
  | cancel _ ih => exact ih.latch _
  | shutdown _ ih => exact ih.shutdown

end Runner

/-- **Between cycles, the books of recovery balance**: as many list calls were made as cycles began
and queries were tried again; each row of each list was counted once as a claim of its kind, and
once as a success or a failure, as the summaries say; and no more panics and failure reports were
there than failures.  The counts have no upper end here.

* So it is after any steps of cycles that do not overlap, of the pool, its workers and its closings,
  in any order, whatever the registry answers, at each step anew, to failure reports.
* So it is of a runner after any whole cycles and whole runs, and at every point of a run at which
  no cycle is under way. -/
theorem Recovery.balanced_between_cycles [Clock] :
    (∀ (owner : String) (policy : Backoff) (script : Script) (parallelism start : Nat)
      (stages : List Stage) (first : Pool.Answers) (moves : List (Pool.Answers × Scan.Move))
      (s : Scan),
      (Scan.new owner policy script parallelism ⟨stages, .reporter first⟩ start).stepsUnder moves
        = some s → s.phase = .resting → s.recovery.Balanced) ∧
    ∀ (config : Config) (script : Script) (answer : Pool.Answers) (stages : List Stage)
      (r : Runner), (Runner.new config script answer stages).Between r → r.recovery.Balanced := by
  refine ⟨?_, ?_⟩
  · intro owner policy script parallelism start stages first moves s went rests
    have kept := Scan.kept_stepsUnder (Scan.kept_new owner policy script parallelism
      ⟨stages, .reporter first⟩ ⟨first, rfl⟩ start) went
    rw [rests] at kept
    exact kept.balanced
  · intro config script answer stages r between
    exact (between.kept (Runner.kept_new config script stages)).books.balanced

/-- A query that is tried again, and a launch that fails and whose report blows up; then another
cycle, which is given up. -/
theorem Recovery.balanced_between_cycles_of_two :
    let stages : List Stage :=
      [⟨"load", fun _ => .script [] (.error (.context "no claim" (.text "timed out")))⟩]
    let row : Workload := ⟨"w-1", some "dp-1", .claimed, .check, "", "", none, []⟩
    let script : Script := [⟨.error ⟨listMethod, .server 503 ""⟩, 2⟩, ⟨.ok ⟨[row]⟩, 1⟩,
      ⟨.error ⟨listMethod, .server 403 ""⟩, 0⟩]
    let calm : Pool.Answers := fun _ => .accepted
    let blowUp : Pool.Answers := fun _ => .panicked .wordless
    let moves : List (Pool.Answers × Scan.Move) := [(calm, .ask), (calm, .pool (.tick 9)),
      (calm, .hear), (calm, .launch), (calm, .pool (.batch 0)), (calm, .pool (.batch 0)),
      (calm, .pool (.worker 0)), (blowUp, .pool (.worker 0)), (calm, .pool (.worker 0)),
      (calm, .pool (.worker 0)), (calm, .pool (.worker 0)), (calm, .pool (.worker 0)),
      (calm, .pool (.batch 0)), (calm, .conclude), (calm, .ask), (calm, .hear)]
    let config : Config := {
      registryUrl := "http://r.invalid"
      authToken := none
      dataPlane := "dp-1"
      parallelism := 1
      initialBackoff := .ofMillis 1
      maxBackoff := .ofMillis 2
      requestTimeout := .ofSecs 30
      recoveryInterval := none }
    (∃ s, (Scan.new "dp-1" ⟨.ofMillis 1, .ofMillis 2⟩ script 1 ⟨stages, .reporter calm⟩
        0).stepsUnder moves = some s ∧ s.recovery.Balanced ∧
      s.recovery.pool.tally
        = { resumedCheck := 1, retries := 1, failures := 1, panics := 1, cycles := 2 }) ∧
    (Runner.new config script calm stages).recoverOnce.1.recoverOnce.1.recovery.Balanced := by
  intro stages row script calm blowUp moves config
  obtain ⟨scans, runners⟩ := balanced_between_cycles
  refine ⟨?_, runners config script calm stages _ (.once (.once .start))⟩
  have run : ((Scan.new "dp-1" ⟨.ofMillis 1, .ofMillis 2⟩ script 1 ⟨stages, .reporter calm⟩
      0).stepsUnder moves).map (fun s => (underWay s.phase, s.recovery.pool.tally))
      = some (0, { resumedCheck := 1, retries := 1, failures := 1, panics := 1, cycles := 2 }) := by
    decide +kernel
  obtain ⟨s, went, at_end⟩ := Option.map_eq_some_iff.mp run
  obtain ⟨idle, tally⟩ := Prod.mk.inj at_end
  have rests : s.phase = .resting := by
    cases at_phase : s.phase with
    | resting => rfl
    | _ =>
      rw [at_phase] at idle
      cases idle
  exact ⟨s, went, scans _ _ _ _ _ _ _ _ s went rests, tally⟩

end Relaunch
