import Relaunch.Proofs.Pool.Alone
import Relaunch.Proofs.Recovery.Source
import Relaunch.Recovery.Cycle

/-!
# Proofs/Recovery/Cycle — a recovery cycle takes up every claim, or nothing

If the registry gives a list, every row of it goes through the pool, once and in the order of the
list, whatever its status; the cycle is caught up when it ends.  If the query is given up, the pool
is as it was but for the counts of the query itself, and the cycle fails with that query's error.

* `Query.start_le_finish` — a query ends after it started.
* `lived_recover` — the pool after a cycle is one like any other, ready for the next.
* `recover_log` — a cycle keeps the log and adds nothing of the runner's.
* `recover_all_or_nothing` — both halves of a cycle.
-/

namespace Relaunch

/-! ## Events that are about unclaimed rows -/

def Event.isUnclaimed : Event → Bool
  | unclaimedListed .. => true
  | _ => false

/-- Only these events have this message. -/
theorem Event.message_eq_iff (e : Event) :
    e.message = "registry returned a non-claimed workload for recovery" ↔ e.isUnclaimed = true := by
  cases e with
  | unclaimedListed id status => exact ⟨fun _ => rfl, fun _ => rfl⟩
  | queryRetried owner error attempt delay =>
    refine ⟨fun h => ?_, nofun⟩
    simp only [message] at h
    split at h <;> simp at h
  | _ => exact ⟨fun h => by simp [message] at h, nofun⟩

namespace Query

variable [Clock]

theorem start_le_finish_runFrom (policy : Backoff) (request : ListRequest) (r : Retry) (time : Nat)
    (script : Script) : time ≤ (runFrom policy request r time script).finish := by
  induction script generalizing r time with
  | nil => exact Nat.le_refl _
  | cons answer rest ih =>
    simp only [runFrom, calling]
    split
    · exact Nat.le_add_right _ _
    · exact Nat.le_add_right _ _
    · have reached : time ≤ answer.arrival time := Nat.le_add_right _ _
      exact Nat.le_trans (Nat.le_trans reached (Nat.le_add_right _ _)) (ih (r.again policy) _)

/-- **A query ends after it started.** -/
theorem start_le_finish (policy : Backoff) (request : ListRequest) (start : Nat) (script : Script) :
    start ≤ (run policy request start script).finish :=
  start_le_finish_runFrom policy request _ start script

end Query

/-! ## The pool of a cycle -/

namespace Pool

theorem wait_eq (p : Pool) (time : Nat) : p.wait time = { p with clock := max p.clock time } := by
  rw [wait, step]
  split
  · rename_i later
    rw [Nat.max_eq_right (Nat.le_of_lt later)]
    rfl
  · rename_i past
    rw [Nat.max_eq_left (Nat.le_of_not_lt past)]
    rfl

theorem reaches_wait (p : Pool) (time : Nat) : p.Reaches (p.wait time) :=
  reaches_getD_step p (.tick time)

end Pool

namespace Recovery

/-- The launch of rows in a pool whose batches have all returned. -/
theorem relaunch_eq {p : Pool} {rows : List Workload} {tickets : List Nat} {summary : Summary}
    (batches : (p.runBatch (rows.map LaunchInput.ofWorkload)).batches
      = p.batches ++ [.returned (rows.map LaunchInput.ofWorkload) tickets summary]) :
    relaunch p rows
      = ((p.runBatch (rows.map LaunchInput.ofWorkload)).note [.cycleFinished rows.length
          (p.runBatch (rows.map LaunchInput.ofWorkload)).progress.resumed summary], summary) := by
  have its : ((p.runBatch (rows.map LaunchInput.ofWorkload)).batches[p.batches.length]?.bind
      Batch.summary?).getD {} = summary := by
    rw [batches, List.getElem?_append_right (Nat.le_refl _), Nat.sub_self]
    rfl
  simp only [relaunch, its]

/-- Only cycles say anything of unclaimed rows. -/
theorem filter_isUnclaimed {l : List Entry} (quiet : ∀ e ∈ l, e.event.source ≠ .cycle) :
    (l.map Entry.event).filter (·.isUnclaimed) = [] := by
  refine List.filter_eq_nil_iff.mpr fun e mem => ?_
  obtain ⟨entry, logged, rfl⟩ := List.mem_map.mp mem
  intro unclaimed
  refine quiet entry logged ?_
  cases event : entry.event with
  | unclaimedListed => rfl
  | _ =>
    rw [event] at unclaimed
    cases unclaimed

/-- What is logged of rows warns of the unclaimed ones. -/
theorem filter_listEvents (rows : List Workload) :
    (listEvents rows).filter (·.isUnclaimed)
      = (rows.filter (·.status ≠ .claimed)).map fun w => .unclaimedListed w.id w.status := by
  rw [listEvents, List.filter_cons_of_neg (by nofun), List.filter_eq_self]
  intro e mem
  obtain ⟨w, -, rfl⟩ := List.mem_map.mp mem
  rfl

section Once

variable [Clock]

/-- The query of a cycle. -/
def query (r : Recovery) : Query := Query.run r.policy (.claimedBy r.owner) r.pool.clock r.script

/-- The pool of a cycle that has its list. -/
def ready (r : Recovery) (rows : List Workload) : Pool :=
  listed (afterQuery (opening r.pool) r.query) rows

/-- A cycle whose query gives a list. -/
theorem recover_of_ok {r : Recovery} {response : ListResponse}
    (h : r.query.result = .ok response) :
    let launched := relaunch (r.ready response.workloads) response.workloads
    r.recover = ({ r with
      pool := launched.1
      script := r.query.rest
      calls := r.calls ++ r.query.calls
      cycles := r.cycles
        ++ [⟨r.pool.clock, launched.1.clock, response.workloads, .ok launched.2⟩] },
      .ok launched.2) := by
  unfold query at h
  simp only [recover, h]
  rfl

/-- A cycle whose query is given up. -/
theorem recover_of_error {r : Recovery} {e : QueryError} (h : r.query.result = .error e) :
    let asked := afterQuery (opening r.pool) r.query
    r.recover = ({ r with
      pool := asked
      script := r.query.rest
      calls := r.calls ++ r.query.calls
      cycles := r.cycles ++ [⟨r.pool.clock, asked.clock, [], .error (failure r.owner e)⟩] },
      .error (failure r.owner e)) := by
  unfold query at h
  simp only [recover, h]
  rfl

/-- **The cycle** that is made. -/
def made (r : Recovery) : Cycle where
  start := r.pool.clock
  finish := r.recover.1.pool.clock
  rows := match r.query.result with
    | .ok response => response.workloads
    | .error _ => []
  result := r.recover.2

theorem script_recover (r : Recovery) : r.recover.1.script = r.query.rest := by
  cases result : r.query.result with
  | ok response => rw [recover_of_ok result]
  | error e => rw [recover_of_error result]

/-- The pool after the query of a cycle. -/
theorem afterQuery_eq (r : Recovery) :
    afterQuery (opening r.pool) r.query
      = { r.pool with
          clock := r.query.finish
          progress := {}
          tally := { r.pool.tally with
            cycles := r.pool.tally.cycles + 1
            retries := r.pool.tally.retries + r.query.retries }
          journal.log := r.pool.journal.log ++ r.query.log } := by
  have later : (opening r.pool).clock ≤ r.query.finish := Query.start_le_finish _ _ _ _
  rw [afterQuery, Pool.wait_eq, Nat.max_eq_right later]
  rfl

theorem ready_eq (r : Recovery) (rows : List Workload) :
    r.ready rows
      = { r.pool with
          clock := r.query.finish
          progress := ⟨rows.length, 0, true⟩
          tally := { r.pool.tally with
            cycles := r.pool.tally.cycles + 1
            retries := r.pool.tally.retries + r.query.retries }
          journal.log := r.pool.journal.log ++ (r.query.log
            ++ (listEvents rows).map fun event => ⟨r.query.finish, event⟩) } := by
  rw [ready, listed, afterQuery_eq, ← List.append_assoc]
  rfl

/-- The pool that a cycle launches its rows in is one like any other. -/
theorem lived_ready {r : Recovery} (lived : r.pool.Lived) (rows : List Workload) :
    (r.ready rows).Lived := by
  have later : r.pool.clock ≤ r.query.finish := Query.start_le_finish _ _ _ _
  have waited : (r.pool.wait r.query.finish).Lived := lived.reaches (Pool.reaches_wait _ _)
  rw [Pool.wait_eq, Nat.max_eq_right later] at waited
  have shared :=
    waited.share (r.ready rows).progress (r.ready rows).tally (r.ready rows).journal.log
  rw [ready_eq] at shared ⊢
  exact shared

/-- **The pool after a cycle that has its list** is the one that ran the batch of its rows, with a
summary of them all. -/
theorem pool_recover_of_ok {r : Recovery} {response : ListResponse}
    (lived : r.pool.Lived) (back : ∀ b ∈ r.pool.batches, b.isReturned)
    (listing : r.query.result = .ok response) :
    let rows := response.workloads
    let inputs := rows.map LaunchInput.ofWorkload
    let ran := (r.ready rows).runBatch inputs
    ∃ tickets summary,
      ran.batches = r.pool.batches ++ [.returned inputs tickets summary] ∧
      summary.submitted = rows.length ∧ summary.succeeded + summary.failed = rows.length ∧
      r.recover.2 = .ok summary ∧
      r.recover.1.pool = ran.note [.cycleFinished rows.length ran.progress.resumed summary] := by
  intro rows inputs ran
  obtain ⟨tickets, summary, _, batches, submitted, counted, -⟩ :=
    Pool.runBatch_alone (lived_ready lived rows) (by rw [ready_eq]; exact back) inputs
  have relaunched : relaunch (r.ready rows) rows = _ := relaunch_eq batches
  have result := recover_of_ok listing
  simp only at result
  rw [relaunched] at result
  rw [List.length_map] at submitted counted
  exact ⟨tickets, summary, batches.trans (by rw [ready_eq]), submitted, counted,
    congrArg (·.2) result, congrArg (·.1.pool) result⟩

/-- The pool after a cycle whose query is given up. -/
theorem pool_recover_of_error {r : Recovery} {e : QueryError}
    (refused : r.query.result = .error e) :
    r.recover.1.pool
      = { r.pool with
          clock := r.query.finish
          progress := {}
          tally := { r.pool.tally with
            cycles := r.pool.tally.cycles + 1
            retries := r.pool.tally.retries + r.query.retries }
          journal.log := r.pool.journal.log ++ r.query.log } := by
  rw [recover_of_error refused]
  exact afterQuery_eq r

/-- **The pool after a cycle** is one like any other, and all its batches have returned. -/
theorem lived_recover {r : Recovery} (lived : r.pool.Lived)
    (back : ∀ b ∈ r.pool.batches, b.isReturned) :
    r.recover.1.pool.Lived ∧ ∀ b ∈ r.recover.1.pool.batches, b.isReturned := by
  cases result : r.query.result with
  | ok response =>
    obtain ⟨tickets, summary, batches, -, -, -, pool⟩ := pool_recover_of_ok lived back result
    have after := (lived_ready lived response.workloads).reaches
      (Pool.reaches_runBatch _ (response.workloads.map LaunchInput.ofWorkload))
    rw [pool]
    refine ⟨after.share _ _ _, ?_⟩
    intro b mem
    have mem : b ∈ ((r.ready response.workloads).runBatch
        (response.workloads.map LaunchInput.ofWorkload)).batches := mem
    rw [batches] at mem
    rcases List.mem_append.mp mem with old | new
    · exact back b old
    · obtain rfl := List.mem_singleton.mp new
      rfl
  | error e =>
    have waited : (r.pool.wait r.query.finish).Lived := lived.reaches (Pool.reaches_wait _ _)
    have asked : r.pool.clock ≤ r.query.finish := Query.start_le_finish _ _ _ _
    rw [Pool.wait_eq, Nat.max_eq_right asked] at waited
    rw [pool_recover_of_error result]
    exact ⟨waited.share _ _ _, back⟩

/-- A cycle ends after it started. -/
theorem clock_le_recover {r : Recovery} (lived : r.pool.Lived)
    (back : ∀ b ∈ r.pool.batches, b.isReturned) : r.pool.clock ≤ r.recover.1.pool.clock := by
  have asked : r.pool.clock ≤ r.query.finish := Query.start_le_finish _ _ _ _
  cases result : r.query.result with
  | ok response =>
    obtain ⟨_, _, -, -, -, -, pool⟩ := pool_recover_of_ok lived back result
    have ran := (Pool.reaches_runBatch (r.ready response.workloads)
      (response.workloads.map LaunchInput.ofWorkload)).clock_le
    have started : (r.ready response.workloads).clock = r.query.finish := by rw [ready_eq]
    rw [pool]
    exact Nat.le_trans (Nat.le_trans asked (Nat.le_of_eq started.symm)) ran
  | error e =>
    rw [pool_recover_of_error result]
    exact asked

theorem pipeline_recover {r : Recovery} (lived : r.pool.Lived)
    (back : ∀ b ∈ r.pool.batches, b.isReturned) :
    r.recover.1.pool.pipeline = r.pool.pipeline := by
  cases result : r.query.result with
  | ok response =>
    obtain ⟨_, _, -, -, -, -, pool⟩ := pool_recover_of_ok lived back result
    have ran := (Pool.reaches_runBatch (r.ready response.workloads)
      (response.workloads.map LaunchInput.ofWorkload)).pipeline_eq
    rw [pool]
    exact ran.trans (by rw [ready_eq])
  | error e => rw [pool_recover_of_error result]

/-- **The log after a cycle that has its list**: that of its query, what is logged of its rows, of
their launches and their batch, and an end. -/
theorem log_recover_of_ok {r : Recovery} {response : ListResponse}
    {answer : FailureReport → Hooks.ReportReply} (lived : r.pool.Lived)
    (back : ∀ b ∈ r.pool.batches, b.isReturned) (hooks : r.pool.pipeline.hooks = .reporter answer)
    (listing : r.query.result = .ok response) :
    let done := r.recover.1.pool
    ∃ (entries : List Entry) (summary : Summary),
      done.journal.log = r.pool.journal.log ++ (r.query.log
        ++ (listEvents response.workloads).map (fun event => ⟨r.query.finish, event⟩) ++ entries
        ++ [⟨done.clock,
          .cycleFinished response.workloads.length done.progress.resumed summary⟩]) ∧
      ∀ e ∈ entries, e.event.source = .launch ∨ e.event.source = .batch := by
  intro done
  obtain ⟨_, summary, -, -, -, -, pool⟩ := pool_recover_of_ok lived back listing
  obtain ⟨entries, log, known⟩ := (Pool.reaches_runBatch (r.ready response.workloads)
    (response.workloads.map LaunchInput.ofWorkload)).log_eq
      (lived_ready lived response.workloads).sound (by rw [ready_eq]; exact hooks)
  refine ⟨entries, summary, ?_, known⟩
  simp only [done, pool, Pool.note, log]
  simp only [ready_eq, List.append_assoc]
  rfl

/-- **The warnings in the log of a cycle** are those of the rows that are not claimed. -/
theorem filter_message_eq {r : Recovery} {rows : List Workload} {entries : List Entry}
    (known : ∀ e ∈ entries, e.event.source = .launch ∨ e.event.source = .batch) {last : Entry}
    (ends : last.event.isUnclaimed = false) :
    ((r.query.log ++ (listEvents rows).map (Entry.mk r.query.finish) ++ entries ++ [last]).map
        Entry.event).filter
        (fun e : Event => e.message = "registry returned a non-claimed workload for recovery")
      = (rows.filter (·.status ≠ .claimed)).map fun w => .unclaimedListed w.id w.status := by
  have warned : ∀ e : Event, decide (e.message
      = "registry returned a non-claimed workload for recovery") = e.isUnclaimed := by
    intro e
    rw [Bool.eq_iff_iff, decide_eq_true_iff, Event.message_eq_iff]
  have asked : ∀ e ∈ r.query.log, e.event.source ≠ .cycle := by
    intro e mem
    rw [Query.source_of_mem_log mem]
    nofun
  have launched : ∀ e ∈ entries, e.event.source ≠ .cycle := by
    intro e mem
    rcases known e mem with launch | batch
    · rw [launch]
      nofun
    · rw [batch]
      nofun
  have listed : ((listEvents rows).map (Entry.mk r.query.finish)).map Entry.event
      = listEvents rows := by
    rw [List.map_map]
    exact List.map_id _
  simp only [warned, List.map_append, List.filter_append]
  rw [filter_isUnclaimed asked, filter_isUnclaimed launched, listed, filter_listEvents,
    List.map_singleton, List.filter_cons_of_neg (by rw [ends]; exact Bool.false_ne_true)]
  simp only [List.filter_nil, List.nil_append, List.append_nil]

/-- **A recovery cycle takes up every claim, or nothing.**  In any pool whose batches have all
returned:

* If the query gives a list, its rows make up one batch, in their order, which returns; every row is
  counted in the summary and in the progress, which is caught up; if the pool is not shut, each of
  them is launched, in their order, and nothing else is; and exactly the rows that are not claimed
  are warned of.
* If the query is given up, only the clock, the progress, the counts of cycles and retries and the
  log are not what they were, and the failure is that query's error. -/
theorem recover_all_or_nothing {r : Recovery} {answer : FailureReport → Hooks.ReportReply}
    (lived : r.pool.Lived) (back : ∀ b ∈ r.pool.batches, b.isReturned)
    (hooks : r.pool.pipeline.hooks = .reporter answer) :
    let done := r.recover.1.pool
    (∀ response, r.query.result = .ok response →
      let rows := response.workloads
      let inputs := rows.map LaunchInput.ofWorkload
      ∃ (tickets : List Nat) (summary : Summary) (launches : List (Job × Run))
          (entries : List Entry),
        r.recover.2 = .ok summary ∧
        summary.submitted = rows.length ∧ summary.succeeded + summary.failed = rows.length ∧
        done.batches = r.pool.batches ++ [.returned inputs tickets summary] ∧
        done.journal.runs = r.pool.journal.runs ++ launches ∧
        launches.map (·.1.input) = (if r.pool.isOpen then inputs else []) ∧
        (∀ e ∈ launches, ∃ time, e.2 = r.pool.pipeline.run time e.1.input) ∧
        done.progress = ⟨rows.length, rows.length, true⟩ ∧ done.progress.isCaughtUp = true ∧
        done.journal.log = r.pool.journal.log ++ entries ∧
        ((entries.map Entry.event).filter
            (·.message = "registry returned a non-claimed workload for recovery")
          = (rows.filter (·.status ≠ .claimed)).map fun w => .unclaimedListed w.id w.status) ∧
        ∀ id status, (Event.unclaimedListed id status).level = .warn) ∧
    (∀ e, r.query.result = .error e →
      r.recover.2
        = .error (.context ("failed to list claimed workloads for " ++ r.owner) (.query e)) ∧
      done.progress.isCaughtUp = false ∧
      done = { r.pool with
        clock := r.query.finish
        progress := {}
        tally := { r.pool.tally with
          cycles := r.pool.tally.cycles + 1
          retries := r.pool.tally.retries + r.query.retries }
        journal.log := r.pool.journal.log ++ r.query.log }) := by
  intro done
  refine ⟨?_, ?_⟩
  · intro response listing rows inputs
    have opened := ready_eq r rows
    have back' : ∀ b ∈ (r.ready rows).batches, b.isReturned := by
      rw [opened]
      exact back
    obtain ⟨_, _, launches, -, -, -, runs, launched, its, progress⟩ :=
      Pool.runBatch_alone (lived_ready lived rows) back' inputs
    obtain ⟨tickets, summary, batches, submitted, counted, result, pool⟩ :=
      pool_recover_of_ok lived back listing
    obtain ⟨entries, _, log, known⟩ := log_recover_of_ok lived back hooks listing
    have went : done = ((r.ready rows).runBatch inputs).note _ := pool
    have at_end : done.progress = ⟨rows.length, rows.length, true⟩ := by
      rw [went]
      refine progress.trans ?_
      rw [opened, List.length_map]
      simp only [Nat.zero_add]
    refine ⟨tickets, summary, launches, _, result, submitted, counted, ?_, ?_, ?_, ?_, at_end, ?_,
      log, ?_, fun _ _ => rfl⟩
    · rw [went]
      exact batches
    · rw [went]
      exact runs.trans (by rw [opened])
    · exact launched.trans (by rw [opened])
    · intro e mem
      obtain ⟨time, eq⟩ := its e mem
      exact ⟨time, eq.trans (by rw [opened])⟩
    · rw [at_end, Progress.isCaughtUp, decide_eq_true (Nat.le_refl _)]
      rfl
    · refine filter_message_eq known ?_
      rfl
  · intro e refused
    have same : done = _ := pool_recover_of_error refused
    refine ⟨by rw [recover_of_error refused]; rfl, ?_, same⟩
    rw [same]
    rfl

end Once

/-- Three rows, two of them of one id and one that is not claimed, through a pool of two workers. -/
theorem recover_all_or_nothing_of_rows :
    let row : Workload := ⟨"w-1", some "dp-1", .claimed, .sync, "", "", none, []⟩
    let answer : FailureReport → Hooks.ReportReply := fun _ => .accepted
    let pipeline : Pipeline := ⟨[⟨"start", fun _ => .script [.sleep 3] .ok⟩], .reporter answer⟩
    let r : Recovery := {
      owner := "dp-1"
      policy := ⟨.ofMillis 1, .ofMillis 2⟩
      script := [⟨.ok ⟨[row, { row with status := .running }, row]⟩, 7⟩]
      pool := .new 2 pipeline 0 }
    r.pool.Lived ∧ (∀ b ∈ r.pool.batches, b.isReturned) ∧
      r.pool.pipeline.hooks = .reporter answer ∧
      r.recover.1.pool.progress = ⟨3, 3, true⟩ ∧
      ∃ summary, r.recover.2 = .ok summary ∧ summary.submitted = 3 := by
  intro row answer pipeline r
  have lived : r.pool.Lived := .new 2 pipeline 0
  have back : ∀ b ∈ r.pool.batches, b.isReturned := fun _ mem => absurd mem List.not_mem_nil
  have hooks : r.pool.pipeline.hooks = .reporter answer := rfl
  obtain ⟨listed, -⟩ := recover_all_or_nothing lived back hooks
  obtain ⟨tickets, summary, launches, entries, result, submitted, -, -, -, -, -, progress, -⟩ :=
    listed _ rfl
  exact ⟨lived, back, hooks, progress, summary, result, submitted⟩

end Recovery

end Relaunch
