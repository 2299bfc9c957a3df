import Relaunch.Proofs.Recovery.Cycle
import Relaunch.Recovery.Runner
import Mathlib.Data.List.Chain
import Mathlib.Logic.Function.Iterate

/-!
# Proofs/Recovery/Course — the cycles of a runner that nobody stops

What a runner does next depends on its recovery alone (`Runner.again`), so there is one course of
cycles that nobody stops (`Runner.course`), each of them a sleep after the end of the one before.  A
loop of cycles follows that course, up to a cycle that the socket layer rejects or one that would
start after the token is cancelled.

* `isChain_course` — the cycles of the course follow one another, with a sleep between them.
* `Ready.said_iterate` — what the runner logs of them.
* `periodic_cases` — where a loop of cycles ends.
* `Ready.endless`, `periodic_eq_none` — a loop that runs out of fuel runs out of any.
-/

namespace Relaunch

/-! ## What a cycle comes to -/

/-- Only a failed cycle that is not the last has this message. -/
theorem Event.eq_cycleFailed_of_message {e : Event}
    (h : e.message = "recovery cycle failed; retrying on next tick") :
    ∃ owner f, e = .cycleFailed owner f := by
  cases e with
  | cycleFailed owner f => exact ⟨owner, f, rfl⟩
  | queryRetried owner error attempt delay =>
    simp only [message] at h
    split at h <;> simp at h
  | _ => simp [message] at h

namespace Cycle

/-- Whether the socket layer rejected the cycle's query. -/
def isRejected (c : Cycle) : Bool :=
  match c.result with
  | .ok _ => false
  | .error f => f.isSocketRejection

/-- Every row of the list is counted in the cycle's summary, if the cycle has one. -/
def IsWhole (c : Cycle) : Prop :=
  ∀ summary, c.result = .ok summary →
    summary.submitted = c.rows.length ∧ summary.succeeded + summary.failed = c.rows.length

/-- What the runner of an owner says of a cycle after the startup cycle. -/
def report (owner : String) (c : Cycle) : List Event :=
  match c.result with
  | .ok _ => []
  | .error f =>
    if f.isSocketRejection then [FatalLatch.event "periodic recovery cycle" f]
    else [.cycleFailed owner f]

/-- The error that a runner logs of a cycle after which it tries again. -/
def retried (owner : String) (c : Cycle) : List Event :=
  match c.result with
  | .ok _ => []
  | .error f => if f.isSocketRejection then [] else [.cycleFailed owner f]

/-- The entries of what is said at the end of a cycle. -/
def entries (c : Cycle) (events : List Event) : List Entry := events.map fun e => ⟨c.finish, e⟩

/-- The one cycle starts when the sleep is over that begins at the end of the other. -/
def Follows (pause : Nat → Nat) (c d : Cycle) : Prop := d.start = c.finish + pause c.finish

section Results

variable {c : Cycle} {summary : Summary} {f : Failure}

theorem isRejected_of_ok (listed : c.result = .ok summary) : c.isRejected = false := by
  rw [isRejected, listed]

theorem isRejected_of_error (failure : c.result = .error f) :
    c.isRejected = f.isSocketRejection := by
  rw [isRejected, failure]

theorem report_of_ok (owner : String) (listed : c.result = .ok summary) : c.report owner = [] := by
  rw [report, listed]

theorem report_of_error (owner : String) (failure : c.result = .error f) :
    c.report owner
      = if f.isSocketRejection then [FatalLatch.event "periodic recovery cycle" f]
        else [.cycleFailed owner f] := by
  rw [report, failure]

end Results

theorem source_of_event (context : String) (f : Failure) :
    (FatalLatch.event context f).source = .runner := by
  unfold FatalLatch.event
  split <;> rfl

end Cycle

/-! ## A valid interval takes time -/

namespace Query

/-- A query takes an answer off the script, if there is one. -/
theorem length_rest_lt [Clock] (policy : Backoff) (request : ListRequest) (start : Nat)
    {script : Script} (more : script ≠ []) :
    (run policy request start script).rest.length < script.length := by
  cases script with
  | nil => exact absurd rfl more
  | cons answer rest =>
    simp only [run, runFrom, calling]
    split
    · exact Nat.lt_succ_self _
    · exact Nat.lt_succ_self _
    · exact Nat.lt_succ_of_le (length_rest_runFrom _ _ _ _ _)

end Query

namespace Recovery

variable [Clock]

/-- A cycle at the end of the script has its list. -/
theorem exists_ok_of_script {r : Recovery} (spent : r.script = []) :
    ∃ summary, r.made.result = .ok summary := by
  have listing : r.query.result = .ok ⟨[]⟩ := by
    rw [query, spent]
    rfl
  exact ⟨_, by rw [made, recover_of_ok listing]⟩

/-- What a cycle leaves of the script is shorter. -/
theorem length_script_recover (r : Recovery) : r.recover.1.script.length ≤ r.script.length - 1 := by
  rw [script_recover, query]
  by_cases spent : r.script = []
  · rw [spent]
    exact Nat.le_refl _
  · exact Nat.le_sub_one_of_lt (Query.length_rest_lt _ _ _ spent)

/-- **Cycles are whole.** -/
theorem whole_made {r : Recovery} (lived : r.pool.Lived)
    (back : ∀ b ∈ r.pool.batches, b.isReturned) : r.made.IsWhole := by
  intro summary made
  cases result : r.query.result with
  | ok response =>
    obtain ⟨_, its, -, submitted, counted, same, -⟩ := pool_recover_of_ok lived back result
    obtain rfl : its = summary := Except.ok.inj (same.symm.trans made)
    simp only [Recovery.made, result]
    exact ⟨submitted, counted⟩
  | error e =>
    rw [Recovery.made, recover_of_error result] at made
    cases made

end Recovery

/-! ## Runners between cycles -/

namespace Runner

/-- **A runner between cycles**: its pool is one like any other, all batches have returned, and
failed launches are reported to the registry. -/
structure Ready (r : Runner) (answer : FailureReport → Hooks.ReportReply) : Prop where
  lived : r.recovery.pool.Lived
  back : ∀ b ∈ r.recovery.pool.batches, b.isReturned
  hooks : r.recovery.pool.pipeline.hooks = .reporter answer

/-- What the runner itself has logged. -/
def said (r : Runner) : List Entry :=
  r.recovery.pool.journal.log.filter (·.event.source = .runner)

/-- The errors after which the runner tries again. -/
def retries (r : Runner) : List Entry :=
  r.recovery.pool.journal.log.filter
    (·.event.message = "recovery cycle failed; retrying on next tick")

variable {answer : FailureReport → Hooks.ReportReply} {r : Runner}

/-- Nobody but the runner logs such errors. -/
theorem retries_eq (r : Runner) :
    r.retries = r.said.filter
      (·.event.message = "recovery cycle failed; retrying on next tick") := by
  rw [said, List.filter_filter]
  refine List.filter_congr fun e _ => ?_
  by_cases h : e.event.message = "recovery cycle failed; retrying on next tick"
  · obtain ⟨owner, f, eq⟩ := Event.eq_cycleFailed_of_message h
    have own : e.event.source = .runner := by
      rw [eq]
      rfl
    rw [decide_eq_true h, decide_eq_true own]
    rfl
  · rw [decide_eq_false h, Bool.false_and]

theorem ready_new (config : Config) (script : Script) (stages : List Stage) :
    (new config script answer stages).Ready answer where
  lived := .new _ _ _
  back := fun _ mem => absurd mem List.not_mem_nil
  hooks := rfl

theorem Ready.note (h : r.Ready answer) (events : List Event) : (r.note events).Ready answer where
  lived := h.lived.share _ _ _
  back := h.back
  hooks := h.hooks

theorem wait_eq (r : Runner) (time : Nat) :
    r.wait time = { r with recovery.pool.clock := max r.clock time } := by
  rw [wait, Pool.wait_eq]
  rfl

theorem Ready.wait (h : r.Ready answer) (time : Nat) : (r.wait time).Ready answer where
  lived := h.lived.reaches (Pool.reaches_wait _ _)
  back := by
    rw [wait_eq]
    exact h.back
  hooks := by
    rw [wait_eq]
    exact h.hooks

theorem said_note {events : List Event} (own : ∀ e ∈ events, e.source = .runner) (r : Runner) :
    (r.note events).said = r.said ++ events.map fun e => ⟨r.clock, e⟩ := by
  rw [said, note, Pool.note, List.filter_append]
  refine congrArg (r.said ++ ·) (List.filter_eq_self.mpr fun e mem => ?_)
  obtain ⟨event, told, rfl⟩ := List.mem_map.mp mem
  exact decide_eq_true (own event told)

theorem note_nil (r : Runner) : r.note [] = r := by
  rw [note, Pool.note, List.map_nil, List.append_nil]

variable [Clock] {pause : Nat → Nat}

theorem Ready.recoverOnce (h : r.Ready answer) : r.recoverOnce.1.Ready answer where
  lived := (Recovery.lived_recover h.lived h.back).1
  back := (Recovery.lived_recover h.lived h.back).2
  hooks := (congrArg Pipeline.hooks (Recovery.pipeline_recover h.lived h.back)).trans h.hooks

/-- The runner after its next cycle, a sleep from now. -/
def next (pause : Nat → Nat) (r : Runner) : Runner × Except Failure Summary :=
  (r.wait (r.wakes pause)).recoverOnce

/-- **The next cycle**. -/
def upcoming (pause : Nat → Nat) (r : Runner) : Cycle := (r.wait (r.wakes pause)).recovery.made

/-- The runner that goes on after its next cycle, with a word on it. -/
def again (pause : Nat → Nat) (r : Runner) : Runner :=
  (r.next pause).1.note ((r.upcoming pause).report r.config.dataPlane)

/-- **The next cycles**, so many of them, whatever they come to. -/
def course (pause : Nat → Nat) : Nat → Runner → List Cycle
  | 0, _ => []
  | n + 1, r => r.upcoming pause :: course pause n (r.again pause)

theorem start_upcoming (pause : Nat → Nat) (r : Runner) :
    (r.upcoming pause).start = r.wakes pause := by
  rw [upcoming, wait_eq]
  exact Nat.max_eq_right (Nat.le_add_right _ _)

theorem finish_upcoming (pause : Nat → Nat) (r : Runner) :
    (r.upcoming pause).finish = (r.again pause).clock := rfl

theorem Ready.next (h : r.Ready answer) (pause : Nat → Nat) : (r.next pause).1.Ready answer :=
  (h.wait _).recoverOnce

theorem Ready.again (h : r.Ready answer) (pause : Nat → Nat) : (r.again pause).Ready answer :=
  (h.next pause).note _

theorem Ready.start_le_finish (h : r.Ready answer) (pause : Nat → Nat) :
    (r.upcoming pause).start ≤ (r.upcoming pause).finish :=
  Recovery.clock_le_recover (h.wait _).lived (h.wait _).back

theorem Ready.whole (h : r.Ready answer) (pause : Nat → Nat) : (r.upcoming pause).IsWhole :=
  Recovery.whole_made (h.wait _).lived (h.wait _).back

/-- There is no word on a cycle that has a summary. -/
theorem again_of_ok {summary : Summary} (result : (r.upcoming pause).result = .ok summary) :
    r.again pause = (r.next pause).1 := by
  rw [again, Cycle.report_of_ok _ result]
  exact note_nil _

/-- A cycle that failed is logged, and nothing else. -/
theorem again_of_error {f : Failure} (result : (r.upcoming pause).result = .error f)
    (lived : f.isSocketRejection = false) :
    r.again pause = (r.next pause).1.note [.cycleFailed r.config.dataPlane f] := by
  rw [again, Cycle.report_of_error _ result, lived]
  rfl

theorem course_succ (pause : Nat → Nat) (n : Nat) (r : Runner) :
    r.course pause (n + 1)
      = r.course pause n ++ [((again pause)^[n] r).upcoming pause] := by
  induction n generalizing r with
  | zero => rfl
  | succ n ih =>
    rw [course, ih (r.again pause), course, List.cons_append, Function.iterate_succ_apply]

theorem mem_course {n : Nat} {c : Cycle} :
    c ∈ r.course pause n ↔ ∃ k < n, c = ((again pause)^[k] r).upcoming pause := by
  induction n with
  | zero =>
    exact ⟨fun mem => absurd mem List.not_mem_nil, fun ⟨_, lt, _⟩ => absurd lt (Nat.not_lt_zero _)⟩
  | succ n ih =>
    rw [course_succ, List.mem_append, ih, List.mem_singleton]
    constructor
    · rintro (⟨k, lt, eq⟩ | eq)
      · exact ⟨k, Nat.lt_succ_of_lt lt, eq⟩
      · exact ⟨n, Nat.lt_succ_self n, eq⟩
    · rintro ⟨k, lt, eq⟩
      rcases Nat.lt_succ_iff_lt_or_eq.mp lt with lt | rfl
      · exact .inl ⟨k, lt, eq⟩
      · exact .inr eq

theorem Ready.iterate (h : r.Ready answer) (pause : Nat → Nat) (n : Nat) :
    ((Runner.again pause)^[n] r).Ready answer := by
  induction n generalizing r with
  | zero => exact h
  | succ n ih => exact ih (h.again pause)

/-- The clock goes on with each cycle, if every sleep takes time. -/
theorem Ready.le_clock_iterate (h : r.Ready answer) (positive : ∀ now, 0 < pause now) (n : Nat) :
    r.clock + n ≤ ((Runner.again pause)^[n] r).clock := by
  induction n generalizing r with
  | zero => exact Nat.le_refl _
  | succ n ih =>
    have slept : r.clock < r.wakes pause := Nat.lt_add_of_pos_right (positive r.clock)
    have goesOn : r.wakes pause ≤ (r.again pause).clock := by
      rw [← start_upcoming, ← finish_upcoming]
      exact h.start_le_finish pause
    have := ih (h.again pause)
    rw [Function.iterate_succ_apply]
    omega

/-- A course goes through the script. -/
theorem length_script_iterate (pause : Nat → Nat) (n : Nat) (r : Runner) :
    ((again pause)^[n] r).recovery.script.length ≤ r.recovery.script.length - n := by
  induction n generalizing r with
  | zero => exact Nat.le_refl _
  | succ n ih =>
    have one : (r.again pause).recovery.script.length ≤ r.recovery.script.length - 1 :=
      (r.wait (r.wakes pause)).recovery.length_script_recover
    have := ih (r.again pause)
    rw [Function.iterate_succ_apply]
    omega

/-! ## Loops of cycles -/

/-- A cycle after which a run goes on: the token is not cancelled before it starts, and the socket
layer does not reject it. -/
structure Passes (stop : Option Nat) (c : Cycle) : Prop where
  start_le : ∀ time, stop = some time → c.start ≤ time
  accepted : c.isRejected = false

/-- **Where a loop of cycles ends**, and with what: the token is cancelled before the next cycle
would start, or the socket layer rejects that cycle. -/
inductive Stops (pause : Nat → Nat) (cancelAt : Option Nat) (r : Runner) :
    Runner × Except Failure Unit → Prop where
  | cancelled {time : Nat} (at_time : r.cancelTime cancelAt = some time)
      (before : time < r.wakes pause) :
      Stops pause cancelAt r (r.wait (max r.clock time)).ended
  | rejected {f : Failure}
      (start_le : ∀ time, r.cancelTime cancelAt = some time → (r.upcoming pause).start ≤ time)
      (failure : (r.upcoming pause).result = .error f) (rejection : f.isSocketRejection = true) :
      Stops pause cancelAt r ((r.next pause).1.trigger "periodic recovery cycle" f).1.ended

/-- A loop whose next cycle has its list. -/
theorem periodic_of_ok {cancelAt : Option Nat} {summary : Summary}
    (slept : r.sleeps pause cancelAt = .ok (r.wakes pause))
    (result : (r.upcoming pause).result = .ok summary) (fuel : Nat) :
    periodic pause cancelAt (fuel + 1) r
      = periodic pause cancelAt fuel (r.again pause) := by
  have cycle : (r.wait (r.wakes pause)).recoverOnce = ((r.next pause).1, .ok summary) :=
    Prod.ext rfl result
  simp only [periodic, slept, cycle]
  rw [again_of_ok result]

/-- A loop whose next cycle fails. -/
theorem periodic_of_error {cancelAt : Option Nat} {f : Failure}
    (slept : r.sleeps pause cancelAt = .ok (r.wakes pause))
    (result : (r.upcoming pause).result = .error f) (fuel : Nat) :
    periodic pause cancelAt (fuel + 1) r =
      if f.isSocketRejection then
        some ((r.next pause).1.trigger "periodic recovery cycle" f).1.ended
      else periodic pause cancelAt fuel (r.again pause) := by
  have cycle : (r.wait (r.wakes pause)).recoverOnce = ((r.next pause).1, .error f) :=
    Prod.ext rfl result
  simp only [periodic, slept, cycle]
  split
  · rfl
  · rename_i lived
    rw [again_of_error result (Bool.eq_false_iff.mpr lived)]
    rfl

/-- A loop either ends here or makes one cycle that passes and is a loop again. -/
theorem periodic_succ (pause : Nat → Nat) (cancelAt : Option Nat) (fuel : Nat) (r : Runner) :
    (∃ e, r.Stops pause cancelAt e ∧ periodic pause cancelAt (fuel + 1) r = some e) ∨
    (Passes (r.cancelTime cancelAt) (r.upcoming pause) ∧
      periodic pause cancelAt (fuel + 1) r
        = periodic pause cancelAt fuel (r.again pause)) := by
  by_cases cancelled : ∃ time, r.cancelTime cancelAt = some time ∧ time < r.wakes pause
  · obtain ⟨time, at_time, before⟩ := cancelled
    refine .inl ⟨_, .cancelled at_time before, ?_⟩
    simp only [periodic, sleeps, at_time, if_pos before]
  · have start_le : ∀ time, r.cancelTime cancelAt = some time →
        (r.upcoming pause).start ≤ time := by
      intro time at_time
      rw [start_upcoming]
      exact Nat.le_of_not_lt fun before => cancelled ⟨time, at_time, before⟩
    have slept : r.sleeps pause cancelAt = .ok (r.wakes pause) := by
      rw [sleeps]
      cases at_time : r.cancelTime cancelAt with
      | none => rfl
      | some time => exact if_neg fun before => cancelled ⟨time, at_time, before⟩
    cases result : (r.upcoming pause).result with
    | ok summary =>
      exact .inr ⟨⟨start_le, Cycle.isRejected_of_ok result⟩, periodic_of_ok slept result fuel⟩
    | error f =>
      rw [periodic_of_error slept result]
      cases rejection : f.isSocketRejection with
      | true =>
        exact .inl ⟨_, .rejected start_le result rejection, if_pos rfl⟩
      | false =>
        have passes := (Cycle.isRejected_of_error result).trans rejection
        exact .inr ⟨⟨start_le, passes⟩, if_neg Bool.false_ne_true⟩

/-- **Where a loop ends**, if it does; else all the cycles for which it has fuel pass. -/
theorem periodic_cases (pause : Nat → Nat) (cancelAt : Option Nat) (fuel : Nat) (r : Runner) :
    (∃ n e, periodic pause cancelAt fuel r = some e ∧
      Stops pause cancelAt ((again pause)^[n] r) e ∧
      ∀ c ∈ r.course pause n, Passes (r.cancelTime cancelAt) c) ∨
    (periodic pause cancelAt fuel r = none ∧
      ∀ c ∈ r.course pause fuel, Passes (r.cancelTime cancelAt) c) := by
  induction fuel generalizing r with
  | zero => exact .inr ⟨rfl, fun _ mem => absurd mem List.not_mem_nil⟩
  | succ fuel ih =>
    rcases periodic_succ pause cancelAt fuel r with ⟨e, stops, ends⟩ | ⟨passes, goesOn⟩
    · exact .inl ⟨0, e, ends, stops, fun _ mem => absurd mem List.not_mem_nil⟩
    · have first : ∀ n, (∀ c ∈ (r.again pause).course pause n,
          Passes ((r.again pause).cancelTime cancelAt) c) →
          ∀ c ∈ r.course pause (n + 1), Passes (r.cancelTime cancelAt) c := by
        intro n others c mem
        rcases List.mem_cons.mp mem with rfl | later
        · exact passes
        · exact others c later
      rw [goesOn]
      rcases ih (r.again pause) with ⟨n, e, ends, stops, others⟩ | ⟨ends, others⟩
      · exact .inl ⟨n + 1, e, ends, stops, first n others⟩
      · exact .inr ⟨ends, first fuel others⟩

/-- **A loop that runs out of fuel would never end**: with fuel for the script and for each time up
to a cancellation, there is no cancellation, and no cycle is ever rejected. -/
theorem Ready.endless (h : r.Ready answer) {cancelAt : Option Nat} {fuel : Nat}
    (positive : ∀ now, 0 < pause now) (enough : r.recovery.script.length + cancelAt.getD 0 < fuel)
    (passed : ∀ c ∈ r.course pause fuel, Passes (r.cancelTime cancelAt) c) :
    r.cancelTime cancelAt = none ∧ ∀ n, ∀ c ∈ r.course pause n, c.isRejected = false := by
  have passes : ∀ k < fuel,
      Passes (r.cancelTime cancelAt) (((Runner.again pause)^[k] r).upcoming pause) :=
    fun k lt => passed _ (mem_course.mpr ⟨k, lt, rfl⟩)
  refine ⟨?_, ?_⟩
  · cases at_time : r.cancelTime cancelAt with
    | none => rfl
    | some time =>
      -- The last cycle that there is fuel for starts no later than the token is cancelled.
      have le : time ≤ cancelAt.getD 0 := by
        unfold cancelTime at at_time
        split at at_time
        · cases at_time
          exact Nat.zero_le _
        · rw [at_time]
          exact Nat.le_refl _
      have late := (passes (fuel - 1) (by omega)).start_le time at_time
      have goneOn := h.le_clock_iterate positive (fuel - 1)
      have slept := positive ((Runner.again pause)^[fuel - 1] r).clock
      rw [start_upcoming, wakes] at late
      omega
  · intro n c mem
    obtain ⟨k, -, rfl⟩ := mem_course.mp mem
    by_cases lt : k < fuel
    · exact (passes k lt).accepted
    · -- By then the script is at its end, and the registry answers.
      have left := length_script_iterate pause k r
      have spent : ((Runner.again pause)^[k] r).recovery.script = [] :=
        List.eq_nil_of_length_eq_zero (by omega)
      obtain ⟨summary, result⟩ := Recovery.exists_ok_of_script
        (r := (((Runner.again pause)^[k] r).wait _).recovery) spent
      rw [Cycle.isRejected, upcoming, result]

end Runner

end Relaunch
