import Relaunch.Proofs.Launch.FirstMark
import Relaunch.Proofs.Pool.Sound
import Relaunch.Registry.Query

/-!
# Proofs/Recovery/Source — every event has one source

An event is logged by a query, by a launch, by the pool about a batch, by a recovery cycle or by the
runner, and by no two of them.  So the events of one source can be told in a log, whatever stands
between them.

* `Query.source_of_mem_log`, `Pipeline.source_of_run` — queries and launches log their own.
* `Pool.Reaches.log_eq` — steps of a pool log of launches and batches, and keep what was logged.
-/

namespace Relaunch

/-- **Who logs an event.** -/
inductive Source where
  | query
  | launch
  | batch
  | cycle
  | runner
deriving DecidableEq

def Event.source : Event → Source
  | queryRetried .. | queryRecovered .. | queryCompleted .. | queryAborted ..
  | queryRejected .. => .query
  | stageFinished .. | launchSucceeded _ | launchFailed .. | failureReported ..
  | reportRefused .. | launchPanicked .. => .launch
  | claimRejected .. | batchFinished _ => .batch
  | claimsListed _ | unclaimedListed .. | cycleFinished .. => .cycle
  | cycleFailed .. | fatalQuery .. | fatalFailure .. | runnerStarted | interrupted => .runner

/-! ## Queries -/

namespace Query

theorem source_of_succeed {request : ListRequest} {attempt time : Nat} {s : Script}
    {response : ListResponse} {e : Entry}
    (mem : e ∈ (succeed request attempt time s response).log) : e.event.source = .query := by
  rcases List.mem_append.mp mem with recovered | completed
  · split at recovered
    · obtain rfl := List.mem_singleton.mp recovered
      rfl
    · cases recovered
  · obtain rfl := List.mem_singleton.mp completed
    rfl

theorem source_of_giveUp {request : ListRequest} {time : Nat} {s : Script}
    {f : GivenUp RegistryError} {e : Entry} (mem : e ∈ (giveUp request time s f).log) :
    e.event.source = .query := by
  obtain rfl := List.mem_singleton.mp mem
  simp only
  split <;> rfl

variable [Clock]

theorem source_of_runFrom {policy : Backoff} {request : ListRequest} {r : Retry} {time : Nat}
    {script : Script} {e : Entry} (mem : e ∈ (runFrom policy request r time script).log) :
    e.event.source = .query := by
  induction script generalizing r time with
  | nil => exact source_of_succeed (s := []) mem
  | cons answer rest ih =>
    simp only [runFrom, calling] at mem
    split at mem
    · exact source_of_succeed (s := rest) mem
    · exact source_of_giveUp (s := rest) mem
    · rcases List.mem_cons.mp mem with rfl | later
      · rfl
      · exact ih later

/-- **A query logs its own events.** -/
theorem source_of_mem_log {policy : Backoff} {request : ListRequest} {start : Nat}
    {script : Script} {e : Entry} (mem : e ∈ (run policy request start script).log) :
    e.event.source = .query :=
  source_of_runFrom mem

end Query

/-! ## Launches -/

theorem Course.source_of_through {c : Course} {stages : List Stage}
    (before : ∀ e ∈ c.events, e.source = .launch) :
    ∀ e ∈ (c.through stages).1.events, e.source = .launch := by
  induction stages generalizing c with
  | nil => exact before
  | cons stage stages ih =>
    rw [through]
    split
    · exact before
    · split
      · exact before
      · refine ih fun e mem => ?_
        simp only [after] at mem
        rcases List.mem_append.mp mem with old | new
        · exact before e old
        · obtain rfl := List.mem_singleton.mp new
          rfl

/-- What hooks that report to the registry log. -/
theorem Hooks.source_of_reporter (answer : FailureReport → ReportReply) (c : Context) :
    ∀ e ∈ ((reporter answer).reaction c).events, e.source = .launch := by
  intro e mem
  unfold reaction at mem
  split at mem
  · rename_i error failed
    simp only [reporter] at mem
    cases reply : answer (reportOf c error) with
    | accepted =>
      rw [reply] at mem
      obtain rfl := List.mem_singleton.mp mem
      rfl
    | refused refusal =>
      rw [reply] at mem
      obtain rfl := List.mem_singleton.mp mem
      rfl
    | panicked payload =>
      rw [reply] at mem
      cases mem
  · cases mem

/-- **A launch logs its own events**, if its hooks report to the registry. -/
theorem Pipeline.source_of_run {p : Pipeline} {answer : FailureReport → Hooks.ReportReply}
    (hooks : p.hooks = .reporter answer) (start : Nat) (input : LaunchInput) (worker : Nat) :
    ∀ e ∈ (p.run start input).events ++ (p.run start input).ending.events worker input.id,
      e.source = .launch := by
  intro e mem
  rcases List.mem_append.mp mem with logged | ended
  · have stages : ∀ e ∈ (Course.through { context := { input }, clock := start } p.stages).1.events,
        e.source = .launch :=
      Course.source_of_through fun _ mem => absurd mem List.not_mem_nil
    simp only [run] at logged
    split at logged
    · rename_i c payload through
      rw [through] at stages
      exact stages e logged
    · rename_i c through
      rw [through] at stages
      rw [p.conclude_eq start c rfl, hooks] at logged
      rcases List.mem_append.mp logged with old | new
      · exact stages e old
      · rcases List.mem_cons.mp new with rfl | reacted
        · unfold Context.verdict
          split <;> rfl
        · exact Hooks.source_of_reporter answer _ e reacted
  · cases ending : (p.run start input).ending with
    | finished c =>
      rw [ending] at ended
      cases ended
    | unwound payload =>
      rw [ending] at ended
      obtain rfl := List.mem_singleton.mp ended
      rfl

/-! ## Pools -/

namespace Pool

/-- What a step logs: the events of a launch that is over, a rejection, or a summary. -/
theorem Step.log_eq {p q : Pool} {m : Move} (s : p.Step m q) :
    ∃ entries, q.journal.log = p.journal.log ++ entries ∧ ∀ e ∈ entries,
      (∃ (worker : Nat) (job : Job) (run : Run), p.workers[worker]? = some (.running job run) ∧
        e.event ∈ run.events ++ run.ending.events worker job.input.id) ∨
      e.event.source = .batch := by
  cases s with
  | @judge i job run at_i ended =>
    refine ⟨_, rfl, fun e mem => .inl ⟨i, job, run, at_i, ?_⟩⟩
    obtain ⟨event, logged, rfl⟩ := List.mem_map.mp mem
    exact logged
  | turnAway at_b =>
    refine ⟨_, rfl, fun e mem => .inr ?_⟩
    obtain rfl := List.mem_singleton.mp mem
    rfl
  | refuse at_b unserved =>
    refine ⟨_, rfl, fun e mem => .inr ?_⟩
    obtain rfl := List.mem_singleton.mp mem
    rfl
  | finish at_b there =>
    refine ⟨_, rfl, fun e mem => .inr ?_⟩
    obtain rfl := List.mem_singleton.mp mem
    rfl
  | _ => exact ⟨[], (List.append_nil _).symm, fun _ mem => absurd mem List.not_mem_nil⟩

/-- The launch on a worker is one of the pipeline. -/
theorem Sound.run_of_running {p : Pool} (sound : p.Sound) {job : Job} {run : Run}
    (mem : .running job run ∈ p.workers) : ∃ time, run = p.pipeline.run time job.input := by
  obtain ⟨same, ran, carries⟩ := sound.genuine.working _ mem job rfl
  obtain ⟨time, -, its⟩ := sound.genuine.launched _ ran
  obtain rfl : run = same := carries
  exact ⟨time, its⟩

/-- **Steps log of launches and batches**, and keep what was logged. -/
theorem Reaches.log_eq {p q : Pool} (r : p.Reaches q) (sound : p.Sound)
    {answer : FailureReport → Hooks.ReportReply} (hooks : p.pipeline.hooks = .reporter answer) :
    ∃ entries, q.journal.log = p.journal.log ++ entries ∧
      ∀ e ∈ entries, e.event.source = .launch ∨ e.event.source = .batch := by
  have kept := r.induction
    (P := fun q => q.Sound ∧ q.pipeline = p.pipeline ∧
      ∃ entries, q.journal.log = p.journal.log ++ entries ∧
        ∀ e ∈ entries, e.event.source = .launch ∨ e.event.source = .batch)
    ⟨sound, rfl, [], (List.append_nil _).symm, fun _ mem => absurd mem List.not_mem_nil⟩ ?_
  · exact kept.2.2
  · rintro q r m ⟨sound_q, same, entries, log, known⟩ s
    obtain ⟨more, log', what⟩ := (Step.of_step s).log_eq
    refine ⟨sound_q.step s, (pipeline_of_step (.of_step s)).trans same, entries ++ more, ?_, ?_⟩
    · rw [log', log, List.append_assoc]
    · intro e mem
      rcases List.mem_append.mp mem with old | new
      · exact known e old
      · rcases what e new with ⟨worker, job, run, at_worker, logged⟩ | batch
        · obtain ⟨time, rfl⟩ := sound_q.run_of_running (List.mem_of_getElem? at_worker)
          rw [same] at logged
          exact .inl (Pipeline.source_of_run hooks time job.input worker _ logged)
        · exact .inr batch

end Pool

end Relaunch
