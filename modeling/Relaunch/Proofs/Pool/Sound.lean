import Relaunch.Pool.Reach
import Relaunch.Proofs.Pool.Place

/-!
# Proofs/Pool/Sound — what holds of every pool

`Sound` gathers what every step of a pool keeps: the workers stay while they are needed, every
ticket is in one place and is one input's, and what is counted and answered of a launch is what the
launch came to.

A pool shares its counts with others, who may set them as they like between its steps; nothing of
`Sound` speaks of them (`Sound.withCounts`).

* `sound_new`, `Sound.step`, `Sound.reaches` — every pool that steps lead to is sound.
-/

namespace Relaunch

/-- Whether what a worker has in its hands can be known from a launch: its outcome is the
launch's. -/
def Worker.Carries (run : Run) : Worker → Prop
  | running _ r => r = run
  | judged _ outcome | counted _ outcome | resumed _ outcome =>
    outcome = run.ending.verdict.outcome
  | idle | polling | exited => False

namespace Pool

/-- **A pool whose books are right**: its launches are those of its pipeline, and outcomes are
theirs. -/
structure Genuine (p : Pool) : Prop where
  launched : ∀ e ∈ p.journal.runs, ∃ time ≤ p.clock, e.2 = p.pipeline.run time e.1.input
  working : ∀ w ∈ p.workers, ∀ job, w.job? = some job →
    ∃ run, (job, run) ∈ p.journal.runs ∧ w.Carries run
  replied : ∀ reply ∈ p.replies, ∃ e ∈ p.journal.runs,
    e.1.ticket = reply.1 ∧ e.2.ending.verdict.outcome = reply.2

theorem genuine_new (parallelism : Nat) (pipeline : Pipeline) (start : Nat) :
    (Pool.new parallelism pipeline start).Genuine where
  launched _ mem := absurd mem List.not_mem_nil
  working w mem job hw := by
    obtain rfl := List.eq_of_mem_replicate mem
    cases hw
  replied _ mem := absurd mem List.not_mem_nil

/-- A worker goes on with its launch, or has none. -/
theorem Genuine.worker {p q : Pool} (h : p.Genuine) {i : Nat} {w v : Worker}
    (at_i : p.workers[i]? = some w) (workers : q.workers = p.workers.set i v)
    (same : v.job? = none ∨ v.job? = w.job? ∧ ∀ run, w.Carries run → v.Carries run)
    (runs : q.journal.runs = p.journal.runs) (replies : q.replies = p.replies)
    (pipeline : q.pipeline = p.pipeline) (clock : q.clock = p.clock) : q.Genuine where
  launched := by
    rw [runs, pipeline, clock]
    exact h.launched
  working u mem job hu := by
    rw [workers] at mem
    rw [runs]
    rcases List.mem_or_eq_of_mem_set mem with mem | rfl
    · exact h.working u mem job hu
    · rcases same with none | ⟨same, carries⟩
      · rw [none] at hu
        cases hu
      · obtain ⟨run, started, carried⟩ :=
          h.working w (List.mem_of_getElem? at_i) job (same ▸ hu)
        exact ⟨run, started, carries run carried⟩
  replied := by
    rw [replies, runs]
    exact h.replied

theorem Genuine.take {p : Pool} (h : p.Genuine) {i : Nat} {job : Job} (queue : List Job) :
    { p.setWorker i (.running job (p.pipeline.run p.clock job.input)) with
      queue := queue
      journal.runs := p.journal.runs ++ [(job, p.pipeline.run p.clock job.input)] : Pool }.Genuine
    where
  launched e mem := by
    rcases List.mem_append.mp mem with old | new
    · exact h.launched e old
    · obtain rfl := List.mem_singleton.mp new
      exact ⟨p.clock, Nat.le_refl _, rfl⟩
  working w mem other hw := by
    rcases List.mem_or_eq_of_mem_set mem with mem | rfl
    · obtain ⟨run, started, carries⟩ := h.working w mem other hw
      exact ⟨run, List.mem_append_left _ started, carries⟩
    · cases hw
      exact ⟨_, List.mem_append_right _ (List.mem_singleton.mpr rfl), rfl⟩
  replied reply mem := by
    obtain ⟨e, started, eq⟩ := h.replied reply mem
    exact ⟨e, List.mem_append_left _ started, eq⟩

theorem Genuine.answer {p : Pool} (h : p.Genuine) {i : Nat} {job : Job} {outcome : Outcome}
    (at_i : p.workers[i]? = some (.resumed job outcome)) :
    { p.setWorker i .idle with replies := p.replies ++ [(job.ticket, outcome)] }.Genuine where
  launched := h.launched
  working w mem other hw := by
    rcases List.mem_or_eq_of_mem_set mem with mem | rfl
    · exact h.working w mem other hw
    · cases hw
  replied reply mem := by
    rcases List.mem_append.mp mem with old | new
    · exact h.replied reply old
    · obtain rfl := List.mem_singleton.mp new
      obtain ⟨run, started, carries⟩ := h.working _ (List.mem_of_getElem? at_i) job rfl
      exact ⟨_, started, rfl, carries.symm⟩

theorem Genuine.step {p q : Pool} {m : Move} (h : p.Genuine) (s : p.Step m q) : q.Genuine := by
  cases s with
  | tick later =>
    refine ⟨fun e mem => ?_, h.working, h.replied⟩
    obtain ⟨time, le, eq⟩ := h.launched e mem
    exact ⟨time, Nat.le_trans le (Nat.le_of_lt later), eq⟩
  | seat at_i free => exact h.worker at_i rfl (.inl rfl) rfl rfl rfl rfl
  | take at_i first => exact h.take _
  | leave at_i empty alone => exact h.worker at_i rfl (.inl rfl) rfl rfl rfl rfl
  | judge at_i ended =>
    exact h.worker at_i rfl (.inr ⟨rfl, fun run carries => by rw [← carries]; rfl⟩) rfl rfl rfl rfl
  | count at_i => exact h.worker at_i rfl (.inr ⟨rfl, fun _ => id⟩) rfl rfl rfl rfl
  | resume at_i => exact h.worker at_i rfl (.inr ⟨rfl, fun _ => id⟩) rfl rfl rfl rfl
  | answer at_i => exact h.answer at_i
  | _ => exact { h with }

/-! ## Everything at once -/

/-- **What holds of every pool.** -/
structure Sound (p : Pool) : Prop where
  staffed : p.Staffed
  numbered : p.Numbered
  placed : p.Placed
  genuine : p.Genuine

theorem sound_new (parallelism : Nat) (pipeline : Pipeline) (start : Nat) :
    (Pool.new parallelism pipeline start).Sound where
  staffed := staffed_new parallelism pipeline start
  numbered := numbered_new parallelism pipeline start
  placed := placed_new parallelism pipeline start
  genuine := genuine_new parallelism pipeline start

/-- **Every step keeps a pool sound.** -/
theorem Sound.step {p q : Pool} {m : Move} (h : p.Sound) (s : p.step m = some q) : q.Sound where
  staffed := h.staffed.step (.of_step s)
  numbered := h.numbered.step (.of_step s)
  placed := h.placed.step h.staffed h.numbered (.of_step s)
  genuine := h.genuine.step (.of_step s)

/-- **What every step keeps, a pool keeps.** -/
theorem Reaches.induction {p q : Pool} (h : p.Reaches q) {P : Pool → Prop} (init : P p)
    (step : ∀ {r s : Pool} {m : Move}, P r → r.step m = some s → P s) : P q := by
  obtain ⟨moves, went⟩ := h
  exact foldlM_induction (fun _ => step) init went

theorem Sound.reaches {p q : Pool} (h : p.Sound) (r : p.Reaches q) : q.Sound :=
  r.induction h fun h s => h.step s

/-- A pool keeps its pipeline. -/
theorem pipeline_of_step {p q : Pool} {m : Move} (s : p.Step m q) : q.pipeline = p.pipeline := by
  cases s <;> rfl

theorem Reaches.pipeline_eq {p q : Pool} (r : p.Reaches q) : q.pipeline = p.pipeline :=
  r.induction (P := fun q => q.pipeline = p.pipeline) rfl fun same s =>
    (pipeline_of_step (.of_step s)).trans same

/-- The clock of a pool never goes back. -/
theorem Step.clock_le {p q : Pool} {m : Move} (s : p.Step m q) : p.clock ≤ q.clock := by
  cases s with
  | tick later => exact Nat.le_of_lt later
  | _ => exact Nat.le_refl _

theorem Reaches.clock_le {p q : Pool} (r : p.Reaches q) : p.clock ≤ q.clock :=
  r.induction (P := fun q => p.clock ≤ q.clock) (Nat.le_refl _) fun before s =>
    Nat.le_trans before (Step.of_step s).clock_le

/-- The pool with other counts and another log. -/
def withCounts (p : Pool) (progress : Progress) (tally : Tally) (log : List Entry) : Pool :=
  { p with progress := progress, tally := tally, journal.log := log }

theorem Sound.withCounts {p : Pool} (h : p.Sound) (progress : Progress) (tally : Tally)
    (log : List Entry) : (p.withCounts progress tally log).Sound where
  staffed := { h.staffed with }
  numbered := { h.numbered with }
  placed := { h.placed with fits := fun b mem => (h.placed.fits b mem).congr rfl rfl }
  genuine := { h.genuine with }

/-- **The pools that there are**: new ones, those that steps lead to, and those whose counts and log
others set. -/
inductive Lived : Pool → Prop where
  | new (parallelism : Nat) (pipeline : Pipeline) (start : Nat) :
      Lived (Pool.new parallelism pipeline start)
  | step {p q : Pool} {m : Move} (h : Lived p) (s : p.step m = some q) : Lived q
  | share {p : Pool} (h : Lived p) (progress : Progress) (tally : Tally) (log : List Entry) :
      Lived (p.withCounts progress tally log)

/-- **Every pool is sound.** -/
theorem Lived.sound {p : Pool} (h : p.Lived) : p.Sound := by
  induction h with
  | new parallelism pipeline start => exact sound_new parallelism pipeline start
  | step _ s ih => exact ih.step s
  | share _ progress tally log ih => exact ih.withCounts progress tally log

theorem Lived.reaches {p q : Pool} (h : p.Lived) (r : p.Reaches q) : q.Lived :=
  r.induction h fun h s => h.step s

end Pool

end Relaunch
