import Mathlib.Data.List.Nodup
import Mathlib.Data.List.Perm.Subperm
import Mathlib.Order.Bounds.Defs
import Relaunch.Proofs.Launch.Shift
import Relaunch.Proofs.Pool.Line
import Relaunch.Proofs.Pool.Quiet

/-!
# Proofs/Pool/Greedy — a pool starts each launch as soon as it may

A pool of so many workers never has more launches under way than that.  A job **may start** once it
has come, the job before it has started, and a worker is free, that is, fewer of the launches before
it go on than there are workers (`MayStart`).  No job starts before it may.  In a pool whose clock
goes on only where no worker can, none starts later either: this is greedy list scheduling.

* `Paced.step` — what every step keeps: launches under way are in workers' hands.
* `Timely.step` — what steps on time keep: the next job is not late.
* `greedy_of_steps` — all of it for every run of a pool.
-/

namespace Relaunch

/-- The launch that goes on in a worker's hands. -/
def Worker.launch? : Worker → Option (Job × Run)
  | running job run => some (job, run)
  | idle | polling | judged .. | counted .. | resumed .. | exited => none

/-- **When a job may start** after those before it, in a pool of so many workers. -/
structure MayStart (slots : Nat) (earlier : List (Job × Run)) (job : Job) (time : Nat) : Prop where
  come : job.time ≤ time
  turn : ∀ e ∈ earlier.getLast?, e.2.start ≤ time
  free : earlier.countP (fun e => time < e.2.finish) < slots

namespace Pool

/-- The launches in the workers' hands. -/
def underWay (p : Pool) : List (Job × Run) := p.workers.filterMap Worker.launch?

/-- **No worker can go on** without time going on. -/
def isStill (p : Pool) : Bool :=
  (List.range p.workers.length).all fun i => (p.step (.worker i)).isNone

/-- **Whether a step is on time**: the clock goes on only where no worker can, and at most to the
end of the launch that is over next. -/
def isPunctual (p : Pool) : Move → Bool
  | .tick time => p.isStill && p.workers.all fun w => w.deadline?.all (time ≤ ·)
  | .call _ | .close | .worker _ | .batch _ | .closing _ => true

/-- Whether steps are on time, as far as they can be taken. -/
def isOnTime (p : Pool) : List Move → Bool
  | [] => true
  | m :: moves => p.isPunctual m && (p.step m).all fun q => q.isOnTime moves

/-! ## Launches under way -/

/-- **What every step keeps** of a pool of so many workers. -/
structure Paced (slots : Nat) (p : Pool) : Prop where
  staff : p.workers.length = slots
  come : ∀ job ∈ p.queue, job.time ≤ p.clock
  begun : ∀ e ∈ p.journal.runs, e.2.start ≤ p.clock
  held : ∀ e ∈ p.journal.runs, p.clock < e.2.finish → e ∈ p.underWay
  /-- No job started before it might. -/
  allowed : ∀ (k : Nat) (e : Job × Run), p.journal.runs[k]? = some e →
    MayStart slots (p.journal.runs.take k) e.1 e.2.start
  bounded : ∀ time, p.journal.runs.countP (fun e => e.2.start ≤ time ∧ time < e.2.finish) ≤ slots

theorem paced_new (parallelism : Nat) (pipeline : Pipeline) (start : Nat) :
    (Pool.new parallelism pipeline start).Paced (max 1 parallelism) where
  staff := by rw [new, List.length_replicate]
  come _ mem := absurd mem List.not_mem_nil
  begun _ mem := absurd mem List.not_mem_nil
  held _ mem := absurd mem List.not_mem_nil
  allowed _ _ at_k := nomatch List.getElem?_nil.symm.trans at_k
  bounded time := by rw [new, List.countP_nil]; exact Nat.zero_le _

variable {slots : Nat} {p q : Pool}

/-- One launch, one entry. -/
theorem Numbered.nodup_runs (h : p.Numbered) : p.journal.runs.Nodup :=
  List.Nodup.of_map _ (h.started ▸ List.nodup_range)

/-- No launch is in two workers' hands. -/
theorem Numbered.nodup_underWay (h : p.Numbered) : p.underWay.Nodup := by
  have apart := List.pairwise_filterMap.mp (List.nodup_append.mp h.nodup_custody).1
  refine List.pairwise_filterMap.mpr (apart.imp ?_)
  intro w v distinct e he f hf same
  subst same
  cases w with
  | running job run =>
    cases he
    cases v with
    | running other r =>
      cases hf
      exact distinct _ rfl _ rfl rfl
    | _ => cases hf
  | _ => cases he

/-- The launches that go on are in workers' hands. -/
theorem Paced.countP_le (h : p.Paced slots) (numbered : p.Numbered) :
    p.journal.runs.countP (fun e => p.clock < e.2.finish) ≤ p.underWay.length := by
  rw [List.countP_eq_length_filter]
  refine (List.subperm_of_subset (numbered.nodup_runs.filter _) ?_).length_le
  intro e mem
  obtain ⟨ran, goesOn⟩ := List.mem_filter.mp mem
  exact h.held e ran (of_decide_eq_true goesOn)

/-- A worker with its hands free is one launch less. -/
theorem Paced.underWay_lt (h : p.Paced slots) {w : Worker} (mem : w ∈ p.workers)
    (free : w.launch? = none) : p.underWay.length < slots := by
  rw [← h.staff]
  exact List.length_filterMap_lt_length_iff_exists.mpr ⟨w, mem, free⟩

/-- What another worker has in its hands stays there. -/
theorem mem_underWay_set {i : Nat} {w v : Worker} {e : Job × Run}
    (at_i : p.workers[i]? = some w) (workers : q.workers = p.workers.set i v)
    (mem : e ∈ p.underWay) (ne : w.launch? ≠ some e) : e ∈ q.underWay := by
  obtain ⟨u, here, has⟩ := List.mem_filterMap.mp mem
  refine List.mem_filterMap.mpr ⟨u, ?_, has⟩
  rw [workers]
  refine mem_set_of_getElem?_ne at_i here ?_
  rintro rfl
  exact ne has

/-- An entry of a list with one more at its end, and those before it. -/
theorem take_concat_cases {l : List α} {a b : α} {k : Nat} (at_k : (l ++ [a])[k]? = some b) :
    (l[k]? = some b ∧ (l ++ [a]).take k = l.take k) ∨ (b = a ∧ (l ++ [a]).take k = l) := by
  rcases Nat.lt_or_ge k l.length with lt | ge
  · rw [List.getElem?_append_left lt] at at_k
    exact .inl ⟨at_k, List.take_append_of_le_length (Nat.le_of_lt lt)⟩
  · have lt := (List.getElem?_eq_some_iff.mp at_k).1
    rw [List.length_append, List.length_singleton] at lt
    obtain rfl : k = l.length := by omega
    rw [List.getElem?_concat_length] at at_k
    exact .inr ⟨(Option.some.inj at_k).symm, List.take_left⟩

/-! ## Steps -/

/-- A worker goes on whose launch is over, if it had one. -/
theorem Paced.worker (h : p.Paced slots) {i : Nat} {w v : Worker} (at_i : p.workers[i]? = some w)
    (ended : ∀ e, w.launch? = some e → e.2.finish ≤ p.clock)
    (workers : q.workers = p.workers.set i v) (runs : q.journal.runs = p.journal.runs)
    (queue : q.queue = p.queue) (clock : q.clock = p.clock) : q.Paced slots where
  staff := by rw [workers, List.length_set, h.staff]
  come := by
    rw [queue, clock]
    exact h.come
  begun := by
    rw [runs, clock]
    exact h.begun
  held e mem goesOn := by
    rw [runs] at mem
    rw [clock] at goesOn
    refine mem_underWay_set at_i workers (h.held e mem goesOn) fun has => ?_
    have := ended e has
    omega
  allowed := by
    rw [runs]
    exact h.allowed
  bounded := by
    rw [runs]
    exact h.bounded

/-- **A job that is taken may start.** -/
theorem Paced.mayStart (h : p.Paced slots) (numbered : p.Numbered) {i : Nat} {job : Job}
    {queue : List Job} (at_i : p.workers[i]? = some .polling) (first : p.queue = job :: queue) :
    MayStart slots p.journal.runs job p.clock where
  come := h.come job (first ▸ List.mem_cons_self)
  turn e last := h.begun e (List.mem_of_getLast? last)
  free := Nat.lt_of_le_of_lt (h.countP_le numbered)
    (h.underWay_lt (List.mem_of_getElem? at_i) rfl)

theorem Paced.take (h : p.Paced slots) (numbered : p.Numbered) {i : Nat} {job : Job}
    {queue : List Job} (at_i : p.workers[i]? = some .polling) (first : p.queue = job :: queue) :
    { p.setWorker i (.running job (p.pipeline.run p.clock job.input)) with
      queue := queue
      journal.runs := p.journal.runs ++ [(job, p.pipeline.run p.clock job.input)] : Pool }.Paced
      slots where
  staff := (List.length_set).trans h.staff
  come other mem := h.come other (first ▸ List.mem_cons_of_mem job mem)
  begun e mem := by
    rcases List.mem_append.mp mem with old | new
    · exact h.begun e old
    · obtain rfl := List.mem_singleton.mp new
      exact Nat.le_of_eq (p.pipeline.start_run p.clock job.input)
  held e mem goesOn := by
    rcases List.mem_append.mp mem with old | new
    · exact mem_underWay_set at_i rfl (h.held e old goesOn) nofun
    · obtain rfl := List.mem_singleton.mp new
      have here := (List.getElem?_eq_some_iff.mp at_i).1
      exact List.mem_filterMap.mpr ⟨_, List.mem_set here _, rfl⟩
  allowed k e at_k := by
    rcases take_concat_cases at_k with ⟨old, same⟩ | ⟨rfl, same⟩
    · rw [same]
      exact h.allowed k e old
    · rw [same, p.pipeline.start_run]
      exact h.mayStart numbered at_i first
  bounded time := by
    have start := p.pipeline.start_run p.clock job.input
    rw [List.countP_append, List.countP_singleton]
    -- whatever of before goes on at a later time goes on now
    by_cases later : p.clock ≤ time
    · have fewer : p.journal.runs.countP (fun e => e.2.start ≤ time ∧ time < e.2.finish)
          ≤ p.journal.runs.countP (fun e => p.clock < e.2.finish) := by
        refine List.countP_mono_left fun e _ goesOn => ?_
        simp only [decide_eq_true_eq] at goesOn ⊢
        omega
      have free := (h.mayStart numbered at_i first).free
      split <;> omega
    · rw [if_neg (by simp only [start, decide_eq_true_eq]; omega)]
      exact h.bounded time

/-- **Every step keeps what each launch was allowed.** -/
theorem Paced.step {m : Move} (h : p.Paced slots) (numbered : p.Numbered) (s : p.Step m q) :
    q.Paced slots := by
  cases s with
  | tick later =>
    refine { h with come := ?_, begun := ?_, held := ?_ }
    · exact fun job mem => Nat.le_trans (h.come job mem) (Nat.le_of_lt later)
    · exact fun e mem => Nat.le_trans (h.begun e mem) (Nat.le_of_lt later)
    · exact fun e mem goesOn => h.held e mem (Nat.lt_trans later goesOn)
  | seat at_i free => exact h.worker at_i (fun _ has => nomatch has) rfl rfl rfl rfl
  | take at_i first => exact h.take numbered at_i first
  | leave at_i empty alone => exact h.worker at_i (fun _ has => nomatch has) rfl rfl rfl rfl
  | judge at_i ended =>
    refine h.worker at_i (fun e has => ?_) rfl rfl rfl rfl
    cases has
    exact ended
  | count at_i => exact h.worker at_i (fun _ has => nomatch has) rfl rfl rfl rfl
  | resume at_i => exact h.worker at_i (fun _ has => nomatch has) rfl rfl rfl rfl
  | answer at_i => exact h.worker at_i (fun _ has => nomatch has) rfl rfl rfl rfl
  | send at_b served =>
    refine { h with come := fun job mem => ?_ }
    rcases List.mem_append.mp mem with old | new
    · exact h.come job old
    · obtain rfl := List.mem_singleton.mp new
      exact Nat.le_refl _
  | _ => exact { h with }

/-! ## Where no worker can go on -/

theorem stepWorker_of_isStill (still : p.isStill = true) {i : Nat} {w : Worker}
    (at_i : p.workers[i]? = some w) : p.stepWorker i w = none := by
  have here := (List.getElem?_eq_some_iff.mp at_i).1
  have := List.all_eq_true.mp still i (List.mem_range.mpr here)
  rw [step, at_i, Option.bind_some] at this
  exact Option.isNone_iff_eq_none.mp this

/-- **Where no worker can go on, the queue is empty or every worker has a launch.** -/
theorem queue_or_busy_of_isStill (staffed : p.Staffed) (still : p.isStill = true) :
    p.queue = [] ∨ ∀ w ∈ p.workers, w.isRunning = true := by
  cases first : p.queue with
  | nil => exact .inl rfl
  | cons job queue =>
    refine .inr fun w mem => ?_
    have unpolled : .polling ∉ p.workers := by
      intro polls
      obtain ⟨i, at_i⟩ := List.mem_iff_getElem?.mp polls
      have := stepWorker_of_isStill still at_i
      simp only [stepWorker, first] at this
      cases this
    obtain ⟨i, at_i⟩ := List.mem_iff_getElem?.mp mem
    have stuck := stepWorker_of_isStill still at_i
    cases w with
    | running job run => rfl
    | polling => exact absurd mem unpolled
    | idle =>
      simp only [stepWorker] at stuck
      split at stuck
      · rename_i taken
        obtain ⟨v, mem', polls⟩ := List.any_eq_true.mp taken
        cases v with
        | polling => exact absurd mem' unpolled
        | _ => cases polls
      · cases stuck
    | exited =>
      rw [(staffed.left_behind mem).1] at first
      cases first
    | _ => cases stuck

/-- As many launches go on as there are workers. -/
theorem Paced.le_countP (h : p.Paced slots) (sound : p.Sound)
    (busy : ∀ w ∈ p.workers, w.isRunning = true) {time : Nat}
    (goesOn : ∀ e ∈ p.underWay, time < e.2.finish) :
    slots ≤ p.journal.runs.countP (fun e => time < e.2.finish) := by
  have all : p.underWay.length = slots := by
    rw [← h.staff, underWay, List.filterMap_length_eq_length]
    intro w mem
    cases w with
    | running job run => rfl
    | _ => cases busy _ mem
  rw [← all, List.countP_eq_length_filter]
  refine (List.subperm_of_subset sound.numbered.nodup_underWay ?_).length_le
  intro e mem
  refine List.mem_filter.mpr ⟨?_, decide_eq_true (goesOn e mem)⟩
  obtain ⟨w, here, has⟩ := List.mem_filterMap.mp mem
  cases w with
  | running job run =>
    cases has
    obtain ⟨r, ran, rfl⟩ := sound.genuine.working _ here job rfl
    exact ran
  | _ => cases has

/-! ## Steps on time -/

/-- **What steps on time keep**: no launch goes on beyond its end, none started later than it might,
and the next job is not late. -/
structure Timely (slots : Nat) (p : Pool) : Prop where
  awake : ∀ e ∈ p.underWay, p.clock ≤ e.2.finish
  least : ∀ (k : Nat) (e : Job × Run), p.journal.runs[k]? = some e →
    ∀ time, MayStart slots (p.journal.runs.take k) e.1 time → e.2.start ≤ time
  next : ∀ job ∈ p.queue.head?, ∀ time, MayStart slots p.journal.runs job time → p.clock ≤ time

theorem timely_new (parallelism : Nat) (pipeline : Pipeline) (start : Nat) :
    (Pool.new parallelism pipeline start).Timely (max 1 parallelism) where
  awake e mem := by
    obtain ⟨w, here, has⟩ := List.mem_filterMap.mp mem
    obtain rfl := List.eq_of_mem_replicate here
    cases has
  least _ _ at_k := nomatch List.getElem?_nil.symm.trans at_k
  next job first := by cases first

/-- A worker goes on to something that is no launch. -/
theorem Timely.worker (h : p.Timely slots) {i : Nat} {v : Worker} (free : v.launch? = none)
    (workers : q.workers = p.workers.set i v) (runs : q.journal.runs = p.journal.runs)
    (queue : q.queue = p.queue) (clock : q.clock = p.clock) : q.Timely slots where
  awake e mem := by
    obtain ⟨w, here, has⟩ := List.mem_filterMap.mp mem
    rw [workers] at here
    rw [clock]
    rcases List.mem_or_eq_of_mem_set here with old | rfl
    · exact h.awake e (List.mem_filterMap.mpr ⟨w, old, has⟩)
    · cases free.symm.trans has
  least := by
    rw [runs]
    exact h.least
  next := by
    rw [runs, queue, clock]
    exact h.next

/-- **The next job is started**, and not late. -/
theorem Timely.take (h : p.Timely slots) {i : Nat} {job : Job} {queue : List Job}
    (first : p.queue = job :: queue) :
    { p.setWorker i (.running job (p.pipeline.run p.clock job.input)) with
      queue := queue
      journal.runs := p.journal.runs ++ [(job, p.pipeline.run p.clock job.input)] : Pool }.Timely
      slots where
  awake e mem := by
    obtain ⟨w, here, has⟩ := List.mem_filterMap.mp mem
    rcases List.mem_or_eq_of_mem_set here with old | rfl
    · exact h.awake e (List.mem_filterMap.mpr ⟨w, old, has⟩)
    · cases has
      exact p.pipeline.start_le_finish p.clock job.input
  least k e at_k time may := by
    rcases take_concat_cases at_k with ⟨old, same⟩ | ⟨rfl, same⟩
    · rw [same] at may
      exact h.least k e old time may
    · rw [same] at may
      rw [p.pipeline.start_run]
      exact h.next job (by rw [first]; rfl) time may
  next other _ time may := by
    -- it may not start before the job that starts now
    have := may.turn _ List.getLast?_concat
    rwa [p.pipeline.start_run] at this

/-- **Time goes on**: either no job waits, or every worker has a launch until then. -/
theorem Timely.tick (h : p.Timely slots) (paced : p.Paced slots) (sound : p.Sound) {time : Nat}
    (punctual : p.isPunctual (.tick time) = true) : { p with clock := time }.Timely slots where
  awake e mem := by
    obtain ⟨w, here, has⟩ := List.mem_filterMap.mp mem
    have due := List.all_eq_true.mp (Bool.and_eq_true_iff.mp punctual).2 w here
    cases w with
    | running job run =>
      cases has
      simpa [Worker.deadline?] using due
    | _ => cases has
  least := h.least
  next job first earlier may := by
    obtain ⟨still, due⟩ := Bool.and_eq_true_iff.mp punctual
    -- a job that might have started earlier would have found all workers busy
    by_contra late
    have late : earlier < time := Nat.lt_of_not_le late
    have busy : ∀ w ∈ p.workers, w.isRunning = true := by
      rcases queue_or_busy_of_isStill sound.staffed still with empty | busy
      · simp only [empty] at first
        cases first
      · exact busy
    have full : slots ≤ p.journal.runs.countP (fun e => earlier < e.2.finish) := by
      refine paced.le_countP sound busy fun e mem => ?_
      obtain ⟨w, here, has⟩ := List.mem_filterMap.mp mem
      have due := List.all_eq_true.mp due w here
      cases w with
      | running job run =>
        cases has
        simp only [Worker.deadline?, Option.all_some, decide_eq_true_eq] at due
        exact Nat.lt_of_lt_of_le late due
      | _ => cases has
    exact absurd may.free (Nat.not_lt_of_le full)

theorem Timely.step {m : Move} (h : p.Timely slots) (paced : p.Paced slots) (sound : p.Sound)
    (punctual : p.isPunctual m = true) (s : p.Step m q) : q.Timely slots := by
  cases s with
  | tick later => exact h.tick paced sound punctual
  | seat at_i free => exact h.worker rfl rfl rfl rfl rfl
  | take at_i first => exact h.take first
  | leave at_i empty alone => exact h.worker rfl rfl rfl rfl rfl
  | judge at_i ended => exact h.worker rfl rfl rfl rfl rfl
  | count at_i => exact h.worker rfl rfl rfl rfl rfl
  | resume at_i => exact h.worker rfl rfl rfl rfl rfl
  | answer at_i => exact h.worker rfl rfl rfl rfl rfl
  | @send b inputs input rest tickets rejected at_b served =>
    refine { h with next := fun job first time may => ?_ }
    cases waiting : p.queue with
    | nil =>
      have : job = ⟨p.nextTicket, p.clock, input⟩ := by
        simpa [enqueue, Pool.setBatch, waiting, eq_comm] using first
      subst this
      exact may.come
    | cons other queue =>
      refine h.next job ?_ time may
      simpa [enqueue, Pool.setBatch, waiting] using first
  | _ => exact { h with }

/-! ## Prompt runs are on time -/

theorem isStill_of_prompt? (none : p.prompt? = none) : p.isStill = true := by
  refine List.all_eq_true.mpr fun i lt => ?_
  have here := List.getElem?_eq_getElem (List.mem_range.mp lt)
  rw [List.findSome?_eq_none_iff.mp none _ (worker_mem_moves here)]
  rfl

theorem exists_isPunctual_of_advance (h : p.advance = some q) :
    ∃ m, p.isPunctual m = true ∧ p.step m = some q := by
  unfold advance at h
  split at h
  · rename_i r prompt
    cases h
    obtain ⟨m, mem, s⟩ := exists_step_of_prompt? prompt
    refine ⟨m, ?_, s⟩
    rcases mem_moves mem with ⟨i, rfl⟩ | ⟨i, rfl⟩ | ⟨i, rfl⟩ <;> rfl
  · rename_i none
    obtain ⟨time, due, s⟩ := Option.bind_eq_some_iff.mp h
    refine ⟨.tick time, Bool.and_eq_true_iff.mpr ⟨isStill_of_prompt? none, ?_⟩, s⟩
    refine List.all_eq_true.mpr fun w mem => ?_
    cases w with
    | running job run =>
      exact decide_eq_true ((List.min?_eq_some_iff.mp due).2 run.finish
        (List.mem_filterMap.mpr ⟨_, mem, rfl⟩))
    | _ => rfl

/-- **A prompt run is made of steps on time.** -/
theorem exists_isOnTime_runQuiet (p : Pool) :
    ∃ moves, p.isOnTime moves = true ∧ p.steps moves = some p.runQuiet := by
  have go : ∀ (fuel : Nat) (p : Pool), ∃ moves, p.isOnTime moves = true ∧
      p.steps moves = some (advanceWith fuel p) := by
    intro fuel
    induction fuel with
    | zero => exact fun p => ⟨[], rfl, rfl⟩
    | succ fuel ih =>
      intro p
      simp only [advanceWith]
      split
      · rename_i q h
        obtain ⟨m, punctual, s⟩ := exists_isPunctual_of_advance h
        obtain ⟨moves, onTime, went⟩ := ih q
        refine ⟨m :: moves, ?_, ?_⟩
        · rw [isOnTime, punctual, s]
          exact onTime
        · rw [steps, List.foldlM_cons, s]
          exact went
      · exact ⟨[], rfl, rfl⟩
  exact go p.work p

/-! ## Every run of a pool -/

theorem Paced.steps (h : p.Paced slots) (sound : p.Sound) {moves : List Move}
    (went : p.steps moves = some q) : q.Paced slots :=
  (Reaches.induction (P := fun q => q.Sound ∧ q.Paced slots) ⟨moves, went⟩ ⟨sound, h⟩
    fun ⟨sound, h⟩ s => ⟨sound.step s, h.step sound.numbered (.of_step s)⟩).2

theorem Timely.steps (h : p.Timely slots) (paced : p.Paced slots) (sound : p.Sound)
    {moves : List Move} (onTime : p.isOnTime moves = true) (went : p.steps moves = some q) :
    q.Timely slots := by
  induction moves generalizing p with
  | nil =>
    cases went
    exact h
  | cons m moves ih =>
    rw [Pool.steps, List.foldlM_cons] at went
    obtain ⟨r, s, rest⟩ := Option.bind_eq_some_iff.mp went
    rw [isOnTime, s, Bool.and_eq_true_iff] at onTime
    exact ih (h.step paced sound onTime.1 (.of_step s)) (paced.step sound.numbered (.of_step s))
      (sound.step s) onTime.2 rest

theorem countP_isRunning (p : Pool) : p.workers.countP Worker.isRunning = p.underWay.length := by
  rw [underWay, List.length_filterMap_eq_countP]
  refine List.countP_congr fun w _ => ?_
  cases w <;> simp [Worker.isRunning, Worker.launch?]

/-- With one worker, each launch ends before the next starts. -/
theorem Paced.sequential (h : p.Paced 1) :
    p.journal.runs.Pairwise fun e f => e.2.finish ≤ f.2.start := by
  refine List.pairwise_iff_getElem.mpr fun i j hi hj lt => ?_
  have free := (h.allowed j _ (List.getElem?_eq_getElem hj)).free
  have none := List.countP_eq_zero.mp (Nat.lt_one_iff.mp free)
  have earlier : p.journal.runs[i] ∈ p.journal.runs.take j :=
    List.mem_iff_getElem?.mpr ⟨i, by rw [List.getElem?_take_of_lt lt, List.getElem?_eq_getElem hi]⟩
  have := none _ earlier
  simp only [decide_eq_true_eq] at this
  omega

/-- **A pool whose launches started as soon as they might**, and whose next job might not start
yet. -/
structure Greedy (slots : Nat) (p : Pool) : Prop where
  earliest : ∀ (k : Nat) (e : Job × Run), p.journal.runs[k]? = some e →
    IsLeast {time | MayStart slots (p.journal.runs.take k) e.1 time} e.2.start
  next : ∀ job ∈ p.queue.head?, ∀ time, MayStart slots p.journal.runs job time → p.clock ≤ time

/-- **A pool is bounded, first come first served, and never idle while a job waits.**

* No more launches are under way than there are workers, now or at any time before.
* Launches start in the order in which their inputs came, those of a batch in its order.
* As long as no closing has shut the queue, no worker leaves.
* Where no worker can go on, the queue is empty or every worker has a launch.
* If time goes on only there, each launch starts as soon as it may, and each job that waits will.
* With one worker, each launch ends before the next starts. -/
theorem greedy_of_steps {parallelism start : Nat} {pipeline : Pipeline} {progress : Progress}
    {tally : Tally} {log : List Entry} {moves : List Move} {q : Pool}
    (went : ((Pool.new parallelism pipeline start).withCounts progress tally log).steps moves
      = some q) :
    let new := (Pool.new parallelism pipeline start).withCounts progress tally log
    let told := new.history moves
    let slots := max 1 parallelism
    let launches := q.journal.runs
    (q.workers.countP Worker.isRunning ≤ slots ∧
      ∀ time, launches.countP (fun e => e.2.start ≤ time ∧ time < e.2.finish) ≤ slots) ∧
    (told.starts <+: told.arrivals ∧
      told.starts.map q.ticketAt = launches.map (fun e => some e.1.ticket) ∧
      told.arrivals.Pairwise fun x y => x.batch = y.batch → x.index < y.index) ∧
    ((∀ c ∈ q.closings, c = .called) → q.workers.length = slots ∧ .exited ∉ q.workers) ∧
    (q.isStill → q.queue = [] ∨ q.workers.countP Worker.isRunning = slots) ∧
    (new.isOnTime moves → q.Greedy slots ∧
      ∃ rest, q.isOnTime rest ∧ q.steps rest = some q.runQuiet ∧ q.runQuiet.queue = []) ∧
    (slots = 1 → launches.Pairwise fun e f => e.2.finish ≤ f.2.start) := by
  intro new told slots launches
  have fresh : new.Sound := (sound_new parallelism pipeline start).withCounts progress tally log
  have paced_new : new.Paced slots := { paced_new parallelism pipeline start with }
  have timely_new : new.Timely slots := { timely_new parallelism pipeline start with }
  have sound : q.Sound := fresh.reaches ⟨moves, went⟩
  have paced : q.Paced slots := paced_new.steps fresh went
  have lined : q.Lined told := lined_of_steps fresh (lined_new _ _ _ _ _ _) went
  refine ⟨⟨?_, paced.bounded⟩, ⟨?_, ?_, lined.inOrder⟩, ?_, ?_, ?_, ?_⟩
  · rw [countP_isRunning, ← paced.staff]
    exact List.length_filterMap_le _ _
  · exact lined.starts_prefix sound.numbered sound.placed
  · rw [lined.starts, ← sound.numbered.started, List.map_map]
    rfl
  · intro none
    refine ⟨paced.staff, fun gone => ?_⟩
    have shut : q.isOpen = false := (Bool.or_eq_false_iff.mp (sound.staffed.left_behind gone).2).1
    obtain ⟨c, mem, ne⟩ := sound.staffed.shut_iff.mp shut
    exact ne (none c mem)
  · intro still
    refine (queue_or_busy_of_isStill sound.staffed still).imp_right fun busy => ?_
    rw [List.countP_eq_length.mpr busy, paced.staff]
  · intro onTime
    have timely := timely_new.steps paced_new fresh onTime went
    refine ⟨⟨fun k e at_k => ⟨paced.allowed k e at_k, timely.least k e at_k⟩, timely.next⟩, ?_⟩
    obtain ⟨rest, punctual, goesOn⟩ := exists_isOnTime_runQuiet q
    refine ⟨rest, punctual, goesOn, ?_⟩
    exact queue_of_quiet (advance_runQuiet q) (sound.reaches ⟨rest, goesOn⟩).staffed
  · intro one
    exact (one ▸ paced).sequential

/-- Three launches of three ticks each on two workers: the third starts when the first two end. -/
theorem greedy_of_steps_three :
    let pipeline : Pipeline := ⟨[⟨"load", fun _ => .script [.sleep 3] .ok⟩], .noop⟩
    let input : LaunchInput := ⟨"w-1", .sync, "", [], "", none⟩
    let new := (Pool.new 2 pipeline 0).withCounts {} {} []
    let moves : List Move := [.call [input, input, input], .batch 0, .batch 0, .batch 0, .batch 0,
      .worker 0, .worker 0, .worker 1, .worker 1, .tick 3, .worker 0, .worker 0, .worker 0,
      .worker 0, .worker 0, .worker 0]
    ∃ q, new.steps moves = some q ∧ new.isOnTime moves = true ∧
      q.journal.runs.map (·.2.start) = [0, 0, 3] ∧
      ∀ e ∈ q.journal.runs[2]?,
        IsLeast {time | MayStart 2 (q.journal.runs.take 2) e.1 time} e.2.start := by
  intro pipeline input new moves
  obtain ⟨q, went⟩ : ∃ q, new.steps moves = some q := ⟨_, rfl⟩
  have onTime : new.isOnTime moves = true := rfl
  obtain ⟨-, -, -, -, greedy, -⟩ := greedy_of_steps went
  refine ⟨q, went, onTime, ?_, (greedy onTime).1.earliest 2⟩
  cases went
  rfl

end Pool

end Relaunch
