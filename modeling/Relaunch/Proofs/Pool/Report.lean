import Relaunch.Proofs.Launch.Report
import Relaunch.Proofs.Pool.Isolation

/-!
# Proofs/Pool/Report — failure reports change nothing else

Two pools of the same stages take the same steps, each under hooks of its own, which may be others
at every step.  If the hooks of both panic over failures only, the pools are **alike** all the way:
they have the same batches, answers, progress and counts, but for the count of panics.

So it is with the hooks that report failures, whatever the registry answers to each of the reports,
against no hooks at all.  The reports are then those of the failed launches, one each.

* `Alike.step` — alike pools take the same steps and stay alike.
* `alike_of_stepsUnder` — so they do in the long run, under any tame hooks.
* `reports_exact` — all of it for the hooks that report failures.
-/

namespace Relaunch

/-- The worker as it were without hooks. -/
def Worker.mute (stages : List Stage) : Worker → Worker
  | running job run => running job ((⟨stages, .noop⟩ : Pipeline).run run.start job.input)
  | idle => idle
  | polling => polling
  | judged job outcome => judged job outcome
  | counted job outcome => counted job outcome
  | resumed job outcome => resumed job outcome
  | exited => exited

/-- The counts, without that of panics unless it is to be kept. -/
def Tally.keep (panics : Bool) (t : Tally) : Tally := if panics then t else { t with panics := 0 }

namespace Tally

variable {calm : Bool}

theorem keep_addFailure (t : Tally) : t.addFailure.keep calm = (t.keep calm).addFailure := by
  cases calm <;> rfl

theorem keep_addResumed (t : Tally) (kind : Kind) :
    (t.addResumed kind).keep calm = (t.keep calm).addResumed kind := by
  cases calm <;> cases kind <;> rfl

/-- Without the panics, an outcome is all that is counted of a verdict. -/
theorem keep_count_of_loud (v : Verdict) (t : Tally) :
    (v.count t).keep false
      = match v.outcome with
        | .succeeded => (t.keep false).addSuccess
        | .failed => (t.keep false).addFailure := by
  cases v <;> rfl

/-- Two verdicts of one outcome are counted alike, if calm hooks left no choice between them. -/
theorem keep_count {t u : Tally} {v w : Verdict} (same : t.keep calm = u.keep calm)
    (outcome : v.outcome = w.outcome) (only : calm = true → v = w) :
    (v.count t).keep calm = (w.count u).keep calm := by
  cases calm with
  | true =>
    obtain rfl := only rfl
    obtain rfl : t = u := same
    rfl
  | false => rw [keep_count_of_loud, keep_count_of_loud, outcome, same]

end Tally

namespace Worker

variable {stages : List Stage} {v w : Worker}

theorem eq_of_mute (same : v.mute stages = w.mute stages) (still : w.isRunning = false) :
    v = w := by
  cases w with
  | running job run => cases still
  | _ =>
    cases v with
    | running job run => cases same
    | _ => exact same

theorem isPolling_mute (w : Worker) : (w.mute stages).isPolling = w.isPolling := by
  cases w <;> rfl

theorem isExited_mute (w : Worker) : (w.mute stages).isExited = w.isExited := by
  cases w <;> rfl

theorem job?_mute (w : Worker) : (w.mute stages).job? = w.job? := by
  cases w <;> rfl

end Worker

namespace Pool

/-! ## Steps under hooks of their own -/

/-- **A step under hooks**, which need not be those of the steps before. -/
def stepUnder (p : Pool) (m : Hooks × Move) : Option Pool :=
  { p with pipeline.hooks := m.1 }.step m.2

/-- The pool after some steps, each under its hooks. -/
def stepsUnder (p : Pool) (moves : List (Hooks × Move)) : Option Pool := moves.foldlM stepUnder p

/-- **A pool whose launches had hooks of one sort.** -/
structure Under (P : Hooks → Prop) (p : Pool) : Prop where
  launched : ∀ e ∈ p.journal.runs, ∃ hooks, P hooks ∧
    e.2 = (⟨p.pipeline.stages, hooks⟩ : Pipeline).run e.2.start e.1.input
  working : ∀ job run, .running job run ∈ p.workers → (job, run) ∈ p.journal.runs

variable {P : Hooks → Prop} {p q r : Pool}

theorem Under.hooks (h : p.Under P) (hooks : Hooks) :
    Under P { p with pipeline.hooks := hooks } where
  launched := h.launched
  working := h.working

/-- No launch starts. -/
theorem Under.set (h : p.Under P) {i : Nat} {v : Worker} (still : v.isRunning = false)
    (stages : q.pipeline = p.pipeline) (runs : q.journal.runs = p.journal.runs)
    (workers : q.workers = p.workers.set i v) : q.Under P where
  launched := by
    rw [stages, runs]
    exact h.launched
  working job run mem := by
    rw [workers] at mem
    rw [runs]
    rcases List.mem_or_eq_of_mem_set mem with old | rfl
    · exact h.working job run old
    · cases still

theorem Under.step {m : Move} (h : p.Under P) (its : P p.pipeline.hooks) (s : p.Step m q) :
    q.Under P := by
  cases s with
  | seat at_i free => exact h.set rfl rfl rfl rfl
  | leave at_i empty alone => exact h.set rfl rfl rfl rfl
  | judge at_i ended => exact h.set rfl rfl rfl rfl
  | count at_i => exact h.set rfl rfl rfl rfl
  | resume at_i => exact h.set rfl rfl rfl rfl
  | answer at_i => exact h.set rfl rfl rfl rfl
  | @take i job queue at_i first =>
    refine ⟨fun e mem => ?_, fun other run mem => ?_⟩
    · rcases List.mem_append.mp mem with old | new
      · exact h.launched e old
      · obtain rfl := List.mem_singleton.mp new
        exact ⟨p.pipeline.hooks, its, by rw [Pipeline.start_run]; rfl⟩
    · rcases List.mem_or_eq_of_mem_set mem with old | new
      · exact List.mem_append_left _ (h.working other run old)
      · cases new
        exact List.mem_append_right _ (List.mem_singleton.mpr rfl)
  | _ => exact ⟨h.launched, h.working⟩

theorem Under.stepsUnder {moves : List (Hooks × Move)} (h : p.Under P)
    (its : ∀ m ∈ moves, P m.1) (went : p.stepsUnder moves = some q) : q.Under P :=
  foldlM_induction (fun {_ _ m} mem h first => (h.hooks m.1).step (its m mem) (.of_step first)) h
    went

/-! ## Alike pools -/

/-- **Two pools that differ by what hooks did at most**: in their logs, in how launches ended, and,
unless the hooks are calm, in the count of panics. -/
structure Alike (calm : Bool) (p q : Pool) : Prop where
  stages : q.pipeline.stages = p.pipeline.stages
  clock : q.clock = p.clock
  isOpen : q.isOpen = p.isOpen
  queue : q.queue = p.queue
  nextTicket : q.nextTicket = p.nextTicket
  workers : q.workers.map (Worker.mute p.pipeline.stages)
    = p.workers.map (Worker.mute p.pipeline.stages)
  handles : q.handles = p.handles
  batches : q.batches = p.batches
  closings : q.closings = p.closings
  replies : q.replies = p.replies
  progress : q.progress = p.progress
  tally : q.tally.keep calm = p.tally.keep calm
  runs : q.journal.runs.map (fun e => (e.1, e.2.start))
    = p.journal.runs.map fun e => (e.1, e.2.start)

namespace Alike

variable {calm : Bool}

theorem hooks (h : p.Alike calm q) (A B : Hooks) :
    Alike calm { p with pipeline.hooks := A } { q with pipeline.hooks := B } :=
  { h with }

/-- The other pool has a worker that is the same but for its hooks. -/
theorem exists_worker (h : p.Alike calm q) {i : Nat} {w : Worker}
    (at_i : p.workers[i]? = some w) :
    ∃ v, q.workers[i]? = some v ∧ v.mute p.pipeline.stages = w.mute p.pipeline.stages := by
  have same := congrArg (·[i]?) h.workers
  simp only [List.getElem?_map, at_i, Option.map_some] at same
  exact Option.map_eq_some_iff.mp same

/-- A worker that runs no launch is the same. -/
theorem worker (h : p.Alike calm q) {i : Nat} {w : Worker} (at_i : p.workers[i]? = some w)
    (still : w.isRunning = false) : q.workers[i]? = some w := by
  obtain ⟨v, at_i', same⟩ := h.exists_worker at_i
  rw [at_i', Worker.eq_of_mute same still]

/-- A launch that runs in one pool runs in the other, since the same time. -/
theorem exists_running (h : p.Alike calm q) {i : Nat} {job : Job} {run : Run}
    (at_i : p.workers[i]? = some (.running job run)) :
    ∃ other, q.workers[i]? = some (.running job other) ∧ other.start = run.start := by
  obtain ⟨v, at_i', same⟩ := h.exists_worker at_i
  cases v with
  | running job' other =>
    obtain ⟨rfl, runs⟩ := Worker.running.inj same
    have starts := congrArg Run.start runs
    rw [Pipeline.start_run, Pipeline.start_run] at starts
    exact ⟨other, at_i', starts⟩
  | _ => cases same

theorem isExited_getElem? (h : p.Alike calm q) (i : Nat) :
    q.workers[i]?.map Worker.isExited = p.workers[i]?.map Worker.isExited := by
  have same := congrArg (·[i]?.map Worker.isExited) h.workers
  simpa only [List.getElem?_map, Option.map_map, Function.comp_def, Worker.isExited_mute] using same

theorem any_eq (h : p.Alike calm q) {f : Worker → Bool}
    (muted : ∀ w : Worker, f (w.mute p.pipeline.stages) = f w) :
    q.workers.any f = p.workers.any f := by
  have same := congrArg (List.any · f) h.workers
  simpa only [List.any_map, Function.comp_def, muted] using same

theorem isConnected (h : p.Alike calm q) : q.isConnected = p.isConnected := by
  rw [Pool.isConnected, Pool.isConnected, h.isOpen, h.batches]

theorem isServed (h : p.Alike calm q) : q.isServed = p.isServed :=
  h.any_eq fun w => by rw [Worker.isExited_mute]

theorem reply? (h : p.Alike calm q) : q.reply? = p.reply? := by
  funext ticket
  rw [Pool.reply?, Pool.reply?, h.replies, h.isServed, h.queue,
    h.any_eq fun w => by rw [Worker.job?_mute]]

/-- A worker goes on in both pools. -/
theorem set (h : p.Alike calm q) (i : Nat) {v w : Worker}
    (same : v.mute p.pipeline.stages = w.mute p.pipeline.stages) :
    (q.workers.set i v).map (Worker.mute p.pipeline.stages)
      = (p.workers.set i w).map (Worker.mute p.pipeline.stages) := by
  rw [List.map_set, List.map_set, h.workers, same]

theorem note (h : p.Alike calm q) (events : List Event) :
    (p.note events).Alike calm (q.note events) :=
  { h with }

theorem setBatch (h : p.Alike calm q) (b : Nat) (batch : Batch) :
    (p.setBatch b batch).Alike calm (q.setBatch b batch) :=
  { h with batches := congrArg (List.set · b batch) h.batches }

theorem enqueue (h : p.Alike calm q) (input : LaunchInput) :
    (p.enqueue input).Alike calm (q.enqueue input) :=
  { h with
    queue := by rw [Pool.enqueue, Pool.enqueue, h.queue, h.nextTicket, h.clock]
    nextTicket := congrArg (· + 1) h.nextTicket }

theorem reject (h : p.Alike calm q) (input : LaunchInput) (why : Rejection) :
    (p.reject input why).Alike calm (q.reject input why) :=
  { h with
    progress := congrArg Progress.resume h.progress
    tally := by
      simp only [Pool.reject, Pool.note, Tally.keep_addResumed, Tally.keep_addFailure, h.tally] }

end Alike

/-- A launch that had tame hooks, against the one without. -/
theorem Under.of_launched {calm : Bool} (h : p.Under (Hooks.Tame calm)) {e : Job × Run}
    (ran : e ∈ p.journal.runs) :
    let silent := (⟨p.pipeline.stages, .noop⟩ : Pipeline).run e.2.start e.1.input
    e.2.finish = silent.finish ∧ e.2.ending.verdict.outcome = silent.ending.verdict.outcome ∧
      (calm = true → e.2.ending = silent.ending) := by
  obtain ⟨hooks, tame, eq⟩ := h.launched e ran
  intro silent
  refine ⟨?_, ?_, ?_⟩
  · rw [eq]
    exact Pipeline.finish_run _ _ _
  · rw [eq]
    exact Pipeline.outcome_run (p := ⟨p.pipeline.stages, hooks⟩) tame _ _
  · rintro rfl
    rw [eq]
    exact Pipeline.ending_run (p := ⟨p.pipeline.stages, hooks⟩) tame _ _

namespace Alike

variable {calm : Bool} {p p' q : Pool}

/-- **Alike pools take the same steps**, and stay alike. -/
theorem step (h : p.Alike calm q) (left : p.Under (Hooks.Tame calm))
    (right : q.Under (Hooks.Tame calm)) {m : Move} (s : p.Step m p') :
    ∃ q', q.Step m q' ∧ p'.Alike calm q' := by
  cases s with
  | tick later => exact ⟨_, .tick (h.clock ▸ later), { h with clock := rfl }⟩
  | call inputs =>
    exact ⟨_, .call inputs, { h with batches := congrArg (· ++ _) h.batches }⟩
  | close => exact ⟨_, .close, { h with closings := congrArg (· ++ _) h.closings }⟩
  | seat at_i free =>
    have free : q.workers.any Worker.isPolling = false := by
      rw [h.any_eq Worker.isPolling_mute, free]
    exact ⟨_, .seat (h.worker at_i rfl) free, { h with workers := h.set _ rfl }⟩
  | @take i job queue at_i first =>
    refine ⟨_, .take (h.worker at_i rfl) (h.queue.trans first), { h with
      queue := rfl
      workers := h.set i ?_
      runs := ?_ }⟩
    · simp only [Worker.mute, Pipeline.start_run, h.clock]
    · simp only [List.map_append, List.map_cons, List.map_nil, Pipeline.start_run, h.runs, h.clock]
  | leave at_i empty alone =>
    exact ⟨_, .leave (h.worker at_i rfl) (h.queue.trans empty) (h.isConnected.trans alone),
      { h with workers := h.set _ rfl }⟩
  | @judge i job run at_i ended =>
    obtain ⟨other, at_i', start⟩ := h.exists_running at_i
    obtain ⟨finish, outcome, ending⟩ :=
      left.of_launched (left.working job run (List.mem_of_getElem? at_i))
    obtain ⟨finish', outcome', ending'⟩ :=
      right.of_launched (right.working job other (List.mem_of_getElem? at_i'))
    simp only [h.stages, start] at finish' outcome' ending'
    have ended : other.finish ≤ q.clock := by
      rw [finish', ← finish, h.clock]
      exact ended
    refine ⟨_, .judge at_i' ended, { h with workers := h.set i ?_, tally := ?_ }⟩
    · rw [outcome', outcome]
    · refine Tally.keep_count h.tally (outcome'.trans outcome.symm) fun isCalm => ?_
      rw [ending' isCalm, ending isCalm]
  | count at_i =>
    refine ⟨_, .count (h.worker at_i rfl), { h with workers := h.set _ rfl, tally := ?_ }⟩
    simp only [Tally.keep_addResumed, h.tally]
  | resume at_i =>
    exact ⟨_, .resume (h.worker at_i rfl), { h with
      workers := h.set _ rfl
      progress := congrArg Progress.resume h.progress }⟩
  | answer at_i =>
    exact ⟨_, .answer (h.worker at_i rfl), { h with
      workers := h.set _ rfl
      replies := congrArg (· ++ _) h.replies }⟩
  | skip at_b =>
    exact ⟨_, .skip (h.batches ▸ at_b), h.setBatch _ _⟩
  | attach at_b some_input =>
    refine ⟨_, .attach (h.batches ▸ at_b) some_input, ?_⟩
    rw [h.isOpen]
    exact h.setBatch _ _
  | turnAway at_b => exact ⟨_, .turnAway (h.batches ▸ at_b), (h.reject _ _).setBatch _ _⟩
  | refuse at_b unserved =>
    exact ⟨_, .refuse (h.batches ▸ at_b) (h.isServed.trans unserved), (h.reject _ _).setBatch _ _⟩
  | send at_b served =>
    refine ⟨_, .send (h.batches ▸ at_b) (h.isServed.trans served), ?_⟩
    rw [h.nextTicket]
    exact (h.enqueue _).setBatch _ _
  | finish at_b there =>
    exact ⟨_, .finish (h.batches ▸ at_b) (h.reply? ▸ there), (h.note _).setBatch _ _⟩
  | shut at_c =>
    exact ⟨_, .shut (h.closings ▸ at_c), { h with
      isOpen := rfl
      closings := congrArg (List.set · _ _) h.closings }⟩
  | takeCharge at_c =>
    refine ⟨_, .takeCharge (h.closings ▸ at_c), { h with
      handles := rfl
      closings := ?_ }⟩
    rw [h.handles]
    exact congrArg (List.set · _ _) h.closings
  | join at_c gone =>
    exact ⟨_, .join (h.closings ▸ at_c) (by simpa only [h.isExited_getElem?] using gone),
      { h with closings := congrArg (List.set · _ _) h.closings }⟩

end Alike

/-! ## Whole runs -/

/-- **Alike pools take the same steps in the long run**, whatever tame hooks each of them has. -/
theorem alike_of_stepsUnder {calm : Bool} {ms ns : List (Hooks × Move)} (h : p.Alike calm q)
    (left : p.Under (Hooks.Tame calm)) (right : q.Under (Hooks.Tame calm))
    (tame : ∀ m ∈ ms, m.1.Tame calm) (tame' : ∀ n ∈ ns, n.1.Tame calm)
    (same : ms.map Prod.snd = ns.map Prod.snd) (went : p.stepsUnder ms = some r) :
    ∃ s, q.stepsUnder ns = some s ∧ r.Alike calm s := by
  induction ms generalizing p q ns with
  | nil =>
    obtain rfl := List.map_eq_nil_iff.mp same.symm
    cases went
    exact ⟨q, rfl, h⟩
  | cons m ms ih =>
    cases ns with
    | nil => cases same
    | cons n ns =>
      obtain ⟨move, same⟩ := List.cons.inj same
      rw [stepsUnder, List.foldlM_cons] at went
      obtain ⟨p', first, rest⟩ := Option.bind_eq_some_iff.mp went
      have its := tame m List.mem_cons_self
      have its' := tame' n List.mem_cons_self
      obtain ⟨q', second, alike⟩ :=
        (h.hooks m.1 n.1).step (left.hooks m.1) (right.hooks n.1) (.of_step first)
      obtain ⟨s, rest', alike⟩ := ih alike ((left.hooks m.1).step its (.of_step first))
        ((right.hooks n.1).step its' second) (fun m mem => tame m (List.mem_cons_of_mem _ mem))
        (fun n mem => tame' n (List.mem_cons_of_mem _ mem)) same rest
      have second : q.stepUnder n = some q' := by
        rw [stepUnder, ← move]
        exact second.step_eq
      refine ⟨s, ?_, alike⟩
      rw [stepsUnder, List.foldlM_cons]
      exact Option.bind_eq_some_iff.mpr ⟨q', second, rest'⟩

/-- Steps are steps under the pool's own hooks. -/
theorem steps_eq_stepsUnder (p : Pool) (moves : List Move) :
    p.steps moves = p.stepsUnder (moves.map (p.pipeline.hooks, ·)) := by
  induction moves generalizing p with
  | nil => rfl
  | cons m moves ih =>
    rw [steps, stepsUnder, List.map_cons, List.foldlM_cons, List.foldlM_cons]
    refine Option.bind_congr fun q first => ?_
    have kept := pipeline_of_step (.of_step first)
    rw [← kept]
    exact ih q

/-! ## Reports against silence -/

/-- What the registry may answer to the reports of a step. -/
abbrev Answers := FailureReport → Hooks.ReportReply

/-- A launch that reported its failure, against the same launch in silence. -/
def Tells (stages : List Stage) (answers : List Answers) (e f : Job × Run) : Prop :=
  e.1 = f.1 ∧ f.2 = (⟨stages, .noop⟩ : Pipeline).run f.2.start f.1.input ∧
    ∃ answer ∈ answers, e.2 = (⟨stages, .reporter answer⟩ : Pipeline).run f.2.start f.1.input

/-- **A pool that reported failures, against one that took the same steps in silence.**  The
registry gave these answers, which may be others at every step. -/
structure Reported (stages : List Stage) (answers : List Answers) (told quiet : Pool) : Prop where
  /-- The batches are the same, and so are their summaries. -/
  batches : told.batches = quiet.batches
  replies : told.replies = quiet.replies
  progress : told.progress = quiet.progress
  /-- Of the counts, only that of panics is another. -/
  counts : { told.tally with panics := 0 } = { quiet.tally with panics := 0 }
  /-- Not even that is, unless a call blew up. -/
  calm : (∀ answer ∈ answers, ∀ report payload, answer report ≠ .panicked payload) →
    told.tally = quiet.tally
  launches : List.Forall₂ (Tells stages answers) told.journal.runs quiet.journal.runs
  /-- Each launch is that of one input that was sent, and no input has two. -/
  sent : ∀ e ∈ told.journal.runs, ∃ x, told.inputAt x = some e.1.input ∧
    ∀ y, told.ticketAt y = some e.1.ticket ↔ y = x
  once : (told.journal.runs.map (·.1.ticket)).Nodup
  /-- Once a batch is back, its inputs were all sent or all turned away. -/
  turnedAway : ∀ b ∈ told.batches, b.isReturned →
    b.tickets.length = b.inputs.length ∨ b.tickets = []

/-- The reports are read off the ends in silence. -/
theorem reports_of_tells {stages : List Stage} {answers : List Answers} {es fs : List (Job × Run)}
    (launches : List.Forall₂ (Tells stages answers) es fs) :
    es.flatMap (·.2.reports) = fs.filterMap (·.2.ending.report?) := by
  induction launches with
  | nil => rfl
  | @cons e f es fs same rest ih =>
    obtain ⟨-, quiet, answer, -, told⟩ := same
    rw [List.flatMap_cons, List.filterMap_cons, ih, told, Pipeline.reports_reporter, ← quiet]
    cases f.2.ending.report? <;> rfl

theorem tells_of_alike {calm : Bool} {stages : List Stage} {answers : List Answers}
    {told quiet : Pool}
    (h : told.Alike calm quiet) (its : quiet.pipeline.stages = stages)
    (left : told.Under fun hooks => ∃ answer ∈ answers, hooks = .reporter answer)
    (right : quiet.Under fun hooks => hooks = .noop) :
    List.Forall₂ (Tells stages answers) told.journal.runs quiet.journal.runs := by
  have same : List.Forall₂ (fun e f => (e.1, e.2.start) = (f.1, f.2.start)) told.journal.runs
      quiet.journal.runs := by
    have eq := List.forall₂_eq_eq_eq ▸ h.runs.symm
    rwa [List.forall₂_map_left_iff, List.forall₂_map_right_iff] at eq
  rw [List.forall₂_iff_zip] at same ⊢
  refine ⟨same.1, fun {e f} mem => ?_⟩
  obtain ⟨jobs, starts⟩ := Prod.mk.inj (same.2 mem)
  obtain ⟨ran, ran'⟩ := List.of_mem_zip mem
  obtain ⟨_, ⟨answer, given, rfl⟩, eq⟩ := left.launched e ran
  obtain ⟨_, rfl, eq'⟩ := right.launched f ran'
  rw [h.stages] at its
  rw [h.stages, its] at eq'
  rw [its, jobs, starts] at eq
  exact ⟨jobs, eq', answer, given, eq⟩

/-- **Every launch is that of one input that was sent.** -/
theorem Sound.exists_place {p : Pool} (sound : p.Sound) {e : Job × Run} (ran : e ∈ p.journal.runs) :
    ∃ x, p.inputAt x = some e.1.input ∧ ∀ y, p.ticketAt y = some e.1.ticket ↔ y = x := by
  have started := sound.numbered.ticket_lt_of_started ran
  have issued : e.1.ticket < p.nextTicket := by
    rw [sound.numbered.next]
    omega
  obtain ⟨x, hx⟩ := (sound.placed.issued _).mpr issued
  refine ⟨x, sound.placed.carried e.1 (List.mem_append_right _ (List.mem_map_of_mem ran)) x hx,
    fun y => ⟨fun hy => sound.placed.unique y x _ hy hx, ?_⟩⟩
  rintro rfl
  exact hx

/-- Batches that are back were served, or had all their inputs turned away. -/
theorem Sound.tickets_of_returned {p : Pool} (sound : p.Sound) {b : Batch} (mem : b ∈ p.batches)
    (back : b.isReturned) : b.tickets.length = b.inputs.length ∨ b.tickets = [] := by
  cases sound.placed.fits b mem with
  | served all replies => exact .inl all
  | refused inputs => exact .inr rfl
  | _ => cases back

section Reporting

variable {parallelism start : Nat} {stages : List Stage} {progress : Progress} {tally : Tally}
  {log other : List Entry} {calm : Bool}

/-- New pools are alike, whatever their hooks. -/
theorem alike_new (A B : Hooks) :
    ((Pool.new parallelism ⟨stages, A⟩ start).withCounts progress tally log).Alike calm
      ((Pool.new parallelism ⟨stages, B⟩ start).withCounts progress tally other) where
  stages := rfl
  clock := rfl
  isOpen := rfl
  queue := rfl
  nextTicket := rfl
  workers := rfl
  handles := rfl
  batches := rfl
  closings := rfl
  replies := rfl
  progress := rfl
  tally := rfl
  runs := rfl

theorem under_new (pipeline : Pipeline) :
    ((Pool.new parallelism pipeline start).withCounts progress tally log).Under P where
  launched _ mem := absurd mem List.not_mem_nil
  working _ _ mem := nomatch List.eq_of_mem_replicate mem

/-- Moves that are taken while the registry gives these answers. -/
def reporting (moves : List (Answers × Move)) : List (Hooks × Move) :=
  moves.map fun m => (.reporter m.1, m.2)

variable {first : Answers} {moves : List (Answers × Move)}

theorem tame_reporting (safe : calm = true → ∀ answer ∈ moves.map Prod.fst,
    ∀ report payload, answer report ≠ .panicked payload) :
    ∀ m ∈ reporting moves, m.1.Tame calm := by
  intro m mem
  obtain ⟨n, taken, rfl⟩ := List.mem_map.mp mem
  exact Hooks.tame_reporter fun isCalm => safe isCalm n.1 (List.mem_map_of_mem taken)

theorem tame_silent (moves : List Move) :
    ∀ m ∈ moves.map ((Hooks.noop, ·) : Move → Hooks × Move), m.1.Tame calm := by
  intro m mem
  obtain ⟨n, -, rfl⟩ := List.mem_map.mp mem
  exact Hooks.tame_noop

theorem moves_reporting (moves : List (Answers × Move)) :
    (reporting moves).map Prod.snd
      = ((moves.map Prod.snd).map ((Hooks.noop, ·) : Move → Hooks × Move)).map Prod.snd := by
  simp [reporting]

/-- **Whoever reports could as well be silent.** -/
theorem exists_silent (calm : Bool) (other : List Entry)
    (safe : calm = true → ∀ answer ∈ moves.map Prod.fst,
      ∀ report payload, answer report ≠ .panicked payload)
    (went : ((Pool.new parallelism ⟨stages, .reporter first⟩ start).withCounts progress tally
      log).stepsUnder (reporting moves) = some p) :
    ∃ q, ((Pool.new parallelism ⟨stages, .noop⟩ start).withCounts progress tally other).steps
      (moves.map Prod.snd) = some q ∧ p.Alike calm q := by
  rw [steps_eq_stepsUnder]
  exact alike_of_stepsUnder (alike_new _ _) (under_new _) (under_new _) (tame_reporting safe)
    (tame_silent _) (moves_reporting moves) went

/-- **Whoever is silent could as well report.** -/
theorem exists_reporting
    (went : ((Pool.new parallelism ⟨stages, .noop⟩ start).withCounts progress tally other).steps
      (moves.map Prod.snd) = some q) :
    ∃ p, ((Pool.new parallelism ⟨stages, .reporter first⟩ start).withCounts progress tally
      log).stepsUnder (reporting moves) = some p := by
  rw [steps_eq_stepsUnder] at went
  have tame : ∀ m ∈ reporting moves, m.1.Tame false := tame_reporting nofun
  obtain ⟨p, went, -⟩ := alike_of_stepsUnder (alike_new _ _) (under_new _) (under_new _)
    (tame_silent _) tame (moves_reporting moves).symm went
  exact ⟨p, went⟩

/-- **Reports change nothing else**, at every point of a run. -/
theorem reported_of_steps
    (left : ((Pool.new parallelism ⟨stages, .reporter first⟩ start).withCounts progress tally
      log).stepsUnder (reporting moves) = some p)
    (right : ((Pool.new parallelism ⟨stages, .noop⟩ start).withCounts progress tally other).steps
      (moves.map Prod.snd) = some q) :
    Reported stages (moves.map Prod.fst) p q := by
  have alike : ∀ calm, (calm = true → ∀ answer ∈ moves.map Prod.fst,
      ∀ report payload, answer report ≠ .panicked payload) → p.Alike calm q := by
    intro calm safe
    obtain ⟨s, right', alike⟩ := exists_silent calm other safe left
    obtain rfl := Option.some.inj (right.symm.trans right')
    exact alike
  have loud := alike false nofun
  have reached : Reaches ((Pool.new parallelism ⟨stages, .noop⟩ start).withCounts progress tally
    other) q := ⟨_, right⟩
  have sound : q.Sound := ((sound_new _ _ _).withCounts _ _ _).reaches reached
  have told : p.Under fun hooks => ∃ answer ∈ moves.map Prod.fst, hooks = .reporter answer := by
    refine (under_new _).stepsUnder (fun m mem => ?_) left
    obtain ⟨n, taken, rfl⟩ := List.mem_map.mp mem
    exact ⟨n.1, List.mem_map_of_mem taken, rfl⟩
  have quiet : q.Under fun hooks => hooks = .noop := by
    rw [steps_eq_stepsUnder] at right
    refine (under_new _).stepsUnder (fun m mem => ?_) right
    obtain ⟨n, -, rfl⟩ := List.mem_map.mp mem
    rfl
  have launches := tells_of_alike loud (congrArg Pipeline.stages reached.pipeline_eq) told quiet
  have jobs : p.journal.runs.map Prod.fst = q.journal.runs.map Prod.fst := by
    have eq := congrArg (List.map Prod.fst) loud.runs
    simpa [List.map_map, Function.comp_def] using eq.symm
  refine ⟨loud.batches.symm, loud.replies.symm, loud.progress.symm, loud.tally.symm,
    fun safe => (alike true fun _ => safe).tally.symm, launches, ?_, ?_, ?_⟩
  · intro e ran
    have mem : e.1 ∈ q.journal.runs.map Prod.fst := jobs ▸ List.mem_map_of_mem ran
    obtain ⟨f, ran', same⟩ := List.mem_map.mp mem
    have place := sound.exists_place ran'
    simp only [inputAt, ticketAt, loud.batches, same] at place ⊢
    exact place
  · have tickets := congrArg (List.map Job.ticket) jobs
    rw [List.map_map, List.map_map] at tickets
    have nodup : (q.journal.runs.map (·.1.ticket)).Nodup :=
      sound.numbered.started ▸ List.nodup_range
    exact tickets ▸ nodup
  · intro b mem back
    exact sound.tickets_of_returned (loud.batches ▸ mem) back

end Reporting

/-- **Failure reports are exact, and change nothing else.**

* A launch makes one report if, in silence, it comes through its stages with a failure, and none if
  it succeeds or is unwound; the report names the input, the source, and the messages of the cause's
  chain.  The launch ends as in silence, whatever the registry answers, unless the call blows up;
  then it is unwound.
* A pool that reports takes the same steps as one in silence, with the same launches, batches,
  summaries, answers, progress and counts; only the count of panics is another, and only if a call
  blew up.  An input that is turned away has no launch, and so no report.
* Where every input was launched and every batch is back, the reports are those of the inputs one by
  one, whatever the order of the steps. -/
theorem reports_exact (stages : List Stage) :
    let silent : Pipeline := ⟨stages, .noop⟩
    (∀ (answer : Answers) (time : Nat) (input : LaunchInput),
      let quiet := silent.run time input
      let told := (⟨stages, .reporter answer⟩ : Pipeline).run time input
      (∀ c e, quiet.ending = .finished c → c.failure? = some e →
        told.reports = [⟨input.id, "workload-launcher", ": ".intercalate e.cause.chain⟩]) ∧
      (∀ c, quiet.ending = .finished c → c.failure? = none → told.reports = []) ∧
      (∀ payload, quiet.ending = .unwound payload → told.reports = []) ∧
      (∀ report payload, quiet.ending.report? = some report → answer report = .panicked payload →
        told.ending = .unwound payload) ∧
      ((∀ report, quiet.ending.report? = some report →
        ∀ payload, answer report ≠ .panicked payload) → told.ending = quiet.ending)) ∧
    ∀ (parallelism start : Nat) (first : Answers) (progress : Progress) (tally : Tally)
      (log other : List Entry) (moves : List (Answers × Move)),
      let told := ((Pool.new parallelism ⟨stages, .reporter first⟩ start).withCounts progress tally
        log).stepsUnder (reporting moves)
      let quiet := ((Pool.new parallelism silent start).withCounts progress tally other).steps
        (moves.map Prod.snd)
      told.isSome = quiet.isSome ∧
      ∀ p q, told = some p → quiet = some q → Reported stages (moves.map Prod.fst) p q ∧
        ((∀ b ∈ p.batches, b.isServed) → q.OneByOne silent progress tally ∧
          (p.journal.runs.flatMap (·.2.reports)).Perm
            (p.inputs.filterMap fun input => (silent.run 0 input).ending.report?)) := by
  intro silent
  refine ⟨?_, ?_⟩
  · intro answer time input quiet told
    have reports : told.reports = quiet.ending.report?.toList :=
      Pipeline.reports_reporter stages answer time input
    have ending : told.ending = quiet.ending.answered answer :=
      Pipeline.ending_reporter stages answer time input
    refine ⟨?_, ?_, ?_, ?_, ?_⟩
    · intro c e finished failed
      rw [reports, Pipeline.report?_of_failure finished failed]
      rfl
    · intro c finished succeeded
      rw [reports, finished, RunEnding.report?, succeeded]
      rfl
    · intro payload unwound
      rw [reports, unwound]
      rfl
    · intro report payload its panicked
      rw [ending, RunEnding.answered, its, Option.map_some, panicked]
    · intro safe
      rw [ending, RunEnding.answered_of_safe safe]
  · intro parallelism start first progress tally log other moves told quiet
    refine ⟨?_, fun p q left right => ⟨reported_of_steps left right, fun served => ?_⟩⟩
    · rw [Bool.eq_iff_iff, Option.isSome_iff_exists, Option.isSome_iff_exists]
      constructor
      · rintro ⟨p, went⟩
        obtain ⟨q, went, -⟩ := exists_silent false other (absurd · Bool.false_ne_true) went
        exact ⟨q, went⟩
      · rintro ⟨q, went⟩
        exact exists_reporting went
    · have reported := reported_of_steps left right
      have one : q.OneByOne silent progress tally :=
        oneByOne_of_served right (reported.batches ▸ served)
      refine ⟨one, ?_⟩
      rw [reports_of_tells reported.launches]
      have endings := one.endings.filterMap fun x => x.2.report?
      simpa only [List.filterMap_map, Pool.inputs, reported.batches, Function.comp_def]
        using endings

/-- A launch that fails with a cause of two messages, and a registry whose calls blow up. -/
theorem reports_exact_of_panic :
    let stages : List Stage :=
      [⟨"load", fun _ => .script [] (.error (.context "no claim" (.text "timed out")))⟩]
    let input : LaunchInput := ⟨"w-1", .sync, "", [], "", none⟩
    let answer : Answers := fun _ => .panicked .wordless
    let moves : List Move := [.call [input], .batch 0, .batch 0, .worker 0, .worker 0, .worker 0,
      .worker 0, .worker 0, .worker 0, .batch 0]
    ∃ p q, ((Pool.new 1 ⟨stages, .reporter answer⟩ 0).withCounts {} {} []).stepsUnder
        (reporting (moves.map (answer, ·))) = some p ∧
      ((Pool.new 1 ⟨stages, .noop⟩ 0).withCounts {} {} []).steps moves = some q ∧
      (p.journal.runs.flatMap (·.2.reports)).Perm
        [⟨"w-1", "workload-launcher", "no claim: timed out"⟩] ∧
      p.batches = q.batches ∧ p.progress = q.progress ∧
      p.tally = { q.tally with panics := 1 } := by
  intro stages input answer moves
  obtain ⟨p, left, served, inputs, panics⟩ : ∃ p : Pool,
      ((Pool.new 1 ⟨stages, .reporter answer⟩ 0).withCounts {} {} []).stepsUnder
        (reporting (moves.map (answer, ·))) = some p ∧
      (∀ b ∈ p.batches, b.isServed) ∧ p.inputs = [input] ∧ p.tally.panics = 1 :=
    ⟨_, rfl, by decide, rfl, rfl⟩
  obtain ⟨q, right⟩ : ∃ q : Pool,
      ((Pool.new 1 ⟨stages, .noop⟩ 0).withCounts {} {} []).steps moves = some q := ⟨_, rfl⟩
  obtain ⟨-, whole⟩ := reports_exact stages
  obtain ⟨-, both⟩ := whole 1 0 answer {} {} [] [] (moves.map (answer, ·))
  obtain ⟨reported, once⟩ := both p q left right
  obtain ⟨-, reports⟩ := once served
  rw [inputs] at reports
  refine ⟨p, q, left, right, reports, reported.batches, reported.progress, ?_⟩
  have counts := congrArg (fun t => { t with panics := 1 : Tally }) reported.counts
  rw [← panics] at counts
  exact counts.trans (by rw [panics])

end Pool

end Relaunch
