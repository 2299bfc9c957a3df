import Mathlib.Algebra.BigOperators.Group.List.Basic
import Mathlib.Algebra.Ring.Int.Defs
import Mathlib.Data.List.Count
import Relaunch.Proofs.Pool.Isolation
import Relaunch.Proofs.Pool.Report

/-!
# Proofs/Pool/Ledger — what a pool counts is what its parts weigh

Each count of a pool is kept in different places: a worker counts the outcome of its launch and then
the kind of its claim, and a batch counts both for an input that is turned away.  A `Weight` says
how much of a count stands with each batch, worker, job and answer.  If it balances with the count
at every step, the two stay equal; and where all batches have returned, the weight is what the
summaries and the inputs of the batches say.

Nothing of it depends on what the registry answers to failure reports.

* `Step.weigh_eq` — a step counts as much as the parts get heavier.
* `Ledger.step` — every step keeps the books of a pool, under any hooks that report failures.
* `Ledger.balanced` — the books where all batches have returned.
-/

namespace Relaunch

/-- The count of an outcome. -/
def Tally.ended (t : Tally) : Outcome → Nat
  | .succeeded => t.successes
  | .failed => t.failures

theorem Tally.ended_addResumed (t : Tally) (k : Kind) (o : Outcome) :
    (t.addResumed k).ended o = t.ended o := by
  cases k <;> cases o <;> rfl

/-- A verdict is counted as its outcome. -/
theorem Tally.ended_count (t : Tally) (v : Verdict) (o : Outcome) :
    (v.count t).ended o = t.ended o + if v.outcome = o then 1 else 0 := by
  cases v <;> cases o <;> rfl

def Summary.ended (s : Summary) : Outcome → Nat
  | .succeeded => s.succeeded
  | .failed => s.failed

/-- The inputs that a batch has yet to send or to have turned away. -/
def Batch.rest : Batch → List LaunchInput
  | called inputs => inputs
  | sending _ _ rest _ _ => rest
  | returned .. => []

/-- **How much of a count stands with each part of a pool.** -/
structure Weight where
  batch : Batch → Int
  worker : Worker → Int
  job : Job → Int
  reply : Outcome → Int

namespace Weight

/-- **Claims of a kind**: those of a batch, less those that it has yet to send, or that wait, or
that a worker has yet to count. -/
def ofKind (k : Kind) : Weight where
  batch b := (b.inputs.countP (·.kind = k) : Int) - b.rest.countP (·.kind = k)
  worker
    | .running job _ | .judged job _ => if job.input.kind = k then -1 else 0
    | .idle | .polling | .counted .. | .resumed .. | .exited => 0
  job j := if j.input.kind = k then -1 else 0
  reply _ := 0

/-- **Outcomes**: those that a worker has counted, those answered, and the failures of the inputs
that were turned away. -/
def ofOutcome (o : Outcome) : Weight where
  batch b := if .failed = o then b.gone else 0
  worker
    | .judged _ outcome | .counted _ outcome | .resumed _ outcome => if outcome = o then 1 else 0
    | .idle | .polling | .running .. | .exited => 0
  job _ := 0
  reply outcome := if outcome = o then 1 else 0

/-- **A weight that balances with a count** at every step. -/
structure Balances (W : Weight) (count : Tally → Nat) : Prop where
  free (w : Worker) : w.job? = none → W.worker w = 0
  called (inputs : List LaunchInput) : W.batch (.called inputs) = 0
  attached (isOpen : Bool) (inputs : List LaunchInput) :
    W.batch (.sending isOpen inputs inputs [] 0) = 0
  turnedAway (t : Tally) (attached : Bool) (inputs : List LaunchInput) (input : LaunchInput)
      (rest : List LaunchInput) (tickets : List Nat) (rejected : Nat) :
    (count (t.addFailure.addResumed input.kind) : Int) + W.batch
        (.sending attached inputs (input :: rest) tickets rejected)
      = count t + W.batch (.sending attached inputs rest tickets (rejected + 1))
  sent (inputs : List LaunchInput) (job : Job) (rest : List LaunchInput) (tickets : List Nat)
      (rejected : Nat) :
    W.batch (.sending true inputs (job.input :: rest) tickets rejected)
      = W.batch (.sending true inputs rest (tickets ++ [job.ticket]) rejected) + W.job job
  finished (attached : Bool) (inputs : List LaunchInput) (tickets : List Nat)
      (summary : Summary) :
    W.batch (.sending attached inputs [] tickets (inputs.length - tickets.length))
      = W.batch (.returned inputs tickets summary)
  taken (job : Job) (run : Run) : W.worker (.running job run) = W.job job
  judged (t : Tally) (job : Job) (run : Run) (v : Verdict) :
    (count (v.count t) : Int) + W.worker (.running job run)
      = count t + W.worker (.judged job v.outcome)
  counted (t : Tally) (job : Job) (outcome : Outcome) :
    (count (t.addResumed job.input.kind) : Int) + W.worker (.judged job outcome)
      = count t + W.worker (.counted job outcome)
  resumed (job : Job) (outcome : Outcome) :
    W.worker (.counted job outcome) = W.worker (.resumed job outcome)
  answered (job : Job) (outcome : Outcome) : W.worker (.resumed job outcome) = W.reply outcome

theorem balances_ofKind (k : Kind) : (ofKind k).Balances (·.resumed k) where
  free w free := by cases w <;> first | rfl | cases free
  called _ := Int.sub_self _
  attached _ _ := Int.sub_self _
  turnedAway t _ inputs input rest _ _ := by
    have same : t.addFailure.resumed k = t.resumed k := by cases k <;> rfl
    simp only [ofKind, Batch.rest, Batch.inputs, Tally.resumed_addResumed, same, List.countP_cons,
      decide_eq_true_eq]
    split <;> omega
  sent inputs job rest _ _ := by
    simp only [ofKind, Batch.rest, Batch.inputs, List.countP_cons, decide_eq_true_eq]
    split <;> omega
  finished _ _ _ _ := rfl
  taken _ _ := rfl
  judged t job run v := by
    have same : (v.count t).resumed k = t.resumed k := by cases v <;> cases k <;> rfl
    rw [same]
    rfl
  counted t job _ := by
    simp only [ofKind, Tally.resumed_addResumed]
    split <;> omega
  resumed _ _ := rfl
  answered _ _ := rfl

theorem balances_ofOutcome (o : Outcome) : (ofOutcome o).Balances (·.ended o) where
  free w free := by cases w <;> first | rfl | cases free
  called _ := by simp [ofOutcome, Batch.gone]
  attached _ _ := by simp [ofOutcome, Batch.gone]
  turnedAway t _ _ input _ _ rejected := by
    have failure : t.addFailure.ended o = t.ended o + if .failed = o then 1 else 0 :=
      t.ended_count .failure o
    simp only [ofOutcome, Batch.gone, Tally.ended_addResumed, failure]
    split <;> omega
  sent _ _ _ _ _ := (Int.add_zero _).symm
  finished _ _ _ _ := rfl
  taken _ _ := rfl
  judged t _ _ v := by
    simp only [ofOutcome, Tally.ended_count]
    split <;> omega
  counted t job _ := by
    rw [Tally.ended_addResumed]
    rfl
  resumed _ _ := rfl
  answered _ _ := rfl

end Weight

namespace Pool

/-- **What all parts of a pool weigh.** -/
def weigh (W : Weight) (p : Pool) : Int :=
  (p.batches.map W.batch).sum + (p.workers.map W.worker).sum + (p.queue.map W.job).sum
    + (p.replies.map (W.reply ·.2)).sum

theorem sum_map_set (f : α → Int) {l : List α} {i : Nat} {a : α} (at_i : l[i]? = some a) (b : α) :
    ((l.set i b).map f).sum + f a = (l.map f).sum + f b := by
  induction l generalizing i with
  | nil => cases at_i
  | cons c l ih =>
    cases i with
    | zero =>
      cases at_i
      simp only [List.set_cons_zero, List.map_cons, List.sum_cons]
      omega
    | succ i =>
      have := ih at_i
      simp only [List.set_cons_succ, List.map_cons, List.sum_cons]
      omega

section Balances

variable {W : Weight} {count : Tally → Nat} {p q : Pool} {m : Move}

/-- A worker that goes on counts as much as it gets heavier. -/
theorem weigh_of_worker {i : Nat} {w v : Worker} (at_i : p.workers[i]? = some w)
    (workers : q.workers = p.workers.set i v) (batches : q.batches = p.batches)
    (queue : q.queue = p.queue) (replies : q.replies = p.replies)
    (counted : (count q.tally : Int) + W.worker w = count p.tally + W.worker v) :
    (count q.tally : Int) + p.weigh W = count p.tally + q.weigh W := by
  have moved := sum_map_set W.worker at_i v
  rw [weigh, weigh, workers, batches, queue, replies]
  omega

/-- So does a batch. -/
theorem weigh_of_batch {b : Nat} {old new : Batch} (at_b : p.batches[b]? = some old)
    (batches : q.batches = p.batches.set b new) (workers : q.workers = p.workers)
    (queue : q.queue = p.queue) (replies : q.replies = p.replies)
    (counted : (count q.tally : Int) + W.batch old = count p.tally + W.batch new) :
    (count q.tally : Int) + p.weigh W = count p.tally + q.weigh W := by
  have moved := sum_map_set W.batch at_b new
  rw [weigh, weigh, workers, batches, queue, replies]
  omega

/-- **A step counts as much as the parts get heavier.** -/
theorem Step.weigh_eq (h : W.Balances count) (placed : p.Placed) (s : p.Step m q) :
    (count q.tally : Int) + p.weigh W = count p.tally + q.weigh W := by
  cases s with
  | call inputs =>
    simp only [weigh, List.map_append, List.map_cons, List.map_nil, List.sum_append, List.sum_cons,
      List.sum_nil, h.called, Int.add_zero]
  | seat at_i free =>
    refine weigh_of_worker at_i rfl rfl rfl rfl ?_
    rw [h.free _ rfl, h.free _ rfl]
    rfl
  | @take i job queue at_i first =>
    have moved := sum_map_set W.worker at_i (.running job (p.pipeline.run p.clock job.input))
    rw [h.free _ rfl, h.taken] at moved
    simp only [weigh, setWorker, first, List.map_cons, List.sum_cons]
    omega
  | leave at_i empty alone =>
    refine weigh_of_worker at_i rfl rfl rfl rfl ?_
    rw [h.free _ rfl, h.free _ rfl]
    rfl
  | judge at_i ended => exact weigh_of_worker at_i rfl rfl rfl rfl (h.judged _ _ _ _)
  | count at_i => exact weigh_of_worker at_i rfl rfl rfl rfl (h.counted _ _ _)
  | resume at_i =>
    refine weigh_of_worker at_i rfl rfl rfl rfl ?_
    rw [h.resumed]
    rfl
  | @answer i job outcome at_i =>
    have moved := sum_map_set W.worker at_i .idle
    rw [h.free .idle rfl, h.answered] at moved
    simp only [weigh, setWorker, List.map_append, List.map_cons, List.map_nil, List.sum_append,
      List.sum_cons, List.sum_nil]
    omega
  | skip at_b =>
    refine weigh_of_batch at_b rfl rfl rfl rfl ?_
    rw [h.called, ← h.finished true, ← h.attached true []]
    rfl
  | attach at_b some_input =>
    refine weigh_of_batch at_b rfl rfl rfl rfl ?_
    rw [h.called, h.attached]
    rfl
  | turnAway at_b => exact weigh_of_batch at_b rfl rfl rfl rfl (h.turnedAway _ _ _ _ _ _ _)
  | refuse at_b unserved =>
    exact weigh_of_batch at_b rfl rfl rfl rfl (h.turnedAway _ _ _ _ _ _ _)
  | @send b inputs input rest tickets rejected at_b served =>
    have moved := sum_map_set W.batch at_b
      (.sending true inputs rest (tickets ++ [p.nextTicket]) rejected)
    have sent := h.sent inputs ⟨p.nextTicket, p.clock, input⟩ rest tickets rejected
    simp only [weigh, setBatch, enqueue, List.map_append, List.map_cons, List.map_nil,
      List.sum_append, List.sum_cons, List.sum_nil]
    simp only at sent
    omega
  | finish at_b there =>
    refine weigh_of_batch at_b rfl rfl rfl rfl ?_
    rw [← gone_of_finish (placed.fits _ (List.mem_of_getElem? at_b)), h.finished]
    rfl
  | _ => rfl

end Balances

end Pool

/-! ## The books -/

namespace Pool

/-- The failure reports of the launches that started. -/
def reports (p : Pool) : List FailureReport := p.journal.runs.flatMap (·.2.reports)

/-- The summaries of the batches that have returned. -/
def summaries (p : Pool) : List Summary := p.batches.filterMap Batch.summary?

/-- The reports of a launch that is yet to be counted. -/
def unjudged : Worker → Nat
  | .running _ run => run.reports.length
  | .idle | .polling | .judged .. | .counted .. | .resumed .. | .exited => 0

/-- **A pool whose books are kept**: its tickets are in order, and its counts are what its parts
weigh.  Panics are failures, and so are launches that make reports, once they are counted. -/
structure Ledger (p : Pool) : Prop where
  staffed : p.Staffed
  numbered : p.Numbered
  placed : p.Placed
  under : p.Under Hooks.Reports
  resumed (k : Kind) : (p.tally.resumed k : Int) = p.weigh (.ofKind k)
  ended (o : Outcome) : (p.tally.ended o : Int) = p.weigh (.ofOutcome o)
  panics_le : p.tally.panics ≤ p.tally.failures
  reports_le : p.reports.length ≤ p.tally.failures + total unjudged p.workers

variable {p q : Pool} {m : Move}

theorem weigh_new {W : Weight} {count : Tally → Nat} (h : W.Balances count) (parallelism : Nat)
    (pipeline : Pipeline) (start : Nat) : (Pool.new parallelism pipeline start).weigh W = 0 := by
  have idle : W.worker .idle = 0 := h.free _ rfl
  simp [weigh, new, idle]

theorem ledger_new (parallelism : Nat) (pipeline : Pipeline) (start : Nat) :
    (Pool.new parallelism pipeline start).Ledger where
  staffed := staffed_new parallelism pipeline start
  numbered := numbered_new parallelism pipeline start
  placed := placed_new parallelism pipeline start
  under :=
    { launched := fun _ mem => absurd mem List.not_mem_nil
      working := fun _ _ mem => nomatch List.eq_of_mem_replicate mem }
  resumed k := by
    rw [weigh_new (Weight.balances_ofKind k)]
    cases k <;> rfl
  ended o := by
    rw [weigh_new (Weight.balances_ofOutcome o)]
    cases o <;> rfl
  panics_le := Nat.le_refl _
  reports_le := Nat.zero_le _

/-- What holds of counts and is kept by every deed. -/
theorem tally_induction {P : Tally → Prop} {t : Tally} (init : P t)
    (goesOn : ∀ (d : Deed) (t : Tally), P t → P (d.onTally t)) (h : History) : P (h.tally t) := by
  induction h generalizing t with
  | nil => exact init
  | cons e h ih => exact ih (t := e.2.onTally t) (goesOn e.2 t init)

/-- Panics are failures. -/
theorem panics_le_onTally (d : Deed) (t : Tally) (le : t.panics ≤ t.failures) :
    (d.onTally t).panics ≤ (d.onTally t).failures := by
  cases d with
  | judged v =>
    cases v with
    | success => exact le
    | failure => exact Nat.le_succ_of_le le
    | panic => exact Nat.succ_le_succ le
  | counted k => cases k <;> exact le
  | _ => exact le

/-- The pool counts neither cycles nor retries. -/
theorem Step.others_eq (s : p.Step m q) :
    q.tally.cycles = p.tally.cycles ∧ q.tally.retries = p.tally.retries := by
  rw [s.books.tally]
  refine tally_induction (P := fun t => t.cycles = p.tally.cycles ∧ t.retries = p.tally.retries)
    ⟨rfl, rfl⟩ (fun d t same => ?_) _
  cases d with
  | judged v => cases v <;> exact same
  | counted k => cases k <;> exact same
  | _ => exact same

/-- A worker that goes on, and whose launch counts as a failure if it made a report. -/
theorem reports_le_of_worker {i : Nat} {w v : Worker}
    (le : p.reports.length ≤ p.tally.failures + total unjudged p.workers)
    (at_i : p.workers[i]? = some w) (workers : q.workers = p.workers.set i v)
    (runs : q.journal.runs = p.journal.runs)
    (counted : p.tally.failures + unjudged w ≤ q.tally.failures + unjudged v) :
    q.reports.length ≤ q.tally.failures + total unjudged q.workers := by
  have moved := total_set unjudged at_i v
  rw [reports] at le
  rw [reports, runs, workers]
  omega

/-- An input that is turned away counts as a failure, and makes no report. -/
theorem reports_le_of_reject {input : LaunchInput} {why : Rejection}
    (le : p.reports.length ≤ p.tally.failures + total unjudged p.workers) :
    (p.reject input why).reports.length
      ≤ (p.reject input why).tally.failures + total unjudged (p.reject input why).workers := by
  have counted := p.tally.addFailure.ended_addResumed input.kind .failed
  simp only [Tally.ended, Tally.addFailure] at counted
  simp only [reject, note, Tally.addFailure, counted]
  exact Nat.le_trans le (by omega)

/-- **Reports are those of launches that are counted as failures**, or will be. -/
theorem Under.reports_le (h : p.Under Hooks.Reports) (s : p.Step m q)
    (le : p.reports.length ≤ p.tally.failures + total unjudged p.workers) :
    q.reports.length ≤ q.tally.failures + total unjudged q.workers := by
  cases s with
  | seat at_i free => exact reports_le_of_worker le at_i rfl rfl (Nat.le_refl _)
  | @take i job queue at_i first =>
    have moved := total_set unjudged at_i (.running job (p.pipeline.run p.clock job.input))
    have more : (p.journal.runs ++ [(job, p.pipeline.run p.clock job.input)]).flatMap
        (·.2.reports) = p.reports ++ (p.pipeline.run p.clock job.input).reports := by
      rw [List.flatMap_append, List.flatMap_singleton]
      rfl
    simp only [reports] at more le ⊢
    simp only [more, List.length_append, setWorker, unjudged] at moved ⊢
    omega
  | leave at_i empty alone => exact reports_le_of_worker le at_i rfl rfl (Nat.le_refl _)
  | @judge i job run at_i ended =>
    refine reports_le_of_worker le at_i rfl rfl ?_
    obtain ⟨hooks, reports, own⟩ := h.launched _ (h.working _ _ (List.mem_of_getElem? at_i))
    have one := Pipeline.length_reports_le (p := ⟨p.pipeline.stages, hooks⟩) reports run.start
      job.input
    have counted := p.tally.ended_count run.ending.verdict .failed
    simp only [Tally.ended, ← own] at one counted
    simp only [unjudged, counted]
    omega
  | count at_i =>
    refine reports_le_of_worker le at_i rfl rfl (Nat.le_of_eq ?_)
    exact congrArg (· + 0) (p.tally.ended_addResumed _ .failed).symm
  | resume at_i => exact reports_le_of_worker le at_i rfl rfl (Nat.le_refl _)
  | answer at_i => exact reports_le_of_worker le at_i rfl rfl (Nat.le_refl _)
  | turnAway at_b => exact reports_le_of_reject le
  | refuse at_b unserved => exact reports_le_of_reject le
  | _ => exact le

/-- **Every step keeps the books**, under any hooks that report failures. -/
theorem Ledger.step (h : p.Ledger) (its : p.pipeline.hooks.Reports) (s : p.Step m q) :
    q.Ledger where
  staffed := h.staffed.step s
  numbered := h.numbered.step s
  placed := h.placed.step h.staffed h.numbered s
  under := h.under.step its s
  resumed k := by
    have moved := s.weigh_eq (Weight.balances_ofKind k) h.placed
    have before := h.resumed k
    omega
  ended o := by
    have moved := s.weigh_eq (Weight.balances_ofOutcome o) h.placed
    have before := h.ended o
    omega
  panics_le := by
    rw [s.books.tally]
    exact tally_induction (P := fun t => t.panics ≤ t.failures) h.panics_le panics_le_onTally _
  reports_le := h.under.reports_le s h.reports_le

/-- The hooks may change between steps. -/
theorem Ledger.hooks (h : p.Ledger) (hooks : Hooks) :
    Ledger { p with pipeline.hooks := hooks } where
  staffed := { h.staffed with }
  numbered := { h.numbered with }
  placed := { h.placed with fits := fun b mem => (h.placed.fits b mem).congr rfl rfl }
  under := h.under.hooks hooks
  resumed := h.resumed
  ended := h.ended
  panics_le := h.panics_le
  reports_le := h.reports_le

/-- So may the progress, the log, and the counts of others. -/
theorem Ledger.share (h : p.Ledger) (progress : Progress) (retries cycles : Nat)
    (log : List Entry) :
    (p.withCounts progress { p.tally with retries := retries, cycles := cycles } log).Ledger where
  staffed := { h.staffed with }
  numbered := { h.numbered with }
  placed := { h.placed with fits := fun b mem => (h.placed.fits b mem).congr rfl rfl }
  under := ⟨h.under.launched, h.under.working⟩
  resumed k := (congrArg Nat.cast (by cases k <;> rfl)).trans (h.resumed k)
  ended o := (congrArg Nat.cast (by cases o <;> rfl)).trans (h.ended o)
  panics_le := h.panics_le
  reports_le := h.reports_le

/-! ## Where all batches have returned -/

/-- **A pool whose books are closed**: every input of every batch is counted, as the summaries
say. -/
structure Balanced (p : Pool) : Prop where
  resumed (k : Kind) : p.tally.resumed k = p.inputs.countP (·.kind = k)
  submitted : (p.summaries.map Summary.submitted).sum = p.inputs.length
  ended (o : Outcome) : p.tally.ended o = (p.summaries.map (·.ended o)).sum
  whole : p.tally.successes + p.tally.failures = p.inputs.length
  panics_le : p.tally.panics ≤ p.tally.failures
  reports_le : p.reports.length ≤ p.tally.failures

theorem sum_map_eq {f : α → Int} {g : α → Nat} {l : List α} (each : ∀ a ∈ l, f a = g a) :
    (l.map f).sum = ((l.map g).sum : Nat) := by
  induction l with
  | nil => rfl
  | cons a l ih =>
    rw [List.map_cons, List.map_cons, List.sum_cons, List.sum_cons, Int.natCast_add,
      each a List.mem_cons_self, ih fun b mem => each b (List.mem_cons_of_mem _ mem)]

theorem sum_outcomes (o : Outcome) (l : List Outcome) :
    (l.map (Weight.ofOutcome o).reply).sum = l.count o := by
  induction l with
  | nil => rfl
  | cons a l ih =>
    rw [List.map_cons, List.sum_cons, ih, List.count_cons]
    simp only [Weight.ofOutcome, beq_iff_eq]
    split <;> omega

/-- **What became of the inputs of a batch** is what its summary says: those turned away failed, and
the others are answered. -/
theorem ended_of_fits {inputs : List LaunchInput} {tickets : List Nat} {summary : Summary}
    (fits : (Batch.returned inputs tickets summary).Fits p) (o : Outcome) :
    (if .failed = o then inputs.length - tickets.length else 0)
      + (tickets.map fun t => p.replies.lookup t).count (some o) = summary.ended o := by
  cases fits with
  | @served _ _ outcomes all replies =>
    rw [replies, List.count_map_of_injective _ _ (Option.some_injective _), all, Nat.sub_self,
      ite_self, Nat.zero_add]
    cases o <;> rfl
  | refused => cases o <;> rfl

section Returned

variable (h : p.Ledger) (back : ∀ b ∈ p.batches, b.isReturned)

include h back

/-- Only batches and answers weigh anything. -/
theorem Ledger.weigh_of_returned {W : Weight} {count : Tally → Nat} (balances : W.Balances count) :
    p.weigh W = (p.batches.map W.batch).sum + (p.replies.map (W.reply ·.2)).sum := by
  have free : p.workers.map W.worker = p.workers.map fun _ => 0 :=
    List.map_congr_left fun w mem =>
      balances.free w (h.numbered.job?_of_returned back h.placed mem)
  rw [weigh, free, h.numbered.queue_of_returned back h.placed]
  simp

/-- **The answers are those to the batches**, one by one. -/
theorem Ledger.answers_perm : (p.replies.map fun r => some r.2).Perm
    (p.batches.flatMap fun b => b.tickets.map fun t => p.replies.lookup t) := by
  have own : p.replies.map (fun r => some r.2)
      = (p.replies.map Prod.fst).map fun t => p.replies.lookup t := by
    rw [List.map_map]
    exact List.map_congr_left fun r mem => (h.numbered.lookup_of_replied mem).symm
  rw [own, ← List.map_flatMap]
  exact ((h.numbered.replies_perm back h.placed).trans h.placed.tickets_perm.symm).map _

omit h in
/-- Every batch has its summary. -/
theorem summaries_of_returned : p.summaries = p.batches.map fun b => b.summary?.getD {} := by
  have each : ∀ b ∈ p.batches, b.summary? = some (b.summary?.getD {}) := by
    intro b mem
    have returned := back b mem
    cases b with
    | returned => rfl
    | _ => cases returned
  rw [summaries, List.filterMap_congr each, List.filterMap_eq_map']

/-- The answers with an outcome, batch by batch. -/
theorem Ledger.sum_replies (o : Outcome) :
    (p.replies.map fun r => (Weight.ofOutcome o).reply r.2).sum
      = ((p.batches.map fun b => (b.tickets.map fun t => p.replies.lookup t).count (some o)).sum
        : Nat) := by
  have counts := (h.answers_perm back).count_eq (some o)
  have own : p.replies.map (fun r => some r.2) = (p.replies.map Prod.snd).map some := by
    rw [List.map_map]
    rfl
  rw [own, List.count_map_of_injective _ _ (Option.some_injective _), List.count_flatMap] at counts
  have outcomes := sum_outcomes o (p.replies.map Prod.snd)
  rw [List.map_map, counts] at outcomes
  exact outcomes

/-- **An outcome is counted as often as the summaries say.** -/
theorem Ledger.sum_ended (o : Outcome) :
    p.tally.ended o = (p.summaries.map (·.ended o)).sum := by
  have turnedAway : (p.batches.map (Weight.ofOutcome o).batch).sum
      = ((p.batches.map fun b => if .failed = o then b.gone else 0).sum : Nat) :=
    sum_map_eq fun b _ => by
      simp only [Weight.ofOutcome]
      split <;> rfl
  have counted := h.ended o
  rw [h.weigh_of_returned back (Weight.balances_ofOutcome o), turnedAway, h.sum_replies back o,
    ← Int.natCast_add, ← List.sum_map_add] at counted
  rw [Int.ofNat.inj counted, summaries_of_returned back, List.map_map]
  refine congrArg List.sum (List.map_congr_left fun b mem => ?_)
  have returned := back b mem
  have fits := h.placed.fits b mem
  cases b with
  | returned inputs tickets summary => exact ended_of_fits fits o
  | _ => cases returned

/-- **Where all batches have returned, the books balance.** -/
theorem Ledger.balanced : p.Balanced := by
  have each : ∀ b ∈ p.batches, (b.summary?.getD {}).submitted = b.inputs.length ∧
      (b.summary?.getD {}).succeeded + (b.summary?.getD {}).failed = b.inputs.length := by
    intro b mem
    have returned := back b mem
    cases b with
    | returned inputs tickets summary => exact h.placed.summary_total mem
    | _ => cases returned
  have length : p.inputs.length = (p.batches.map (·.inputs.length)).sum := List.length_flatMap
  have summaries := summaries_of_returned back
  refine ⟨fun k => ?_, ?_, h.sum_ended back, ?_, h.panics_le, ?_⟩
  · have counted := h.resumed k
    have sent : (p.batches.map (Weight.ofKind k).batch).sum
        = ((p.batches.map fun b => b.inputs.countP (·.kind = k)).sum : Nat) :=
      sum_map_eq fun b mem => by
        have returned := back b mem
        cases b with
        | returned => exact Int.sub_zero _
        | _ => cases returned
    have answered : (p.replies.map fun r => (Weight.ofKind k).reply r.2).sum = 0 := by
      simp [Weight.ofKind]
    rw [h.weigh_of_returned back (Weight.balances_ofKind k), sent, answered, Int.add_zero]
      at counted
    rw [Int.ofNat.inj counted, inputs, List.countP_flatMap]
    rfl
  · rw [summaries, length, List.map_map]
    exact congrArg List.sum (List.map_congr_left fun b mem => (each b mem).1)
  · have succeeded := h.sum_ended back .succeeded
    have failed := h.sum_ended back .failed
    simp only [Tally.ended] at succeeded failed
    rw [succeeded, failed, ← List.sum_map_add, summaries, length, List.map_map]
    exact congrArg List.sum (List.map_congr_left fun b mem => (each b mem).2)
  · have none : total unjudged p.workers = 0 := by
      refine total_eq_zero fun w mem => ?_
      have free := h.numbered.job?_of_returned back h.placed mem
      cases w with
      | running => cases free
      | _ => rfl
    have le := h.reports_le
    rwa [none] at le

end Returned

end Pool

end Relaunch
