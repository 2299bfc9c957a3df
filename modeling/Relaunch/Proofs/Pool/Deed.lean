import Mathlib.Data.List.Basic
import Relaunch.Proofs.Pool.Sound

/-!
# Proofs/Pool/Deed — what is done for each input

A step of a pool does something for one input at most, and its **deeds** say what and for which
place.  The deeds of some steps, in their order, are their **history** (`Pool.history`).

* `Step.books` — what a step changes in the counts, the progress and the journal is what its deeds
  say, and nothing else.
* `History.perm_flatMap_of` — a history put together from what was done for each input.
* `placeOf_eq` — a worker's deeds are for the place that has the ticket of its job.
-/

namespace Relaunch

/-- **What is done for an input.** -/
inductive Deed where
  | queued
  /-- Its launch starts on a worker. -/
  | started (worker : Nat) (job : Job) (run : Run)
  | rejected (why : Rejection)
  /-- A success, a failure or a panic is counted. -/
  | judged (verdict : Verdict)
  /-- A resumed claim of the kind is counted. -/
  | counted (kind : Kind)
  /-- The progress moves on. -/
  | resumed
deriving DecidableEq

namespace Deed

def onTally : Deed → Tally → Tally
  | judged verdict => verdict.count
  | counted kind => (·.addResumed kind)
  | queued | started .. | rejected _ | resumed => id

def onProgress : Deed → Progress → Progress
  | resumed => Progress.resume
  | queued | started .. | rejected _ | judged _ | counted _ => id

/-- The launch that the deed starts. -/
def launch? : Deed → Option (Job × Run)
  | started _ job run => some (job, run)
  | queued | rejected _ | judged _ | counted _ | resumed => none

/-- The deeds for an input that is turned away. -/
def refusal (input : LaunchInput) (why : Rejection) : List Deed :=
  [.rejected why, .judged .failure, .counted input.kind, .resumed]

/-- **The deeds for an input that is launched.** -/
def life (worker : Nat) (job : Job) (run : Run) : List Deed :=
  [.queued, .started worker job run, .judged run.ending.verdict, .counted job.input.kind, .resumed]

end Deed

/-- Deeds in their order, each with the place of its input. -/
abbrev History := List (Place × Deed)

namespace History

/-- **The deeds for one place.** -/
def of (h : History) (x : Place) : List Deed :=
  h.filterMap fun e => if e.1 = x then some e.2 else none

def tally (h : History) (t : Tally) : Tally := h.foldl (fun t e => e.2.onTally t) t

def progress (h : History) (p : Progress) : Progress := h.foldl (fun p e => e.2.onProgress p) p

def launches (h : History) : List (Job × Run) := h.filterMap (·.2.launch?)

theorem of_append (g h : History) (x : Place) : of (g ++ h) x = g.of x ++ h.of x := by
  simp [of]

theorem tally_append (g h : History) (t : Tally) :
    tally (g ++ h) t = h.tally (g.tally t) := by
  simp [tally]

theorem progress_append (g h : History) (p : Progress) :
    progress (g ++ h) p = h.progress (g.progress p) := by
  simp [progress]

theorem launches_append (g h : History) :
    launches (g ++ h) = g.launches ++ h.launches := by
  simp [launches]

theorem mem_of {h : History} {x : Place} {d : Deed} (mem : (x, d) ∈ h) : d ∈ h.of x :=
  List.mem_filterMap.mpr ⟨_, mem, if_pos rfl⟩

/-- **The progress moves on once for each input that is resumed.** -/
theorem progress_eq (h : History) (p : Progress) :
    h.progress p = { p with resumed := p.resumed + (h.map Prod.snd).count .resumed } := by
  induction h generalizing p with
  | nil => rfl
  | cons e h ih =>
    obtain ⟨x, d⟩ := e
    have first : progress ((x, d) :: h) p = progress h (d.onProgress p) := rfl
    rw [first, ih, List.map_cons, List.count_cons]
    cases d with
    | resumed =>
      simp only [Deed.onProgress, Progress.resume, beq_self_eq_true, if_true]
      rw [Nat.add_assoc, Nat.add_comm 1]
    | _ => rfl

/-- **Each count is of what was done**, once for each time; a panic is counted twice. -/
theorem tally_eq (h : History) (t : Tally) :
    let done := h.map Prod.snd
    h.tally t = { t with
      resumedSync := t.resumedSync + done.count (.counted .sync)
      resumedCheck := t.resumedCheck + done.count (.counted .check)
      resumedDiscover := t.resumedDiscover + done.count (.counted .discover)
      resumedSpec := t.resumedSpec + done.count (.counted .spec)
      successes := t.successes + done.count (.judged .success)
      failures := t.failures + (done.count (.judged .failure) + done.count (.judged .panic))
      panics := t.panics + done.count (.judged .panic) } := by
  induction h generalizing t with
  | nil => rfl
  | cons e h ih =>
    obtain ⟨x, d⟩ := e
    have first : tally ((x, d) :: h) t = tally h (d.onTally t) := rfl
    simp only [first, ih, List.map_cons, List.count_cons]
    cases d with
    | judged verdict =>
      cases verdict <;> simp [Deed.onTally, Verdict.count, Tally.addSuccess, Tally.addFailure,
        Tally.addPanic] <;> omega
    | counted kind => cases kind <;> simp [Deed.onTally, Tally.addResumed] <;> omega
    | _ => rfl

/-- Deeds that are all for one place. -/
theorem of_map (deeds : List Deed) (x y : Place) :
    of (deeds.map fun d => (x, d)) y = if x = y then deeds else [] := by
  rw [of, List.filterMap_map]
  change deeds.filterMap (fun d => if x = y then some d else none) = _
  split
  · exact List.filterMap_some
  · exact List.filterMap_eq_nil_iff.mpr fun _ _ => rfl

theorem of_eq_map_filter (h : History) (x : Place) :
    h.of x = (h.filter (·.1 = x)).map Prod.snd := by
  induction h with
  | nil => rfl
  | cons e h ih =>
    simp only [of] at ih ⊢
    rw [List.filterMap_cons, List.filter_cons]
    by_cases its : e.1 = x <;> simp [its, ih]

/-- **A history is what was done for each input**, in some order. -/
theorem perm_flatMap_of {places : List Place} (nodup : places.Nodup) {h : History}
    (within : ∀ e ∈ h, e.1 ∈ places) : (h.map Prod.snd).Perm (places.flatMap h.of) := by
  induction places generalizing h with
  | nil =>
    obtain rfl : h = [] := List.eq_nil_iff_forall_not_mem.mpr fun e mem => nomatch within e mem
    exact .refl _
  | cons x places ih =>
    obtain ⟨fresh, nodup⟩ := List.nodup_cons.mp nodup
    let others : History := h.filter fun e => !decide (e.1 = x)
    have rest : ∀ y ∈ places, others.of y = h.of y := by
      intro y mem
      rw [of_eq_map_filter, of_eq_map_filter, List.filter_filter]
      refine congrArg (List.map Prod.snd) (List.filter_congr fun e _ => ?_)
      by_cases its : e.1 = y
      · have ne : e.1 ≠ x := by
          rintro rfl
          exact fresh (its ▸ mem)
        simp [its, its ▸ ne]
      · simp [its]
    have split := (List.filter_append_perm (fun e => decide (e.1 = x)) h).symm.map Prod.snd
    rw [List.map_append, ← of_eq_map_filter] at split
    rw [List.flatMap_cons, ← List.flatMap_congr rest]
    refine split.trans ((ih nodup fun e mem => ?_).append_left _)
    obtain ⟨mem, ne⟩ := List.mem_filter.mp mem
    exact (List.mem_cons.mp (within e mem)).resolve_left (by simpa using ne)

end History

namespace Pool

/-- The place whose input has the ticket. -/
def placeOf (p : Pool) (ticket : Nat) : Place :=
  let b := p.batches.findIdx (·.tickets.contains ticket)
  ⟨b, ((p.batches[b]?.map Batch.tickets).getD []).idxOf ticket⟩

/-- What the step of a worker does for the input of its job. -/
def workerDeeds (p : Pool) (i : Nat) : Worker → History
  | .polling =>
    match p.queue with
    | job :: _ => [(p.placeOf job.ticket, .started i job (p.pipeline.run p.clock job.input))]
    | [] => []
  | .running job run => [(p.placeOf job.ticket, .judged run.ending.verdict)]
  | .judged job _ => [(p.placeOf job.ticket, .counted job.input.kind)]
  | .counted job _ => [(p.placeOf job.ticket, .resumed)]
  | .idle | .resumed .. | .exited => []

/-- What the step of a batch does for the input that it sends next. -/
def batchDeeds (p : Pool) (b : Nat) : Batch → History
  | .sending attached inputs (input :: rest) _ _ =>
    let x : Place := ⟨b, inputs.length - (rest.length + 1)⟩
    if !attached then (Deed.refusal input .shutDown).map fun d => (x, d)
    else if !p.isServed then (Deed.refusal input .queueClosed).map fun d => (x, d)
    else [(x, .queued)]
  | .called _ | .sending _ _ [] _ _ | .returned .. => []

/-- **What a step does**, if it can be taken. -/
def deeds (p : Pool) : Move → History
  | .worker i => (p.workers[i]?.map (p.workerDeeds i)).getD []
  | .batch b => (p.batches[b]?.map (p.batchDeeds b)).getD []
  | .tick _ | .call _ | .close | .closing _ => []

theorem deeds_worker {p : Pool} {i : Nat} {w : Worker} (at_i : p.workers[i]? = some w) :
    p.deeds (.worker i) = p.workerDeeds i w := by
  rw [deeds, at_i, Option.map_some, Option.getD_some]

theorem deeds_batch {p : Pool} {b : Nat} {batch : Batch} (at_b : p.batches[b]? = some batch) :
    p.deeds (.batch b) = p.batchDeeds b batch := by
  rw [deeds, at_b, Option.map_some, Option.getD_some]

/-- **What some steps do**, in their order. -/
def history (p : Pool) : List Move → History
  | [] => []
  | m :: moves => p.deeds m ++ ((p.step m).map fun q => q.history moves).getD []

/-! ## What is done is what is written down -/

/-- **A pool whose books say what was done.** -/
structure Books (p : Pool) (h : History) (q : Pool) : Prop where
  tally : q.tally = h.tally p.tally
  progress : q.progress = h.progress p.progress
  runs : q.journal.runs = p.journal.runs ++ h.launches

/-- Nothing is written down where nothing is done. -/
theorem Books.idle {p q : Pool} (tally : q.tally = p.tally) (progress : q.progress = p.progress)
    (runs : q.journal.runs = p.journal.runs) : p.Books [] q :=
  ⟨tally, progress, runs.trans (List.append_nil _).symm⟩

theorem Books.append {p q r : Pool} {g h : History} (left : p.Books g q) (right : q.Books h r) :
    p.Books (g ++ h) r where
  tally := by rw [right.tally, left.tally, History.tally_append]
  progress := by rw [right.progress, left.progress, History.progress_append]
  runs := by rw [right.runs, left.runs, History.launches_append, List.append_assoc]

/-- **A step writes down what it does.** -/
theorem Step.books {p q : Pool} {m : Move} (s : p.Step m q) : p.Books (p.deeds m) q := by
  cases s with
  | seat at_i free =>
    rw [deeds_worker at_i]
    exact .idle rfl rfl rfl
  | take at_i first =>
    simp only [deeds_worker at_i, workerDeeds, first]
    exact ⟨rfl, rfl, rfl⟩
  | leave at_i empty alone =>
    simp only [deeds_worker at_i, workerDeeds, empty]
    exact .idle rfl rfl rfl
  | judge at_i ended =>
    rw [deeds_worker at_i]
    exact ⟨rfl, rfl, (List.append_nil _).symm⟩
  | count at_i =>
    rw [deeds_worker at_i]
    exact ⟨rfl, rfl, (List.append_nil _).symm⟩
  | resume at_i =>
    rw [deeds_worker at_i]
    exact ⟨rfl, rfl, (List.append_nil _).symm⟩
  | answer at_i =>
    rw [deeds_worker at_i]
    exact ⟨rfl, rfl, (List.append_nil _).symm⟩
  | skip at_b =>
    rw [deeds_batch at_b]
    exact ⟨rfl, rfl, (List.append_nil _).symm⟩
  | attach at_b some_input =>
    rw [deeds_batch at_b]
    exact ⟨rfl, rfl, (List.append_nil _).symm⟩
  | turnAway at_b =>
    rw [deeds_batch at_b]
    exact ⟨rfl, rfl, (List.append_nil _).symm⟩
  | refuse at_b unserved =>
    simp only [deeds_batch at_b, batchDeeds, unserved]
    exact ⟨rfl, rfl, (List.append_nil _).symm⟩
  | send at_b served =>
    simp only [deeds_batch at_b, batchDeeds, served]
    exact ⟨rfl, rfl, (List.append_nil _).symm⟩
  | finish at_b there =>
    rw [deeds_batch at_b]
    exact ⟨rfl, rfl, (List.append_nil _).symm⟩
  | tick later => exact .idle rfl rfl rfl
  | call inputs => exact .idle rfl rfl rfl
  | close => exact .idle rfl rfl rfl
  | shut at_c => exact .idle rfl rfl rfl
  | takeCharge at_c => exact .idle rfl rfl rfl
  | join at_c gone => exact .idle rfl rfl rfl

/-! ## Histories step by step -/

/-- **What holds before the first step and is kept by each, holds of the whole history.** -/
theorem history_induction {p : Pool} {P : History → Pool → Prop} (init : P [] p)
    (step : ∀ {h : History} {q r : Pool} {m : Move}, P h q → q.step m = some r →
      P (h ++ q.deeds m) r) {moves : List Move} {q : Pool} (h : p.steps moves = some q) :
    P (p.history moves) q := by
  have from_here : ∀ (moves : List Move) (g : History) (r : Pool), P g r →
      r.steps moves = some q → P (g ++ r.history moves) q := by
    intro moves
    induction moves with
    | nil =>
      intro g r holds h
      cases h
      rw [history, List.append_nil]
      exact holds
    | cons m moves ih =>
      intro g r holds h
      rw [steps, List.foldlM_cons] at h
      obtain ⟨s, first, rest⟩ := Option.bind_eq_some_iff.mp h
      have := ih _ s (step holds first) rest
      simp only [history, first, Option.map_some, Option.getD_some]
      rw [← List.append_assoc]
      exact this
  exact from_here moves [] p init h

/-- **Steps write down what they do.** -/
theorem books_of_steps {p q : Pool} {moves : List Move} (h : p.steps moves = some q) :
    p.Books (p.history moves) q :=
  history_induction (P := fun h q => p.Books h q) (.idle rfl rfl rfl)
    (fun books s => books.append (Step.of_step s).books) h

/-! ## Whose deeds they are -/

/-- **The place of a ticket is the place that has it.** -/
theorem Placed.placeOf_eq {p : Pool} (h : p.Placed) {x : Place} {ticket : Nat}
    (hx : p.ticketAt x = some ticket) : p.placeOf ticket = x := by
  obtain ⟨batch, at_b, at_k⟩ := Option.bind_eq_some_iff.mp hx
  have has : batch.tickets.contains ticket = true := by
    rw [List.contains_iff_mem]
    exact List.mem_of_getElem? at_k
  have found : p.batches.findIdx (·.tickets.contains ticket) < p.batches.length :=
    List.findIdx_lt_length_of_exists ⟨batch, List.mem_of_getElem? at_b, has⟩
  have mem : ticket ∈ (p.batches[p.batches.findIdx (·.tickets.contains ticket)]).tickets := by
    rw [← List.contains_iff_mem]
    exact List.findIdx_getElem (w := found)
  refine h.unique _ _ ticket ?_ hx
  simp only [placeOf, ticketAt, List.getElem?_eq_getElem found, Option.map_some, Option.getD_some,
    Option.bind_some]
  rw [List.getElem?_eq_getElem (List.idxOf_lt_length_iff.mpr mem), List.getElem_idxOf]

end Pool

end Relaunch
