import Relaunch.Proofs.Pool.Deed

/-!
# Proofs/Pool/Trail — how far an input has come is what was done for it

The deeds for an input that was sent are the first deeds of a launch, as many as the one who has its
ticket has come to; those for an input that was turned away are its refusal, and for any other input
there are none (`Told`).

* `Standing.of_held` — the deeds for an input in a worker's hands.
* `Told.step` — every step keeps the history of a pool true.
-/

namespace Relaunch

/-- How many of its deeds the job in a worker's hands has behind it. -/
def Worker.stage : Worker → Nat
  | running .. => 2
  | judged .. => 3
  | counted .. => 4
  | resumed .. => 5
  | idle | polling | exited => 0

/-- How many of its inputs were turned away. -/
def Batch.gone : Batch → Nat
  | called _ => 0
  | sending _ _ _ _ rejected => rejected
  | returned inputs tickets _ => inputs.length - tickets.length

/-- The deeds for an input of the batch that is turned away, once it is. -/
def Batch.refusalAt (b : Batch) (k : Nat) : List Deed :=
  if k < b.gone then (b.inputs[k]?.map (Deed.refusal · .shutDown)).getD [] else []

theorem Batch.refusalAt_sending (attached : Bool) (inputs rest : List LaunchInput)
    (tickets : List Nat) (rejected k : Nat) :
    (Batch.sending attached inputs rest tickets rejected).refusalAt k
      = if k < rejected then (inputs[k]?.map (Deed.refusal · .shutDown)).getD [] else [] :=
  rfl

namespace Pool

def refusalAt (p : Pool) (x : Place) : List Deed :=
  (p.batches[x.batch]?.map (·.refusalAt x.index)).getD []

/-- **What was done for the input of a ticket**, by who has it. -/
inductive Standing (p : Pool) (ticket : Nat) : List Deed → Prop where
  | queued {job : Job} (waits : job ∈ p.queue) (its : job.ticket = ticket) :
      Standing p ticket [.queued]
  | held {i : Nat} {w : Worker} {job : Job} {run : Run} (at_i : p.workers[i]? = some w)
      (has : w.job? = some job) (its : job.ticket = ticket) (ran : (job, run) ∈ p.journal.runs)
      (carries : w.Carries run) : Standing p ticket ((Deed.life i job run).take w.stage)
  | answered {job : Job} {run : Run} (i : Nat) (its : job.ticket = ticket)
      (ran : (job, run) ∈ p.journal.runs)
      (answer : (ticket, run.ending.verdict.outcome) ∈ p.replies) :
      Standing p ticket (Deed.life i job run)

/-- **A history that is true of a pool.** -/
structure Told (p : Pool) (h : History) : Prop where
  sent : ∀ x ticket, p.ticketAt x = some ticket → p.Standing ticket (h.of x)
  unsent : ∀ x, p.ticketAt x = none → h.of x = p.refusalAt x

theorem told_new (parallelism : Nat) (pipeline : Pipeline) (start : Nat) (progress : Progress)
    (tally : Tally) (log : List Entry) :
    ((Pool.new parallelism pipeline start).withCounts progress tally log).Told [] where
  sent _ _ has := by cases has
  unsent _ _ := rfl

/-! ## Who has a ticket, and what was done -/

/-- Who has a ticket still has it in a pool that takes nothing from anyone. -/
theorem Standing.frame {p q : Pool} {ticket : Nat} {deeds : List Deed}
    (h : p.Standing ticket deeds)
    (queue : ∀ job ∈ p.queue, job.ticket = ticket → job ∈ q.queue)
    (workers : ∀ (i : Nat) (w : Worker) (job : Job), p.workers[i]? = some w → w.job? = some job →
      job.ticket = ticket → q.workers[i]? = some w)
    (runs : ∀ e ∈ p.journal.runs, e ∈ q.journal.runs)
    (replies : ∀ r ∈ p.replies, r ∈ q.replies) : q.Standing ticket deeds := by
  cases h with
  | queued waits its => exact .queued (queue _ waits its) its
  | held at_i has its ran carries =>
    exact .held (workers _ _ _ at_i has its) has its (runs _ ran) carries
  | answered i its ran answer => exact .answered i its (runs _ ran) (replies _ answer)

/-- Only the worker that does something may change. -/
theorem workers_set_of_ne {p : Pool} {i : Nat} {w : Worker} {ticket : Nat}
    (at_i : p.workers[i]? = some w) (ne : w.ticket? ≠ some ticket) (v : Worker) (j : Nat)
    (u : Worker) (job : Job) (at_j : p.workers[j]? = some u) (has : u.job? = some job)
    (its : job.ticket = ticket) : (p.workers.set i v)[j]? = some u := by
  have apart : i ≠ j := by
    rintro rfl
    obtain rfl : w = u := Option.some.inj (at_i.symm.trans at_j)
    exact ne (by rw [Worker.ticket?, has, Option.map_some, its])
  rw [List.getElem?_set_ne apart, at_j]

/-- A worker with no job in its hands does nothing to who has a ticket. -/
theorem Standing.setWorker {p : Pool} {i : Nat} {w v : Worker} (at_i : p.workers[i]? = some w)
    (free : w.job? = none) (ticket : Nat) (deeds : List Deed) (h : p.Standing ticket deeds) :
    (p.setWorker i v).Standing ticket deeds := by
  refine h.frame (fun _ mem _ => mem) (workers_set_of_ne at_i ?_ v) (fun _ mem => mem)
    (fun _ mem => mem)
  rw [Worker.ticket?, free, Option.map_none]
  exact (Option.some_ne_none _).symm

/-- Nor does a step that leaves workers and queue alone. -/
theorem Standing.still {p q : Pool} (queue : q.queue = p.queue) (workers : q.workers = p.workers)
    (runs : q.journal.runs = p.journal.runs) (replies : q.replies = p.replies) (ticket : Nat)
    (deeds : List Deed) (h : p.Standing ticket deeds) : q.Standing ticket deeds :=
  h.frame (fun _ mem _ => queue ▸ mem) (fun _ _ _ at_i _ _ => workers ▸ at_i)
    (fun _ mem => runs ▸ mem) (fun _ mem => replies ▸ mem)

/-- **The deeds for the input in a worker's hands.** -/
theorem Standing.of_held {p : Pool} (numbered : p.Numbered) {i : Nat} {w : Worker} {job : Job}
    (at_i : p.workers[i]? = some w) (has : w.job? = some job) {deeds : List Deed}
    (h : p.Standing job.ticket deeds) :
    ∃ run, (job, run) ∈ p.journal.runs ∧ w.Carries run ∧
      deeds = (Deed.life i job run).take w.stage := by
  have lt := numbered.ticket_lt_of_held (List.mem_of_getElem? at_i) has
  cases h with
  | queued waits its =>
    have := (numbered.le_ticket_of_queued waits).1
    omega
  | @held j v other run at_j has' its ran carries =>
    obtain rfl : i = j := numbered.eq_of_held at_i at_j has has' its.symm
    obtain rfl : w = v := Option.some.inj (at_i.symm.trans at_j)
    obtain rfl : job = other := Option.some.inj (has.symm.trans has')
    exact ⟨run, ran, carries, rfl⟩
  | answered j its ran answer =>
    exact absurd answer (numbered.not_replied_of_held (List.mem_of_getElem? at_i) has _)

/-- The deeds for the first input of the queue. -/
theorem Standing.of_first {p : Pool} (numbered : p.Numbered) {job : Job} {queue : List Job}
    (first : p.queue = job :: queue) {deeds : List Deed} (h : p.Standing job.ticket deeds) :
    deeds = [.queued] := by
  have le := (numbered.le_ticket_of_queued (first ▸ List.mem_cons_self)).1
  cases h with
  | queued waits its => rfl
  | held at_i has its ran carries =>
    have := numbered.ticket_lt_of_held (List.mem_of_getElem? at_i) has
    omega
  | answered i its ran answer =>
    have := numbered.ticket_lt_of_replied answer
    omega

/-! ## A step does something for one ticket at most -/

/-- A step that does nothing for any input. -/
theorem Told.still {p q : Pool} {h : History} (told : p.Told h) (ticketAt : q.ticketAt = p.ticketAt)
    (refusalAt : q.refusalAt = p.refusalAt)
    (standing : ∀ ticket deeds, p.Standing ticket deeds → q.Standing ticket deeds) :
    q.Told (h ++ []) where
  sent x ticket hx := by
    rw [ticketAt] at hx
    rw [List.append_nil]
    exact standing _ _ (told.sent x ticket hx)
  unsent x hx := by
    rw [ticketAt] at hx
    rw [List.append_nil, refusalAt]
    exact told.unsent x hx

/-- **A worker does something for one ticket.** -/
theorem Told.worker {p q : Pool} {h : History} (told : p.Told h) (placed : p.Placed) {ticket : Nat}
    (issued : ticket < p.nextTicket) (deeds : List Deed) (ticketAt : q.ticketAt = p.ticketAt)
    (refusalAt : q.refusalAt = p.refusalAt)
    (its : ∀ before, p.Standing ticket before → q.Standing ticket (before ++ deeds))
    (others : ∀ t ≠ ticket, ∀ before, p.Standing t before → q.Standing t before) :
    q.Told (h ++ deeds.map fun d => (p.placeOf ticket, d)) := by
  obtain ⟨y, hy⟩ := (placed.issued ticket).mpr issued
  have place := placed.placeOf_eq hy
  refine ⟨?_, ?_⟩
  · intro x t hx
    rw [ticketAt] at hx
    rw [History.of_append, History.of_map, place]
    by_cases eq : y = x
    · subst eq
      obtain rfl : ticket = t := Option.some.inj (hy.symm.trans hx)
      rw [if_pos rfl]
      exact its _ (told.sent y ticket hx)
    · rw [if_neg eq, List.append_nil]
      refine others t ?_ _ (told.sent x t hx)
      rintro rfl
      exact eq (placed.unique y x t hy hx)
  · intro x hx
    rw [ticketAt] at hx
    have ne : y ≠ x := by
      rintro rfl
      exact nomatch hy.symm.trans hx
    rw [History.of_append, History.of_map, place, if_neg ne, List.append_nil, refusalAt]
    exact told.unsent x hx

/-- A worker goes on with its job. -/
theorem Told.goOn {p q : Pool} {h : History} (told : p.Told h) (numbered : p.Numbered)
    (placed : p.Placed) {i : Nat} {w v : Worker} {job : Job} (at_i : p.workers[i]? = some w)
    (has : w.job? = some job) (deeds : List Deed) (workers : q.workers = p.workers.set i v)
    (still : v.job? = some job) (carries : ∀ run, w.Carries run → v.Carries run)
    (stage : ∀ run, w.Carries run →
      (Deed.life i job run).take w.stage ++ deeds = (Deed.life i job run).take v.stage)
    (queue : q.queue = p.queue) (batches : q.batches = p.batches)
    (runs : q.journal.runs = p.journal.runs) (replies : q.replies = p.replies) :
    q.Told (h ++ deeds.map fun d => (p.placeOf job.ticket, d)) := by
  have issued : job.ticket < p.nextTicket := by
    have lt := numbered.ticket_lt_of_held (List.mem_of_getElem? at_i) has
    have := numbered.next
    omega
  have here := (List.getElem?_eq_some_iff.mp at_i).1
  refine told.worker placed issued deeds ?_ ?_ ?_ ?_
  · funext x
    rw [ticketAt, batches, ticketAt]
  · funext x
    rw [refusalAt, batches, refusalAt]
  · intro before standing
    obtain ⟨run, ran, carried, rfl⟩ := standing.of_held numbered at_i has
    rw [stage run carried]
    refine .held (i := i) (w := v) ?_ still rfl (runs ▸ ran) (carries run carried)
    rw [workers, List.getElem?_set_self here]
  · intro t ne before standing
    refine standing.frame (fun job mem _ => queue ▸ mem) ?_ (fun e mem => runs ▸ mem)
      (fun r mem => replies ▸ mem)
    rw [workers]
    refine workers_set_of_ne at_i ?_ v
    rw [Worker.ticket?, has, Option.map_some]
    intro eq
    exact ne (Option.some.inj eq).symm

theorem Told.take {p : Pool} {h : History} (told : p.Told h) (numbered : p.Numbered)
    (placed : p.Placed) {i : Nat} {job : Job} {queue : List Job}
    (at_i : p.workers[i]? = some .polling) (first : p.queue = job :: queue) (run : Run) :
    { p.setWorker i (.running job run) with
      queue := queue
      journal.runs := p.journal.runs ++ [(job, run)] : Pool }.Told
      (h ++ [(p.placeOf job.ticket, .started i job run)]) := by
  have here := (List.getElem?_eq_some_iff.mp at_i).1
  have waits : job ∈ p.queue := first ▸ List.mem_cons_self
  refine told.worker placed (numbered.le_ticket_of_queued waits).2 [.started i job run] rfl rfl
    ?_ ?_
  · intro before standing
    obtain rfl := standing.of_first numbered first
    refine .held (i := i) (w := .running job run) ?_ rfl rfl ?_ rfl
    · exact List.getElem?_set_self here
    · exact List.mem_append_right _ (List.mem_singleton.mpr rfl)
  · intro t ne before standing
    refine standing.frame ?_ ?_ (fun e mem => List.mem_append_left _ mem) (fun r mem => mem)
    · intro other mem its
      rw [first] at mem
      rcases List.mem_cons.mp mem with rfl | later
      · exact absurd its.symm ne
      · exact later
    · refine workers_set_of_ne at_i ?_ _
      nofun

theorem Told.answer {p : Pool} {h : History} (told : p.Told h) (numbered : p.Numbered)
    (placed : p.Placed) {i : Nat} {job : Job} {outcome : Outcome}
    (at_i : p.workers[i]? = some (.resumed job outcome)) :
    { p.setWorker i .idle with
      replies := p.replies ++ [(job.ticket, outcome)] : Pool }.Told (h ++ []) := by
  have lt := numbered.ticket_lt_of_held (List.mem_of_getElem? at_i) rfl
  have issued : job.ticket < p.nextTicket := by
    have := numbered.next
    omega
  refine told.worker placed issued [] rfl rfl ?_ ?_
  · intro before standing
    obtain ⟨run, ran, carries, rfl⟩ := standing.of_held numbered at_i rfl
    rw [List.append_nil]
    refine .answered i rfl ran ?_
    rw [← carries]
    exact List.mem_append_right _ (List.mem_singleton.mpr rfl)
  · intro t ne before standing
    refine standing.frame (fun job mem _ => mem) ?_ (fun e mem => mem)
      (fun r mem => List.mem_append_left _ mem)
    refine workers_set_of_ne at_i ?_ _
    rintro eq
    exact ne (Option.some.inj eq).symm

/-! ## Inputs that are turned away -/

/-- A batch that turns no one else away. -/
theorem refusalAt_set {p q : Pool} {b : Nat} {old new : Batch} (at_b : p.batches[b]? = some old)
    (batches : q.batches = p.batches.set b new) (same : new.refusalAt = old.refusalAt) :
    q.refusalAt = p.refusalAt := by
  funext x
  have kept := map_set (f := (·.refusalAt x.index)) at_b (congrFun same x.index) x.batch
  rw [refusalAt, refusalAt, batches, kept]

theorem refusalAt_call (p : Pool) (inputs : List LaunchInput) :
    { p with batches := p.batches ++ [.called inputs] : Pool }.refusalAt = p.refusalAt := by
  funext x
  simp only [refusalAt, List.getElem?_append]
  split
  · rfl
  · rename_i beyond
    rw [List.getElem?_eq_none (by omega : p.batches.length ≤ x.batch), Option.map_none]
    cases h : [Batch.called inputs][x.batch - p.batches.length]? with
    | none => rfl
    | some b =>
      obtain rfl := List.mem_singleton.mp (List.mem_of_getElem? h)
      rfl

/-- A batch with nothing left to send has its other inputs turned away. -/
theorem gone_of_finish {p : Pool} {attached : Bool} {inputs : List LaunchInput}
    {tickets : List Nat} {rejected : Nat}
    (fits : (Batch.sending attached inputs [] tickets rejected).Fits p) :
    inputs.length - tickets.length = rejected := by
  obtain ⟨all, rejects⟩ := fits.whole
  rw [all, rejects]
  cases attached with
  | true => exact Nat.sub_self _
  | false => rfl

/-- **An input is turned away**: the next of its batch. -/
theorem refusalAt_turnAway {p q : Pool} {b : Nat} {inputs : List LaunchInput}
    {input : LaunchInput} {rest : List LaunchInput} {rejected : Nat}
    (at_b : p.batches[b]? = some (.sending false inputs (input :: rest) [] rejected))
    (batches : q.batches = p.batches.set b (.sending false inputs rest [] (rejected + 1)))
    (its : inputs[rejected]? = some input) (x : Place) :
    q.refusalAt x = p.refusalAt x ++
      if ⟨b, rejected⟩ = x then Deed.refusal input .shutDown else [] := by
  have here := (List.getElem?_eq_some_iff.mp at_b).1
  obtain ⟨c, k⟩ := x
  simp only [refusalAt, batches, List.getElem?_set, Place.mk.injEq]
  by_cases eq : b = c
  · subst eq
    simp only [if_true, here, at_b, Option.map_some, Option.getD_some, true_and,
      Batch.refusalAt_sending]
    rcases Nat.lt_trichotomy k rejected with lt | rfl | gt
    · rw [if_pos (Nat.lt_succ_of_lt lt), if_pos lt, if_neg (Nat.ne_of_gt lt), List.append_nil]
    · rw [if_pos (Nat.lt_succ_self _), if_neg (Nat.lt_irrefl _), if_pos rfl, its]
      rfl
    · rw [if_neg (Nat.not_lt_of_le gt), if_neg (Nat.lt_asymm gt), if_neg (Nat.ne_of_lt gt)]
      rfl
  · rw [if_neg eq, if_neg (fun both => eq both.1), List.append_nil]

theorem Told.turnAway {p : Pool} {h : History} (told : p.Told h) (placed : p.Placed) {b : Nat}
    {inputs : List LaunchInput} {input : LaunchInput} {rest : List LaunchInput}
    {tickets : List Nat} {rejected : Nat}
    (at_b : p.batches[b]? = some (.sending false inputs (input :: rest) tickets rejected)) :
    ((p.reject input .shutDown).setBatch b
      (.sending false inputs rest tickets (rejected + 1))).Told (h ++ p.deeds (.batch b)) := by
  cases placed.fits _ (List.mem_of_getElem? at_b) with
  | detached shut gone le =>
    obtain ⟨its, -, length⟩ := of_drop_eq_cons gone
    have deeds : p.deeds (.batch b)
        = (Deed.refusal input .shutDown).map fun d => ((⟨b, rejected⟩ : Place), d) := by
      simp only [deeds_batch at_b, batchDeeds, length, Nat.add_sub_cancel]
      rfl
    have same := ticketAt_set (q := (p.reject input .shutDown).setBatch b
      (.sending false inputs rest [] (rejected + 1))) at_b rfl rfl
    have unsent : p.ticketAt ⟨b, rejected⟩ = none := by
      simp [ticketAt, at_b, Batch.tickets]
    rw [deeds]
    refine ⟨?_, ?_⟩
    · intro x ticket hx
      rw [same] at hx
      have ne : (⟨b, rejected⟩ : Place) ≠ x := by
        rintro rfl
        cases unsent.symm.trans hx
      rw [History.of_append, History.of_map, if_neg ne, List.append_nil]
      exact (told.sent x ticket hx).frame (fun _ mem _ => mem) (fun _ _ _ at_i _ _ => at_i)
        (fun _ mem => mem) (fun _ mem => mem)
    · intro x hx
      rw [same] at hx
      rw [History.of_append, History.of_map, told.unsent x hx]
      exact (refusalAt_turnAway at_b rfl its x).symm

/-! ## Inputs that are sent -/

theorem deeds_send {p : Pool} (placed : p.Placed) {b : Nat} {inputs : List LaunchInput}
    {input : LaunchInput} {rest : List LaunchInput} {tickets : List Nat} {rejected : Nat}
    (at_b : p.batches[b]? = some (.sending true inputs (input :: rest) tickets rejected))
    (served : p.isServed = true) :
    p.deeds (.batch b) = [.queued].map fun d => ((⟨b, tickets.length⟩ : Place), d) := by
  cases placed.fits _ (List.mem_of_getElem? at_b) with
  | attached sent le =>
    obtain ⟨-, -, length⟩ := of_drop_eq_cons sent
    simp only [deeds_batch at_b, batchDeeds, length, Nat.add_sub_cancel, served]
    rfl

theorem Told.send {p : Pool} {h : History} (told : p.Told h) (placed : p.Placed) {b : Nat}
    {inputs : List LaunchInput} {input : LaunchInput} {rest : List LaunchInput}
    {tickets : List Nat} {rejected : Nat}
    (at_b : p.batches[b]? = some (.sending true inputs (input :: rest) tickets rejected))
    (served : p.isServed = true) :
    ((p.enqueue input).setBatch b
      (.sending true inputs rest (tickets ++ [p.nextTicket]) rejected)).Told
      (h ++ p.deeds (.batch b)) := by
  have ticketAt : ∀ x, ((p.enqueue input).setBatch b (.sending true inputs rest
      (tickets ++ [p.nextTicket]) rejected)).ticketAt x
        = if x = ⟨b, tickets.length⟩ then some p.nextTicket else p.ticketAt x :=
    ticketAt_send at_b rfl rfl
  have refusalAt := refusalAt_set (q := (p.enqueue input).setBatch b
    (.sending true inputs rest (tickets ++ [p.nextTicket]) rejected)) at_b rfl rfl
  obtain ⟨unsent, -⟩ := placed.next at_b
  have untold : h.of ⟨b, tickets.length⟩ = [] := by
    rw [told.unsent _ unsent, Pool.refusalAt, at_b]
    cases placed.fits _ (List.mem_of_getElem? at_b) with
    | attached sent le => rfl
  rw [deeds_send placed at_b served]
  refine ⟨?_, ?_⟩
  · intro x ticket hx
    rw [ticketAt] at hx
    rw [History.of_append, History.of_map]
    split at hx
    · rename_i eq
      cases hx
      subst eq
      rw [if_pos rfl, untold]
      exact .queued (List.mem_append_right _ (List.mem_singleton.mpr rfl)) rfl
    · rename_i ne
      rw [if_neg (Ne.symm ne), List.append_nil]
      exact (told.sent x ticket hx).frame (fun _ mem _ => List.mem_append_left _ mem)
        (fun _ _ _ at_i _ _ => at_i) (fun _ mem => mem) (fun _ mem => mem)
  · intro x hx
    rw [ticketAt] at hx
    split at hx
    · cases hx
    · rename_i ne
      rw [History.of_append, History.of_map, if_neg (Ne.symm ne), List.append_nil, refusalAt]
      exact told.unsent x hx

/-! ## Every step keeps the history true -/

theorem Told.step {p q : Pool} {m : Move} {h : History} (told : p.Told h) (sound : p.Sound)
    (s : p.Step m q) : q.Told (h ++ p.deeds m) := by
  cases s with
  | seat at_i free =>
    rw [deeds_worker at_i]
    exact told.still rfl rfl (Standing.setWorker at_i rfl)
  | take at_i first =>
    rw [deeds_worker at_i]
    simp only [workerDeeds, first]
    exact told.take sound.numbered sound.placed at_i first _
  | leave at_i empty alone =>
    rw [deeds_worker at_i]
    simp only [workerDeeds, empty]
    exact told.still rfl rfl (Standing.setWorker at_i rfl)
  | @judge i job run at_i ended =>
    rw [deeds_worker at_i]
    exact told.goOn sound.numbered sound.placed at_i rfl [.judged run.ending.verdict] rfl rfl
      (fun _ carries => by rw [← carries]; rfl) (fun _ carries => by rw [← carries]; rfl) rfl rfl
      rfl rfl
  | @count i job outcome at_i =>
    rw [deeds_worker at_i]
    exact told.goOn sound.numbered sound.placed at_i rfl [.counted job.input.kind] rfl rfl
      (fun _ => id) (fun _ _ => rfl) rfl rfl rfl rfl
  | @resume i job outcome at_i =>
    rw [deeds_worker at_i]
    exact told.goOn sound.numbered sound.placed at_i rfl [.resumed] rfl rfl (fun _ => id)
      (fun _ _ => rfl) rfl rfl rfl rfl
  | answer at_i =>
    rw [deeds_worker at_i]
    exact told.answer sound.numbered sound.placed at_i
  | skip at_b =>
    rw [deeds_batch at_b]
    exact told.still (ticketAt_set at_b rfl rfl) (refusalAt_set at_b rfl rfl)
      (Standing.still rfl rfl rfl rfl)
  | attach at_b some_input =>
    rw [deeds_batch at_b]
    exact told.still (ticketAt_set at_b rfl rfl) (refusalAt_set at_b rfl rfl)
      (Standing.still rfl rfl rfl rfl)
  | turnAway at_b => exact told.turnAway sound.placed at_b
  | refuse at_b unserved =>
    have := sound.staffed.isServed (isConnected_of_attached at_b)
    rw [unserved] at this
    cases this
  | send at_b served => exact told.send sound.placed at_b served
  | @finish b attached inputs tickets rejected replies at_b there =>
    rw [deeds_batch at_b]
    refine told.still (ticketAt_set at_b rfl rfl) (refusalAt_set at_b rfl ?_)
      (Standing.still rfl rfl rfl rfl)
    have gone := gone_of_finish (sound.placed.fits _ (List.mem_of_getElem? at_b))
    funext k
    rw [Batch.refusalAt_sending, ← gone]
    rfl
  | tick later => exact told.still rfl rfl (Standing.still rfl rfl rfl rfl)
  | call inputs =>
    exact told.still (ticketAt_call p inputs) (refusalAt_call p inputs)
      (Standing.still rfl rfl rfl rfl)
  | close => exact told.still rfl rfl (Standing.still rfl rfl rfl rfl)
  | shut at_c => exact told.still rfl rfl (Standing.still rfl rfl rfl rfl)
  | takeCharge at_c => exact told.still rfl rfl (Standing.still rfl rfl rfl rfl)
  | join at_c gone => exact told.still rfl rfl (Standing.still rfl rfl rfl rfl)

/-- **The history of a pool is true of it.** -/
theorem told_of_steps {p q : Pool} {moves : List Move} (sound : p.Sound) (told : p.Told [])
    (h : p.steps moves = some q) : q.Told (p.history moves) := by
  refine (history_induction (P := fun h q => q.Sound ∧ q.Told h) ⟨sound, told⟩ ?_ h).2
  rintro h q r m ⟨sound, told⟩ s
  exact ⟨sound.step s, told.step sound (.of_step s)⟩

end Pool

end Relaunch
