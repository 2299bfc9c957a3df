import Relaunch.Proofs.Pool.Trail

/-!
# Proofs/Pool/Line — first come, first started

Launches start in the order in which their inputs came into the queue, and the inputs of a batch
come in the order in which the batch has them.  Tickets carry the argument: the `k`-th input to come
and the `k`-th to be started both have ticket `k`, and a ticket is one input's.

* `Lined.step` — every step keeps a history in line.
* `Lined.starts_prefix` — the inputs that were started are the first of those that came.
-/

namespace Relaunch

/-- Whether an input comes into the queue. -/
def Deed.isQueued : Deed → Bool
  | queued => true
  | started .. | rejected _ | judged _ | counted _ | resumed => false

namespace History

/-- **The places whose inputs came into the queue**, in the order in which they came. -/
def arrivals (h : History) : List Place := (h.filter (·.2.isQueued)).map Prod.fst

/-- **The places whose launches started**, in the order of the starts. -/
def starts (h : History) : List Place := (h.filter (·.2.launch?.isSome)).map Prod.fst

theorem arrivals_append (g h : History) : arrivals (g ++ h) = g.arrivals ++ h.arrivals := by
  simp [arrivals]

theorem starts_append (g h : History) : starts (g ++ h) = g.starts ++ h.starts := by
  simp [starts]

end History

namespace Pool

/-- **A history in line with the tickets of its pool.** -/
structure Lined (p : Pool) (h : History) : Prop where
  arrivals : h.arrivals.map p.ticketAt = (List.range p.nextTicket).map some
  starts : h.starts.map p.ticketAt = (List.range p.journal.runs.length).map some
  /-- A batch sends its inputs in their order. -/
  inOrder : h.arrivals.Pairwise fun x y => x.batch = y.batch → x.index < y.index

theorem lined_new (parallelism : Nat) (pipeline : Pipeline) (start : Nat) (progress : Progress)
    (tally : Tally) (log : List Entry) :
    ((Pool.new parallelism pipeline start).withCounts progress tally log).Lined [] where
  arrivals := rfl
  starts := rfl
  inOrder := .nil

/-- In a list that is numbered, an entry has its own number. -/
theorem eq_of_map_range {f : α → Option Nat} {l : List α} {n : Nat}
    (numbered : l.map f = (List.range n).map some) {k : Nat} {a : α} (at_k : l[k]? = some a) :
    f a = some k := by
  have same := congrArg (·[k]?) numbered
  simp only [List.getElem?_map, at_k, Option.map_some] at same
  obtain ⟨j, at_j, eq⟩ := Option.map_eq_some_iff.mp same.symm
  obtain ⟨lt, rfl⟩ := List.getElem?_eq_some_iff.mp at_j
  rw [← eq, List.getElem_range]

section Lined

variable {p q : Pool} {h : History}

/-- An input that came has a ticket. -/
theorem Lined.exists_ticket (lined : p.Lined h) {x : Place} (mem : x ∈ h.arrivals) :
    ∃ ticket, p.ticketAt x = some ticket := by
  obtain ⟨k, at_k⟩ := List.mem_iff_getElem?.mp mem
  exact ⟨k, eq_of_map_range lined.arrivals at_k⟩

/-- **The inputs that were started are the first of those that came.** -/
theorem Lined.starts_prefix (lined : p.Lined h) (numbered : p.Numbered) (placed : p.Placed) :
    h.starts <+: h.arrivals := by
  have started := congrArg List.length lined.starts
  have came := congrArg List.length lined.arrivals
  rw [List.length_map, List.length_map, List.length_range] at started came
  have fewer := numbered.next
  refine List.prefix_iff_getElem?.mpr fun k lt => ?_
  have lt' : k < h.arrivals.length := by omega
  have first := eq_of_map_range lined.starts (List.getElem?_eq_getElem lt)
  have second := eq_of_map_range lined.arrivals (List.getElem?_eq_getElem lt')
  rw [List.getElem?_eq_getElem lt', placed.unique _ _ k first second]

/-! ## Steps -/

/-- A step that starts nothing and lets nothing in. -/
theorem Lined.still {deeds : History} (lined : p.Lined h) (ticketAt : q.ticketAt = p.ticketAt)
    (next : q.nextTicket = p.nextTicket) (runs : q.journal.runs = p.journal.runs)
    (none : deeds.arrivals = [] ∧ deeds.starts = []) : q.Lined (h ++ deeds) where
  arrivals := by
    rw [History.arrivals_append, none.1, List.append_nil, ticketAt, next, lined.arrivals]
  starts := by
    rw [History.starts_append, none.2, List.append_nil, ticketAt, runs, lined.starts]
  inOrder := by
    rw [History.arrivals_append, none.1, List.append_nil]
    exact lined.inOrder

/-- The first job of the queue is started. -/
theorem Lined.take (lined : p.Lined h) (numbered : p.Numbered) (placed : p.Placed) {i : Nat}
    {job : Job} {queue : List Job} (first : p.queue = job :: queue) (run : Run) :
    { p.setWorker i (.running job run) with
      queue := queue
      journal.runs := p.journal.runs ++ [(job, run)] : Pool }.Lined
      (h ++ [(p.placeOf job.ticket, .started i job run)]) := by
  have ticket : job.ticket = p.journal.runs.length := by
    have queued := numbered.queued
    rw [first, List.map_cons, List.length_cons, List.range'_succ] at queued
    exact (List.cons.inj queued).1
  obtain ⟨x, hx⟩ := (placed.issued job.ticket).mpr
    (numbered.le_ticket_of_queued (first ▸ List.mem_cons_self)).2
  have place := placed.placeOf_eq hx
  refine ⟨?_, ?_, ?_⟩
  · rw [History.arrivals_append]
    exact (congrArg (·.map p.ticketAt) (List.append_nil h.arrivals)).trans lined.arrivals
  · rw [History.starts_append, List.map_append, List.length_append, List.length_singleton,
      List.range_succ, List.map_append, ← lined.starts, ← ticket, place]
    exact congrArg (_ ++ [·]) hx
  · rw [History.arrivals_append]
    exact (List.append_nil h.arrivals).symm ▸ lined.inOrder

/-- An input comes. -/
theorem Lined.send (lined : p.Lined h) (placed : p.Placed) {b : Nat} {inputs : List LaunchInput}
    {input : LaunchInput} {rest : List LaunchInput} {tickets : List Nat} {rejected : Nat}
    (at_b : p.batches[b]? = some (.sending true inputs (input :: rest) tickets rejected))
    (served : p.isServed = true) :
    ((p.enqueue input).setBatch b
      (.sending true inputs rest (tickets ++ [p.nextTicket]) rejected)).Lined
      (h ++ p.deeds (.batch b)) := by
  have now : ∀ x, ((p.enqueue input).setBatch b (.sending true inputs rest
      (tickets ++ [p.nextTicket]) rejected)).ticketAt x
        = if x = ⟨b, tickets.length⟩ then some p.nextTicket else p.ticketAt x :=
    ticketAt_send at_b rfl rfl
  have unsent := (placed.next at_b).1
  have kept : ∀ {l : List Place} {n : Nat}, l.map p.ticketAt = (List.range n).map some →
      l.map (fun x => if x = ⟨b, tickets.length⟩ then some p.nextTicket else p.ticketAt x)
        = (List.range n).map some := by
    intro l n numbered
    rw [← numbered]
    refine List.map_congr_left fun x mem => if_neg ?_
    rintro rfl
    obtain ⟨k, at_k⟩ := List.mem_iff_getElem?.mp mem
    cases unsent.symm.trans (eq_of_map_range numbered at_k)
  rw [deeds_send placed at_b served]
  refine ⟨?_, ?_, ?_⟩
  · rw [History.arrivals_append, List.map_append, funext now, kept lined.arrivals]
    show _ = (List.range (p.nextTicket + 1)).map some
    rw [List.range_succ, List.map_append]
    simp [History.arrivals, Deed.isQueued]
  · rw [History.starts_append, List.map_append, funext now, kept lined.starts]
    exact List.append_nil _
  · rw [History.arrivals_append]
    refine List.pairwise_append.mpr ⟨lined.inOrder, List.pairwise_singleton _ _, ?_⟩
    intro x came y new same
    obtain rfl : y = ⟨b, tickets.length⟩ := List.mem_singleton.mp new
    obtain ⟨ticket, hx⟩ := lined.exists_ticket came
    obtain ⟨batch, at_x, at_k⟩ := Option.bind_eq_some_iff.mp hx
    cases at_b.symm.trans (same ▸ at_x)
    exact (List.getElem?_eq_some_iff.mp at_k).1

/-- **Every step keeps a history in line.** -/
theorem Lined.step {m : Move} (lined : p.Lined h) (sound : p.Sound) (s : p.Step m q) :
    q.Lined (h ++ p.deeds m) := by
  cases s with
  | take at_i first =>
    simp only [deeds_worker at_i, workerDeeds, first]
    exact lined.take sound.numbered sound.placed first _
  | send at_b served => exact lined.send sound.placed at_b served
  | refuse at_b unserved =>
    have := sound.staffed.isServed (isConnected_of_attached at_b)
    rw [unserved] at this
    cases this
  | leave at_i empty alone =>
    simp only [deeds_worker at_i, workerDeeds, empty]
    exact lined.still rfl rfl rfl ⟨rfl, rfl⟩
  | seat at_i =>
    rw [deeds_worker at_i]
    exact lined.still rfl rfl rfl ⟨rfl, rfl⟩
  | judge at_i =>
    rw [deeds_worker at_i]
    exact lined.still rfl rfl rfl ⟨rfl, rfl⟩
  | count at_i =>
    rw [deeds_worker at_i]
    exact lined.still rfl rfl rfl ⟨rfl, rfl⟩
  | resume at_i =>
    rw [deeds_worker at_i]
    exact lined.still rfl rfl rfl ⟨rfl, rfl⟩
  | answer at_i =>
    rw [deeds_worker at_i]
    exact lined.still rfl rfl rfl ⟨rfl, rfl⟩
  | skip at_b =>
    rw [deeds_batch at_b]
    exact lined.still (ticketAt_set at_b rfl rfl) rfl rfl ⟨rfl, rfl⟩
  | attach at_b =>
    rw [deeds_batch at_b]
    exact lined.still (ticketAt_set at_b rfl rfl) rfl rfl ⟨rfl, rfl⟩
  | turnAway at_b =>
    rw [deeds_batch at_b]
    exact lined.still (ticketAt_set at_b rfl rfl) rfl rfl ⟨rfl, rfl⟩
  | finish at_b =>
    rw [deeds_batch at_b]
    exact lined.still (ticketAt_set at_b rfl rfl) rfl rfl ⟨rfl, rfl⟩
  | call inputs => exact lined.still (ticketAt_call p inputs) rfl rfl ⟨rfl, rfl⟩
  | _ => exact lined.still rfl rfl rfl ⟨rfl, rfl⟩

end Lined

/-- **A history is in line with its pool.** -/
theorem lined_of_steps {p q : Pool} {moves : List Move} (sound : p.Sound) (lined : p.Lined [])
    (went : p.steps moves = some q) : q.Lined (p.history moves) := by
  refine (history_induction (P := fun h q => q.Sound ∧ q.Lined h) ⟨sound, lined⟩ ?_ went).2
  rintro h q r m ⟨sound, lined⟩ s
  exact ⟨sound.step s, lined.step sound (.of_step s)⟩

end Pool

end Relaunch
