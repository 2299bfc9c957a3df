import Relaunch.Pool.Work
import Relaunch.Proofs.Pool.Trail

/-!
# Proofs/Pool/Settled — the progress counts the inputs that are settled

An input is settled once it is turned away, or once the progress has moved on for its launch; every
step moves the progress on as much as it settles (`Step.resumed_eq`).  Where all batches have
returned, everything is settled: nothing waits in the queue or is in a worker's hands, and every
input was turned away or has a ticket and an answer (`Lived.settled_of_returned`).
-/

namespace Relaunch

/-- Whether the progress has moved on for the job in a worker's hands. -/
def Worker.isResumed : Worker → Bool
  | resumed .. => true
  | idle | polling | running .. | judged .. | counted .. | exited => false

def Batch.isReturned : Batch → Bool
  | returned .. => true
  | called _ | sending .. => false

namespace Pool

theorem total_append (f : α → Nat) (l : List α) (a : α) :
    total f (l ++ [a]) = total f l + f a := by
  induction l with
  | nil => simp [total]
  | cons b l ih =>
    simp only [List.cons_append, total, ih]
    omega

theorem total_eq_zero {f : α → Nat} {l : List α} (h : ∀ a ∈ l, f a = 0) : total f l = 0 := by
  induction l with
  | nil => rfl
  | cons a l ih =>
    rw [total, h a List.mem_cons_self, ih fun b mem => h b (List.mem_cons_of_mem a mem)]

theorem total_congr {f g : α → Nat} {l : List α} (h : ∀ a ∈ l, f a = g a) :
    total f l = total g l :=
  Nat.le_antisymm (total_le_total fun a mem => Nat.le_of_eq (h a mem))
    (total_le_total fun a mem => Nat.le_of_eq (h a mem).symm)

theorem total_add (f g : α → Nat) (l : List α) :
    total (fun a => f a + g a) l = total f l + total g l := by
  induction l with
  | nil => rfl
  | cons a l ih =>
    simp only [total, ih]
    omega

/-- **The inputs that are settled.** -/
def settled (p : Pool) : Nat :=
  total Batch.gone p.batches + total (fun w => w.isResumed.toNat) p.workers + p.replies.length

/-- What a step does to the progress: it moves on, or nothing. -/
theorem Step.progress_eq {p q : Pool} {m : Move} (s : p.Step m q) :
    q.progress = { p.progress with resumed := q.progress.resumed } := by
  cases s <;> rfl

/-- If it moves on, then by one. -/
theorem Step.progress_cases {p q : Pool} {m : Move} (s : p.Step m q) :
    q.progress = p.progress ∨ q.progress = p.progress.resume := by
  cases s with
  | resume at_i => exact .inr rfl
  | turnAway at_b => exact .inr rfl
  | refuse at_b unserved => exact .inr rfl
  | _ => exact .inl rfl

/-- What a worker settles is what it does to the progress, less the answers that it gives. -/
theorem resumed_of_worker {p q : Pool} {i : Nat} {w v : Worker} {answers : Nat}
    (at_i : p.workers[i]? = some w) (workers : q.workers = p.workers.set i v)
    (batches : q.batches = p.batches) (replies : q.replies.length = p.replies.length + answers)
    (resumed : q.progress.resumed + w.isResumed.toNat
      = p.progress.resumed + v.isResumed.toNat + answers) :
    q.progress.resumed + p.settled = p.progress.resumed + q.settled := by
  have moved := total_set (fun w => w.isResumed.toNat) at_i v
  rw [settled, settled, workers, batches, replies]
  omega

/-- What a batch settles is what it does to the progress. -/
theorem resumed_of_batch {p q : Pool} {b : Nat} {old new : Batch} (at_b : p.batches[b]? = some old)
    (batches : q.batches = p.batches.set b new) (workers : q.workers = p.workers)
    (replies : q.replies = p.replies)
    (resumed : q.progress.resumed + old.gone = p.progress.resumed + new.gone) :
    q.progress.resumed + p.settled = p.progress.resumed + q.settled := by
  have moved := total_set Batch.gone at_b new
  rw [settled, settled, workers, batches, replies]
  omega

/-- **A step moves the progress on as much as it settles.** -/
theorem Step.resumed_eq {p q : Pool} {m : Move} (placed : p.Placed) (s : p.Step m q) :
    q.progress.resumed + p.settled = p.progress.resumed + q.settled := by
  cases s with
  | seat at_i free => exact resumed_of_worker at_i rfl rfl rfl rfl
  | take at_i first => exact resumed_of_worker at_i rfl rfl rfl rfl
  | leave at_i empty alone => exact resumed_of_worker at_i rfl rfl rfl rfl
  | judge at_i ended => exact resumed_of_worker at_i rfl rfl rfl rfl
  | count at_i => exact resumed_of_worker at_i rfl rfl rfl rfl
  | resume at_i => exact resumed_of_worker at_i rfl rfl rfl rfl
  | answer at_i => exact resumed_of_worker at_i rfl rfl List.length_append rfl
  | call inputs =>
    simp only [settled, total_append, Batch.gone]
    omega
  | skip at_b => exact resumed_of_batch at_b rfl rfl rfl rfl
  | attach at_b some_input => exact resumed_of_batch at_b rfl rfl rfl rfl
  | turnAway at_b => exact resumed_of_batch at_b rfl rfl rfl (Nat.add_right_comm _ 1 _)
  | refuse at_b unserved => exact resumed_of_batch at_b rfl rfl rfl (Nat.add_right_comm _ 1 _)
  | send at_b served => exact resumed_of_batch at_b rfl rfl rfl rfl
  | finish at_b there =>
    have gone := gone_of_finish (placed.fits _ (List.mem_of_getElem? at_b))
    exact resumed_of_batch at_b rfl rfl rfl (congrArg (p.progress.resumed + ·) gone.symm)
  | _ => rfl

/-- A batch gets as many tickets as are issued. -/
theorem nextTicket_of_batch {p q : Pool} {b : Nat} {old new : Batch}
    (at_b : p.batches[b]? = some old) (batches : q.batches = p.batches.set b new)
    (issued : q.nextTicket + old.tickets.length = p.nextTicket + new.tickets.length) :
    q.nextTicket + total (·.tickets.length) p.batches
      = p.nextTicket + total (·.tickets.length) q.batches := by
  have moved := total_set (·.tickets.length) at_b new
  rw [batches]
  omega

/-- A step issues a ticket for each input that it sends. -/
theorem Step.nextTicket_eq {p q : Pool} {m : Move} (s : p.Step m q) :
    q.nextTicket + total (·.tickets.length) p.batches
      = p.nextTicket + total (·.tickets.length) q.batches := by
  cases s with
  | call inputs => simp only [total_append, Batch.tickets, List.length_nil, Nat.add_zero]
  | skip at_b => exact nextTicket_of_batch at_b rfl rfl
  | attach at_b some_input => exact nextTicket_of_batch at_b rfl rfl
  | turnAway at_b => exact nextTicket_of_batch at_b rfl rfl
  | refuse at_b unserved => exact nextTicket_of_batch at_b rfl rfl
  | send at_b served =>
    refine nextTicket_of_batch at_b rfl ?_
    simp only [setBatch, enqueue, Batch.tickets, List.length_append, List.length_singleton]
    omega
  | finish at_b there => exact nextTicket_of_batch at_b rfl rfl
  | _ => rfl

/-- **The tickets issued are those that the batches have.** -/
theorem Lived.nextTicket_eq {p : Pool} (h : p.Lived) :
    p.nextTicket = total (·.tickets.length) p.batches := by
  induction h with
  | new => rfl
  | @step p q m _ s ih =>
    have := Step.nextTicket_eq (.of_step s)
    omega
  | share _ _ _ _ ih => exact ih

/-! ## Where all batches have returned -/

section Returned

variable {p : Pool} (back : ∀ b ∈ p.batches, b.isReturned)

include back

theorem Placed.answered_of_returned (placed : p.Placed) {ticket : Nat}
    (issued : ticket < p.nextTicket) :
    ∃ outcome, (ticket, outcome) ∈ p.replies := by
  obtain ⟨x, hx⟩ := (placed.issued ticket).mpr issued
  obtain ⟨batch, at_b, at_k⟩ := Option.bind_eq_some_iff.mp hx
  have mem := List.mem_of_getElem? at_b
  have fits := placed.fits batch mem
  cases batch with
  | returned inputs tickets summary =>
    obtain ⟨outcome, found⟩ := fits.answered at_k
    exact ⟨outcome, mem_of_lookup found⟩
  | _ => cases back _ mem

section Numbered

variable (numbered : p.Numbered) (placed : p.Placed)

include numbered placed

/-- No worker has a job in its hands. -/
theorem Numbered.job?_of_returned {w : Worker} (mem : w ∈ p.workers) : w.job? = none := by
  cases has : w.job? with
  | none => rfl
  | some job =>
    have started := numbered.ticket_lt_of_held mem has
    have issued : job.ticket < p.nextTicket := by
      have := numbered.next
      omega
    obtain ⟨outcome, answer⟩ := placed.answered_of_returned back issued
    exact absurd answer (numbered.not_replied_of_held mem has outcome)

/-- The queue is empty. -/
theorem Numbered.queue_of_returned : p.queue = [] := by
  cases first : p.queue with
  | nil => rfl
  | cons job queue =>
    obtain ⟨le, lt⟩ := numbered.le_ticket_of_queued (first ▸ List.mem_cons_self)
    obtain ⟨outcome, answer⟩ := placed.answered_of_returned back lt
    have := numbered.ticket_lt_of_replied answer
    simp only at this
    omega

theorem Numbered.runs_of_returned : p.journal.runs.length = p.nextTicket := by
  have := numbered.next
  rw [numbered.queue_of_returned back placed, List.length_nil] at this
  omega

/-- **The answers are those to the tickets issued**, one each. -/
theorem Numbered.replies_perm : (p.replies.map Prod.fst).Perm (List.range p.nextTicket) := by
  have held : p.workers.filterMap Worker.ticket? = [] := by
    refine List.filterMap_eq_nil_iff.mpr fun w mem => ?_
    rw [Worker.ticket?, numbered.job?_of_returned back placed mem, Option.map_none]
  have custody := numbered.custody
  rwa [held, List.nil_append, numbered.runs_of_returned back placed] at custody

/-- Every launch is answered. -/
theorem Numbered.replies_of_returned : p.replies.length = p.nextTicket := by
  have same := (numbered.replies_perm back placed).length_eq
  rwa [List.length_map, List.length_range] at same

end Numbered

/-- **Every input of every batch is settled.** -/
theorem Lived.settled_of_returned (lived : p.Lived) :
    p.settled = total (·.inputs.length) p.batches := by
  have sound := lived.sound
  have none : total (fun w => w.isResumed.toNat) p.workers = 0 := by
    refine total_eq_zero fun w mem => ?_
    have free := sound.numbered.job?_of_returned back sound.placed mem
    cases w with
    | resumed job outcome => cases free
    | _ => rfl
  have each : ∀ b ∈ p.batches, b.gone + b.tickets.length = b.inputs.length := by
    intro b mem
    have returned := back b mem
    cases sound.placed.fits b mem with
    | served all replies => simp only [Batch.gone, Batch.tickets, Batch.inputs, all]; omega
    | refused => simp only [Batch.gone, Batch.tickets, Batch.inputs, List.length_nil]; omega
    | _ => cases returned
  rw [settled, none, sound.numbered.replies_of_returned back sound.placed, lived.nextTicket_eq,
    Nat.add_zero, ← total_add]
  exact total_congr each

end Returned

end Pool

end Relaunch
