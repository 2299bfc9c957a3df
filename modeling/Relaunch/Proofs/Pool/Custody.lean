import Relaunch.Proofs.Pool.Staff

/-!
# Proofs/Pool/Custody — every ticket is in one place

Tickets are numbered without a gap.  Those of the launches that started come first, in the order of
their starts, and those that wait in the queue come next, in the order of the queue.  Every launch
that started is in the hands of one worker or is answered, and never both or twice.

* `Numbered.step` — every step keeps the numbering.
* `Numbered.held_or_replied`, `Numbered.eq_of_held`, `Numbered.not_replied_of_held` — who has the
  ticket of a launch that started.
* `Numbered.reply?_ne_dropped` — no job is ever dropped without an answer.
-/

namespace Relaunch

/-- **One entry of a list is replaced**: what it stood for goes, and what the new one stands for
comes. -/
theorem filterMap_set_perm (f : α → Option β) {l : List α} {i : Nat} {a : α} (at_i : l[i]? = some a)
    (b : α) :
    ((f a).toList ++ (l.set i b).filterMap f).Perm ((f b).toList ++ l.filterMap f) := by
  induction l generalizing i with
  | nil => simp at at_i
  | cons c l ih =>
    have consed : ∀ (c : α) (l : List α),
        (c :: l).filterMap f = (f c).toList ++ l.filterMap f := by
      intro c l
      cases h : f c <;> simp [h]
    cases i with
    | zero =>
      simp only [List.getElem?_cons_zero, Option.some.injEq] at at_i
      subst at_i
      rw [List.set_cons_zero, consed, consed, ← List.append_assoc, ← List.append_assoc]
      exact List.perm_append_comm.append_right _
    | succ i =>
      simp only [List.getElem?_cons_succ] at at_i
      rw [List.set_cons_succ, consed, consed, ← List.append_assoc]
      refine (List.perm_append_comm.append_right _).trans ?_
      rw [List.append_assoc]
      refine ((ih at_i).append_left _).trans ?_
      rw [← List.append_assoc, ← List.append_assoc]
      exact List.perm_append_comm.append_right _

/-- In a list that stands for different things, one thing is stood for by one entry. -/
theorem eq_of_nodup_filterMap {f : α → Option β} {l : List α} (h : (l.filterMap f).Nodup)
    {i j : Nat} {a b : α} {c : β} (at_i : l[i]? = some a) (at_j : l[j]? = some b)
    (fa : f a = some c) (fb : f b = some c) : i = j := by
  have apart := List.pairwise_iff_getElem.mp (List.pairwise_filterMap.mp h)
  obtain ⟨hi, rfl⟩ := List.getElem?_eq_some_iff.mp at_i
  obtain ⟨hj, rfl⟩ := List.getElem?_eq_some_iff.mp at_j
  rcases Nat.lt_trichotomy i j with lt | eq | lt
  · exact absurd rfl (apart i j hi hj lt c fa c fb)
  · exact eq
  · exact absurd rfl (apart j i hj hi lt c fb c fa)

/-- The ticket of the job in a worker's hands. -/
def Worker.ticket? (w : Worker) : Option Nat := w.job?.map Job.ticket

namespace Pool

/-- **The tickets of a pool in their order.** -/
structure Numbered (p : Pool) : Prop where
  started : p.journal.runs.map (·.1.ticket) = List.range p.journal.runs.length
  queued : p.queue.map Job.ticket = List.range' p.journal.runs.length p.queue.length
  next : p.nextTicket = p.journal.runs.length + p.queue.length
  /-- Who has the launches that started. -/
  custody : (p.workers.filterMap Worker.ticket? ++ p.replies.map Prod.fst).Perm
    (List.range p.journal.runs.length)

theorem numbered_new (parallelism : Nat) (pipeline : Pipeline) (start : Nat) :
    (Pool.new parallelism pipeline start).Numbered where
  started := rfl
  queued := rfl
  next := rfl
  custody := by
    have none : ∀ n, (List.replicate n Worker.idle).filterMap Worker.ticket? = [] := by
      intro n
      simp [List.filterMap_replicate, Worker.ticket?, Worker.job?]
    simp only [new, none]
    exact .refl _

/-! ## Steps -/

/-- A worker goes on with what it has. -/
theorem Numbered.worker {p q : Pool} (h : p.Numbered) {i : Nat} {w v : Worker}
    (at_i : p.workers[i]? = some w) (workers : q.workers = p.workers.set i v)
    (same : w.ticket? = v.ticket?) (runs : q.journal.runs = p.journal.runs)
    (queue : q.queue = p.queue) (next : q.nextTicket = p.nextTicket)
    (replies : q.replies = p.replies) : q.Numbered where
  started := by rw [runs, h.started]
  queued := by rw [runs, queue, h.queued]
  next := by rw [runs, queue, next, h.next]
  custody := by
    have swap := filterMap_set_perm Worker.ticket? at_i v
    rw [← same] at swap
    rw [runs, replies, workers]
    exact (((List.perm_append_left_iff _).mp swap).append_right _).trans h.custody

theorem Numbered.take {p : Pool} (h : p.Numbered) {i : Nat} {job : Job} {queue : List Job}
    (at_i : p.workers[i]? = some .polling) (first : p.queue = job :: queue) (run : Run) :
    { p.setWorker i (.running job run) with
      queue := queue
      journal.runs := p.journal.runs ++ [(job, run)] : Pool }.Numbered := by
  have queued := h.queued
  simp only [first, List.map_cons, List.length_cons, List.range'_succ, List.cons.injEq] at queued
  obtain ⟨ticket, queued⟩ := queued
  refine ⟨?_, ?_, ?_, ?_⟩
  · simp [h.started, ticket, List.range_succ]
  · simpa using queued
  · have := h.next
    simp only [first, List.length_cons, setWorker, List.length_append, List.length_nil] at *
    omega
  · have swap := filterMap_set_perm Worker.ticket? at_i (.running job run)
    have gone : Worker.polling.ticket? = none := rfl
    have come : (Worker.running job run).ticket? = some job.ticket := rfl
    rw [gone, come, Option.toList_none, Option.toList_some, List.nil_append] at swap
    rw [ticket] at swap
    simp only [setWorker, List.length_append, List.length_singleton, List.range_succ]
    refine (swap.append_right _).trans ?_
    rw [List.append_assoc]
    exact (h.custody.append_left _).trans List.perm_append_comm

theorem Numbered.answer {p : Pool} (h : p.Numbered) {i : Nat} {job : Job} {outcome : Outcome}
    (at_i : p.workers[i]? = some (.resumed job outcome)) :
    { p.setWorker i .idle with replies := p.replies ++ [(job.ticket, outcome)] }.Numbered := by
  refine ⟨h.started, h.queued, h.next, ?_⟩
  have swap := filterMap_set_perm Worker.ticket? at_i .idle
  have gone : (Worker.resumed job outcome).ticket? = some job.ticket := rfl
  have come : Worker.idle.ticket? = none := rfl
  rw [gone, come, Option.toList_none, Option.toList_some, List.nil_append] at swap
  refine List.Perm.trans ?_ ((swap.append_right _).trans h.custody)
  simp only [setWorker, List.map_append, List.map_cons, List.map_nil]
  rw [← List.append_assoc]
  exact List.perm_append_comm

theorem Numbered.enqueue {p : Pool} (h : p.Numbered) (input : LaunchInput) :
    (p.enqueue input).Numbered := by
  refine ⟨h.started, ?_, ?_, h.custody⟩
  · simp only [Pool.enqueue, List.map_append, List.map_cons, List.map_nil, h.queued, h.next,
      List.length_append, List.length_singleton, List.range'_1_concat]
  · simp only [Pool.enqueue, List.length_append, List.length_singleton, h.next]
    omega

/-- **Every step keeps the numbering.** -/
theorem Numbered.step {p q : Pool} {m : Move} (h : p.Numbered) (s : p.Step m q) : q.Numbered := by
  cases s with
  | seat at_i free => exact h.worker at_i rfl rfl rfl rfl rfl rfl
  | take at_i first => exact h.take at_i first _
  | leave at_i empty alone => exact h.worker at_i rfl rfl rfl rfl rfl rfl
  | judge at_i ended => exact h.worker at_i rfl rfl rfl rfl rfl rfl
  | count at_i => exact h.worker at_i rfl rfl rfl rfl rfl rfl
  | resume at_i => exact h.worker at_i rfl rfl rfl rfl rfl rfl
  | answer at_i => exact h.answer at_i
  | send at_b served =>
    have := h.enqueue
    exact { this _ with }
  | _ => exact { h with }

/-! ## Who has a ticket -/

theorem mem_held {p : Pool} {w : Worker} {job : Job} (mem : w ∈ p.workers)
    (hw : w.job? = some job) : job.ticket ∈ p.workers.filterMap Worker.ticket? :=
  List.mem_filterMap.mpr ⟨w, mem, by rw [Worker.ticket?, hw, Option.map_some]⟩

section Custody

variable {p : Pool} (h : p.Numbered)

include h

theorem Numbered.ticket_lt_of_started {job : Job} {run : Run}
    (started : (job, run) ∈ p.journal.runs) : job.ticket < p.journal.runs.length := by
  have := List.mem_map_of_mem (f := (·.1.ticket)) started
  rw [h.started] at this
  exact List.mem_range.mp this

theorem Numbered.le_ticket_of_queued {job : Job} (queued : job ∈ p.queue) :
    p.journal.runs.length ≤ job.ticket ∧ job.ticket < p.nextTicket := by
  have := List.mem_map_of_mem (f := Job.ticket) queued
  rw [h.queued, List.mem_range'_1] at this
  rw [h.next]
  exact this

/-- The tickets of launches are the numbers of their starts. -/
theorem Numbered.ticket_getElem {k : Nat} (lt : k < p.journal.runs.length) :
    p.journal.runs[k].1.ticket = k := by
  have := congrArg (·[k]?) h.started
  simpa [lt] using this

/-- One ticket, one launch. -/
theorem Numbered.eq_of_started {e f : Job × Run} (he : e ∈ p.journal.runs)
    (hf : f ∈ p.journal.runs) (same : e.1.ticket = f.1.ticket) : e = f := by
  obtain ⟨i, hi, rfl⟩ := List.getElem_of_mem he
  obtain ⟨j, hj, rfl⟩ := List.getElem_of_mem hf
  rw [h.ticket_getElem, h.ticket_getElem] at same
  subst same
  rfl

theorem Numbered.nodup_custody :
    (p.workers.filterMap Worker.ticket? ++ p.replies.map Prod.fst).Nodup :=
  h.custody.nodup_iff.mpr List.nodup_range

theorem Numbered.mem_custody {ticket : Nat} :
    ticket ∈ p.workers.filterMap Worker.ticket? ++ p.replies.map Prod.fst
      ↔ ticket < p.journal.runs.length :=
  h.custody.mem_iff.trans List.mem_range

/-- **A launch that started is in a worker's hands or is answered.** -/
theorem Numbered.held_or_replied {ticket : Nat} (started : ticket < p.journal.runs.length) :
    (∃ (i : Nat) (w : Worker) (job : Job),
      p.workers[i]? = some w ∧ w.job? = some job ∧ job.ticket = ticket) ∨
      ∃ outcome, (ticket, outcome) ∈ p.replies := by
  rcases List.mem_append.mp (h.mem_custody.mpr started) with held | replied
  · obtain ⟨w, mem, eq⟩ := List.mem_filterMap.mp held
    obtain ⟨job, hjob, rfl⟩ := Option.map_eq_some_iff.mp eq
    obtain ⟨i, at_i⟩ := List.mem_iff_getElem?.mp mem
    exact .inl ⟨i, w, job, at_i, hjob, rfl⟩
  · obtain ⟨⟨t, outcome⟩, mem, rfl⟩ := List.mem_map.mp replied
    exact .inr ⟨outcome, mem⟩

/-- **No two workers have the same ticket in their hands.** -/
theorem Numbered.eq_of_held {i j : Nat} {w v : Worker} {job other : Job}
    (at_i : p.workers[i]? = some w) (at_j : p.workers[j]? = some v) (hw : w.job? = some job)
    (hv : v.job? = some other) (same : job.ticket = other.ticket) : i = j :=
  eq_of_nodup_filterMap (List.nodup_append.mp h.nodup_custody).1 at_i at_j
    (by rw [Worker.ticket?, hw, Option.map_some])
    (by rw [Worker.ticket?, hv, Option.map_some, same])

/-- **A ticket in a worker's hands is not answered.** -/
theorem Numbered.not_replied_of_held {w : Worker} {job : Job} (mem : w ∈ p.workers)
    (hw : w.job? = some job) (outcome : Outcome) : (job.ticket, outcome) ∉ p.replies := by
  intro replied
  exact (List.nodup_append.mp h.nodup_custody).2.2 _ (mem_held mem hw) _
    (List.mem_map_of_mem (f := Prod.fst) replied) rfl

theorem Numbered.ticket_lt_of_held {w : Worker} {job : Job} (mem : w ∈ p.workers)
    (hw : w.job? = some job) : job.ticket < p.journal.runs.length :=
  h.mem_custody.mp (List.mem_append_left _ (mem_held mem hw))

theorem Numbered.ticket_lt_of_replied {reply : Nat × Outcome} (mem : reply ∈ p.replies) :
    reply.1 < p.journal.runs.length :=
  h.mem_custody.mp (List.mem_append_right _ (List.mem_map_of_mem mem))

/-- An answer is found under its ticket. -/
theorem Numbered.lookup_of_replied {ticket : Nat} {outcome : Outcome}
    (mem : (ticket, outcome) ∈ p.replies) : p.replies.lookup ticket = some outcome := by
  have nodup := (List.nodup_append.mp h.nodup_custody).2.1
  revert nodup mem
  generalize p.replies = l
  intro mem nodup
  induction l with
  | nil => cases mem
  | cons r l ih =>
    obtain ⟨t, o⟩ := r
    simp only [List.map_cons, List.nodup_cons] at nodup
    rw [List.lookup_cons]
    rcases List.mem_cons.mp mem with eq | later
    · cases eq
      simp
    · have ne : ticket ≠ t := by
        rintro rfl
        exact nodup.1 (List.mem_map.mpr ⟨_, later, rfl⟩)
      have : (ticket == t) = false := by simpa using ne
      rw [this]
      exact ih later nodup.2

end Custody

/-- What is found under a ticket is an answer. -/
theorem mem_of_lookup {l : List (Nat × Outcome)} {ticket : Nat} {outcome : Outcome}
    (h : l.lookup ticket = some outcome) : (ticket, outcome) ∈ l := by
  obtain ⟨before, after, rfl, -⟩ := List.lookup_eq_some_iff.mp h
  exact List.mem_append_right _ List.mem_cons_self

/-! ## Replies -/

/-- **No job is dropped without an answer**: the reply to a ticket is open, or it is an answer. -/
theorem Numbered.reply?_eq {p : Pool} (h : p.Numbered) (staffed : p.Staffed) {ticket : Nat}
    (issued : ticket < p.nextTicket) :
    p.reply? ticket = (p.replies.lookup ticket).map .answered := by
  unfold reply?
  split
  · rename_i outcome found
    rw [found]
    rfl
  · rename_i missing
    rw [missing]
    split
    · rfl
    · rename_i unheld
      by_cases started : ticket < p.journal.runs.length
      · rcases h.held_or_replied started with ⟨i, w, job, at_i, hw, rfl⟩ | ⟨outcome, replied⟩
        · refine absurd (List.any_eq_true.mpr ⟨w, List.mem_of_getElem? at_i, ?_⟩) unheld
          simp [hw]
        · rw [h.lookup_of_replied replied] at missing
          cases missing
      · have queued : ticket ∈ p.queue.map Job.ticket := by
          rw [h.queued, List.mem_range'_1, ← h.next]
          omega
        obtain ⟨job, mem, rfl⟩ := List.mem_map.mp queued
        have waits : p.queue.any (·.ticket == job.ticket) = true :=
          List.any_eq_true.mpr ⟨job, mem, by simp⟩
        have served : p.isServed = true := by
          obtain ⟨w, here⟩ := List.exists_mem_of_ne_nil _ staffed.some_worker
          refine List.any_eq_true.mpr ⟨w, here, ?_⟩
          cases w with
          | exited =>
            rw [(staffed.left_behind here).1] at mem
            cases mem
          | _ => rfl
        rw [if_pos (by rw [served, waits]; rfl)]
        rfl

theorem Numbered.reply?_ne_dropped {p : Pool} (h : p.Numbered) (staffed : p.Staffed) {ticket : Nat}
    (issued : ticket < p.nextTicket) : p.reply? ticket ≠ some .dropped := by
  rw [h.reply?_eq staffed issued]
  cases p.replies.lookup ticket <;> simp

end Pool

end Relaunch
