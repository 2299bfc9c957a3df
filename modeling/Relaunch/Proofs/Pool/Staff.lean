import Relaunch.Proofs.Pool.Step

/-!
# Proofs/Pool/Staff — no worker leaves while anyone can fill the queue

A worker leaves only an empty queue that no one can fill any more, and a queue that no one can fill
stays so.  Hence a batch with a place at the queue always finds a worker (`Staffed.isServed`), and
the queue of a pool that a worker has left is empty.

* `Staffed.step` — every step keeps a pool staffed.
* `isConnected_of_step` — a step connects no one to the queue of a pool that had no one.
-/

namespace Relaunch

theorem mem_set_of_ne {l : List α} {i : Nat} {a b : α} (ne : a ≠ b) (h : a ∈ l.set i b) : a ∈ l :=
  (List.mem_or_eq_of_mem_set h).resolve_right ne

theorem mem_set_of_getElem?_ne {l : List α} {i : Nat} {a b c : α} (at_i : l[i]? = some a)
    (mem : c ∈ l) (ne : c ≠ a) : c ∈ l.set i b := by
  obtain ⟨j, at_j⟩ := List.mem_iff_getElem?.mp mem
  refine List.mem_iff_getElem?.mpr ⟨j, ?_⟩
  rw [List.getElem?_set_ne, at_j]
  rintro rfl
  exact ne (Option.some.inj (at_j.symm.trans at_i))

namespace Pool

/-- **A pool with its workers in place.** -/
structure Staffed (p : Pool) : Prop where
  some_worker : p.workers ≠ []
  /-- A worker leaves an empty queue, which no one fills. -/
  left_behind : .exited ∈ p.workers → p.queue = [] ∧ p.isConnected = false
  /-- The queue is shut by closings, and by nothing else. -/
  shut_iff : p.isOpen = false ↔ ∃ c ∈ p.closings, c ≠ .called

theorem staffed_new (parallelism : Nat) (pipeline : Pipeline) (start : Nat) :
    (Pool.new parallelism pipeline start).Staffed where
  some_worker := by
    intro none
    have := congrArg List.length none
    simp only [new, List.length_replicate, List.length_nil] at this
    omega
  left_behind gone := by
    have := List.eq_of_mem_replicate gone
    cases this
  shut_iff := by simp [new]

/-- A batch with a place at the queue finds a worker. -/
theorem Staffed.isServed {p : Pool} (h : p.Staffed) (connected : p.isConnected = true) :
    p.isServed = true := by
  obtain ⟨w, mem⟩ := List.exists_mem_of_ne_nil _ h.some_worker
  refine List.any_eq_true.mpr ⟨w, mem, ?_⟩
  cases w with
  | exited =>
    have := (h.left_behind mem).2
    rw [connected] at this
    cases this
  | _ => rfl

theorem isConnected_of_attached {p : Pool} {b : Nat} {inputs rest : List LaunchInput}
    {tickets : List Nat} {rejected : Nat}
    (at_b : p.batches[b]? = some (.sending true inputs rest tickets rejected)) :
    p.isConnected = true := by
  have : p.batches.any Batch.isAttached = true :=
    List.any_eq_true.mpr ⟨_, List.mem_of_getElem? at_b, rfl⟩
  simp [isConnected, this]

/-- A batch that is no nearer to the queue than the one it replaces connects no one. -/
theorem any_isAttached_set {l : List Batch} {b : Nat} {old new : Batch} (at_b : l[b]? = some old)
    (le : new.isAttached = true → old.isAttached = true)
    (h : (l.set b new).any Batch.isAttached = true) : l.any Batch.isAttached = true := by
  obtain ⟨c, mem, attached⟩ := List.any_eq_true.mp h
  rcases List.mem_or_eq_of_mem_set mem with mem | rfl
  · exact List.any_eq_true.mpr ⟨c, mem, attached⟩
  · exact List.any_eq_true.mpr ⟨old, List.mem_of_getElem? at_b, le attached⟩

/-- **A step connects no one to a queue that no one could fill.** -/
theorem isConnected_of_step {p q : Pool} {m : Move} (s : p.Step m q)
    (h : q.isConnected = true) : p.isConnected = true := by
  have weaken : ∀ {b : Nat} {old new : Batch}, p.batches[b]? = some old →
      (new.isAttached = true → old.isAttached = true) →
      (p.isOpen || (p.batches.set b new).any Batch.isAttached) = true → p.isConnected = true := by
    intro b old new at_b le h
    rcases Bool.or_eq_true _ _ ▸ h with isOpen | attached
    · simp [isConnected, isOpen]
    · simp [isConnected, any_isAttached_set at_b le attached]
  cases s with
  | call inputs => simpa [isConnected, Batch.isAttached] using h
  | skip at_b => exact weaken at_b (by simp [Batch.isAttached]) h
  | attach at_b some_input =>
    rcases hopen : p.isOpen with _ | _
    · simp only [setBatch, hopen, isConnected, Bool.false_or] at h ⊢
      exact any_isAttached_set at_b (by simp [Batch.isAttached]) h
    · simp [isConnected, hopen]
  | turnAway at_b => exact weaken at_b (by simp [Batch.isAttached]) h
  | refuse at_b unserved => exact weaken at_b (fun _ => rfl) h
  | send at_b served => exact weaken at_b (fun _ => rfl) h
  | finish at_b there => exact weaken at_b (by simp [Batch.isAttached]) h
  | shut at_c =>
    simp only [setClosing, isConnected, Bool.false_or] at h ⊢
    simp [h]
  | _ => exact h

/-- A worker that does not leave leaves those who left. -/
theorem Staffed.worker {p q : Pool} {m : Move} (h : p.Staffed) (s : p.Step m q) {i : Nat}
    {w : Worker} (workers : q.workers = p.workers.set i w) (ne : w ≠ .exited)
    (queue : p.queue = [] → q.queue = []) (closings : q.closings = p.closings)
    (isOpen : q.isOpen = p.isOpen) : q.Staffed where
  some_worker := by
    rw [workers]
    simpa using h.some_worker
  left_behind gone := by
    rw [workers] at gone
    obtain ⟨empty, alone⟩ := h.left_behind (mem_set_of_ne ne.symm gone)
    refine ⟨queue empty, ?_⟩
    cases connected : q.isConnected with
    | false => rfl
    | true =>
      rw [isConnected_of_step s connected] at alone
      cases alone
  shut_iff := by
    rw [isOpen, closings]
    exact h.shut_iff

/-- A step that is none of the workers'. -/
theorem Staffed.other {p q : Pool} {m : Move} (h : p.Staffed) (s : p.Step m q)
    (workers : q.workers = p.workers) (queue : q.queue = p.queue)
    (shut_iff : q.isOpen = false ↔ ∃ c ∈ q.closings, c ≠ .called) : q.Staffed where
  some_worker := workers ▸ h.some_worker
  left_behind gone := by
    obtain ⟨empty, alone⟩ := h.left_behind (workers ▸ gone)
    refine ⟨queue ▸ empty, ?_⟩
    cases connected : q.isConnected with
    | false => rfl
    | true =>
      rw [isConnected_of_step s connected] at alone
      cases alone
  shut_iff := shut_iff

/-- A closing that has shut the queue, whatever it does next. -/
theorem shut_iff_setClosing {p : Pool} (h : p.Staffed) {c : Nat} {old new : Closing}
    (at_c : p.closings[c]? = some old) (old_ne : old ≠ .called) (new_ne : new ≠ .called) :
    p.isOpen = false ↔ ∃ d ∈ p.closings.set c new, d ≠ .called := by
  have here : c < p.closings.length := (List.getElem?_eq_some_iff.mp at_c).1
  refine ⟨fun _ => ⟨new, List.mem_set here new, new_ne⟩, fun _ => ?_⟩
  exact h.shut_iff.mpr ⟨old, List.mem_of_getElem? at_c, old_ne⟩

/-- **Every step keeps a pool staffed.** -/
theorem Staffed.step {p q : Pool} {m : Move} (h : p.Staffed) (s : p.Step m q) : q.Staffed := by
  cases s with
  | seat at_i free => exact h.worker (.seat at_i free) rfl nofun id rfl rfl
  | take at_i first =>
    refine h.worker (.take at_i first) rfl nofun (fun empty => ?_) rfl rfl
    rw [empty] at first
    cases first
  | leave at_i empty alone =>
    refine ⟨by simpa [setWorker] using h.some_worker, fun _ => ⟨empty, alone⟩, h.shut_iff⟩
  | judge at_i ended => exact h.worker (.judge at_i ended) rfl nofun id rfl rfl
  | count at_i => exact h.worker (.count at_i) rfl nofun id rfl rfl
  | resume at_i => exact h.worker (.resume at_i) rfl nofun id rfl rfl
  | answer at_i => exact h.worker (.answer at_i) rfl nofun id rfl rfl
  | send at_b served =>
    refine ⟨h.some_worker, fun gone => ?_, h.shut_iff⟩
    have := (h.left_behind gone).2
    rw [isConnected_of_attached at_b] at this
    cases this
  | close =>
    refine h.other .close rfl rfl ?_
    simp [h.shut_iff]
  | shut at_c =>
    have here := (List.getElem?_eq_some_iff.mp at_c).1
    exact h.other (.shut at_c) rfl rfl
      ⟨fun _ => ⟨.shut, List.mem_set here _, nofun⟩, fun _ => rfl⟩
  | takeCharge at_c =>
    exact h.other (.takeCharge at_c) rfl rfl (shut_iff_setClosing h at_c (by simp) (by simp))
  | join at_c gone =>
    exact h.other (.join at_c gone) rfl rfl (shut_iff_setClosing h at_c (by simp) (by simp))
  | tick later => exact h.other (.tick later) rfl rfl h.shut_iff
  | call inputs => exact h.other (.call inputs) rfl rfl h.shut_iff
  | skip at_b => exact h.other (.skip at_b) rfl rfl h.shut_iff
  | attach at_b some_input => exact h.other (.attach at_b some_input) rfl rfl h.shut_iff
  | turnAway at_b => exact h.other (.turnAway at_b) rfl rfl h.shut_iff
  | refuse at_b unserved => exact h.other (.refuse at_b unserved) rfl rfl h.shut_iff
  | finish at_b there => exact h.other (.finish at_b there) rfl rfl h.shut_iff

end Pool

end Relaunch
