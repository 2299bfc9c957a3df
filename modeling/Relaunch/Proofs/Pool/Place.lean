import Relaunch.Proofs.Pool.Custody

/-!
# Proofs/Pool/Place — every ticket is one input's

An input has a **place**: the batch that brought it and its number there.  A batch either gets a
place at the queue and sends all its inputs, each with a ticket of its own, or gets none and has all
of them turned away (`Batch.Fits`); so the `k`-th ticket of a batch is that of its `k`-th input.

* `Placed.step` — every step keeps tickets and places together.
-/

namespace Relaunch

/-- **Where an input stands**: its batch and its number there. -/
structure Place where
  batch : Nat
  index : Nat
deriving DecidableEq, Repr

/-- **How far a batch can be** in a pool. -/
inductive Batch.Fits (p : Pool) : Batch → Prop where
  | called (inputs : List LaunchInput) : Fits p (.called inputs)
  /-- It has a place at the queue, and sent its first inputs. -/
  | attached {inputs rest : List LaunchInput} {tickets : List Nat}
      (sent : inputs.drop tickets.length = rest) (le : tickets.length ≤ inputs.length) :
      Fits p (.sending true inputs rest tickets 0)
  /-- It came too late, and had its first inputs turned away. -/
  | detached {inputs rest : List LaunchInput} {rejected : Nat} (shut : p.isOpen = false)
      (gone : inputs.drop rejected = rest) (le : rejected ≤ inputs.length) :
      Fits p (.sending false inputs rest [] rejected)
  /-- All its inputs were sent and answered. -/
  | served {inputs : List LaunchInput} {tickets : List Nat} {outcomes : List Outcome}
      (all : tickets.length = inputs.length)
      (replies : tickets.map (fun t => p.replies.lookup t) = outcomes.map some) :
      Fits p (.returned inputs tickets
        ⟨inputs.length, outcomes.count .succeeded, outcomes.count .failed⟩)
  /-- All its inputs were turned away. -/
  | refused (inputs : List LaunchInput) :
      Fits p (.returned inputs [] ⟨inputs.length, 0, inputs.length⟩)

namespace Pool

/-- The input at a place. -/
def inputAt (p : Pool) (x : Place) : Option LaunchInput :=
  p.batches[x.batch]?.bind fun b => b.inputs[x.index]?

/-- The ticket of the input at a place, once it is sent. -/
def ticketAt (p : Pool) (x : Place) : Option Nat :=
  p.batches[x.batch]?.bind fun b => b.tickets[x.index]?

/-- The jobs that ever came into the queue. -/
def jobs (p : Pool) : List Job := p.queue ++ p.journal.runs.map Prod.fst

/-- **A pool whose tickets are in place.** -/
structure Placed (p : Pool) : Prop where
  fits : ∀ b ∈ p.batches, b.Fits p
  issued : ∀ t, (∃ x, p.ticketAt x = some t) ↔ t < p.nextTicket
  unique : ∀ x y t, p.ticketAt x = some t → p.ticketAt y = some t → x = y
  /-- A job has the input of the place that has its ticket. -/
  carried : ∀ job ∈ p.jobs, ∀ x, p.ticketAt x = some job.ticket → p.inputAt x = some job.input

theorem placed_new (parallelism : Nat) (pipeline : Pipeline) (start : Nat) :
    (Pool.new parallelism pipeline start).Placed where
  fits := nofun
  issued _ := ⟨fun ⟨_, h⟩ => (nomatch h), fun h => (nomatch h)⟩
  unique := nofun
  carried := nofun

/-! ## What steps do to places -/

/-- What is read of a batch is the same where it stays the same. -/
theorem map_set {l : List Batch} {b : Nat} {old new : Batch} (at_b : l[b]? = some old)
    {f : Batch → α} (same : f new = f old) (i : Nat) :
    (l.set b new)[i]?.map f = l[i]?.map f := by
  have here := (List.getElem?_eq_some_iff.mp at_b).1
  by_cases eq : b = i
  · rw [← eq, List.getElem?_set_self here, at_b, Option.map_some, Option.map_some, same]
  · rw [List.getElem?_set_ne eq]

theorem ticketAt_set {p q : Pool} {b : Nat} {old new : Batch} (at_b : p.batches[b]? = some old)
    (batches : q.batches = p.batches.set b new) (same : new.tickets = old.tickets) :
    q.ticketAt = p.ticketAt := by
  funext x
  have kept := congrArg (·.bind (·[x.index]?)) (map_set at_b same x.batch)
  simp only [Option.bind_map] at kept
  rw [ticketAt, ticketAt, batches]
  exact kept

theorem inputAt_set {p q : Pool} {b : Nat} {old new : Batch} (at_b : p.batches[b]? = some old)
    (batches : q.batches = p.batches.set b new) (same : new.inputs = old.inputs) :
    q.inputAt = p.inputAt := by
  funext x
  have kept := congrArg (·.bind (·[x.index]?)) (map_set at_b same x.batch)
  simp only [Option.bind_map] at kept
  rw [inputAt, inputAt, batches]
  exact kept

/-- Sending an input gives its place the next ticket. -/
theorem ticketAt_send {p q : Pool} {b : Nat} {old new : Batch} {ticket : Nat}
    (at_b : p.batches[b]? = some old) (batches : q.batches = p.batches.set b new)
    (more : new.tickets = old.tickets ++ [ticket]) (x : Place) :
    q.ticketAt x = if x = ⟨b, old.tickets.length⟩ then some ticket else p.ticketAt x := by
  have here := (List.getElem?_eq_some_iff.mp at_b).1
  obtain ⟨c, k⟩ := x
  simp only [ticketAt, batches, List.getElem?_set, Place.mk.injEq]
  by_cases eq : b = c
  · subst eq
    rw [if_pos rfl, if_pos here, Option.bind_some, at_b, Option.bind_some, more,
      List.getElem?_append]
    rcases Nat.lt_trichotomy k old.tickets.length with lt | rfl | gt
    · rw [if_pos lt, if_neg (by omega)]
    · simp
    · have beyond : old.tickets.length + 1 ≤ k := gt
      rw [if_neg (by omega), if_neg (by omega), List.getElem?_eq_none (by omega : _ ≤ k),
        List.getElem?_eq_none (by simp only [List.length_singleton]; omega)]
  · rw [if_neg eq, if_neg (by omega)]

/-- A new batch has sent nothing. -/
theorem ticketAt_call (p : Pool) (inputs : List LaunchInput) :
    { p with batches := p.batches ++ [.called inputs] : Pool }.ticketAt = p.ticketAt := by
  funext x
  simp only [ticketAt, List.getElem?_append]
  split
  · rfl
  · rename_i beyond
    rw [List.getElem?_eq_none (by omega : p.batches.length ≤ x.batch), Option.bind_none]
    cases h : [Batch.called inputs][x.batch - p.batches.length]? with
    | none => rfl
    | some b =>
      obtain rfl := List.mem_singleton.mp (List.mem_of_getElem? h)
      rfl

theorem inputAt_call {p : Pool} {x : Place} {input : LaunchInput} (inputs : List LaunchInput)
    (h : p.inputAt x = some input) :
    { p with batches := p.batches ++ [.called inputs] : Pool }.inputAt x = some input := by
  obtain ⟨b, at_b, at_k⟩ := Option.bind_eq_some_iff.mp h
  have here := (List.getElem?_eq_some_iff.mp at_b).1
  simp only [inputAt, List.getElem?_append, if_pos here, at_b, Option.bind_some, at_k]

/-! ## What steps do to batches -/

/-- Once shut, a queue stays shut. -/
theorem isOpen_of_step {p q : Pool} {m : Move} (s : p.Step m q) (shut : p.isOpen = false) :
    q.isOpen = false := by
  cases s with
  | shut => rfl
  | _ => exact shut

/-- An answer stays. -/
theorem lookup_of_step {p q : Pool} {m : Move} (s : p.Step m q) {ticket : Nat} {outcome : Outcome}
    (found : p.replies.lookup ticket = some outcome) :
    q.replies.lookup ticket = some outcome := by
  cases s with
  | answer at_i => simp only [List.lookup_append, found, Option.some_or]
  | _ => exact found

end Pool

open Pool

/-- How far a batch can be depends on the door and the answers only. -/
theorem Batch.Fits.congr {p q : Pool} {b : Batch} (h : b.Fits p) (isOpen : q.isOpen = p.isOpen)
    (replies : q.replies = p.replies) : b.Fits q := by
  cases h with
  | called inputs => exact .called inputs
  | attached sent le => exact .attached sent le
  | detached shut gone le => exact .detached (isOpen.trans shut) gone le
  | served all answers => exact .served all (replies ▸ answers)
  | refused inputs => exact .refused inputs

/-- A batch that does nothing itself stays as far as it is. -/
theorem Batch.Fits.of_step {p q : Pool} {m : Move} {b : Batch} (h : b.Fits p) (s : p.Step m q) :
    b.Fits q := by
  cases h with
  | called inputs => exact .called inputs
  | attached sent le => exact .attached sent le
  | detached shut gone le => exact .detached (isOpen_of_step s shut) gone le
  | refused inputs => exact .refused inputs
  | @served inputs tickets outcomes all replies =>
    refine .served all ?_
    rw [← replies]
    refine List.map_congr_left fun t mem => ?_
    have found := List.mem_map_of_mem (f := fun t => p.replies.lookup t) mem
    rw [replies] at found
    obtain ⟨outcome, -, found⟩ := List.mem_map.mp found
    rw [← found, lookup_of_step s found.symm]

/-- The first of what is left of a list. -/
theorem of_drop_eq_cons {l rest : List α} {a : α} {n : Nat} (h : l.drop n = a :: rest) :
    l[n]? = some a ∧ l.drop (n + 1) = rest ∧ l.length = n + (rest.length + 1) := by
  refine ⟨?_, ?_, ?_⟩
  · have first := congrArg (·[0]?) h
    simpa only [List.getElem?_drop, List.getElem?_cons_zero, Nat.add_zero] using first
  · rw [← List.drop_drop, h]
    rfl
  · have length := congrArg List.length h
    rw [List.length_drop, List.length_cons] at length
    omega

/-- **A batch that sends an input** has one less left. -/
theorem Batch.Fits.send {p q : Pool} {inputs : List LaunchInput} {input : LaunchInput}
    {rest : List LaunchInput} {tickets : List Nat} {rejected : Nat}
    (h : (Batch.sending true inputs (input :: rest) tickets rejected).Fits p) (ticket : Nat) :
    (Batch.sending true inputs rest (tickets ++ [ticket]) rejected).Fits q := by
  cases h with
  | attached sent le =>
    obtain ⟨-, left, length⟩ := of_drop_eq_cons sent
    refine .attached ?_ ?_
    · rw [List.length_append, List.length_singleton, left]
    · rw [List.length_append, List.length_singleton]
      omega

/-- So has one that has an input turned away. -/
theorem Batch.Fits.turnAway {p q : Pool} {inputs : List LaunchInput} {input : LaunchInput}
    {rest : List LaunchInput} {tickets : List Nat} {rejected : Nat}
    (h : (Batch.sending false inputs (input :: rest) tickets rejected).Fits p)
    (still : q.isOpen = p.isOpen) :
    (Batch.sending false inputs rest tickets (rejected + 1)).Fits q := by
  cases h with
  | detached shut gone le =>
    obtain ⟨-, left, length⟩ := of_drop_eq_cons gone
    exact .detached (still.trans shut) left (by omega)

/-- **A batch with nothing left to send** sent all its inputs, or had all of them turned away. -/
theorem Batch.Fits.whole {p : Pool} {attached : Bool} {inputs : List LaunchInput}
    {tickets : List Nat} {rejected : Nat}
    (h : (Batch.sending attached inputs [] tickets rejected).Fits p) :
    tickets.length = (if attached then inputs.length else 0) ∧
      rejected = if attached then 0 else inputs.length := by
  cases h with
  | attached sent le => exact ⟨Nat.le_antisymm le (List.drop_eq_nil_iff.mp sent), rfl⟩
  | detached shut gone le => exact ⟨rfl, Nat.le_antisymm le (List.drop_eq_nil_iff.mp gone)⟩

/-- **A ticket of a batch that has returned is answered.** -/
theorem Batch.Fits.answered {p : Pool} {inputs : List LaunchInput} {tickets : List Nat}
    {summary : Summary} (h : (Batch.returned inputs tickets summary).Fits p) {k t : Nat}
    (at_k : tickets[k]? = some t) : ∃ outcome, p.replies.lookup t = some outcome := by
  cases h with
  | @served _ _ outcomes all replies =>
    have found := congrArg (·[k]?) replies
    simp only [List.getElem?_map, at_k, Option.map_some] at found
    obtain ⟨outcome, -, found⟩ := Option.map_eq_some_iff.mp found.symm
    exact ⟨outcome, found.symm⟩
  | refused => cases at_k

/-- The summary of answers counts them. -/
theorem Pool.summarize_answered (submitted rejected : Nat) (outcomes : List Outcome) :
    summarize submitted rejected (outcomes.map .answered)
      = ⟨submitted, outcomes.count .succeeded, rejected + outcomes.count .failed⟩ := by
  have added : ∀ (outcomes : List Outcome) (s : Summary),
      (outcomes.map Reply.answered).foldl (fun s reply => s.add reply.outcome) s
        = ⟨s.submitted, s.succeeded + outcomes.count .succeeded,
          s.failed + outcomes.count .failed⟩ := by
    intro outcomes
    induction outcomes with
    | nil => intro s; rfl
    | cons o outcomes ih =>
      intro s
      rw [List.map_cons, List.foldl_cons, ih]
      cases o <;> simp [Reply.outcome, Summary.add] <;> omega
  rw [summarize, added]
  simp

/-- Where there is a reply for each ticket issued, each of them is an answer. -/
theorem Pool.Numbered.outcomes_of_replies {p : Pool} (numbered : p.Numbered) (staffed : p.Staffed)
    {tickets : List Nat} {replies : List Reply} (issued : ∀ t ∈ tickets, t < p.nextTicket)
    (there : tickets.mapM p.reply? = some replies) :
    ∃ outcomes : List Outcome,
      tickets.map (fun t => p.replies.lookup t) = outcomes.map some ∧
        replies = outcomes.map .answered := by
  induction tickets generalizing replies with
  | nil =>
    cases there
    exact ⟨[], rfl, rfl⟩
  | cons t tickets ih =>
    rw [List.mapM_cons] at there
    obtain ⟨reply, ht, there⟩ := Option.bind_eq_some_iff.mp there
    obtain ⟨rest, hrest, eq⟩ := Option.bind_eq_some_iff.mp there
    cases eq
    rw [numbered.reply?_eq staffed (issued t List.mem_cons_self)] at ht
    obtain ⟨outcome, found, rfl⟩ := Option.map_eq_some_iff.mp ht
    obtain ⟨outcomes, founds, rfl⟩ := ih (fun t mem => issued t (List.mem_cons_of_mem _ mem)) hrest
    exact ⟨outcome :: outcomes, by simp [found, founds], rfl⟩

/-- **A batch that returns fits.** -/
theorem Batch.Fits.finish {p : Pool} (staffed : p.Staffed) (numbered : p.Numbered)
    {attached : Bool} {inputs : List LaunchInput} {tickets : List Nat} {rejected : Nat}
    {replies : List Reply} (h : (Batch.sending attached inputs [] tickets rejected).Fits p)
    (issued : ∀ t ∈ tickets, t < p.nextTicket) (there : tickets.mapM p.reply? = some replies) :
    (Batch.returned inputs tickets (summarize inputs.length rejected replies)).Fits p := by
  obtain ⟨all, rejects⟩ := h.whole
  cases h with
  | attached sent le =>
    obtain ⟨outcomes, found, rfl⟩ := numbered.outcomes_of_replies staffed issued there
    rw [summarize_answered, Nat.zero_add]
    exact .served all found
  | detached shut gone le =>
    cases there
    rw [rejects]
    exact .refused inputs

/-! ## Every step keeps tickets and places together -/

namespace Pool

/-- A step that issues no ticket. -/
theorem Placed.of_ticketAt {p q : Pool} {m : Move} (h : p.Placed) (s : p.Step m q)
    (tickets : q.ticketAt = p.ticketAt)
    (inputs : ∀ x input, p.inputAt x = some input → q.inputAt x = some input)
    (next : q.nextTicket = p.nextTicket) (jobs : ∀ job ∈ q.jobs, job ∈ p.jobs)
    (fits : ∀ b ∈ q.batches, b ∈ p.batches ∨ b.Fits q) : q.Placed where
  fits b mem := by
    rcases fits b mem with old | new
    · exact (h.fits b old).of_step s
    · exact new
  issued := by
    rw [tickets, next]
    exact h.issued
  unique := by
    rw [tickets]
    exact h.unique
  carried := by
    rw [tickets]
    exact fun job mem x hx => inputs x _ (h.carried job (jobs job mem) x hx)

/-- A step of a batch that issues no ticket. -/
theorem Placed.setBatch {p q : Pool} {m : Move} (h : p.Placed) (s : p.Step m q) {b : Nat}
    {old new : Batch} (at_b : p.batches[b]? = some old) (batches : q.batches = p.batches.set b new)
    (tickets : new.tickets = old.tickets) (inputs : new.inputs = old.inputs)
    (next : q.nextTicket = p.nextTicket) (jobs : q.jobs = p.jobs) (fits : new.Fits q) :
    q.Placed := by
  refine h.of_ticketAt s (ticketAt_set at_b batches tickets) ?_ next (fun job mem => jobs ▸ mem) ?_
  · intro x input
    rw [inputAt_set at_b batches inputs]
    exact id
  · intro c mem
    rw [batches] at mem
    rcases List.mem_or_eq_of_mem_set mem with mem | rfl
    · exact .inl mem
    · exact .inr fits

/-- A step that leaves the batches as they are. -/
theorem Placed.other {p q : Pool} {m : Move} (h : p.Placed) (s : p.Step m q)
    (batches : q.batches = p.batches) (next : q.nextTicket = p.nextTicket)
    (jobs : ∀ job ∈ q.jobs, job ∈ p.jobs) : q.Placed := by
  refine h.of_ticketAt s ?_ ?_ next jobs fun b mem => .inl (batches ▸ mem)
  · funext x
    rw [ticketAt, batches, ticketAt]
  · intro x input
    rw [inputAt, inputAt, batches]
    exact id

/-- Every job that ever came into the queue has a ticket that was issued. -/
theorem Numbered.ticket_lt_of_job {p : Pool} (h : p.Numbered) {job : Job} (mem : job ∈ p.jobs) :
    job.ticket < p.nextTicket := by
  rcases List.mem_append.mp mem with queued | started
  · exact (h.le_ticket_of_queued queued).2
  · obtain ⟨⟨_, run⟩, ran, rfl⟩ := List.mem_map.mp started
    have := h.next
    exact Nat.lt_of_lt_of_le (h.ticket_lt_of_started ran) (by omega)

theorem Placed.ticketAt_ne_next {p : Pool} (h : p.Placed) (x : Place) :
    p.ticketAt x ≠ some p.nextTicket :=
  fun hx => Nat.lt_irrefl _ ((h.issued _).mp ⟨x, hx⟩)

section Send

variable {p : Pool} {b : Nat} {inputs : List LaunchInput} {input : LaunchInput}
  {rest : List LaunchInput} {tickets : List Nat} {rejected : Nat}

/-- The place of the input that a batch sends next, which has no ticket yet. -/
theorem Placed.next (h : p.Placed)
    (at_b : p.batches[b]? = some (.sending true inputs (input :: rest) tickets rejected)) :
    p.ticketAt ⟨b, tickets.length⟩ = none ∧ p.inputAt ⟨b, tickets.length⟩ = some input := by
  rw [ticketAt, inputAt, at_b]
  refine ⟨List.getElem?_eq_none (Nat.le_refl _), ?_⟩
  cases h.fits _ (List.mem_of_getElem? at_b) with
  | attached sent le => exact (of_drop_eq_cons sent).1

/-- **An input is sent.** -/
theorem Placed.send (h : p.Placed) (numbered : p.Numbered)
    (at_b : p.batches[b]? = some (.sending true inputs (input :: rest) tickets rejected))
    (served : p.isServed = true) :
    ((p.enqueue input).setBatch b
      (.sending true inputs rest (tickets ++ [p.nextTicket]) rejected)).Placed := by
  obtain ⟨fresh, its⟩ := h.next at_b
  have ticketAt := ticketAt_send (q := (p.enqueue input).setBatch b
    (.sending true inputs rest (tickets ++ [p.nextTicket]) rejected)) at_b rfl rfl
  have inputAt := inputAt_set (q := (p.enqueue input).setBatch b
    (.sending true inputs rest (tickets ++ [p.nextTicket]) rejected)) at_b rfl rfl
  refine ⟨?_, ?_, ?_, ?_⟩
  · intro c mem
    rcases List.mem_or_eq_of_mem_set mem with mem | rfl
    · exact (h.fits c mem).of_step (.send at_b served)
    · exact (h.fits _ (List.mem_of_getElem? at_b)).send _
  · intro t
    show _ ↔ t < p.nextTicket + 1
    constructor
    · rintro ⟨x, hx⟩
      rw [ticketAt] at hx
      split at hx
      · cases hx
        omega
      · have := (h.issued t).mp ⟨x, hx⟩
        omega
    · intro lt
      rcases Nat.lt_succ_iff_lt_or_eq.mp lt with lt | rfl
      · obtain ⟨x, hx⟩ := (h.issued t).mpr lt
        refine ⟨x, ?_⟩
        rw [ticketAt, if_neg, hx]
        rintro rfl
        cases fresh.symm.trans hx
      · exact ⟨⟨b, tickets.length⟩, by rw [ticketAt]; exact if_pos rfl⟩
  · intro x y t hx hy
    rw [ticketAt] at hx hy
    split at hx <;> split at hy
    · rename_i ex ey
      rw [ex, ey]
    · cases hx
      exact absurd hy (h.ticketAt_ne_next y)
    · cases hy
      exact absurd hx (h.ticketAt_ne_next x)
    · exact h.unique x y t hx hy
  · intro job mem x hx
    rw [inputAt]
    rw [ticketAt] at hx
    have mem : job ∈ p.jobs ∨ job = ⟨p.nextTicket, p.clock, input⟩ := by
      simp only [jobs, Pool.setBatch, enqueue, List.mem_append, List.mem_singleton] at mem ⊢
      grind
    split at hx
    · rename_i eq
      rcases mem with old | rfl
      · have := numbered.ticket_lt_of_job old
        simp only [Option.some.injEq] at hx
        omega
      · rw [eq]
        exact its
    · rcases mem with old | rfl
      · exact h.carried job old x hx
      · exact absurd hx (h.ticketAt_ne_next x)

end Send

/-- **Every step keeps tickets and places together.** -/
theorem Placed.step {p q : Pool} {m : Move} (h : p.Placed) (staffed : p.Staffed)
    (numbered : p.Numbered) (s : p.Step m q) : q.Placed := by
  have fitting : ∀ {b : Nat} {batch : Batch}, p.batches[b]? = some batch → batch.Fits p :=
    fun at_b => h.fits _ (List.mem_of_getElem? at_b)
  cases s with
  | send at_b served => exact h.send numbered at_b served
  | call inputs =>
    refine h.of_ticketAt (.call inputs) (ticketAt_call p inputs) (fun x _ => inputAt_call inputs)
      rfl (fun _ => id) ?_
    intro b mem
    rcases List.mem_append.mp mem with old | new
    · exact .inl old
    · obtain rfl := List.mem_singleton.mp new
      exact .inr (.called inputs)
  | skip at_b => exact h.setBatch (.skip at_b) at_b rfl rfl rfl rfl rfl (.refused [])
  | attach at_b some_input =>
    refine h.setBatch (.attach at_b some_input) at_b rfl rfl rfl rfl rfl ?_
    cases isOpen : p.isOpen with
    | true => exact .attached rfl (Nat.zero_le _)
    | false => exact .detached isOpen rfl (Nat.zero_le _)
  | turnAway at_b =>
    exact h.setBatch (.turnAway at_b) at_b rfl rfl rfl rfl rfl ((fitting at_b).turnAway rfl)
  | refuse at_b unserved =>
    have := staffed.isServed (isConnected_of_attached at_b)
    rw [unserved] at this
    cases this
  | @finish b attached inputs tickets rejected replies at_b there =>
    refine h.setBatch (.finish at_b there) at_b rfl rfl rfl rfl rfl ?_
    refine ((fitting at_b).finish staffed numbered ?_ there).of_step (.finish at_b there)
    intro t mem
    obtain ⟨k, hk⟩ := List.mem_iff_getElem?.mp mem
    exact (h.issued t).mp ⟨⟨b, k⟩, by simpa [ticketAt, at_b, Batch.tickets] using hk⟩
  | take at_i first =>
    refine h.other (.take at_i first) rfl rfl fun job mem => ?_
    simp only [jobs, first, List.mem_append, List.map_append, List.map_cons, List.map_nil,
      List.mem_cons] at mem ⊢
    grind
  | tick later => exact h.other (.tick later) rfl rfl fun _ => id
  | close => exact h.other .close rfl rfl fun _ => id
  | seat at_i free => exact h.other (.seat at_i free) rfl rfl fun _ => id
  | leave at_i empty alone => exact h.other (.leave at_i empty alone) rfl rfl fun _ => id
  | judge at_i ended => exact h.other (.judge at_i ended) rfl rfl fun _ => id
  | count at_i => exact h.other (.count at_i) rfl rfl fun _ => id
  | resume at_i => exact h.other (.resume at_i) rfl rfl fun _ => id
  | answer at_i => exact h.other (.answer at_i) rfl rfl fun _ => id
  | shut at_c => exact h.other (.shut at_c) rfl rfl fun _ => id
  | takeCharge at_c => exact h.other (.takeCharge at_c) rfl rfl fun _ => id
  | join at_c gone => exact h.other (.join at_c gone) rfl rfl fun _ => id

end Pool

end Relaunch
