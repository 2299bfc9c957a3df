import Relaunch.Proofs.Pool.ExactlyOnce
import Relaunch.Proofs.Pool.Settled

/-!
# Proofs/Pool/Alone — a batch that has the pool to itself

Where all batches have returned, a new batch is the only one at work.  It comes to the queue first
of all, so it finds the queue as it is; its tickets are the next ones, without a gap; and the
launches of a prompt run are those of its inputs, in their order.

* `Alone.step` — a batch alone at work stays alone.
* `runBatch_alone` — the whole run of one batch.
-/

namespace Relaunch.Pool

/-- **One batch at work** beside those that are `done`; its tickets start with `first`. -/
structure Alone (done : List Batch) (first : Nat) (isOpen : Bool) (inputs : List LaunchInput)
    (p : Pool) (batch : Batch) : Prop where
  batches : p.batches = done ++ [batch]
  since : batch.Since isOpen inputs
  tickets : batch.tickets = List.range' first batch.tickets.length
  next : p.nextTicket = first + batch.tickets.length

variable {done : List Batch} {first : Nat} {isOpen : Bool} {inputs : List LaunchInput}

/-- Only the one batch can do anything. -/
theorem Alone.eq_of_getElem? {p : Pool} {batch : Batch} (h : p.Alone done first isOpen inputs batch)
    (back : ∀ b ∈ done, b.isReturned) {b : Nat} {old : Batch} (at_b : p.batches[b]? = some old)
    (works : old.isReturned = false) : b = done.length ∧ old = batch := by
  rw [h.batches, List.getElem?_append] at at_b
  split at at_b
  · have := back old (List.mem_of_getElem? at_b)
    rw [works] at this
    cases this
  · rename_i beyond
    have lt := (List.getElem?_eq_some_iff.mp at_b).1
    have eq : b - done.length = 0 := by simpa using lt
    rw [eq, List.getElem?_cons_zero] at at_b
    exact ⟨by omega, (Option.some.inj at_b).symm⟩

/-- **A batch alone at work stays alone.** -/
theorem Alone.step {p q : Pool} {m : Move} {batch : Batch}
    (h : p.Alone done first isOpen inputs batch) (back : ∀ b ∈ done, b.isReturned)
    (sound : p.Sound) (own : m.isCall = false) (s : p.Step m q) :
    ∃ new, q.Alone done first isOpen inputs new := by
  have at_last : p.batches[done.length]? = some batch := by
    rw [h.batches, List.getElem?_append_right (Nat.le_refl _), Nat.sub_self]
    rfl
  obtain ⟨new, now, since⟩ := Batch.Since.step sound s at_last h.since
  have set : ∀ {b : Nat} {old next : Batch}, p.batches[b]? = some old → old.isReturned = false →
      q.batches = p.batches.set b next →
      (old.tickets = List.range' first old.tickets.length →
        p.nextTicket = first + old.tickets.length →
        next.tickets = List.range' first next.tickets.length ∧
          q.nextTicket = first + next.tickets.length) →
      ∃ new, q.Alone done first isOpen inputs new := by
    intro b old next at_b works batches keeps
    obtain ⟨rfl, rfl⟩ := h.eq_of_getElem? back at_b works
    have lined : q.batches = done ++ [next] := by
      rw [batches, h.batches, List.set_append_right _ _ (Nat.le_refl _), Nat.sub_self]
      rfl
    obtain rfl : new = next := by
      rw [lined, List.getElem?_append_right (Nat.le_refl _), Nat.sub_self] at now
      exact (Option.some.inj now).symm
    obtain ⟨tickets, next⟩ := keeps h.tickets h.next
    exact ⟨new, lined, since, tickets, next⟩
  cases s with
  | call inputs => cases own
  | close => cases own
  | skip at_b => exact set at_b rfl rfl fun tickets next => ⟨tickets, next⟩
  | attach at_b some_input => exact set at_b rfl rfl fun tickets next => ⟨tickets, next⟩
  | turnAway at_b => exact set at_b rfl rfl fun tickets next => ⟨tickets, next⟩
  | refuse at_b unserved => exact set at_b rfl rfl fun tickets next => ⟨tickets, next⟩
  | @send b inputs input rest tickets rejected at_b served =>
    refine set at_b rfl rfl fun range next => ?_
    simp only [Batch.tickets] at range next ⊢
    refine ⟨?_, ?_⟩
    · rw [List.length_append, List.length_singleton, List.range'_1_concat, ← range, next]
    · rw [List.length_append, List.length_singleton]
      show p.nextTicket + 1 = _
      omega
  | finish at_b there => exact set at_b rfl rfl fun tickets next => ⟨tickets, next⟩
  | _ => exact ⟨batch, h.batches, h.since, h.tickets, h.next⟩

/-! ## The first step of a batch alone -/

/-- **A prompt pool first lets the new batch come to the queue.** -/
theorem advance_callAll {p q : Pool} (back : ∀ b ∈ p.batches, b.isReturned)
    (s : (p.callAll [inputs]).step (.batch p.batches.length) = some q) :
    (p.callAll [inputs]).advance = some q := by
  have sending : ((p.callAll [inputs]).batches.zipIdx.filter (·.1.isSending))
      = [(.called inputs, p.batches.length)] := by
    have none : p.batches.zipIdx.filter (·.1.isSending) = [] := by
      refine List.filter_eq_nil_iff.mpr ?_
      rintro ⟨b, k⟩ mem
      have returned := back b (List.fst_mem_of_mem_zipIdx mem)
      cases b with
      | returned => nofun
      | _ => cases returned
    rw [callAll, List.map_singleton, List.zipIdx_append, List.filter_append, none, Nat.zero_add]
    rfl
  have prompt : (p.callAll [inputs]).prompt? = some q := by
    rw [prompt?, moves, sending]
    simp only [List.map_cons, List.map_nil, List.cons_append, List.nil_append,
      List.findSome?_cons, s]
  rw [advance, prompt]

/-- **A new batch is alone at work** after its first step. -/
theorem alone_callAll {p q : Pool}
    (s : (p.callAll [inputs]).Step (.batch p.batches.length) q) :
    ∃ batch, q.Alone p.batches p.nextTicket p.isOpen inputs batch := by
  have at_b : (p.callAll [inputs]).batches[p.batches.length]? = some (.called inputs) := by
    rw [callAll, List.getElem?_append_right (Nat.le_refl _), Nat.sub_self]
    rfl
  have set : ∀ new : Batch, (p.callAll [inputs]).batches.set p.batches.length new
      = p.batches ++ [new] := by
    intro new
    rw [callAll, List.set_append_right _ _ (Nat.le_refl _), Nat.sub_self]
    rfl
  obtain ⟨new, now, since⟩ := Batch.since_of_called at_b s
  cases s with
  | skip at_b' =>
    cases at_b.symm.trans at_b'
    refine ⟨.returned [] [] {}, set _, .returned _ ?_, rfl, rfl⟩
    split <;> rfl
  | attach at_b' some_input =>
    cases at_b.symm.trans at_b'
    exact ⟨.sending p.isOpen inputs inputs [] 0, set _, .sending _ _ _, rfl, rfl⟩
  | turnAway at_b' => cases at_b.symm.trans at_b'
  | refuse at_b' unserved => cases at_b.symm.trans at_b'
  | send at_b' served => cases at_b.symm.trans at_b'
  | finish at_b' there => cases at_b.symm.trans at_b'

/-! ## What a pool keeps of its past -/

theorem Step.runs_kept {p q : Pool} {m : Move} (s : p.Step m q) :
    p.journal.runs <+: q.journal.runs := by
  cases s with
  | take at_i first => exact List.prefix_append _ _
  | _ => exact List.prefix_refl _

/-! ## The whole run of a batch alone -/

/-- The launches of a batch alone are those of its inputs, in their order. -/
theorem Alone.launches {p : Pool} {batch : Batch} (h : p.Alone done first isOpen inputs batch)
    (sound : p.Sound) (started : p.journal.runs.length = p.nextTicket) :
    (p.journal.runs.drop first).map (·.1.input) = batch.inputs.take batch.tickets.length := by
  refine List.ext_getElem? fun k => ?_
  rw [List.getElem?_map, List.getElem?_drop]
  by_cases lt : k < batch.tickets.length
  · have here : first + k < p.journal.runs.length := by rw [started, h.next]; omega
    have at_b : p.batches[done.length]? = some batch := by
      rw [h.batches, List.getElem?_append_right (Nat.le_refl _), Nat.sub_self]
      rfl
    have its : p.ticketAt ⟨done.length, k⟩ = some p.journal.runs[first + k].1.ticket := by
      rw [ticketAt, at_b, Option.bind_some, sound.numbered.ticket_getElem here, h.tickets,
        List.getElem?_range' lt, Nat.one_mul]
    have carried := sound.placed.carried p.journal.runs[first + k].1
      (List.mem_append_right _ (List.mem_map_of_mem (List.getElem_mem here))) _ its
    rw [inputAt, at_b, Option.bind_some] at carried
    rw [List.getElem?_eq_getElem here, Option.map_some, List.getElem?_take_of_lt lt, carried]
  · rw [List.getElem?_eq_none (by rw [started, h.next]; omega),
      List.getElem?_eq_none (by rw [List.length_take]; omega)]
    rfl

/-- **A batch alone returns**, with a ticket for each of its inputs if the queue was open, and none
if it was not. -/
theorem exists_alone_runBatch {p : Pool} (sound : p.Sound) (back : ∀ b ∈ p.batches, b.isReturned)
    (inputs : List LaunchInput) :
    ∃ (tickets : List Nat) (summary : Summary),
      (p.runBatch inputs).Alone p.batches p.nextTicket p.isOpen inputs
        (.returned inputs tickets summary) ∧
      tickets.length = if p.isOpen then inputs.length else 0 := by
  have call : p.step (.call inputs) = some (p.callAll [inputs]) := rfl
  obtain ⟨q, s⟩ : ∃ q, (p.callAll [inputs]).step (.batch p.batches.length) = some q := by
    have at_b : (p.callAll [inputs]).batches[p.batches.length]? = some (.called inputs) := by
      rw [callAll, List.getElem?_append_right (Nat.le_refl _), Nat.sub_self]
      rfl
    rw [Pool.step, at_b, Option.bind_some, stepBatch]
    split <;> exact ⟨_, rfl⟩
  have goes : p.runBatch inputs = q.runQuiet := runQuiet_of_advance (advance_callAll back s)
  rw [goes]
  obtain ⟨sound', batch, alone⟩ := runQuiet_induction (p := q)
    (P := fun r => r.Sound ∧ ∃ batch, r.Alone p.batches p.nextTicket p.isOpen inputs batch)
    ⟨(sound.step call).step s, alone_callAll (.of_step s)⟩ (by
      rintro r t m ⟨sound_r, _, alone⟩ own step
      exact ⟨sound_r.step step, alone.step back sound_r own (.of_step step)⟩)
  have at_b : q.runQuiet.batches[p.batches.length]? = some batch := by
    rw [alone.batches, List.getElem?_append_right (Nat.le_refl _), Nat.sub_self]
    rfl
  obtain ⟨own, tickets, summary, rfl⟩ := sound'.returned_of_quiet (advance_runQuiet q) at_b
  have same : own = inputs ∧ tickets.length = if p.isOpen then inputs.length else 0 := by
    cases alone.since with
    | returned _ all => exact ⟨rfl, all⟩
  obtain ⟨rfl, all⟩ := same
  exact ⟨tickets, summary, alone, all⟩

theorem count_outcomes (outcomes : List Outcome) :
    outcomes.count .succeeded + outcomes.count .failed = outcomes.length := by
  induction outcomes with
  | nil => rfl
  | cons o outcomes ih =>
    rw [List.count_cons, List.count_cons, List.length_cons]
    cases o <;> simp <;> omega

/-- A summary counts every input once. -/
theorem Placed.summary_total {p : Pool} (placed : p.Placed) {inputs : List LaunchInput}
    {tickets : List Nat} {summary : Summary}
    (mem : .returned inputs tickets summary ∈ p.batches) :
    summary.submitted = inputs.length ∧ summary.succeeded + summary.failed = inputs.length := by
  cases placed.fits _ mem with
  | @served inputs tickets outcomes all replies =>
    have same := congrArg List.length replies
    rw [List.length_map, List.length_map] at same
    exact ⟨rfl, by rw [count_outcomes, ← same, all]⟩
  | refused => exact ⟨rfl, Nat.zero_add _⟩

/-- Steps move the progress on as much as they settle, and change nothing else of it. -/
theorem Reaches.progress_eq {p q : Pool} (sound : p.Sound) (r : p.Reaches q) :
    q.progress = { p.progress with resumed := q.progress.resumed } ∧
      q.progress.resumed + p.settled = p.progress.resumed + q.settled := by
  have kept := r.induction (P := fun q => q.Sound ∧
      q.progress = { p.progress with resumed := q.progress.resumed } ∧
      q.progress.resumed + p.settled = p.progress.resumed + q.settled) ⟨sound, rfl, rfl⟩ ?_
  · exact kept.2
  · rintro q r m ⟨sound_q, same, moved⟩ s
    refine ⟨sound_q.step s, ?_, ?_⟩
    · rw [Step.progress_eq (.of_step s), same]
    · have := Step.resumed_eq sound_q.placed (.of_step s)
      omega

/-- **The whole run of a batch alone**: it returns, with every input counted in its summary and in
the progress; if the queue was open, each of them was launched, in their order, and none else. -/
theorem runBatch_alone {p : Pool} (lived : p.Lived) (back : ∀ b ∈ p.batches, b.isReturned)
    (inputs : List LaunchInput) :
    ∃ (tickets : List Nat) (summary : Summary) (launches : List (Job × Run)),
      (p.runBatch inputs).batches = p.batches ++ [.returned inputs tickets summary] ∧
      summary.submitted = inputs.length ∧ summary.succeeded + summary.failed = inputs.length ∧
      (p.runBatch inputs).journal.runs = p.journal.runs ++ launches ∧
      launches.map (·.1.input) = (if p.isOpen then inputs else []) ∧
      (∀ e ∈ launches, ∃ time, e.2 = p.pipeline.run time e.1.input) ∧
      (p.runBatch inputs).progress
        = { p.progress with resumed := p.progress.resumed + inputs.length } := by
  obtain ⟨tickets, summary, alone, all⟩ := exists_alone_runBatch lived.sound back inputs
  have reached := p.reaches_runBatch inputs
  have lived' : (p.runBatch inputs).Lived := lived.reaches reached
  have back' : ∀ b ∈ (p.runBatch inputs).batches, b.isReturned := by
    intro b mem
    rw [alone.batches] at mem
    rcases List.mem_append.mp mem with old | new
    · exact back b old
    · obtain rfl := List.mem_singleton.mp new
      rfl
  have sound := lived'.sound
  have mem : .returned inputs tickets summary ∈ (p.runBatch inputs).batches := by
    rw [alone.batches]
    exact List.mem_append_right _ (List.mem_singleton.mpr rfl)
  obtain ⟨submitted, counted⟩ := sound.placed.summary_total mem
  obtain ⟨launches, runs⟩ : p.journal.runs <+: (p.runBatch inputs).journal.runs :=
    reached.induction (P := fun q => p.journal.runs <+: q.journal.runs) (List.prefix_refl _)
      fun h s => h.trans (Step.of_step s).runs_kept
  have its := alone.launches sound (sound.numbered.runs_of_returned back' sound.placed)
  have before := lived.sound.numbered.runs_of_returned back lived.sound.placed
  rw [← runs, ← before, List.drop_left] at its
  refine ⟨tickets, summary, launches, alone.batches, submitted, counted, runs.symm, ?_, ?_, ?_⟩
  · rw [its, show (Batch.returned inputs tickets summary).tickets = tickets from rfl, all]
    split
    · exact List.take_length
    · rfl
  · intro e mem
    obtain ⟨time, -, eq⟩ := sound.genuine.launched e (runs ▸ List.mem_append_right _ mem)
    exact ⟨time, by rw [← reached.pipeline_eq]; exact eq⟩
  · obtain ⟨same, moved⟩ := reached.progress_eq lived.sound
    rw [lived'.settled_of_returned back', lived.settled_of_returned back, alone.batches,
      total_append] at moved
    rw [same]
    simp only [Batch.inputs] at moved
    have : (p.runBatch inputs).progress.resumed = p.progress.resumed + inputs.length := by omega
    rw [this]

end Relaunch.Pool
