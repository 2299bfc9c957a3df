import Mathlib.Algebra.GroupWithZero.Nat
import Mathlib.Data.List.Nodup
import Relaunch.Proofs.Pool.ExactlyOnce
import Relaunch.Proofs.Pool.Settled

/-!
# Proofs/Pool/Pending — only batches that have not returned change

A step changes one batch at most, and none that has returned; what it does, it does for an input of
a batch that has not returned.  So where all batches have returned nothing is done, and what is done
while one batch is at work is done for that one.

* `Step.batches_cases` — what a step does to the batches.
* `Sound.isPending_of_deed` — whom a deed is for.
* `Told.exists_fate` — what was done for an input is the beginning of what its end takes.
-/

namespace Relaunch

namespace Pool

/-- **An input of a batch that has not returned.** -/
def IsPending (p : Pool) (x : Place) : Prop :=
  ∃ batch, p.batches[x.batch]? = some batch ∧ batch.isReturned = false ∧
    x.index < batch.inputs.length

variable {p q : Pool} {m : Move}

/-- **What a step does to the batches**: nothing, or there is a new one, or one that has not
returned goes on with its inputs. -/
theorem Step.batches_cases (s : p.Step m q) :
    q.batches = p.batches ∨
      (∃ inputs, m = .call inputs ∧ q.batches = p.batches ++ [.called inputs]) ∨
      ∃ (b : Nat) (old new : Batch), p.batches[b]? = some old ∧ old.isReturned = false ∧
        q.batches = p.batches.set b new ∧ new.inputs = old.inputs := by
  cases s with
  | call inputs => exact .inr (.inl ⟨inputs, rfl, rfl⟩)
  | skip at_b => exact .inr (.inr ⟨_, _, _, at_b, rfl, rfl, rfl⟩)
  | attach at_b some_input => exact .inr (.inr ⟨_, _, _, at_b, rfl, rfl, rfl⟩)
  | turnAway at_b => exact .inr (.inr ⟨_, _, _, at_b, rfl, rfl, rfl⟩)
  | refuse at_b unserved => exact .inr (.inr ⟨_, _, _, at_b, rfl, rfl, rfl⟩)
  | send at_b served => exact .inr (.inr ⟨_, _, _, at_b, rfl, rfl, rfl⟩)
  | finish at_b there => exact .inr (.inr ⟨_, _, _, at_b, rfl, rfl, rfl⟩)
  | _ => exact .inl rfl

/-- A batch keeps its inputs. -/
theorem Step.inputs_eq (s : p.Step m q) (other : ∀ inputs, m ≠ .call inputs) :
    q.batches.map Batch.inputs = p.batches.map Batch.inputs := by
  rcases s.batches_cases with same | ⟨inputs, eq, -⟩ | ⟨b, old, new, at_b, -, set, its⟩
  · rw [same]
  · exact absurd eq (other inputs)
  · rw [set]
    refine List.ext_getElem? fun c => ?_
    rw [List.getElem?_map, List.getElem?_map]
    exact map_set at_b its c

/-- **A batch that has returned does not change.** -/
theorem Step.getElem?_of_returned (s : p.Step m q) {b : Nat} {batch : Batch}
    (at_b : p.batches[b]? = some batch) (returned : batch.isReturned = true) :
    q.batches[b]? = some batch := by
  rcases s.batches_cases with same | ⟨inputs, -, more⟩ | ⟨c, old, new, at_c, pending, set, -⟩
  · rw [same, at_b]
  · rw [more, List.getElem?_append_left (List.getElem?_eq_some_iff.mp at_b).1, at_b]
  · have ne : c ≠ b := by
      rintro rfl
      cases at_b.symm.trans at_c
      rw [returned] at pending
      cases pending
    rw [set, List.getElem?_set_ne ne, at_b]

/-- The input of a ticket that is not answered. -/
theorem Sound.isPending_placeOf (sound : p.Sound) {ticket : Nat} (issued : ticket < p.nextTicket)
    (unanswered : ∀ outcome, (ticket, outcome) ∉ p.replies) : p.IsPending (p.placeOf ticket) := by
  obtain ⟨x, hx⟩ := (sound.placed.issued ticket).mpr issued
  rw [sound.placed.placeOf_eq hx]
  obtain ⟨batch, at_b, at_k⟩ := Option.bind_eq_some_iff.mp hx
  have sent := (List.getElem?_eq_some_iff.mp at_k).1
  have fits := sound.placed.fits batch (List.mem_of_getElem? at_b)
  refine ⟨batch, at_b, ?_, ?_⟩
  · cases batch with
    | returned inputs tickets summary =>
      obtain ⟨outcome, found⟩ := fits.answered at_k
      exact absurd (mem_of_lookup found) (unanswered outcome)
    | _ => rfl
  · cases fits with
    | attached all le => exact Nat.lt_of_lt_of_le sent le
    | served all replies => exact all ▸ sent
    | called inputs => cases sent
    | detached shut gone le => cases sent
    | refused inputs => cases sent

/-- The input in a worker's hands. -/
theorem Sound.isPending_of_held (sound : p.Sound) {i : Nat} {w : Worker} {job : Job}
    (at_i : p.workers[i]? = some w) (has : w.job? = some job) :
    p.IsPending (p.placeOf job.ticket) := by
  have lt := sound.numbered.ticket_lt_of_held (List.mem_of_getElem? at_i) has
  have := sound.numbered.next
  exact sound.isPending_placeOf (by omega)
    (sound.numbered.not_replied_of_held (List.mem_of_getElem? at_i) has)

/-- The first input of the queue. -/
theorem Sound.isPending_of_first (sound : p.Sound) {job : Job} {queue : List Job}
    (first : p.queue = job :: queue) : p.IsPending (p.placeOf job.ticket) := by
  obtain ⟨le, lt⟩ := sound.numbered.le_ticket_of_queued (first ▸ List.mem_cons_self)
  refine sound.isPending_placeOf lt fun outcome replied => ?_
  have started := sound.numbered.ticket_lt_of_replied replied
  simp only at started
  omega

theorem Sound.isPending_of_workerDeeds (sound : p.Sound) {i : Nat} {w : Worker}
    (at_i : p.workers[i]? = some w) {e : Place × Deed} (mem : e ∈ p.workerDeeds i w) :
    p.IsPending e.1 := by
  cases w with
  | polling =>
    simp only [workerDeeds] at mem
    split at mem
    · rename_i job queue first
      obtain rfl := List.mem_singleton.mp mem
      exact sound.isPending_of_first first
    · cases mem
  | running job run =>
    obtain rfl := List.mem_singleton.mp mem
    exact sound.isPending_of_held at_i rfl
  | judged job outcome =>
    obtain rfl := List.mem_singleton.mp mem
    exact sound.isPending_of_held at_i rfl
  | counted job outcome =>
    obtain rfl := List.mem_singleton.mp mem
    exact sound.isPending_of_held at_i rfl
  | _ => cases mem

theorem Sound.isPending_of_batchDeeds (sound : p.Sound) {b : Nat} {batch : Batch}
    (at_b : p.batches[b]? = some batch) {e : Place × Deed} (mem : e ∈ p.batchDeeds b batch) :
    p.IsPending e.1 := by
  cases batch with
  | sending attached inputs rest tickets rejected =>
    cases rest with
    | nil => cases mem
    | cons input rest =>
      have place : e.1 = ⟨b, inputs.length - (rest.length + 1)⟩ := by
        simp only [batchDeeds] at mem
        split at mem
        · obtain ⟨_, -, rfl⟩ := List.mem_map.mp mem
          rfl
        · split at mem
          · obtain ⟨_, -, rfl⟩ := List.mem_map.mp mem
            rfl
          · obtain rfl := List.mem_singleton.mp mem
            rfl
      have some_input : 0 < inputs.length := by
        cases sound.placed.fits _ (List.mem_of_getElem? at_b) with
        | attached sent le =>
          have := (of_drop_eq_cons sent).2.2
          omega
        | detached shut gone le =>
          have := (of_drop_eq_cons gone).2.2
          omega
      rw [place]
      exact ⟨_, at_b, rfl, Nat.sub_lt some_input (Nat.succ_pos _)⟩
  | _ => cases mem

/-- **What is done is done for an input of a batch that has not returned.** -/
theorem Sound.isPending_of_deed (sound : p.Sound) {e : Place × Deed} (mem : e ∈ p.deeds m) :
    p.IsPending e.1 := by
  cases m with
  | worker i =>
    cases at_i : p.workers[i]? with
    | none =>
      rw [deeds, at_i] at mem
      cases mem
    | some w => exact sound.isPending_of_workerDeeds at_i (deeds_worker at_i ▸ mem)
  | batch b =>
    cases at_b : p.batches[b]? with
    | none =>
      rw [deeds, at_b] at mem
      cases mem
    | some batch => exact sound.isPending_of_batchDeeds at_b (deeds_batch at_b ▸ mem)
  | _ => cases mem

/-- **Where all batches have returned, nothing is done.** -/
theorem Sound.deeds_of_returned (sound : p.Sound) (back : ∀ b ∈ p.batches, b.isReturned)
    (m : Move) : p.deeds m = [] := by
  refine List.eq_nil_iff_forall_not_mem.mpr fun e mem => ?_
  obtain ⟨batch, at_b, pending, -⟩ := sound.isPending_of_deed mem
  rw [back batch (List.mem_of_getElem? at_b)] at pending
  cases pending

/-- Nor does a batch change. -/
theorem Step.batches_of_returned (s : p.Step m q) (back : ∀ b ∈ p.batches, b.isReturned)
    (other : ∀ inputs, m ≠ .call inputs) : q.batches = p.batches := by
  rcases s.batches_cases with same | ⟨inputs, eq, -⟩ | ⟨b, old, new, at_b, pending, -⟩
  · exact same
  · exact absurd eq (other inputs)
  · rw [back old (List.mem_of_getElem? at_b)] at pending
    cases pending

/-! ## How far an input has come -/

/-- **What was done for an input that was not sent** is the beginning of a refusal, and all of it
once its batch has returned. -/
theorem Told.refusal_of_unsent {h : History} (told : p.Told h) (placed : p.Placed) {x : Place}
    {input : LaunchInput} (its : p.inputAt x = some input) (unsent : p.ticketAt x = none) :
    h.of x <+: Deed.refusal input .shutDown ∧
      ((p.summaryOf x.batch).isSome → h.of x = Deed.refusal input .shutDown) := by
  obtain ⟨batch, at_b, at_k⟩ := Option.bind_eq_some_iff.mp its
  rw [ticketAt, at_b, Option.bind_some] at unsent
  have done := told.fate_of_unsent at_b unsent at_k
  refine ⟨?_, fun returned => ?_⟩
  · rw [done]
    split
    · exact List.prefix_refl _
    · exact List.nil_prefix
  · rw [summaryOf, at_b, Option.bind_some] at returned
    have lt := (List.getElem?_eq_some_iff.mp at_k).1
    have le := List.getElem?_eq_none_iff.mp unsent
    rw [done, if_pos]
    cases placed.fits batch (List.mem_of_getElem? at_b) with
    | served all replies =>
      simp only [Batch.inputs, Batch.tickets] at lt le
      omega
    | refused => exact lt
    | _ => cases returned

/-- **What was done for an input** is the beginning of what its end takes. -/
theorem Told.exists_fate {h : History} (told : p.Told h) (sound : p.Sound) {x : Place}
    {input : LaunchInput} (its : p.inputAt x = some input) :
    ∃ fate : Fate, fate.IsOf p.pipeline input ∧ h.of x <+: fate.deeds input := by
  cases hx : p.ticketAt x with
  | some ticket =>
    obtain ⟨worker, job, run, isOf, so_far, -⟩ := told.fate_of_sent sound hx its
    exact ⟨.launched worker job run, isOf, so_far⟩
  | none => exact ⟨.turnedAway, trivial, (told.refusal_of_unsent sound.placed its hx).1⟩

/-- A history stays true where others set the counts. -/
theorem Told.withCounts {h : History} (told : p.Told h) (progress : Progress) (tally : Tally)
    (log : List Entry) : (p.withCounts progress tally log).Told h where
  sent x ticket hx :=
    (told.sent x ticket hx).frame (fun _ mem _ => mem) (fun _ _ _ at_i _ _ => at_i)
      (fun _ mem => mem) (fun _ mem => mem)
  unsent x hx := told.unsent x hx

end Pool

/-! ## Resumed inputs -/

/-- An input is resumed last of all, and once. -/
theorem Fate.deeds_eq (fate : Fate) (input : LaunchInput) :
    ∃ before, fate.deeds input = before ++ [.resumed] ∧ .resumed ∉ before := by
  cases fate with
  | launched worker job run =>
    exact ⟨[.queued, .started worker job run, .judged run.ending.verdict,
      .counted job.input.kind], rfl, by simp⟩
  | turnedAway =>
    exact ⟨[.rejected .shutDown, .judged .failure, .counted input.kind], rfl, by simp⟩

/-- **An input is resumed once everything was done for it**, and not before. -/
theorem Fate.count_resumed {fate : Fate} {input : LaunchInput} {deeds : List Deed}
    (so_far : deeds <+: fate.deeds input) :
    deeds.count .resumed = if deeds = fate.deeds input then 1 else 0 := by
  obtain ⟨before, eq, fresh⟩ := fate.deeds_eq input
  rw [eq] at so_far ⊢
  rcases List.prefix_concat_iff.mp so_far with rfl | part
  · rw [if_pos rfl, List.count_append, List.count_eq_zero.mpr fresh]
    rfl
  · have none : .resumed ∉ deeds := fun mem => fresh (part.subset mem)
    rw [if_neg, List.count_eq_zero.mpr none]
    rintro rfl
    exact none (List.mem_append_right _ (List.mem_singleton.mpr rfl))

/-- Counts of one each at most. -/
theorem length_le_sum_iff {f : α → Nat} {l : List α} (le : ∀ a ∈ l, f a ≤ 1) :
    (l.map f).sum ≤ l.length ∧ (l.length ≤ (l.map f).sum ↔ ∀ a ∈ l, f a = 1) := by
  induction l with
  | nil => simp
  | cons a l ih =>
    obtain ⟨bound, all⟩ := ih fun b mem => le b (List.mem_cons_of_mem a mem)
    have one := le a List.mem_cons_self
    rw [List.map_cons, List.sum_cons, List.length_cons, List.forall_mem_cons, ← all]
    omega

namespace History

/-- **All inputs of a batch are resumed** once everything was done for each of them, and no more
than all.  The inputs are those of some rows. -/
theorem count_resumed {h : History} {b : Nat} {pipeline : Pipeline} {rows : List α}
    {input : α → LaunchInput} (within : ∀ e ∈ h, e.1.batch = b ∧ e.1.index < rows.length)
    (so_far : ∀ k row, rows[k]? = some row →
      ∃ fate : Fate, fate.IsOf pipeline (input row) ∧ h.of ⟨b, k⟩ <+: fate.deeds (input row)) :
    (h.map Prod.snd).count .resumed ≤ rows.length ∧
      (rows.length ≤ (h.map Prod.snd).count .resumed ↔
        ∀ k row, rows[k]? = some row →
          ∃ fate : Fate, fate.IsOf pipeline (input row) ∧
            h.of ⟨b, k⟩ = fate.deeds (input row)) := by
  let places := (List.range rows.length).map (Place.mk b)
  have nodup : places.Nodup :=
    List.Nodup.map (fun _ _ eq => congrArg Place.index eq) List.nodup_range
  -- the deeds sorted by input: each input is resumed once at most
  have perm := perm_flatMap_of nodup (h := h) fun e mem => by
    obtain ⟨batch, lt⟩ := within e mem
    exact List.mem_map.mpr ⟨e.1.index, List.mem_range.mpr lt, by rw [← batch]⟩
  have sum : (h.map Prod.snd).count .resumed
      = ((List.range rows.length).map fun k => (h.of ⟨b, k⟩).count .resumed).sum := by
    rw [perm.count_eq, List.count_flatMap, List.map_map]
    rfl
  have one : ∀ k ∈ List.range rows.length, (h.of ⟨b, k⟩).count .resumed ≤ 1 := by
    intro k mem
    obtain ⟨fate, -, part⟩ := so_far k _ (List.getElem?_eq_getElem (List.mem_range.mp mem))
    rw [Fate.count_resumed part]
    split <;> omega
  obtain ⟨bound, all⟩ := length_le_sum_iff one
  rw [← sum, List.length_range] at bound all
  refine ⟨bound, all.trans ⟨fun each k row its => ?_, fun each k mem => ?_⟩⟩
  · obtain ⟨fate, isOf, part⟩ := so_far k row its
    have counted := each k (List.mem_range.mpr (List.getElem?_eq_some_iff.mp its).1)
    rw [Fate.count_resumed part] at counted
    refine ⟨fate, isOf, ?_⟩
    by_contra missing
    rw [if_neg missing] at counted
    cases counted
  · obtain ⟨fate, -, whole⟩ := each k _ (List.getElem?_eq_getElem (List.mem_range.mp mem))
    rw [whole, Fate.count_resumed (List.prefix_refl _), if_pos rfl]

end History

end Relaunch
