import Relaunch.Pool.Work
import Relaunch.Proofs.Pool.Sound

/-!
# Proofs/Pool/Quiet — where nothing can go on, every batch has returned

In a pool where neither a step nor the end of a launch is left, no worker has a job in its hands,
the queue is empty and so every job is answered (`Sound.answered_of_quiet`); hence no batch waits
(`Sound.returned_of_quiet`).  Since the steps left to a pool get fewer, a prompt run comes to such a
pool, and all its batches return (`Sound.returned_runQuiet`).
-/

namespace Relaunch

/-- Whether someone asks the pool for something new. -/
def Move.isCall : Move → Bool
  | call _ | close => true
  | tick _ | worker _ | batch _ | closing _ => false

namespace Pool

/-! ## What a quiet pool is like -/

theorem step_eq_none_of_advance {p : Pool} (quiet : p.advance = none) {m : Move}
    (mem : m ∈ p.moves) : p.step m = none := by
  unfold advance at quiet
  split at quiet
  · cases quiet
  · rename_i none
    exact List.findSome?_eq_none_iff.mp none m mem

theorem worker_mem_moves {p : Pool} {i : Nat} {w : Worker} (at_i : p.workers[i]? = some w) :
    .worker i ∈ p.moves := by
  have here := (List.getElem?_eq_some_iff.mp at_i).1
  simp [moves, here]

theorem batch_mem_moves {p : Pool} {b : Nat} {batch : Batch} (at_b : p.batches[b]? = some batch)
    (works : batch.isSending = true ∨ batch.isWaiting = true) : .batch b ∈ p.moves := by
  have mem : (batch, b) ∈ p.batches.zipIdx := List.mk_mem_zipIdx_iff_getElem?.mpr at_b
  simp only [moves, List.mem_append, List.mem_map]
  rcases works with sends | waits
  · exact .inl (.inl (.inl ⟨_, List.mem_filter.mpr ⟨mem, sends⟩, rfl⟩))
  · exact .inl (.inr ⟨_, List.mem_filter.mpr ⟨mem, waits⟩, rfl⟩)

section Quiet

variable {p : Pool} (quiet : p.advance = none)

include quiet

/-- No launch runs: its end would come. -/
theorem not_running_of_quiet {i : Nat} {job : Job} {run : Run} :
    p.workers[i]? ≠ some (.running job run) := by
  intro at_i
  have late : ∀ {j : Nat} {other : Job} {r : Run},
      p.workers[j]? = some (.running other r) → p.clock < r.finish := by
    intro j other r at_j
    have := step_eq_none_of_advance quiet (worker_mem_moves at_j)
    simp only [step, at_j, Option.bind_some, stepWorker] at this
    split at this
    · cases this
    · omega
  have due : run.finish ∈ p.workers.filterMap Worker.deadline? :=
    List.mem_filterMap.mpr ⟨_, List.mem_of_getElem? at_i, rfl⟩
  obtain ⟨time, least⟩ : ∃ time, p.deadline? = some time := by
    cases h : p.deadline? with
    | some time => exact ⟨time, rfl⟩
    | none =>
      rw [deadline?, List.min?_eq_none_iff] at h
      rw [h] at due
      cases due
  obtain ⟨other, r, mem, rfl⟩ := exists_running_of_deadline? least
  obtain ⟨j, at_j⟩ := List.mem_iff_getElem?.mp mem
  have ahead := late at_j
  unfold advance at quiet
  split at quiet
  · cases quiet
  · rw [least, Option.bind_some, step, if_pos ahead] at quiet
    cases quiet

/-- No worker has a job in its hands. -/
theorem job?_of_quiet {i : Nat} {w : Worker} (at_i : p.workers[i]? = some w) : w.job? = none := by
  have stuck := step_eq_none_of_advance quiet (worker_mem_moves at_i)
  simp only [step, at_i, Option.bind_some] at stuck
  cases w with
  | running job run => exact absurd at_i (not_running_of_quiet quiet)
  | judged job outcome => cases stuck
  | counted job outcome => cases stuck
  | resumed job outcome => cases stuck
  | _ => rfl

/-- The queue is empty: a worker would take its turn, and the first job. -/
theorem queue_of_quiet (staffed : p.Staffed) : p.queue = [] := by
  have stuck : ∀ {i : Nat} {w : Worker}, p.workers[i]? = some w → p.stepWorker i w = none := by
    intro i w at_i
    have := step_eq_none_of_advance quiet (worker_mem_moves at_i)
    rwa [step, at_i, Option.bind_some] at this
  have of_polling : .polling ∈ p.workers → p.queue = [] := by
    intro mem
    obtain ⟨i, at_i⟩ := List.mem_iff_getElem?.mp mem
    have := stuck at_i
    simp only [stepWorker] at this
    split at this
    · cases this
    · assumption
  obtain ⟨w, mem⟩ := List.exists_mem_of_ne_nil _ staffed.some_worker
  obtain ⟨i, at_i⟩ := List.mem_iff_getElem?.mp mem
  have free := job?_of_quiet quiet at_i
  cases w with
  | polling => exact of_polling mem
  | exited => exact (staffed.left_behind mem).1
  | idle =>
    have := stuck at_i
    simp only [stepWorker] at this
    split at this
    · rename_i taken
      obtain ⟨v, mem', polls⟩ := List.any_eq_true.mp taken
      cases v with
      | polling => exact of_polling mem'
      | _ => cases polls
    · cases this
  | _ => cases free

/-- **Every job is answered.** -/
theorem Sound.answered_of_quiet (sound : p.Sound) {ticket : Nat} (issued : ticket < p.nextTicket) :
    ∃ outcome, p.replies.lookup ticket = some outcome := by
  have started : ticket < p.journal.runs.length := by
    have := sound.numbered.next
    rw [queue_of_quiet quiet sound.staffed, List.length_nil] at this
    omega
  rcases sound.numbered.held_or_replied started with ⟨i, w, job, at_i, has, -⟩ | ⟨outcome, mem⟩
  · rw [job?_of_quiet quiet at_i] at has
    cases has
  · exact ⟨outcome, sound.numbered.lookup_of_replied mem⟩

/-- **Every batch has returned.** -/
theorem Sound.returned_of_quiet (sound : p.Sound) {b : Nat} {batch : Batch}
    (at_b : p.batches[b]? = some batch) :
    ∃ inputs tickets summary, batch = .returned inputs tickets summary := by
  have stuck : batch.isSending = true ∨ batch.isWaiting = true → p.stepBatch b batch = none := by
    intro works
    have := step_eq_none_of_advance quiet (batch_mem_moves at_b works)
    rwa [Pool.step, at_b, Option.bind_some] at this
  cases batch with
  | returned inputs tickets summary => exact ⟨inputs, tickets, summary, rfl⟩
  | called inputs =>
    have := stuck (.inl rfl)
    simp only [stepBatch] at this
    split at this <;> cases this
  | sending attached inputs rest tickets rejected =>
    cases rest with
    | cons input rest =>
      have := stuck (.inl rfl)
      simp only [stepBatch] at this
      split at this
      · cases this
      · split at this <;> cases this
    | nil =>
      have stays := stuck (.inr rfl)
      obtain ⟨replies, there⟩ : ∃ replies, tickets.mapM p.reply? = some replies := by
        have issued : ∀ t ∈ tickets, t < p.nextTicket := by
          intro t mem
          obtain ⟨k, hk⟩ := List.mem_iff_getElem?.mp mem
          exact (sound.placed.issued t).mp
            ⟨⟨b, k⟩, by simpa [ticketAt, at_b, Batch.tickets] using hk⟩
        clear stays stuck at_b
        induction tickets with
        | nil => exact ⟨[], rfl⟩
        | cons t tickets ih =>
          obtain ⟨replies, there⟩ := ih fun t mem => issued t (List.mem_cons_of_mem _ mem)
          have lt := issued t List.mem_cons_self
          obtain ⟨outcome, found⟩ := sound.answered_of_quiet quiet lt
          have reply := sound.numbered.reply?_eq sound.staffed lt
          rw [found, Option.map_some] at reply
          exact ⟨.answered outcome :: replies, by simp [reply, there]⟩
      simp only [stepBatch, there] at stays
      cases stays

end Quiet

/-- **All batches of a prompt run return.** -/
theorem Sound.returned_runQuiet {p : Pool} (sound : p.Sound) {b : Nat} {batch : Batch}
    (at_b : p.runQuiet.batches[b]? = some batch) :
    ∃ inputs tickets summary, batch = .returned inputs tickets summary :=
  (sound.reaches (reaches_runQuiet p)).returned_of_quiet (advance_runQuiet p) at_b

/-! ## Prompt runs -/

/-- A step of a prompt pool asks for nothing new. -/
theorem exists_step_of_advance {p q : Pool} (h : p.advance = some q) :
    ∃ m : Move, m.isCall = false ∧ p.step m = some q := by
  unfold advance at h
  split at h
  · rename_i r hr
    cases h
    obtain ⟨m, mem, s⟩ := exists_step_of_prompt? hr
    refine ⟨m, ?_, s⟩
    rcases mem_moves mem with ⟨i, rfl⟩ | ⟨i, rfl⟩ | ⟨i, rfl⟩ <;> rfl
  · obtain ⟨time, -, s⟩ := Option.bind_eq_some_iff.mp h
    exact ⟨.tick time, rfl, s⟩

/-- What a prompt pool keeps as it goes on, a prompt run keeps. -/
theorem runQuiet_induction_advance {p : Pool} {P : Pool → Prop} (init : P p)
    (step : ∀ {r s : Pool}, P r → r.advance = some s → P s) : P p.runQuiet := by
  have go : ∀ (fuel : Nat) (p : Pool), P p → P (advanceWith fuel p) := by
    intro fuel
    induction fuel with
    | zero => exact fun p holds => holds
    | succ fuel ih =>
      intro p holds
      simp only [advanceWith]
      split
      · rename_i q h
        exact ih q (step holds h)
      · exact holds
  exact go p.work p init

/-- **What holds before a prompt run and is kept by the pool's own steps, holds after it.** -/
theorem runQuiet_induction {p : Pool} {P : Pool → Prop} (init : P p)
    (step : ∀ {r s : Pool} {m : Move}, P r → m.isCall = false → r.step m = some s → P s) :
    P p.runQuiet :=
  runQuiet_induction_advance init fun holds h => by
    obtain ⟨m, own, s⟩ := exists_step_of_advance h
    exact step holds own s

theorem advanceWith_of_none {p : Pool} (h : p.advance = none) (fuel : Nat) :
    advanceWith fuel p = p := by
  cases fuel with
  | zero => rfl
  | succ fuel => simp only [advanceWith, h]

/-- More fuel than work changes nothing. -/
theorem advanceWith_eq {fuel : Nat} {p : Pool} (enough : p.work ≤ fuel) :
    advanceWith fuel p = p.runQuiet := by
  have go : ∀ (n m : Nat) (p : Pool), p.work ≤ n → p.work ≤ m →
      advanceWith n p = advanceWith m p := by
    intro n
    induction n with
    | zero =>
      intro m p le _
      cases h : p.advance with
      | none => rw [advanceWith_of_none h, advanceWith_of_none h]
      | some q =>
        have := work_advance h
        omega
    | succ n ih =>
      intro m p le le'
      cases h : p.advance with
      | none => rw [advanceWith_of_none h, advanceWith_of_none h]
      | some q =>
        have := work_advance h
        obtain ⟨m, rfl⟩ : ∃ k, m = k + 1 := ⟨m - 1, by omega⟩
        simp only [advanceWith, h]
        exact ih m q (by omega) (by omega)
  exact go fuel p.work p enough (Nat.le_refl _)

/-- **A prompt run goes on from its first step.** -/
theorem runQuiet_of_advance {p q : Pool} (h : p.advance = some q) : p.runQuiet = q.runQuiet := by
  have less := work_advance h
  obtain ⟨fuel, eq⟩ : ∃ fuel, p.work = fuel + 1 := ⟨p.work - 1, by omega⟩
  rw [runQuiet, eq]
  simp only [advanceWith, h]
  exact advanceWith_eq (by omega)

end Pool

end Relaunch
