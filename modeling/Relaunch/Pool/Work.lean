import Relaunch.Pool.Schedule

/-!
# Pool/Work — the fuel of a prompt pool is enough

`Pool.work` goes down with every step of a prompt pool, so a run with that much fuel ends because no
step is left and never because the fuel is.

* `Pool.work_advance` — a step of a prompt pool lowers the work that is left.
* `Pool.advance_runQuiet` — nothing can go on in the pool at the end of `runQuiet`.
-/

namespace Relaunch.Pool

/-! ## Sums over the parts -/

theorem total_set (f : α → Nat) {l : List α} {i : Nat} {a : α} (h : l[i]? = some a) (b : α) :
    total f (l.set i b) + f a = total f l + f b := by
  induction l generalizing i with
  | nil => simp at h
  | cons c l ih =>
    cases i with
    | zero =>
      simp only [List.getElem?_cons_zero, Option.some.injEq] at h
      subst h
      simp only [List.set_cons_zero, total]
      omega
    | succ i =>
      simp only [List.getElem?_cons_succ] at h
      have := ih h
      simp only [List.set_cons_succ, total]
      omega

theorem total_le_total {f g : α → Nat} {l : List α} (h : ∀ a ∈ l, f a ≤ g a) :
    total f l ≤ total g l := by
  induction l with
  | nil => exact Nat.le_refl _
  | cons a l ih =>
    have h₁ := h a (by simp)
    have h₂ := ih fun b hb => h b (by simp [hb])
    simp only [total]
    omega

theorem total_lt_total {f g : α → Nat} {l : List α} (h : ∀ a ∈ l, f a ≤ g a) {a : α} (ha : a ∈ l)
    (hlt : f a < g a) : total f l < total g l := by
  induction l with
  | nil => simp at ha
  | cons b l ih =>
    have h₁ := h b (by simp)
    have h₂ : total f l ≤ total g l := total_le_total fun c hc => h c (List.mem_cons_of_mem b hc)
    simp only [total]
    rcases List.mem_cons.mp ha with rfl | hl
    · omega
    · have := ih (fun c hc => h c (by simp [hc])) hl
      omega

/-! ## Steps that take no time -/

theorem work_stepWorker {p q : Pool} {i : Nat} {w : Worker} (hw : p.workers[i]? = some w)
    (h : p.stepWorker i w = some q) : q.work < p.work := by
  have key := fun b => total_set (Worker.work p.clock) hw b
  cases w with
  | idle =>
    simp only [stepWorker] at h
    split at h
    · simp at h
    · cases h
      have := key .polling
      simp only [work, setWorker, Worker.work] at *
      omega
  | polling =>
    simp only [stepWorker] at h
    split at h
    · rename_i job queue hq
      cases h
      have := key (.running job (p.pipeline.run p.clock job.input))
      simp only [work, setWorker, Worker.work, hq, List.length_cons] at *
      split at this <;> omega
    · split at h
      · simp at h
      · cases h
        have := key .exited
        simp only [work, setWorker, Worker.work] at *
        omega
  | running job run =>
    simp only [stepWorker] at h
    split at h
    · rename_i hc
      cases h
      have := key (.judged job run.ending.verdict.outcome)
      simp only [work, setWorker, note, Worker.work, hc, if_true] at *
      omega
    · simp at h
  | judged job outcome =>
    cases h
    have := key (.counted job outcome)
    simp only [work, setWorker, Worker.work] at *
    omega
  | counted job outcome =>
    cases h
    have := key (.resumed job outcome)
    simp only [work, setWorker, Worker.work] at *
    omega
  | resumed job outcome =>
    cases h
    have := key .idle
    simp only [work, setWorker, Worker.work] at *
    omega
  | exited => simp [stepWorker] at h

theorem work_stepBatch {p q : Pool} {i : Nat} {b : Batch} (hb : p.batches[i]? = some b)
    (h : p.stepBatch i b = some q) : q.work < p.work := by
  have key := fun c => total_set Batch.work hb c
  cases b with
  | called inputs =>
    simp only [stepBatch] at h
    split at h <;> cases h
    · have := key (.returned inputs [] {})
      simp only [work, setBatch, Batch.work] at *
      omega
    · have := key (.sending p.isOpen inputs inputs [] 0)
      simp only [work, setBatch, Batch.work] at *
      omega
  | sending attached inputs rest tickets rejected =>
    cases rest with
    | cons input rest =>
      simp only [stepBatch] at h
      split at h
      · cases h
        have := key (.sending attached inputs rest tickets (rejected + 1))
        simp only [work, setBatch, reject, note, Batch.work, List.length_cons] at *
        omega
      · split at h <;> cases h
        · have := key (.sending attached inputs rest tickets (rejected + 1))
          simp only [work, setBatch, reject, note, Batch.work, List.length_cons] at *
          omega
        · have := key (.sending attached inputs rest (tickets ++ [p.nextTicket]) rejected)
          simp only [work, setBatch, enqueue, Batch.work, List.length_cons, List.length_append,
            List.length_nil] at *
          omega
    | nil =>
      simp only [stepBatch, bind, Option.bind] at h
      split at h
      · simp at h
      · cases h
        rename_i replies _
        have := key (.returned inputs tickets (summarize inputs.length rejected replies))
        simp only [work, setBatch, note, Batch.work, List.length_nil] at *
        omega
  | returned => simp [stepBatch] at h

theorem work_stepClosing {p q : Pool} {i : Nat} {c : Closing} (hc : p.closings[i]? = some c)
    (h : p.stepClosing i c = some q) : q.work < p.work := by
  have key := fun d => total_set Closing.work hc d
  cases c with
  | called =>
    cases h
    have := key .shut
    simp only [work, setClosing, Closing.work] at *
    omega
  | shut =>
    cases h
    have := key (.joining p.handles)
    simp only [work, setClosing, Closing.work] at *
    omega
  | joining workers =>
    simp only [stepClosing] at h
    split at h
    · cases h
      have := key .returned
      simp only [work, setClosing, Closing.work] at *
      omega
    · simp at h
  | returned => simp [stepClosing] at h

/-! ## Prompt steps -/

/-- The steps that a prompt pool prefers are those of its workers, batches and closings. -/
theorem mem_moves {p : Pool} {m : Move} (h : m ∈ p.moves) :
    (∃ i, m = .worker i) ∨ (∃ i, m = .batch i) ∨ ∃ i, m = .closing i := by
  simp only [moves, List.mem_append, List.mem_map] at h
  rcases h with ((⟨e, _, rfl⟩ | ⟨i, _, rfl⟩) | ⟨e, _, rfl⟩) | ⟨i, _, rfl⟩
  · exact .inr (.inl ⟨_, rfl⟩)
  · exact .inl ⟨_, rfl⟩
  · exact .inr (.inl ⟨_, rfl⟩)
  · exact .inr (.inr ⟨_, rfl⟩)

/-- A prompt step is a step. -/
theorem exists_step_of_prompt? {p q : Pool} (h : p.prompt? = some q) :
    ∃ m ∈ p.moves, p.step m = some q :=
  List.exists_of_findSome?_eq_some h

theorem work_prompt? {p q : Pool} (h : p.prompt? = some q) : q.work < p.work := by
  obtain ⟨m, hm, hs⟩ := exists_step_of_prompt? h
  rcases mem_moves hm with ⟨i, rfl⟩ | ⟨i, rfl⟩ | ⟨i, rfl⟩
  · obtain ⟨w, hw, hq⟩ := Option.bind_eq_some_iff.mp hs
    exact work_stepWorker hw hq
  · obtain ⟨b, hb, hq⟩ := Option.bind_eq_some_iff.mp hs
    exact work_stepBatch hb hq
  · obtain ⟨c, hc, hq⟩ := Option.bind_eq_some_iff.mp hs
    exact work_stepClosing hc hq

/-- Some launch is over at the deadline. -/
theorem exists_running_of_deadline? {p : Pool} {time : Nat} (h : p.deadline? = some time) :
    ∃ job run, Worker.running job run ∈ p.workers ∧ run.finish = time := by
  have hm := List.min?_mem h
  obtain ⟨w, hw, hd⟩ := List.mem_filterMap.mp hm
  cases w <;> simp only [Worker.deadline?, Option.some.injEq, reduceCtorEq] at hd
  exact ⟨_, _, hw, hd⟩

/-- **A step of a prompt pool lowers the work that is left.** -/
theorem work_advance {p q : Pool} (h : p.advance = some q) : q.work < p.work := by
  unfold advance at h
  split at h
  · rename_i r hr
    cases h
    exact work_prompt? hr
  · obtain ⟨time, hd, hs⟩ := Option.bind_eq_some_iff.mp h
    obtain ⟨job, run, hw, hf⟩ := exists_running_of_deadline? hd
    simp only [step] at hs
    split at hs
    · rename_i hlt
      cases hs
      have later : ∀ w ∈ p.workers, Worker.work time w ≤ Worker.work p.clock w := by
        intro w _
        cases w <;> simp only [Worker.work, Nat.le_refl]
        split <;> split <;> omega
      have := total_lt_total later hw (by
        simp only [Worker.work, hf, Nat.le_refl, if_true]
        rw [if_neg (by omega)]
        omega)
      simp only [work]
      omega
    · simp at hs

/-- A run with enough fuel goes on as long as it can. -/
theorem advance_advanceWith {fuel : Nat} {p : Pool} (h : p.work ≤ fuel) :
    (advanceWith fuel p).advance = none := by
  induction fuel generalizing p with
  | zero =>
    cases ha : p.advance with
    | none => exact ha
    | some q =>
      have := work_advance ha
      omega
  | succ fuel ih =>
    simp only [advanceWith]
    cases ha : p.advance with
    | none => exact ha
    | some q =>
      have := work_advance ha
      exact ih (by omega)

/-- **Nothing can go on in the pool at the end of a run.** -/
theorem advance_runQuiet (p : Pool) : p.runQuiet.advance = none :=
  advance_advanceWith (Nat.le_refl _)

end Relaunch.Pool
