import Relaunch.Pool.Basic

/-!
# Proofs/Pool/Step — the steps of a pool, one by one

`Pool.Step p m q` lists every step that a pool can take: what each needs of the pool before it, and
the pool that it leaves.  It is the step function read as a relation (`Pool.step_eq_some_iff`), so a
fact about all steps is one case for each line of the list, and what every step keeps is kept by all
steps (`foldlM_induction`).
-/

namespace Relaunch.Pool

/-- **The steps of a pool.** -/
inductive Step (p : Pool) : Move → Pool → Prop where
  | tick {time : Nat} (later : p.clock < time) : Step p (.tick time) { p with clock := time }
  | call (inputs : List LaunchInput) :
      Step p (.call inputs) { p with batches := p.batches ++ [.called inputs] }
  | close : Step p .close { p with closings := p.closings ++ [.called] }
  /-- An idle worker's turn at the queue comes. -/
  | seat {i : Nat} (at_i : p.workers[i]? = some .idle)
      (free : p.workers.any Worker.isPolling = false) :
      Step p (.worker i) (p.setWorker i .polling)
  /-- The worker whose turn it is takes the first job of the queue and starts its launch. -/
  | take {i : Nat} {job : Job} {queue : List Job} (at_i : p.workers[i]? = some .polling)
      (first : p.queue = job :: queue) :
      Step p (.worker i)
        { p.setWorker i (.running job (p.pipeline.run p.clock job.input)) with
          queue := queue
          journal.runs := p.journal.runs ++ [(job, p.pipeline.run p.clock job.input)] }
  /-- The queue is empty and no one can fill it. -/
  | leave {i : Nat} (at_i : p.workers[i]? = some .polling) (empty : p.queue = [])
      (alone : p.isConnected = false) : Step p (.worker i) (p.setWorker i .exited)
  | judge {i : Nat} {job : Job} {run : Run} (at_i : p.workers[i]? = some (.running job run))
      (ended : run.finish ≤ p.clock) :
      Step p (.worker i)
        { (p.note (run.events ++ run.ending.events i job.input.id)).setWorker i
            (.judged job run.ending.verdict.outcome) with
          tally := run.ending.verdict.count p.tally }
  | count {i : Nat} {job : Job} {outcome : Outcome}
      (at_i : p.workers[i]? = some (.judged job outcome)) :
      Step p (.worker i)
        { p.setWorker i (.counted job outcome) with tally := p.tally.addResumed job.input.kind }
  | resume {i : Nat} {job : Job} {outcome : Outcome}
      (at_i : p.workers[i]? = some (.counted job outcome)) :
      Step p (.worker i)
        { p.setWorker i (.resumed job outcome) with progress := p.progress.resume }
  | answer {i : Nat} {job : Job} {outcome : Outcome}
      (at_i : p.workers[i]? = some (.resumed job outcome)) :
      Step p (.worker i)
        { p.setWorker i .idle with replies := p.replies ++ [(job.ticket, outcome)] }
  /-- A batch of no inputs returns at once. -/
  | skip {b : Nat} (at_b : p.batches[b]? = some (.called [])) :
      Step p (.batch b) (p.setBatch b (.returned [] [] {}))
  /-- A batch gets a place at the queue, if the queue is open. -/
  | attach {b : Nat} {inputs : List LaunchInput} (at_b : p.batches[b]? = some (.called inputs))
      (some_input : inputs ≠ []) :
      Step p (.batch b) (p.setBatch b (.sending p.isOpen inputs inputs [] 0))
  /-- A batch without a place has an input turned away. -/
  | turnAway {b : Nat} {inputs : List LaunchInput} {input : LaunchInput} {rest : List LaunchInput}
      {tickets : List Nat} {rejected : Nat}
      (at_b : p.batches[b]? = some (.sending false inputs (input :: rest) tickets rejected)) :
      Step p (.batch b) ((p.reject input .shutDown).setBatch b
        (.sending false inputs rest tickets (rejected + 1)))
  /-- No worker is left to take the input. -/
  | refuse {b : Nat} {inputs : List LaunchInput} {input : LaunchInput} {rest : List LaunchInput}
      {tickets : List Nat} {rejected : Nat}
      (at_b : p.batches[b]? = some (.sending true inputs (input :: rest) tickets rejected))
      (unserved : p.isServed = false) :
      Step p (.batch b) ((p.reject input .queueClosed).setBatch b
        (.sending true inputs rest tickets (rejected + 1)))
  | send {b : Nat} {inputs : List LaunchInput} {input : LaunchInput} {rest : List LaunchInput}
      {tickets : List Nat} {rejected : Nat}
      (at_b : p.batches[b]? = some (.sending true inputs (input :: rest) tickets rejected))
      (served : p.isServed = true) :
      Step p (.batch b) ((p.enqueue input).setBatch b
        (.sending true inputs rest (tickets ++ [p.nextTicket]) rejected))
  /-- All replies are there. -/
  | finish {b : Nat} {attached : Bool} {inputs : List LaunchInput} {tickets : List Nat}
      {rejected : Nat} {replies : List Reply}
      (at_b : p.batches[b]? = some (.sending attached inputs [] tickets rejected))
      (there : tickets.mapM p.reply? = some replies) :
      Step p (.batch b)
        ((p.note [.batchFinished (summarize inputs.length rejected replies)]).setBatch b
          (.returned inputs tickets (summarize inputs.length rejected replies)))
  | shut {c : Nat} (at_c : p.closings[c]? = some .called) :
      Step p (.closing c) { p.setClosing c .shut with isOpen := false }
  | takeCharge {c : Nat} (at_c : p.closings[c]? = some .shut) :
      Step p (.closing c) { p.setClosing c (.joining p.handles) with handles := [] }
  | join {c : Nat} {workers : List Nat} (at_c : p.closings[c]? = some (.joining workers))
      (gone : (workers.all fun w => (p.workers[w]?.map Worker.isExited).getD true) = true) :
      Step p (.closing c) (p.setClosing c .returned)

/-! ## The relation is the step function -/

theorem Step.of_stepWorker {p q : Pool} {i : Nat} {w : Worker} (at_i : p.workers[i]? = some w)
    (h : p.stepWorker i w = some q) : p.Step (.worker i) q := by
  cases w with
  | idle =>
    simp only [stepWorker] at h
    split at h
    · cases h
    · rename_i free
      cases h
      exact .seat at_i (by simpa using free)
  | polling =>
    simp only [stepWorker] at h
    split at h
    · rename_i job queue first
      cases h
      exact .take at_i first
    · rename_i empty
      split at h
      · cases h
      · rename_i alone
        cases h
        exact .leave at_i empty (by simpa using alone)
  | running job run =>
    simp only [stepWorker] at h
    split at h
    · rename_i ended
      cases h
      exact .judge at_i ended
    · cases h
  | judged job outcome =>
    cases h
    exact .count at_i
  | counted job outcome =>
    cases h
    exact .resume at_i
  | resumed job outcome =>
    cases h
    exact .answer at_i
  | exited => cases h

theorem Step.of_stepBatch {p q : Pool} {b : Nat} {batch : Batch}
    (at_b : p.batches[b]? = some batch) (h : p.stepBatch b batch = some q) :
    p.Step (.batch b) q := by
  cases batch with
  | called inputs =>
    simp only [stepBatch] at h
    split at h
    · rename_i none
      cases h
      obtain rfl : inputs = [] := List.isEmpty_iff.mp none
      exact .skip at_b
    · rename_i some_input
      cases h
      exact .attach at_b (by simpa using some_input)
  | sending attached inputs rest tickets rejected =>
    cases rest with
    | cons input rest =>
      simp only [stepBatch] at h
      cases attached with
      | false =>
        cases h
        exact .turnAway at_b
      | true =>
        simp only [Bool.not_true, Bool.false_eq_true, if_false] at h
        split at h
        · rename_i unserved
          cases h
          exact .refuse at_b (by simpa using unserved)
        · rename_i served
          cases h
          exact .send at_b (by simpa using served)
    | nil =>
      simp only [stepBatch] at h
      obtain ⟨replies, there, h⟩ := Option.bind_eq_some_iff.mp h
      cases h
      exact .finish at_b there
  | returned => cases h

theorem Step.of_stepClosing {p q : Pool} {c : Nat} {closing : Closing}
    (at_c : p.closings[c]? = some closing) (h : p.stepClosing c closing = some q) :
    p.Step (.closing c) q := by
  cases closing with
  | called =>
    cases h
    exact .shut at_c
  | shut =>
    cases h
    exact .takeCharge at_c
  | joining workers =>
    simp only [stepClosing] at h
    split at h
    · rename_i gone
      cases h
      exact .join at_c gone
    · cases h
  | returned => cases h

theorem Step.of_step {p q : Pool} {m : Move} (h : p.step m = some q) : p.Step m q := by
  cases m with
  | tick time =>
    simp only [step] at h
    split at h
    · rename_i later
      cases h
      exact .tick later
    · cases h
  | call inputs =>
    cases h
    exact .call inputs
  | close =>
    cases h
    exact .close
  | worker i =>
    obtain ⟨w, at_i, h⟩ := Option.bind_eq_some_iff.mp h
    exact .of_stepWorker at_i h
  | batch b =>
    obtain ⟨batch, at_b, h⟩ := Option.bind_eq_some_iff.mp h
    exact .of_stepBatch at_b h
  | closing c =>
    obtain ⟨closing, at_c, h⟩ := Option.bind_eq_some_iff.mp h
    exact .of_stepClosing at_c h

theorem Step.step_eq {p q : Pool} {m : Move} (h : p.Step m q) : p.step m = some q := by
  cases h <;> simp_all [step, stepWorker, stepBatch, stepClosing]

/-- **The relation is the step function.** -/
theorem step_eq_some_iff {p q : Pool} {m : Move} : p.step m = some q ↔ p.Step m q :=
  ⟨.of_step, Step.step_eq⟩

/-- **What every step keeps, steps keep.** -/
theorem foldlM_induction {f : σ → α → Option σ} {P : σ → Prop} {l : List α}
    (step : ∀ {s t : σ} {a : α}, a ∈ l → P s → f s a = some t → P t) {s t : σ} (init : P s)
    (went : l.foldlM f s = some t) : P t := by
  induction l generalizing s with
  | nil =>
    cases went
    exact init
  | cons a l ih =>
    rw [List.foldlM_cons] at went
    obtain ⟨r, first, rest⟩ := Option.bind_eq_some_iff.mp went
    have begun : P r := step List.mem_cons_self init first
    exact ih (fun mem => step (List.mem_cons_of_mem a mem)) begun rest

end Relaunch.Pool
