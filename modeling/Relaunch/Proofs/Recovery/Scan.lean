import Relaunch.Proofs.Pool.Quiet
import Relaunch.Proofs.Recovery.Cycle
import Relaunch.Recovery.Scan

/-!
# Proofs/Recovery/Scan — a recovery cycle is made of steps

`Recovery.recover` makes a whole cycle at once: its query, the launch of its rows and their end.
Each part of it is a step of `Scan`, or some steps of the pool between two of them, so whatever
holds wherever steps lead to, holds after every cycle.

* `Step.of_step` — the steps one by one, with what each needs.
* `reaches_wait`, `reaches_runQuiet` — the pool by itself.
* `reaches_recover` — a whole cycle.
-/

namespace Relaunch.Scan

/-- Whoever has waited for a query need not wait again. -/
theorem afterQuery_wait (p : Pool) (query : Query) :
    Recovery.afterQuery (p.wait query.finish) query = Recovery.afterQuery p query := by
  simp only [Recovery.afterQuery, Pool.wait_eq, Nat.max_assoc, Nat.max_self]

/-- A query that is heard of when it is over takes no more time. -/
theorem afterQuery_of_le {p : Pool} {query : Query} (past : query.finish ≤ p.clock) :
    Recovery.afterQuery p query
      = p.withCounts p.progress { p.tally with retries := p.tally.retries + query.retries }
          (p.journal.log ++ query.log) := by
  rw [Recovery.afterQuery, Pool.wait_eq, Nat.max_eq_left past]
  rfl

variable [Clock]

/-! ## Steps -/

/-- **The steps of recovery.** -/
inductive Step (s : Scan) : Move → Scan → Prop where
  | ask (rests : s.phase = .resting) : Step s .ask s.ask
  | hear {start : Nat} {query : Query} (asks : s.phase = .asking start query)
      (past : query.finish ≤ s.pool.clock) : Step s .hear (s.hear start query)
  | launch {start : Nat} {rows : List Workload} (waits : s.phase = .listed start rows) :
      Step s .launch { s.setPool (s.pool.callAll [rows.map LaunchInput.ofWorkload]) with
        phase := .launching start rows s.pool.batches.length }
  | conclude {start b : Nat} {rows : List Workload} {summary : Summary}
      (launches : s.phase = .launching start rows b)
      (there : s.pool.batches[b]?.bind Batch.summary? = some summary) :
      Step s .conclude (s.conclude start rows summary)
  | pool {m : Relaunch.Move} {p : Pool} (own : isCall m = false) (went : s.pool.step m = some p) :
      Step s (.pool m) { s.setPool p with
        epoch := s.epoch + (p.progress.resumed - s.pool.progress.resumed) }
  | join : Step s .join { s with waiters := s.waiters ++ [.start] }
  | observer {i : Nat} {l : Latch} (looks : s.latch.step (.waiter i) = some l) :
      Step s (.observer i) { s with waiters := l.waiters }

/-- **The steps are those of the step function.** -/
theorem Step.of_step {s t : Scan} {m : Move} (took : s.step m = some t) : s.Step m t := by
  cases m with
  | ask =>
    simp only [step] at took
    split at took
    · rename_i rests
      cases took
      exact .ask rests
    all_goals cases took
  | hear =>
    simp only [step] at took
    split at took
    · rename_i asks
      split at took
      · rename_i past
        cases took
        exact .hear asks past
      · cases took
    all_goals cases took
  | launch =>
    simp only [step] at took
    split at took
    · rename_i waits
      cases took
      exact .launch waits
    all_goals cases took
  | conclude =>
    simp only [step] at took
    split at took
    · rename_i launches
      obtain ⟨summary, there, rfl⟩ := Option.map_eq_some_iff.mp took
      exact .conclude launches there
    all_goals cases took
  | pool m =>
    simp only [step] at took
    split at took
    · cases took
    · rename_i own
      obtain ⟨p, went, rfl⟩ := Option.map_eq_some_iff.mp took
      exact .pool (by simpa using own) went
  | join =>
    cases took
    exact .join
  | observer i =>
    obtain ⟨l, looks, rfl⟩ := Option.map_eq_some_iff.mp took
    exact .observer looks

/-- **Some steps lead from one state to another.** -/
def Reaches (s t : Scan) : Prop := ∃ moves, s.steps moves = some t

theorem Reaches.refl (s : Scan) : s.Reaches s := ⟨[], rfl⟩

theorem Reaches.trans {s t u : Scan} (hst : s.Reaches t) (htu : t.Reaches u) : s.Reaches u := by
  obtain ⟨ms, hm⟩ := hst
  obtain ⟨ns, hn⟩ := htu
  refine ⟨ms ++ ns, ?_⟩
  simp only [steps] at *
  rw [List.foldlM_append, hm]
  exact hn

theorem Reaches.of_step {s t : Scan} {m : Move} (h : s.step m = some t) : s.Reaches t :=
  ⟨[m], by simp [steps, h]⟩

/-! ## The pool by itself -/

/-- The same cycle with another pool, and some notices more. -/
def onward (s : Scan) (p : Pool) (epoch : Nat) : Scan := { s.setPool p with epoch := epoch }

theorem reaches_step {s : Scan} {m : Relaunch.Move} {p : Pool} (own : isCall m = false)
    (h : s.pool.step m = some p) : ∃ epoch, s.Reaches (s.onward p epoch) := by
  refine ⟨s.epoch + (p.progress.resumed - s.pool.progress.resumed), .of_step (m := .pool m) ?_⟩
  simp only [step, own, h]
  rfl

theorem reaches_wait (s : Scan) (time : Nat) :
    ∃ epoch, s.Reaches (s.onward (s.pool.wait time) epoch) := by
  cases h : s.pool.step (.tick time) with
  | none =>
    rw [Pool.wait, h]
    exact ⟨s.epoch, .refl s⟩
  | some p =>
    rw [Pool.wait, h]
    exact reaches_step rfl h

/-- **A prompt run of the pool.** -/
theorem reaches_runQuiet (s : Scan) :
    ∃ epoch, s.Reaches (s.onward s.pool.runQuiet epoch) := by
  refine Pool.runQuiet_induction (P := fun p => ∃ epoch, s.Reaches (s.onward p epoch))
    ⟨s.epoch, .refl s⟩ ?_
  rintro r p m ⟨epoch, before⟩ own h
  have own : isCall m = false := by
    cases m with
    | call => cases own
    | _ => rfl
  obtain ⟨later, after⟩ := reaches_step (s := s.onward r epoch) own h
  exact ⟨later, before.trans after⟩

/-! ## A cycle -/

/-- The launch of the rows of a list, and the end of the cycle. -/
theorem reaches_relaunch {s : Scan} {start : Nat} {rows : List Workload}
    (waits : s.phase = .listed start rows) (lived : s.pool.Lived)
    (back : ∀ b ∈ s.pool.batches, b.isReturned) :
    let launched := Recovery.relaunch s.pool rows
    ∃ epoch, s.Reaches ((s.onward launched.1 epoch).finish start rows (.ok launched.2)) := by
  intro launched
  let called : Scan := { s.setPool (s.pool.callAll [rows.map LaunchInput.ofWorkload]) with
    phase := .launching start rows s.pool.batches.length }
  have first : s.Reaches called := .of_step (m := .launch) (by simp only [step, waits, called])
  obtain ⟨epoch, ran⟩ := reaches_runQuiet called
  obtain ⟨tickets, summary, _, batches, -⟩ :=
    Pool.runBatch_alone lived back (rows.map LaunchInput.ofWorkload)
  have relaunched : launched = _ := Recovery.relaunch_eq batches
  refine ⟨epoch, (first.trans ran).trans (.of_step (m := .conclude) ?_)⟩
  have there : (s.pool.runBatch (rows.map LaunchInput.ofWorkload)).batches[s.pool.batches.length]?
      = some (.returned (rows.map LaunchInput.ofWorkload) tickets summary) := by
    rw [batches, List.getElem?_append_right (Nat.le_refl _), Nat.sub_self]
    rfl
  rw [relaunched]
  change ((s.pool.runBatch (rows.map LaunchInput.ofWorkload)).batches[s.pool.batches.length]?.bind
    Batch.summary?).map _ = _
  rw [there]
  rfl

/-- **A cycle is made of steps**, wherever all batches have returned. -/
theorem reaches_recover {s : Scan} (rests : s.phase = .resting) (lived : s.pool.Lived)
    (back : ∀ b ∈ s.pool.batches, b.isReturned) :
    ∃ epoch, s.Reaches { s with recovery := s.recovery.recover.1, epoch := epoch } := by
  obtain ⟨r, phase, epoch, waiters⟩ := s
  cases rests
  let s : Scan := ⟨r, .resting, epoch, waiters⟩
  have asked : s.Reaches s.ask := .of_step (m := .ask) rfl
  obtain ⟨later, waited⟩ := reaches_wait s.ask r.query.finish
  let w := s.ask.onward (s.ask.pool.wait r.query.finish) later
  have past : r.query.finish ≤ w.pool.clock := by
    change _ ≤ (s.ask.pool.wait r.query.finish).clock
    rw [Pool.wait_eq]
    exact Nat.le_max_right _ _
  have heard : w.Reaches (w.hear r.pool.clock r.query) :=
    .of_step (m := .hear) (if_pos past)
  have there := (asked.trans waited).trans heard
  have same : Recovery.afterQuery w.pool r.query
      = Recovery.afterQuery (Recovery.opening r.pool) r.query := afterQuery_wait _ _
  cases result : r.query.result with
  | error e =>
    refine ⟨later, ?_⟩
    simp only [hear, result, same] at there
    rw [Recovery.recover_of_error result]
    exact there
  | ok response =>
    let rows := response.workloads
    let listed : Scan := { w.setPool (r.ready rows) with
      phase := .listed r.pool.clock rows
      epoch := later + 1 }
    have there : s.Reaches listed := by
      simp only [hear, result, same] at there
      exact there
    have back : ∀ b ∈ (r.ready rows).batches, b.isReturned := by
      rw [Recovery.ready_eq]
      exact back
    have lived := Recovery.lived_ready lived rows
    obtain ⟨epoch, rest⟩ := reaches_relaunch (s := listed) rfl lived back
    refine ⟨epoch, ?_⟩
    rw [Recovery.recover_of_ok result]
    exact there.trans rest

end Relaunch.Scan
