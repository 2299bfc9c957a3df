import Relaunch.Proofs.Pool.Pending
import Relaunch.Proofs.Recovery.Scan

/-!
# Proofs/Recovery/Readiness — what it takes to be caught up

The progress is written from two sides: a cycle resets it and records how many rows there are, and
each worker moves it on.  Nothing in it says which rows a worker moved it on for.  What makes it
right is that a cycle ends only once its batch has returned, and that a batch returns only once all
its inputs are resumed; so the deeds that come after a cycle began are for the rows of that cycle.

The `Trace` of recovery has what the statement is about, in one order: the cycles that began, the
lists recorded, and the deeds of the pool.

* `Stands` — where the last cycle of a trace stands, and what the progress is there.
* `Sane.step` — it is kept by every step, whoever takes it.
* `isCaughtUp_iff_resumed_all` — recovery is caught up if and only if everything was done for each
  row of the list of the last cycle.
-/

namespace Relaunch

namespace Scan

/-! ## Traces -/

/-- **What can be seen of recovery.** -/
inductive Sign where
  /-- A cycle begins. -/
  | began
  /-- The number of rows of its list is recorded. -/
  | recorded (rows : List Workload)
  /-- Something is done for the input of a place. -/
  | did (x : Place) (d : Deed)

abbrev Trace := List Sign

/-- What a step shows, if it can be taken. -/
def signs (s : Scan) : Move → Trace
  | .ask => [.began]
  | .hear =>
    match s.phase with
    | .asking _ query =>
      match query.result with
      | .ok response => [.recorded response.workloads]
      | .error _ => []
    | .resting | .listed .. | .launching .. => []
  | .pool m => (s.pool.deeds m).map fun e => .did e.1 e.2
  | .launch | .conclude | .join | .observer _ => []

/-- **What some steps show**, in their order. -/
def trace [Clock] (s : Scan) : List Move → Trace
  | [] => []
  | m :: moves => s.signs m ++ ((s.step m).map fun t => t.trace moves).getD []

namespace Trace

/-- The lists recorded. -/
def lists (t : Trace) : List (List Workload) :=
  t.filterMap fun
    | .recorded rows => some rows
    | .began | .did .. => none

/-- The deeds of the pool. -/
def deeds (t : Trace) : History :=
  t.filterMap fun
    | .did x d => some (x, d)
    | .began | .recorded _ => none

/-- A trace of deeds alone. -/
def ofDeeds (h : History) : Trace := h.map fun e => .did e.1 e.2

@[simp] theorem lists_append (t u : Trace) : lists (t ++ u) = t.lists ++ u.lists := by
  simp [lists]

@[simp] theorem deeds_append (t u : Trace) : deeds (t ++ u) = t.deeds ++ u.deeds := by
  simp [deeds]

@[simp] theorem lists_nil : lists [] = [] := rfl

@[simp] theorem lists_began (t : Trace) : lists (.began :: t) = t.lists := rfl

@[simp] theorem lists_recorded (rows : List Workload) (t : Trace) :
    lists (.recorded rows :: t) = rows :: t.lists := rfl

@[simp] theorem deeds_nil : deeds [] = [] := rfl

@[simp] theorem deeds_began (t : Trace) : deeds (.began :: t) = t.deeds := rfl

@[simp] theorem deeds_recorded (rows : List Workload) (t : Trace) :
    deeds (.recorded rows :: t) = t.deeds := rfl

@[simp] theorem deeds_ofDeeds (h : History) : (ofDeeds h).deeds = h := by
  rw [deeds, ofDeeds, List.filterMap_map]
  exact List.filterMap_some

@[simp] theorem lists_ofDeeds (h : History) : (ofDeeds h).lists = [] := by
  rw [lists, ofDeeds, List.filterMap_map]
  exact List.filterMap_eq_nil_iff.mpr fun _ _ => rfl

theorem ofDeeds_append (g h : History) : ofDeeds (g ++ h) = ofDeeds g ++ ofDeeds h :=
  List.map_append

theorem mem_ofDeeds {h : History} {sign : Sign} (mem : sign ∈ ofDeeds h) :
    ∃ x d, sign = .did x d ∧ (x, d) ∈ h := by
  obtain ⟨⟨x, d⟩, done, rfl⟩ := List.mem_map.mp mem
  exact ⟨x, d, rfl, done⟩

/-- **The last cycle is part of all that came since a cycle began.** -/
theorem suffix_of_began {before before' cycle last : Trace}
    (eq : before ++ .began :: cycle = before' ++ .began :: last) (none : .began ∉ last) :
    last <:+ cycle := by
  rcases List.append_eq_append_iff.mp eq with ⟨more, -, rest⟩ | ⟨more, -, rest⟩
  · rcases List.cons_eq_append_iff.mp rest with ⟨-, same⟩ | ⟨more, -, rfl⟩
    · exact (List.cons.inj same).2 ▸ List.suffix_refl _
    · exact ⟨more ++ [.began], by simp⟩
  · rcases List.cons_eq_append_iff.mp rest with ⟨-, same⟩ | ⟨more, -, rfl⟩
    · exact (List.cons.inj same).2 ▸ List.suffix_refl _
    · exact absurd (List.mem_append_right _ List.mem_cons_self) none

/-- The last cycle of a trace is one. -/
theorem eq_of_began {before before' cycle last : Trace}
    (eq : before ++ .began :: cycle = before' ++ .began :: last) (none : .began ∉ cycle)
    (none' : .began ∉ last) : before = before' ∧ cycle = last := by
  have same : cycle = last := (suffix_of_began eq.symm none).eq_of_length_le
    (suffix_of_began eq none').length_le
  exact ⟨List.append_cancel_right (same ▸ eq), same⟩

/-- A cycle that has its list and deeds. -/
theorem began_not_mem (rows : List Workload) (h : History) :
    .began ∉ Sign.recorded rows :: ofDeeds h := by
  intro mem
  rcases List.mem_cons.mp mem with eq | mem
  · cases eq
  · obtain ⟨x, d, eq, -⟩ := mem_ofDeeds mem
    cases eq

/-- **The list of a cycle is one.** -/
theorem eq_of_recorded {early late : Trace} {rows rows' : List Workload} {h : History}
    (eq : early ++ .recorded rows' :: late = .recorded rows :: ofDeeds h) :
    early = [] ∧ rows' = rows ∧ late = ofDeeds h := by
  rcases List.append_eq_cons_iff.mp eq with ⟨rfl, same⟩ | ⟨more, -, rest⟩
  · cases same
    exact ⟨rfl, rfl, rfl⟩
  · have mem : .recorded rows' ∈ ofDeeds h :=
      rest ▸ List.mem_append_right _ List.mem_cons_self
    obtain ⟨x, d, eq, -⟩ := mem_ofDeeds mem
    cases eq

end Trace

/-! ## Lists and batches -/

/-- **A pool that is done with these lists**: each was a batch, and all batches have returned. -/
structure DoneWith (p : Pool) (lists : List (List Workload)) : Prop where
  back : ∀ b ∈ p.batches, b.isReturned
  batches : p.batches.map Batch.inputs = lists.map (·.map LaunchInput.ofWorkload)

/-- **A pool that is done with all lists but the last**, for the rows of which these deeds are. -/
structure WorksOn (p : Pool) (lists : List (List Workload)) (rows : List Workload) (h : History) :
    Prop where
  batches : p.batches.map Batch.inputs
    = (lists ++ [rows]).map (·.map LaunchInput.ofWorkload)
  others : ∀ b batch, p.batches[b]? = some batch → b ≠ lists.length → batch.isReturned = true
  within : ∀ e ∈ h, e.1.batch = lists.length ∧ e.1.index < rows.length

section Pool

variable {p q : Pool} {m : Relaunch.Move} {lists : List (List Workload)} {rows : List Workload}
  {h : History}

theorem DoneWith.length_eq (done : DoneWith p lists) : p.batches.length = lists.length := by
  have := congrArg List.length done.batches
  rwa [List.length_map, List.length_map] at this

/-- **Where all lists are done with, nothing is done.** -/
theorem DoneWith.step (done : DoneWith p lists) (sound : p.Sound) (own : isCall m = false)
    (s : p.Step m q) :
    DoneWith q lists ∧ p.deeds m = [] ∧ q.progress = p.progress := by
  have nothing := sound.deeds_of_returned done.back m
  have same := s.batches_of_returned done.back (by rintro inputs rfl; cases own)
  have books := s.books.progress
  rw [nothing] at books
  exact ⟨⟨same ▸ done.back, same ▸ done.batches⟩, nothing, books⟩

/-- The batch of the last list. -/
theorem WorksOn.at_last (works : WorksOn p lists rows h) :
    ∃ batch, p.batches[lists.length]? = some batch ∧
      batch.inputs = rows.map LaunchInput.ofWorkload := by
  have at_last := congrArg (·[lists.length]?) works.batches
  rw [List.getElem?_map, List.getElem?_map, List.getElem?_concat_length] at at_last
  exact Option.map_eq_some_iff.mp at_last

/-- Whatever is at work is the batch of the last list. -/
theorem WorksOn.eq_last (works : WorksOn p lists rows h) {b : Nat} {batch : Batch}
    (at_b : p.batches[b]? = some batch) (pending : batch.isReturned = false) :
    b = lists.length := by
  by_contra ne
  rw [works.others b batch at_b ne] at pending
  cases pending

/-- **The pool works on the last list**, and does nothing for any other. -/
theorem WorksOn.step (works : WorksOn p lists rows h) (sound : p.Sound) (own : isCall m = false)
    (s : p.Step m q) : WorksOn q lists rows (h ++ p.deeds m) := by
  have same := s.inputs_eq (by rintro inputs rfl; cases own)
  refine ⟨same.trans works.batches, fun b batch at_b ne => ?_, fun e mem => ?_⟩
  · have length := congrArg List.length same
    rw [List.length_map, List.length_map] at length
    have lt := (List.getElem?_eq_some_iff.mp at_b).1
    have old := List.getElem?_eq_getElem (l := p.batches) (length ▸ lt)
    have returned := works.others b _ old ne
    cases at_b.symm.trans (s.getElem?_of_returned old returned)
    exact returned
  · rcases List.mem_append.mp mem with before | now
    · exact works.within e before
    · obtain ⟨batch, at_x, pending, lt⟩ := sound.isPending_of_deed now
      have last := works.eq_last at_x pending
      obtain ⟨its, at_last, inputs⟩ := works.at_last
      rw [last, at_last] at at_x
      cases at_x
      rw [inputs, List.length_map] at lt
      exact ⟨last, lt⟩

/-- The pool is done once the batch of the last list has returned. -/
theorem WorksOn.done (works : WorksOn p lists rows h) {batch : Batch}
    (at_last : p.batches[lists.length]? = some batch) (returned : batch.isReturned = true) :
    DoneWith p (lists ++ [rows]) where
  back b mem := by
    obtain ⟨c, at_c⟩ := List.mem_iff_getElem?.mp mem
    by_cases last : c = lists.length
    · subst last
      cases at_last.symm.trans at_c
      exact returned
    · exact works.others c b at_c last
  batches := works.batches

end Pool

/-! ## Where the last cycle stands -/

/-- **Where the last cycle of a trace stands**, and what the progress is there. -/
inductive Stands (phase : Phase) (p : Pool) : Trace → Prop where
  /-- There is none. -/
  | fresh (rests : phase = .resting) (done : DoneWith p []) (progress : p.progress = {}) :
      Stands phase p []
  /-- It has no list: the registry is asked for one, or did not give it. -/
  | unlisted {before : Trace}
      (asks : phase = .resting ∨ ∃ start query, phase = .asking start query)
      (done : DoneWith p before.lists) (progress : p.progress = {}) :
      Stands phase p (before ++ [.began])
  /-- Its list is recorded, and not launched. -/
  | listed {before : Trace} {start : Nat} {rows : List Workload}
      (waits : phase = .listed start rows) (done : DoneWith p before.lists)
      (progress : p.progress = ⟨rows.length, 0, true⟩) :
      Stands phase p (before ++ [.began, .recorded rows])
  /-- Its list is launched. -/
  | launched {before : Trace} {rows : List Workload} {h : History}
      (ends : phase = .resting ∧ DoneWith p (before.lists ++ [rows]) ∨
        ∃ start, phase = .launching start rows before.lists.length)
      (works : WorksOn p before.lists rows h)
      (apart : ∀ k, before.deeds.of ⟨before.lists.length, k⟩ = [])
      (progress : p.progress = ⟨rows.length, (h.map Prod.snd).count .resumed, true⟩) :
      Stands phase p (before ++ .began :: .recorded rows :: Trace.ofDeeds h)

/-- **A pool with a history that is true of it.** -/
structure Follows (pipeline : Pipeline) (p : Pool) (h : History) : Prop where
  lived : p.Lived
  pipeline_eq : p.pipeline = pipeline
  told : p.Told h

section Steps

variable {pipeline : Pipeline} {phase : Phase} {p q : Pool} {t : Trace} {h : History}

theorem Follows.step {m : Relaunch.Move} (follows : Follows pipeline p h)
    (s : p.step m = some q) : Follows pipeline q (h ++ p.deeds m) where
  lived := follows.lived.step s
  pipeline_eq := (Pool.pipeline_of_step (.of_step s)).trans follows.pipeline_eq
  told := follows.told.step follows.lived.sound (.of_step s)

theorem Follows.withCounts (follows : Follows pipeline p h) (progress : Progress) (tally : Tally)
    (log : List Entry) : Follows pipeline (p.withCounts progress tally log) h where
  lived := follows.lived.share progress tally log
  pipeline_eq := follows.pipeline_eq
  told := follows.told.withCounts progress tally log

/-- **Between cycles, all lists are done with.** -/
theorem Stands.of_resting (stands : Stands .resting p t) : DoneWith p t.lists := by
  cases stands with
  | fresh rests done progress => exact done
  | unlisted asks done progress => simpa using done
  | listed waits => cases waits
  | launched ends works apart progress =>
    rcases ends with ⟨-, done⟩ | ⟨start, launches⟩
    · simpa using done
    · cases launches

theorem Stands.of_asking {start : Nat} {query : Query} (stands : Stands (.asking start query) p t) :
    ∃ before : Trace, t = before ++ [.began] ∧ DoneWith p before.lists ∧ p.progress = {} := by
  cases stands with
  | fresh rests => cases rests
  | unlisted asks done progress => exact ⟨_, rfl, done, progress⟩
  | listed waits => cases waits
  | launched ends => rcases ends with ⟨rests, -⟩ | ⟨start, launches⟩ <;> contradiction

theorem Stands.of_listed {start : Nat} {rows : List Workload}
    (stands : Stands (.listed start rows) p t) :
    ∃ before : Trace, t = before ++ [.began, .recorded rows] ∧ DoneWith p before.lists ∧
      p.progress = ⟨rows.length, 0, true⟩ := by
  cases stands with
  | fresh rests => cases rests
  | unlisted asks => rcases asks with rests | ⟨start, query, asks⟩ <;> contradiction
  | listed waits done progress =>
    cases waits
    exact ⟨_, rfl, done, progress⟩
  | launched ends => rcases ends with ⟨rests, -⟩ | ⟨start, launches⟩ <;> contradiction

theorem Stands.of_launching {start b : Nat} {rows : List Workload}
    (stands : Stands (.launching start rows b) p t) :
    ∃ (before : Trace) (h : History), t = before ++ .began :: .recorded rows :: Trace.ofDeeds h ∧
      b = before.lists.length ∧ WorksOn p before.lists rows h ∧
      (∀ k, before.deeds.of ⟨before.lists.length, k⟩ = []) ∧
      p.progress = ⟨rows.length, (h.map Prod.snd).count .resumed, true⟩ := by
  cases stands with
  | fresh rests => cases rests
  | unlisted asks => rcases asks with rests | ⟨start, query, asks⟩ <;> contradiction
  | listed waits => cases waits
  | launched ends works apart progress =>
    rcases ends with ⟨rests, -⟩ | ⟨start, launches⟩
    · cases rests
    · cases launches
      exact ⟨_, _, rfl, rfl, works, apart, progress⟩

/-- **The pool's own steps.** -/
theorem Stands.step {m : Relaunch.Move} (stands : Stands phase p t) (sound : p.Sound)
    (own : isCall m = false) (s : p.Step m q) :
    Stands phase q (t ++ .ofDeeds (p.deeds m)) := by
  cases stands with
  | fresh rests done progress =>
    obtain ⟨done, nothing, same⟩ := done.step sound own s
    rw [nothing]
    exact .fresh rests done (same.trans progress)
  | unlisted asks done progress =>
    obtain ⟨done, nothing, same⟩ := done.step sound own s
    rw [nothing, Trace.ofDeeds, List.map_nil, List.append_nil]
    exact .unlisted asks done (same.trans progress)
  | listed waits done progress =>
    obtain ⟨done, nothing, same⟩ := done.step sound own s
    rw [nothing, Trace.ofDeeds, List.map_nil, List.append_nil]
    exact .listed waits done (same.trans progress)
  | @launched before rows h ends works apart progress =>
    have eq : before ++ .began :: .recorded rows :: Trace.ofDeeds h ++ .ofDeeds (p.deeds m)
        = before ++ .began :: .recorded rows :: Trace.ofDeeds (h ++ p.deeds m) := by
      rw [Trace.ofDeeds_append, List.append_assoc]
      rfl
    rw [eq]
    refine .launched ?_ (works.step sound own s) apart ?_
    -- a cycle that has ended left nothing at work, so nothing is done for its rows any more
    · exact ends.imp_left fun ⟨rests, done⟩ => ⟨rests, (done.step sound own s).1⟩
    · rw [s.books.progress, History.progress_eq, progress, List.map_append, List.count_append]

/-- No batch has a number past the last. -/
theorem Follows.of_eq_nil (follows : Follows pipeline p h) {b : Nat}
    (past : p.batches.length ≤ b) (k : Nat) : h.of ⟨b, k⟩ = [] := by
  have none : p.batches[b]? = none := List.getElem?_eq_none past
  rw [follows.told.unsent ⟨b, k⟩ (by rw [Pool.ticketAt, none]; rfl), Pool.refusalAt, none]
  rfl

end Steps

/-- **What holds of recovery** where it has shown this much. -/
structure Sane (pipeline : Pipeline) (s : Scan) (t : Trace) : Prop where
  follows : Follows pipeline s.pool t.deeds
  stands : Stands s.phase s.pool t

section Sane

variable {pipeline : Pipeline} {s u : Scan} {t : Trace}

theorem Sane.ask [Clock] (sane : Sane pipeline s t) (rests : s.phase = .resting) :
    Sane pipeline s.ask (t ++ [.began]) where
  follows := by
    rw [Trace.deeds_append, Trace.deeds_began, Trace.deeds_nil, List.append_nil]
    exact sane.follows.withCounts _ _ _
  stands := by
    have done := (rests ▸ sane.stands).of_resting
    exact .unlisted (.inr ⟨_, _, rfl⟩) ⟨done.back, done.batches⟩ rfl

theorem sane_new (owner : String) (policy : Backoff) (script : Script) (parallelism : Nat)
    (pipeline : Pipeline) (start : Nat) :
    Sane pipeline (new owner policy script parallelism pipeline start) [] where
  follows :=
    ⟨.new parallelism pipeline start, rfl, Pool.told_new parallelism pipeline start {} {} []⟩
  stands := .fresh rfl ⟨fun _ mem => absurd mem List.not_mem_nil, rfl⟩ rfl

/-- The query comes back. -/
theorem Sane.hear {start : Nat} {query : Query} (sane : Sane pipeline s t)
    (asks : s.phase = .asking start query) (past : query.finish ≤ s.pool.clock) :
    Sane pipeline (s.hear start query) (t ++ s.signs .hear) := by
  obtain ⟨before, rfl, done, progress⟩ := (asks ▸ sane.stands).of_asking
  cases result : query.result with
  | error e =>
    have pool : (s.hear start query).pool = Recovery.afterQuery s.pool query := by
      simp only [Scan.hear, result]
      rfl
    have rests : (s.hear start query).phase = .resting := by
      simp only [Scan.hear, result]
      rfl
    simp only [signs, asks, result, List.append_nil]
    rw [afterQuery_of_le past] at pool
    refine ⟨by rw [pool]; exact sane.follows.withCounts _ _ _, ?_⟩
    rw [pool, rests]
    exact .unlisted (.inl rfl) ⟨done.back, done.batches⟩ progress
  | ok response =>
    have pool : (s.hear start query).pool
        = Recovery.listed (Recovery.afterQuery s.pool query) response.workloads := by
      simp only [Scan.hear, result]
      rfl
    have waits : (s.hear start query).phase = .listed start response.workloads := by
      simp only [Scan.hear, result]
    simp only [signs, asks, result]
    rw [afterQuery_of_le past] at pool
    refine ⟨?_, ?_⟩
    · rw [pool, Trace.deeds_append, Trace.deeds_recorded, Trace.deeds_nil, List.append_nil]
      exact sane.follows.withCounts _ _ _
    · rw [pool, waits, List.append_assoc]
      refine .listed rfl ⟨done.back, done.batches⟩ ?_
      simp only [Recovery.listed, Pool.note, Pool.withCounts, progress]
      rfl

/-- The rows are launched: there is one batch more. -/
theorem Sane.launch {start : Nat} {rows : List Workload} (sane : Sane pipeline s t)
    (waits : s.phase = .listed start rows) :
    Sane pipeline { s.setPool (s.pool.callAll [rows.map LaunchInput.ofWorkload]) with
      phase := .launching start rows s.pool.batches.length } t := by
  have called : Follows pipeline (s.pool.callAll [rows.map LaunchInput.ofWorkload])
      (t.deeds ++ []) :=
    sane.follows.step (m := .call (rows.map LaunchInput.ofWorkload)) rfl
  rw [List.append_nil] at called
  refine ⟨called, ?_⟩
  obtain ⟨before, rfl, done, progress⟩ := (waits ▸ sane.stands).of_listed
  refine .launched (h := []) (.inr ⟨start, by rw [done.length_eq]⟩)
    ⟨?_, ?_, fun _ mem => absurd mem List.not_mem_nil⟩ ?_ progress
  · change (s.pool.batches ++ [Batch.called _]).map Batch.inputs = _
    rw [List.map_append, done.batches, List.map_append]
    rfl
  · intro b batch at_b ne
    have at_b : (s.pool.batches ++ [Batch.called _])[b]? = some batch := at_b
    rw [← done.length_eq] at ne
    have lt := (List.getElem?_eq_some_iff.mp at_b).1
    rw [List.length_append, List.length_singleton] at lt
    rw [List.getElem?_append_left (by omega)] at at_b
    exact done.back batch (List.mem_of_getElem? at_b)
  · intro k
    -- the new batch has the number of the list, and until now there was none of that number
    simpa using sane.follows.of_eq_nil (Nat.le_of_eq done.length_eq) k

/-- The batch of the rows has returned. -/
theorem Sane.conclude {start b : Nat} {rows : List Workload} {summary : Summary}
    (sane : Sane pipeline s t) (launches : s.phase = .launching start rows b)
    (there : s.pool.batches[b]?.bind Batch.summary? = some summary) :
    Sane pipeline (s.conclude start rows summary) t := by
  obtain ⟨before, h, rfl, rfl, works, apart, progress⟩ := (launches ▸ sane.stands).of_launching
  obtain ⟨batch, at_b, its⟩ := Option.bind_eq_some_iff.mp there
  -- the next cycle may begin only now, when nothing can be resumed for this one any more
  have returned : batch.isReturned = true := by
    cases batch with
    | returned => rfl
    | _ => cases its
  have done := works.done at_b returned
  refine ⟨sane.follows.withCounts _ _ _, ?_⟩
  exact .launched (.inl ⟨rfl, done.back, done.batches⟩)
    ⟨works.batches, works.others, works.within⟩ apart progress

/-- **Every step keeps it**, whoever takes it. -/
theorem Sane.step [Clock] {m : Move} (sane : Sane pipeline s t) (took : s.step m = some u) :
    Sane pipeline u (t ++ s.signs m) := by
  cases Step.of_step took with
  | ask rests => exact sane.ask rests
  | hear asks past => exact sane.hear asks past
  | launch waits =>
    rw [signs, List.append_nil]
    exact sane.launch waits
  | conclude launches there =>
    rw [signs, List.append_nil]
    exact sane.conclude launches there
  | pool own went =>
    refine ⟨?_, sane.stands.step sane.follows.lived.sound own (.of_step went)⟩
    rw [Trace.deeds_append]
    exact Trace.deeds_ofDeeds (s.pool.deeds _) ▸ sane.follows.step went
  | join =>
    rw [signs, List.append_nil]
    exact ⟨sane.follows, sane.stands⟩
  | observer looks =>
    rw [signs, List.append_nil]
    exact ⟨sane.follows, sane.stands⟩

/-- **What is kept by each step, is kept by all.** -/
theorem Sane.steps [Clock] {moves : List Move} (sane : Sane pipeline s t)
    (went : s.steps moves = some u) :
    Sane pipeline u (t ++ s.trace moves) := by
  induction moves generalizing s t with
  | nil =>
    cases went
    rw [trace, List.append_nil]
    exact sane
  | cons m moves ih =>
    rw [Scan.steps, List.foldlM_cons] at went
    obtain ⟨v, first, rest⟩ := Option.bind_eq_some_iff.mp went
    have := ih (sane.step first) rest
    rwa [trace, first, Option.map_some, Option.getD_some, ← List.append_assoc]

/-- **What the progress is**, and what it was moved on for. -/
theorem Sane.progress_eq (sane : Sane pipeline s t) :
    (t = [] ∧ s.pool.progress = {}) ∨
    (∃ before : Trace, t = before ++ [.began] ∧ s.pool.progress = {}) ∨
    ∃ (before : Trace) (rows : List Workload) (h : History),
      t = before ++ .began :: .recorded rows :: Trace.ofDeeds h ∧
      s.pool.progress = ⟨rows.length, (h.map Prod.snd).count .resumed, true⟩ ∧
      (∀ e ∈ h, e.1.batch = before.lists.length ∧ e.1.index < rows.length) ∧
      ∀ k row, rows[k]? = some row → ∃ fate : Fate,
        fate.IsOf pipeline (.ofWorkload row) ∧
          h.of ⟨before.lists.length, k⟩ <+: fate.deeds (.ofWorkload row) := by
  obtain ⟨follows, stands⟩ := sane
  cases stands with
  | fresh rests done progress => exact .inl ⟨rfl, progress⟩
  | unlisted asks done progress => exact .inr (.inl ⟨_, rfl, progress⟩)
  | listed waits done progress =>
    exact .inr (.inr ⟨_, _, [], rfl, progress, fun _ mem => absurd mem List.not_mem_nil,
      fun k row at_k => ⟨.turnedAway, trivial, List.nil_prefix⟩⟩)
  | @launched before rows h ends works apart progress =>
    refine .inr (.inr ⟨before, rows, h, rfl, progress, works.within, fun k row at_k => ?_⟩)
    obtain ⟨batch, at_last, inputs⟩ := works.at_last
    have its : s.pool.inputAt ⟨before.lists.length, k⟩ = some (.ofWorkload row) := by
      rw [Pool.inputAt, at_last, Option.bind_some, inputs, List.getElem?_map, at_k,
        Option.map_some]
    obtain ⟨fate, isOf, so_far⟩ := follows.told.exists_fate follows.lived.sound its
    refine ⟨fate, follows.pipeline_eq ▸ isOf, ?_⟩
    simpa [History.of_append, apart] using so_far

/-- **Caught up**: everything was done for each row of the last list. -/
theorem Sane.isCaughtUp_iff (sane : Sane pipeline s t) :
    s.pool.progress.isCaughtUp = true ↔
      ∃ (before early : Trace) (rows : List Workload) (late : Trace),
        t = before ++ .began :: (early ++ .recorded rows :: late) ∧
        .began ∉ early ++ .recorded rows :: late ∧
        ∀ k row, rows[k]? = some row → ∃ fate : Fate,
          fate.IsOf pipeline (.ofWorkload row) ∧
            late.deeds.of ⟨before.lists.length, k⟩ = fate.deeds (.ofWorkload row) := by
  rcases sane.progress_eq with ⟨rfl, none⟩ | ⟨before, rfl, none⟩ |
    ⟨before, rows, h, rfl, counts, within, so_far⟩
  · rw [none]
    refine ⟨nofun, fun ⟨before, early, rows, late, eq, _⟩ => ?_⟩
    exact absurd eq.symm (List.append_ne_nil_of_right_ne_nil _ (List.cons_ne_nil _ _))
  · rw [none]
    refine ⟨nofun, fun ⟨before', early, rows, late, eq, last, _⟩ => ?_⟩
    obtain ⟨-, empty⟩ := Trace.eq_of_began eq List.not_mem_nil last
    exact absurd empty.symm (List.append_ne_nil_of_right_ne_nil _ (List.cons_ne_nil _ _))
  · have last := Trace.began_not_mem rows h
    obtain ⟨-, all⟩ := History.count_resumed within so_far
    rw [counts, Progress.isCaughtUp, Bool.true_and, decide_eq_true_iff, all]
    constructor
    · intro done
      refine ⟨before, [], rows, Trace.ofDeeds h, rfl, last, ?_⟩
      rwa [Trace.deeds_ofDeeds]
    · rintro ⟨before', early, rows', late, eq, last', done⟩
      obtain ⟨rfl, same⟩ := Trace.eq_of_began eq last last'
      obtain ⟨rfl, rfl, rfl⟩ := Trace.eq_of_recorded same.symm
      rwa [Trace.deeds_ofDeeds] at done

theorem Sane.resumed_le (sane : Sane pipeline s t) :
    s.pool.progress.resumed ≤ s.pool.progress.discovered := by
  rcases sane.progress_eq with ⟨-, none⟩ | ⟨before, -, none⟩ |
    ⟨before, rows, h, -, counts, within, so_far⟩
  · exact Nat.le_of_eq (by rw [none])
  · exact Nat.le_of_eq (by rw [none])
  · rw [counts]
    exact (History.count_resumed within so_far).1

/-- **The progress is moved on for rows of the last list only.** -/
theorem Sane.resumed_eq (sane : Sane pipeline s t) {before cycle : Trace}
    (eq : t = before ++ .began :: cycle) (last : .began ∉ cycle) :
    s.pool.progress.resumed = (cycle.deeds.map Prod.snd).count .resumed ∧
      ∀ x d, .did x d ∈ cycle → x.batch = before.lists.length ∧
        ∃ (early : Trace) (rows : List Workload) (late : Trace),
          cycle = early ++ .recorded rows :: late ∧ .did x d ∈ late ∧ x.index < rows.length := by
  rcases sane.progress_eq with ⟨rfl, none⟩ | ⟨before', rfl, none⟩ |
    ⟨before', rows, h, rfl, counts, within, -⟩
  · exact absurd eq.symm (List.append_ne_nil_of_right_ne_nil _ (List.cons_ne_nil _ _))
  · obtain ⟨rfl, rfl⟩ := Trace.eq_of_began eq List.not_mem_nil last
    rw [none]
    exact ⟨rfl, fun _ _ mem => absurd mem List.not_mem_nil⟩
  · obtain ⟨rfl, rfl⟩ := Trace.eq_of_began eq (Trace.began_not_mem rows h) last
    rw [counts, Trace.deeds_recorded, Trace.deeds_ofDeeds]
    refine ⟨rfl, fun x d mem => ?_⟩
    have late : .did x d ∈ Trace.ofDeeds h := by simpa using mem
    obtain ⟨y, e, same, done⟩ := Trace.mem_ofDeeds late
    cases same
    obtain ⟨batch, lt⟩ := within (x, d) done
    exact ⟨batch, [], rows, _, rfl, late, lt⟩

/-- **The batches are the lists recorded**, but for the last while it is not launched. -/
theorem Sane.batches_prefix (sane : Sane pipeline s t) :
    s.pool.batches.map Batch.inputs <+: t.lists.map (·.map LaunchInput.ofWorkload) := by
  obtain ⟨-, stands⟩ := sane
  cases stands with
  | fresh rests done progress => exact done.batches ▸ List.prefix_refl _
  | unlisted asks done progress =>
    rw [done.batches]
    simp
  | listed waits done progress =>
    rw [done.batches]
    simp
  | launched ends works apart progress =>
    rw [works.batches]
    simp

end Sane

/-- **What it takes to be caught up.**  From a new recovery, some steps of its cycles, of the pool
and of those who watch lead to where the progress is looked at.

* Recovery is caught up if and only if the list of the last cycle is recorded and, since then,
  everything was done for each of its rows: it was launched or turned away, and resumed.
* So it is not caught up from the beginning of a cycle until a list is recorded.
* No more rows are resumed than there are.
* All that was done since the last cycle began was done for rows of its own list, and after this was
  recorded; the progress counts those resumed among them.
* The batches of the pool are the lists recorded, in their order, but for the last while it is not
  launched. -/
theorem isCaughtUp_iff_resumed_all [Clock] {owner : String} {policy : Backoff} {script : Script}
    {parallelism : Nat} {pipeline : Pipeline} {start : Nat} {moves : List Move} {s : Scan}
    (went : (new owner policy script parallelism pipeline start).steps moves = some s) :
    let trace := (new owner policy script parallelism pipeline start).trace moves
    let progress := s.pool.progress
    (progress.isCaughtUp = true ↔
      ∃ (before early : Trace) (rows : List Workload) (late : Trace),
        trace = before ++ .began :: (early ++ .recorded rows :: late) ∧
        .began ∉ early ++ .recorded rows :: late ∧
        ∀ k row, rows[k]? = some row → ∃ fate : Fate,
          fate.IsOf pipeline (.ofWorkload row) ∧
            late.deeds.of ⟨before.lists.length, k⟩ = fate.deeds (.ofWorkload row)) ∧
    (∀ before cycle : Trace, trace = before ++ .began :: cycle →
      (∀ rows, .recorded rows ∉ cycle) → progress.isCaughtUp = false) ∧
    progress.resumed ≤ progress.discovered ∧
    (∀ before cycle : Trace, trace = before ++ .began :: cycle → .began ∉ cycle →
      progress.resumed = (cycle.deeds.map Prod.snd).count .resumed ∧
      ∀ x d, .did x d ∈ cycle → x.batch = before.lists.length ∧
        ∃ (early : Trace) (rows : List Workload) (late : Trace),
          cycle = early ++ .recorded rows :: late ∧ .did x d ∈ late ∧ x.index < rows.length) ∧
    s.pool.batches.map Batch.inputs <+: trace.lists.map (·.map LaunchInput.ofWorkload) := by
  intro trace progress
  have sane : Sane pipeline s trace :=
    (sane_new owner policy script parallelism pipeline start).steps went
  refine ⟨sane.isCaughtUp_iff, ?_, sane.resumed_le, fun _ _ => sane.resumed_eq,
    sane.batches_prefix⟩
  intro before cycle eq unlisted
  rw [Bool.eq_false_iff]
  intro caughtUp
  obtain ⟨before', early, rows, late, eq', last, -⟩ := sane.isCaughtUp_iff.mp caughtUp
  have part := Trace.suffix_of_began (eq.symm.trans eq') last
  exact unlisted rows (part.subset (List.mem_append_right _ List.mem_cons_self))

/-- A cycle whose query is given up, and then one with a row, up to the moment it is resumed. -/
theorem isCaughtUp_iff_resumed_all_of_second :
    let row : Workload := ⟨"w-1", some "dp-1", .claimed, .sync, "", "", none, []⟩
    let pipeline : Pipeline := ⟨[⟨"load", fun _ => .unbuilt .wordless⟩], .noop⟩
    let script : Script := [⟨.error ⟨listMethod, .server 403 ""⟩, 2⟩, ⟨.ok ⟨[row]⟩, 5⟩]
    let first := new "dp-1" ⟨.ofMillis 1, .ofMillis 2⟩ script 1 pipeline 0
    let moves : List Move := [.ask, .pool (.tick 2), .hear, .join, .ask, .observer 0,
      .pool (.tick 7), .hear, .observer 0, .launch, .pool (.batch 0), .pool (.batch 0),
      .pool (.worker 0), .pool (.worker 0), .pool (.worker 0), .pool (.worker 0),
      .pool (.worker 0)]
    ∃ s, first.steps moves = some s ∧ s.pool.progress.isCaughtUp = true ∧
      ∃ (before early : Trace) (rows : List Workload) (late : Trace),
        first.trace moves = before ++ .began :: (early ++ .recorded rows :: late) ∧
        ∀ k row, rows[k]? = some row → ∃ fate : Fate,
          fate.IsOf pipeline (.ofWorkload row) ∧
            late.deeds.of ⟨before.lists.length, k⟩ = fate.deeds (.ofWorkload row) := by
  intro row pipeline script first moves
  have run : (first.steps moves).map (·.pool.progress.isCaughtUp) = some true := by decide +kernel
  obtain ⟨s, went, caughtUp⟩ := Option.map_eq_some_iff.mp run
  obtain ⟨before, early, rows, late, eq, -, done⟩ :=
    (isCaughtUp_iff_resumed_all went).1.mp caughtUp
  exact ⟨s, went, caughtUp, before, early, rows, late, eq, done⟩

end Scan

end Relaunch
