import Relaunch.Proofs.Pool.Pending

/-!
# Proofs/Pool/Barrier — which closings are drain barriers

A pool is **drained** once every worker has left: the queue is empty and no one can fill it.  From
then on no launch starts, and every input that has no ticket yet is turned away (`Drained.reaches`).

The first closing to shut the queue and go on takes charge of all workers; those after it have no
one to wait for.  So a closing that returns with workers in its charge leaves a drained pool
(`Charged.drained_of_join`), while one that came second may return as soon as the queue is shut,
launches under way and jobs in the queue notwithstanding (`exists_returned_undrained`).  A pool in
which a closing has returned is drained if and only if none of the others waits for a worker.

* `Charged.step` — every step keeps track of who has charge of the workers.
* `Drained.step` — a drained pool stays drained, and launches nothing.
* `drain_barrier` — which closings are barriers, and what holds past one.
-/

namespace Relaunch.Pool

/-! ## Drained pools -/

/-- **A pool that all workers have left.** -/
structure Drained (p : Pool) : Prop where
  alone : p.isConnected = false
  empty : p.queue = []
  gone : ∀ w ∈ p.workers, w = .exited

theorem Staffed.drained {p : Pool} (h : p.Staffed) (gone : ∀ w ∈ p.workers, w = .exited) :
    p.Drained := by
  obtain ⟨w, mem⟩ := List.exists_mem_of_ne_nil _ h.some_worker
  obtain ⟨empty, alone⟩ := h.left_behind (gone w mem ▸ mem)
  exact ⟨alone, empty, gone⟩

/-- **What a drained pool comes to**: it is still drained, and has launched and sent nothing. -/
structure Past (p q : Pool) : Prop where
  drained : q.Drained
  runs : q.journal.runs = p.journal.runs
  tickets : q.ticketAt = p.ticketAt

theorem Drained.past {p : Pool} (h : p.Drained) : p.Past p := ⟨h, rfl, rfl⟩

section Steps

variable {p q : Pool} {m : Move}

/-- A step that leaves the workers, the queue and the launches alone. -/
theorem Drained.still (h : p.Drained) (s : p.Step m q) (workers : q.workers = p.workers)
    (queue : q.queue = p.queue) (runs : q.journal.runs = p.journal.runs)
    (tickets : q.ticketAt = p.ticketAt) : p.Past q where
  drained :=
    { alone := by
        cases connected : q.isConnected with
        | false => rfl
        | true => exact nomatch h.alone.symm.trans (isConnected_of_step s connected)
      empty := queue.trans h.empty
      gone := workers ▸ h.gone }
  runs := runs
  tickets := tickets

/-- **A drained pool stays drained**, and launches nothing. -/
theorem Drained.step (h : p.Drained) (s : p.Step m q) : p.Past q := by
  have left : ∀ {i : Nat} {w : Worker}, p.workers[i]? = some w → w = .exited :=
    fun at_i => h.gone _ (List.mem_of_getElem? at_i)
  have unplaced : ∀ {b : Nat} {inputs rest : List LaunchInput} {tickets : List Nat}
      {rejected : Nat}, p.batches[b]? ≠ some (.sending true inputs rest tickets rejected) :=
    fun at_b => nomatch h.alone.symm.trans (isConnected_of_attached at_b)
  cases s with
  | seat at_i free => cases left at_i
  | take at_i first => cases left at_i
  | leave at_i empty alone => cases left at_i
  | judge at_i ended => cases left at_i
  | count at_i => cases left at_i
  | resume at_i => cases left at_i
  | answer at_i => cases left at_i
  | refuse at_b unserved => exact absurd at_b unplaced
  | send at_b served => exact absurd at_b unplaced
  | skip at_b => exact h.still (.skip at_b) rfl rfl rfl (ticketAt_set at_b rfl rfl)
  | attach at_b some_input =>
    exact h.still (.attach at_b some_input) rfl rfl rfl (ticketAt_set at_b rfl rfl)
  | turnAway at_b => exact h.still (.turnAway at_b) rfl rfl rfl (ticketAt_set at_b rfl rfl)
  | finish at_b there =>
    exact h.still (.finish at_b there) rfl rfl rfl (ticketAt_set at_b rfl rfl)
  | call inputs => exact h.still (.call inputs) rfl rfl rfl (ticketAt_call p inputs)
  | tick later => exact h.still (.tick later) rfl rfl rfl rfl
  | close => exact h.still .close rfl rfl rfl rfl
  | shut at_c => exact h.still (.shut at_c) rfl rfl rfl rfl
  | takeCharge at_c => exact h.still (.takeCharge at_c) rfl rfl rfl rfl
  | join at_c gone => exact h.still (.join at_c gone) rfl rfl rfl rfl

/-- **Whatever happens to a drained pool.** -/
theorem Drained.reaches (h : p.Drained) (r : p.Reaches q) : p.Past q :=
  r.induction h.past fun before s =>
    have after := before.drained.step (.of_step s)
    ⟨after.drained, after.runs.trans before.runs, after.tickets.trans before.tickets⟩

end Steps

/-- **Every job of a drained pool is answered.** -/
theorem Drained.answered {p : Pool} (h : p.Drained) (sound : p.Sound) {ticket : Nat}
    (issued : ticket < p.nextTicket) : ∃ outcome, p.replies.lookup ticket = some outcome := by
  have started : ticket < p.journal.runs.length := by
    have := sound.numbered.next
    rw [h.empty, List.length_nil] at this
    omega
  rcases sound.numbered.held_or_replied started with ⟨i, w, job, at_i, has, -⟩ | ⟨outcome, answer⟩
  · rw [h.gone w (List.mem_of_getElem? at_i)] at has
    cases has
  · exact ⟨outcome, sound.numbered.lookup_of_replied answer⟩

/-- **All of a launch is done** for every input that a drained pool has a ticket for. -/
theorem Told.life_of_drained {p : Pool} {h : History} (told : p.Told h) (sound : p.Sound)
    (drained : p.Drained) {x : Place} {ticket : Nat} (hx : p.ticketAt x = some ticket)
    {input : LaunchInput} (its : p.inputAt x = some input) :
    ∃ worker job run, (Fate.launched worker job run).IsOf p.pipeline input ∧
      h.of x = Deed.life worker job run := by
  obtain ⟨worker, job, run, isOf, -, answered⟩ := told.fate_of_sent sound hx its
  obtain ⟨outcome, found⟩ := drained.answered sound ((sound.placed.issued ticket).mp ⟨x, hx⟩)
  exact ⟨worker, job, run, isOf, (answered outcome found).1⟩

/-! ## Who has charge of the workers -/

/-- What a closing can have charge of: all workers, or none. -/
def IsShare (p : Pool) (workers : List Nat) : Prop :=
  workers = [] ∨ workers = List.range p.workers.length

/-- **Who has charge of the workers of a pool.** -/
inductive InCharge (p : Pool) : Prop where
  /-- No closing has come to them yet. -/
  | nobody (all : p.handles = List.range p.workers.length)
      (early : ∀ c ∈ p.closings, c = .called ∨ c = .shut)
  | closing (mem : .joining (List.range p.workers.length) ∈ p.closings)
  /-- They have all left. -/
  | gone (left : ∀ w ∈ p.workers, w = .exited)

/-- **A pool whose workers are in someone's charge**, all of them together. -/
structure Charged (p : Pool) : Prop where
  handles : p.IsShare p.handles
  joining : ∀ workers, .joining workers ∈ p.closings → p.IsShare workers
  inCharge : p.InCharge

theorem charged_new (parallelism : Nat) (pipeline : Pipeline) (start : Nat) :
    (Pool.new parallelism pipeline start).Charged where
  handles := .inr (by rw [new, List.length_replicate])
  joining := nofun
  inCharge := .nobody (by rw [new, List.length_replicate]) nofun

section Steps

variable {p q : Pool} {m : Move}

/-- A step that does nothing for the closings leaves the workers in the same charge. -/
theorem Charged.congr (h : p.Charged) (length : q.workers.length = p.workers.length)
    (left : (∀ w ∈ p.workers, w = .exited) → ∀ w ∈ q.workers, w = .exited)
    (handles : q.handles = p.handles) (closings : q.closings = p.closings) : q.Charged where
  handles := by
    rw [IsShare, handles, length]
    exact h.handles
  joining := by
    rw [closings]
    intro ws mem
    rw [IsShare, length]
    exact h.joining ws mem
  inCharge := by
    cases h.inCharge with
    | nobody all early => exact .nobody (by rw [handles, length, all]) (closings ▸ early)
    | closing mem => exact .closing (by rwa [length, closings])
    | gone all => exact .gone (left all)

/-- A step of a worker. -/
theorem Charged.worker (h : p.Charged) {i : Nat} {w v : Worker} (at_i : p.workers[i]? = some w)
    (stays : w ≠ .exited) (workers : q.workers = p.workers.set i v)
    (handles : q.handles = p.handles) (closings : q.closings = p.closings) : q.Charged :=
  h.congr (by rw [workers, List.length_set])
    (fun left => absurd (left w (List.mem_of_getElem? at_i)) stays) handles closings

/-- A step that is none of the workers' and none of the closings'. -/
theorem Charged.still (h : p.Charged) (workers : q.workers = p.workers)
    (handles : q.handles = p.handles) (closings : q.closings = p.closings) : q.Charged :=
  h.congr (by rw [workers]) (fun left => workers ▸ left) handles closings

/-- A closing that waits stays where another one goes on. -/
theorem Charged.setClosing (h : p.Charged) {c : Nat} {new : Closing} {ws : List Nat}
    (mem : .joining ws ∈ p.closings.set c new) (other : ∀ vs, new ≠ .joining vs) :
    p.IsShare ws :=
  h.joining ws (mem_set_of_ne (other ws).symm mem)

theorem Charged.shut (h : p.Charged) {c : Nat} (at_c : p.closings[c]? = some .called) :
    { p.setClosing c .shut with isOpen := false : Pool }.Charged where
  handles := h.handles
  joining _ mem := h.setClosing mem nofun
  inCharge := by
    cases h.inCharge with
    | nobody all early =>
      refine .nobody all fun d mem => ?_
      rcases List.mem_or_eq_of_mem_set mem with old | rfl
      · exact early d old
      · exact .inr rfl
    | closing mem => exact .closing (mem_set_of_getElem?_ne at_c mem nofun)
    | gone left => exact .gone left

/-- **A closing takes charge** of the workers, if nobody had. -/
theorem Charged.takeCharge (h : p.Charged) {c : Nat} (at_c : p.closings[c]? = some .shut) :
    { p.setClosing c (.joining p.handles) with handles := [] : Pool }.Charged where
  handles := .inl rfl
  joining ws mem := by
    rcases List.mem_or_eq_of_mem_set mem with old | new
    · exact h.joining ws old
    · cases new
      exact h.handles
  inCharge := by
    have here := (List.getElem?_eq_some_iff.mp at_c).1
    cases h.inCharge with
    | nobody all early => exact .closing (all ▸ List.mem_set here _)
    | closing mem => exact .closing (mem_set_of_getElem?_ne at_c mem nofun)
    | gone left => exact .gone left

/-- The workers of a share that have all left. -/
theorem exited_of_all {ws : List Nat} (some_worker : ws ≠ []) (share : p.IsShare ws)
    (left : (ws.all fun w => (p.workers[w]?.map Worker.isExited).getD true) = true) :
    ∀ w ∈ p.workers, w = .exited := by
  obtain rfl := share.resolve_left some_worker
  intro w mem
  obtain ⟨i, at_i⟩ := List.getElem?_of_mem mem
  have here := (List.getElem?_eq_some_iff.mp at_i).1
  have gone := List.all_eq_true.mp left i (List.mem_range.mpr here)
  rw [at_i, Option.map_some, Option.getD_some] at gone
  cases w with
  | exited => rfl
  | _ => cases gone

theorem Charged.join (h : p.Charged) (staffed : p.Staffed) {c : Nat} {ws : List Nat}
    (at_c : p.closings[c]? = some (.joining ws))
    (left : (ws.all fun w => (p.workers[w]?.map Worker.isExited).getD true) = true) :
    (p.setClosing c .returned).Charged where
  handles := h.handles
  joining _ mem := h.setClosing mem nofun
  inCharge := by
    cases h.inCharge with
    | nobody all early => rcases early _ (List.mem_of_getElem? at_c) with eq | eq <;> cases eq
    | closing mem =>
      by_cases its : ws = List.range p.workers.length
      · have some_worker : ws ≠ [] := by
          rw [its, Ne, List.range_eq_nil, List.length_eq_zero_iff]
          exact staffed.some_worker
        exact .gone (exited_of_all some_worker (.inr its) left)
      · refine .closing (mem_set_of_getElem?_ne at_c mem ?_)
        rintro eq
        exact its (Closing.joining.inj eq).symm
    | gone left => exact .gone left

/-- **Every step keeps the workers in someone's charge.** -/
theorem Charged.step (h : p.Charged) (staffed : p.Staffed) (s : p.Step m q) : q.Charged := by
  cases s with
  | seat at_i free => exact h.worker at_i nofun rfl rfl rfl
  | take at_i first => exact h.worker at_i nofun rfl rfl rfl
  | leave at_i empty alone => exact h.worker at_i nofun rfl rfl rfl
  | judge at_i ended => exact h.worker at_i nofun rfl rfl rfl
  | count at_i => exact h.worker at_i nofun rfl rfl rfl
  | resume at_i => exact h.worker at_i nofun rfl rfl rfl
  | answer at_i => exact h.worker at_i nofun rfl rfl rfl
  | close =>
    refine ⟨h.handles, fun ws mem => h.joining ws (by simpa using mem), ?_⟩
    cases h.inCharge with
    | nobody all early =>
      refine .nobody all fun d mem => ?_
      rcases List.mem_append.mp mem with old | last
      · exact early d old
      · exact .inl (List.mem_singleton.mp last)
    | closing mem => exact .closing (List.mem_append_left _ mem)
    | gone left => exact .gone left
  | shut at_c => exact h.shut at_c
  | takeCharge at_c => exact h.takeCharge at_c
  | join at_c left => exact h.join staffed at_c left
  | _ => exact h.still rfl rfl rfl

theorem Charged.reaches (h : p.Charged) (sound : p.Sound) (r : p.Reaches q) : q.Charged := by
  refine (r.induction (P := fun q => q.Sound ∧ q.Charged) ⟨sound, h⟩ ?_).2
  rintro r s m ⟨sound, h⟩ step
  exact ⟨sound.step step, h.step sound.staffed (.of_step step)⟩

end Steps

/-! ## Closings as barriers -/

/-- **A closing that still waits for a worker.** -/
def Awaits (p : Pool) (c : Closing) : Prop :=
  ∃ workers, c = .joining workers ∧ ∃ i ∈ workers, ∃ w, p.workers[i]? = some w ∧ w ≠ .exited

variable {p q : Pool}

/-- **A closing with workers in its charge returns to a drained pool.** -/
theorem Charged.drained_of_join (h : p.Charged) (staffed : p.Staffed) {c : Nat} {ws : List Nat}
    (at_c : p.closings[c]? = some (.joining ws)) (some_worker : ws ≠ [])
    (s : p.Step (.closing c) q) : q.Drained := by
  have share := h.joining ws (List.mem_of_getElem? at_c)
  have after := staffed.step s
  cases s with
  | shut at_c' => cases at_c.symm.trans at_c'
  | takeCharge at_c' => cases at_c.symm.trans at_c'
  | join at_c' left =>
    cases at_c.symm.trans at_c'
    exact after.drained (exited_of_all some_worker share left)

/-- **Once a closing has returned**, the pool is drained or another closing waits for a worker. -/
theorem Charged.drained_iff (h : p.Charged) (staffed : p.Staffed) (back : .returned ∈ p.closings) :
    p.Drained ↔ ∀ c ∈ p.closings, ¬ p.Awaits c := by
  constructor
  · rintro drained c - ⟨ws, -, i, -, w, at_i, stays⟩
    exact stays (drained.gone w (List.mem_of_getElem? at_i))
  · intro none
    cases h.inCharge with
    | nobody all early => rcases early _ back with eq | eq <;> cases eq
    | closing mem =>
      refine staffed.drained fun w here => ?_
      obtain ⟨i, at_i⟩ := List.getElem?_of_mem here
      have lt := (List.getElem?_eq_some_iff.mp at_i).1
      by_contra stays
      exact none _ mem ⟨_, rfl, i, List.mem_range.mpr lt, w, at_i, stays⟩
    | gone left => exact staffed.drained left

/-- **A closing that returned is a barrier if no other one waits for a worker.**  From a new pool,
whatever its counts, some steps lead to where a closing has returned.

* The pool is drained if and only if no other closing waits for a worker.
* If it is drained, all of a launch is done for every input that has a ticket.  Whatever steps
  follow, it stays drained, nothing is launched, and every other input, whenever it comes, is turned
  away: what was done for it is the beginning of a refusal, and all of it once its batch has
  returned. -/
theorem drain_barrier {parallelism start : Nat} {pipeline : Pipeline} {progress : Progress}
    {tally : Tally} {log : List Entry} {before : List Move} {p : Pool}
    (came : ((Pool.new parallelism pipeline start).withCounts progress tally log).steps before
      = some p)
    (back : .returned ∈ p.closings) :
    let new := (Pool.new parallelism pipeline start).withCounts progress tally log
    (p.Drained ↔ ∀ c ∈ p.closings, ¬ p.Awaits c) ∧
    (p.Drained →
      (∀ x input, p.inputAt x = some input → (p.ticketAt x).isSome →
        ∃ worker job run, (Fate.launched worker job run).IsOf pipeline input ∧
          (new.history before).of x = Deed.life worker job run) ∧
      ∀ after q, p.steps after = some q →
        p.Past q ∧
        ∀ x input, q.inputAt x = some input → p.ticketAt x = none →
          (new.history (before ++ after)).of x <+: Deed.refusal input .shutDown ∧
          ((q.summaryOf x.batch).isSome →
            (new.history (before ++ after)).of x = Deed.refusal input .shutDown)) := by
  intro new
  have fresh : new.Sound := (sound_new parallelism pipeline start).withCounts progress tally log
  have sound : p.Sound := fresh.reaches ⟨before, came⟩
  have charged_fresh : new.Charged := (charged_new parallelism pipeline start).still rfl rfl rfl
  have charged : p.Charged := charged_fresh.reaches fresh ⟨before, came⟩
  have told : ∀ {moves : List Move} {r : Pool}, new.steps moves = some r →
      r.Told (new.history moves) :=
    told_of_steps fresh (told_new parallelism pipeline start progress tally log)
  have same : p.pipeline = pipeline := Reaches.pipeline_eq (p := new) ⟨before, came⟩
  refine ⟨charged.drained_iff sound.staffed back, fun drained => ⟨?_, ?_⟩⟩
  · intro x input its has
    obtain ⟨ticket, hx⟩ := Option.isSome_iff_exists.mp has
    obtain ⟨worker, job, run, isOf, all⟩ :=
      (told came).life_of_drained sound drained hx its
    exact ⟨worker, job, run, same ▸ isOf, all⟩
  · intro after q went
    have past : p.Past q := drained.reaches ⟨after, went⟩
    have all : new.steps (before ++ after) = some q := by
      rw [steps, List.foldlM_append]
      exact Option.bind_eq_some_iff.mpr ⟨p, came, went⟩
    refine ⟨past, fun x input its unsent => ?_⟩
    refine (told all).refusal_of_unsent (fresh.reaches ⟨_, all⟩).placed its ?_
    rw [past.tickets, unsent]

/-- A batch with a place at the queue when it is shut, and one that comes after the barrier. -/
theorem drain_barrier_of_late :
    let pipeline : Pipeline := ⟨[⟨"load", fun _ => .script [] .ok⟩], .noop⟩
    let input : LaunchInput := ⟨"w-1", .sync, "", [], "", none⟩
    let new := (Pool.new 1 pipeline 0).withCounts {} {} []
    let before : List Move := [.call [input], .batch 0, .close, .closing 0, .closing 0, .batch 0,
      .worker 0, .worker 0, .worker 0, .worker 0, .worker 0, .worker 0, .batch 0, .worker 0,
      .worker 0, .closing 0]
    let after : List Move := [.call [input], .batch 1, .batch 1, .batch 1]
    ∃ p q, new.steps before = some p ∧ .returned ∈ p.closings ∧ p.Drained ∧
      p.steps after = some q ∧ q.journal.runs.length = 1 ∧
      (new.history (before ++ after)).of ⟨1, 0⟩ = Deed.refusal input .shutDown := by
  intro pipeline input new before after
  obtain ⟨p, came, closings, started, unsent, q, went, its, returned⟩ : ∃ p,
      new.steps before = some p ∧ p.closings = [.returned] ∧ p.journal.runs.length = 1 ∧
      p.ticketAt ⟨1, 0⟩ = none ∧ ∃ q, p.steps after = some q ∧ q.inputAt ⟨1, 0⟩ = some input ∧
      (q.summaryOf 1).isSome :=
    ⟨_, rfl, rfl, rfl, rfl, _, rfl, rfl, rfl⟩
  have back : .returned ∈ p.closings := closings ▸ List.mem_singleton.mpr rfl
  obtain ⟨iff, barrier⟩ := drain_barrier came back
  have drained : p.Drained := by
    refine iff.mpr fun c mem => ?_
    rw [closings] at mem
    obtain rfl := List.mem_singleton.mp mem
    rintro ⟨ws, eq, -⟩
    cases eq
  obtain ⟨past, turnedAway⟩ := (barrier drained).2 after q went
  exact ⟨p, q, came, back, drained, went, past.runs.symm ▸ started,
    (turnedAway ⟨1, 0⟩ input its unsent).2 returned⟩

/-- **A closing that came second is no barrier**: it returns while a launch is under way and a job
waits in the queue, whose launch starts later. -/
theorem exists_returned_undrained :
    let pipeline : Pipeline := ⟨[⟨"load", fun _ => .script [] .ok⟩], .noop⟩
    let input : LaunchInput := ⟨"w-1", .sync, "", [], "", none⟩
    let before : List Move := [.call [input, input], .batch 0, .batch 0, .batch 0, .worker 0,
      .worker 0, .close, .close, .closing 0, .closing 0, .closing 1, .closing 1, .closing 1]
    let after : List Move := [.worker 0, .worker 0, .worker 0, .worker 0, .worker 0, .worker 0]
    ∃ p q, (Pool.new 1 pipeline 0).steps before = some p ∧
      p.closings[1]? = some .returned ∧ p.queue.length = 1 ∧ p.workers.any Worker.isRunning ∧
      p.steps after = some q ∧ p.journal.runs.length = 1 ∧ q.journal.runs.length = 2 := by
  exact ⟨_, _, rfl, rfl, rfl, rfl, rfl, rfl, rfl⟩

end Relaunch.Pool
