import Relaunch.Proofs.Pool.Quiet
import Relaunch.Proofs.Pool.Trail

/-!
# Proofs/Pool/ExactlyOnce — each input of a batch comes to one end, once

An input is launched, or it is turned away: the latter if and only if a closing had shut the queue
when its batch came to it.  What is done for it is what that end takes, in that order; all of it
once the batch has returned, and a part of it before.  This holds for any number of batches and
closings, in any order of their steps and those of the workers.

* `Batch.Since.step` — a batch stays with the queue as it found it.
* `Told.fate_of_sent`, `Told.fate_of_unsent` — what was done for an input.
* `each_input_once` — all of it for every batch.
-/

namespace Relaunch

/-- **A batch since it came to the queue**, which was open or not. -/
inductive Batch.Since (isOpen : Bool) (inputs : List LaunchInput) : Batch → Prop where
  | sending (rest : List LaunchInput) (tickets : List Nat) (rejected : Nat) :
      Since isOpen inputs (.sending isOpen inputs rest tickets rejected)
  | returned {tickets : List Nat} (summary : Summary)
      (all : tickets.length = if isOpen then inputs.length else 0) :
      Since isOpen inputs (.returned inputs tickets summary)

open Pool

/-- **A batch stays with the queue as it found it.** -/
theorem Batch.Since.step {p q : Pool} {m : Move} (sound : p.Sound) (s : p.Step m q) {b : Nat}
    {batch : Batch} {isOpen : Bool} {inputs : List LaunchInput}
    (at_b : p.batches[b]? = some batch) (h : batch.Since isOpen inputs) :
    ∃ new, q.batches[b]? = some new ∧ new.Since isOpen inputs := by
  have here := (List.getElem?_eq_some_iff.mp at_b).1
  have set : ∀ {c : Nat} {old new : Batch}, p.batches[c]? = some old →
      (old.Since isOpen inputs → new.Since isOpen inputs) →
      ∃ after, (p.batches.set c new)[b]? = some after ∧ after.Since isOpen inputs := by
    intro c old new at_c goes
    by_cases eq : c = b
    · subst eq
      obtain rfl : batch = old := Option.some.inj (at_b.symm.trans at_c)
      exact ⟨new, List.getElem?_set_self here, goes h⟩
    · exact ⟨batch, by rw [List.getElem?_set_ne eq, at_b], h⟩
  cases s with
  | call more => exact ⟨batch, by rw [List.getElem?_append_left here, at_b], h⟩
  | skip at_c => exact set at_c nofun
  | attach at_c some_input => exact set at_c nofun
  | turnAway at_c =>
    refine set at_c fun h => ?_
    cases h
    exact .sending _ _ _
  | refuse at_c unserved =>
    refine set at_c fun h => ?_
    cases h
    exact .sending _ _ _
  | send at_c served =>
    refine set at_c fun h => ?_
    cases h
    exact .sending _ _ _
  | finish at_c there =>
    refine set at_c fun h => ?_
    cases h
    exact .returned _ (sound.placed.fits _ (List.mem_of_getElem? at_c)).whole.1
  | _ => exact ⟨batch, at_b, h⟩

/-- A batch that found the queue open and has an input left turned none away, and is not back. -/
theorem Batch.Since.pending {p : Pool} {batch : Batch} {inputs : List LaunchInput} {k : Nat}
    (h : batch.Since true inputs) (fits : batch.Fits p) (lt : k < inputs.length)
    (unsent : batch.tickets[k]? = none) : batch.gone = 0 ∧ batch.summary? = none := by
  cases h with
  | sending rest tickets rejected =>
    cases fits with
    | attached sent le => exact ⟨rfl, rfl⟩
  | returned summary all =>
    have le := List.getElem?_eq_none_iff.mp unsent
    simp only [if_true, Batch.tickets] at all le
    omega

/-- A batch comes to the queue. -/
theorem Batch.since_of_called {p q : Pool} {b : Nat} {inputs : List LaunchInput}
    (at_b : p.batches[b]? = some (.called inputs)) (s : p.Step (.batch b) q) :
    ∃ new, q.batches[b]? = some new ∧ new.Since p.isOpen inputs := by
  have here := (List.getElem?_eq_some_iff.mp at_b).1
  cases s with
  | skip at_b' =>
    cases at_b.symm.trans at_b'
    refine ⟨_, List.getElem?_set_self here, .returned _ ?_⟩
    split <;> rfl
  | attach at_b' some_input =>
    cases at_b.symm.trans at_b'
    exact ⟨_, List.getElem?_set_self here, .sending _ _ _⟩
  | turnAway at_b' => cases at_b.symm.trans at_b'
  | refuse at_b' unserved => cases at_b.symm.trans at_b'
  | send at_b' served => cases at_b.symm.trans at_b'
  | finish at_b' there => cases at_b.symm.trans at_b'

/-- **A batch that once came to the queue.** -/
theorem Batch.since_of_steps {p q : Pool} {b : Nat} {inputs : List LaunchInput}
    {after : List Move} (sound : p.Sound) (at_b : p.batches[b]? = some (.called inputs))
    (went : p.steps (.batch b :: after) = some q) :
    ∃ batch, q.batches[b]? = some batch ∧ batch.Since p.isOpen inputs := by
  rw [steps, List.foldlM_cons] at went
  obtain ⟨r, first, rest⟩ := Option.bind_eq_some_iff.mp went
  have kept := Reaches.induction (p := r) ⟨after, rest⟩
    (P := fun s => s.Sound ∧ ∃ batch, s.batches[b]? = some batch ∧ batch.Since p.isOpen inputs)
    ⟨sound.step first, Batch.since_of_called at_b (.of_step first)⟩ ?_
  · exact kept.2
  · rintro s t m ⟨sound_s, _, at_s, since⟩ step
    exact ⟨sound_s.step step, since.step sound_s (.of_step step) at_s⟩

/-! ## Fates -/

/-- **What an input comes to.** -/
inductive Fate where
  | launched (worker : Nat) (job : Job) (run : Run)
  | turnedAway

namespace Fate

/-- What is done for an input that comes to this. -/
def deeds (input : LaunchInput) : Fate → List Deed
  | launched worker job run => Deed.life worker job run
  | turnedAway => Deed.refusal input .shutDown

def verdict : Fate → Verdict
  | launched _ _ run => run.ending.verdict
  | turnedAway => .failure

/-- A launch is that of the pipeline, of this input. -/
def IsOf (pipeline : Pipeline) (input : LaunchInput) : Fate → Prop
  | launched _ job run => job.input = input ∧ ∃ time, run = pipeline.run time input
  | turnedAway => True

end Fate

namespace Pool

theorem Sound.launched {p : Pool} (sound : p.Sound) {x : Place} {job : Job} {run : Run}
    (ran : (job, run) ∈ p.journal.runs) (hx : p.ticketAt x = some job.ticket) {input : LaunchInput}
    (its : p.inputAt x = some input) :
    job.input = input ∧ ∃ time, run = p.pipeline.run time input := by
  have mem : job ∈ p.jobs := List.mem_append_right _ (List.mem_map_of_mem (f := Prod.fst) ran)
  have carried := sound.placed.carried job mem x hx
  obtain rfl : job.input = input := Option.some.inj (carried.symm.trans its)
  obtain ⟨time, -, eq⟩ := sound.genuine.launched _ ran
  exact ⟨rfl, time, eq⟩

/-- **What was done for an input that was sent.** -/
theorem Told.fate_of_sent {p : Pool} {h : History} (told : p.Told h) (sound : p.Sound) {x : Place}
    {ticket : Nat} (hx : p.ticketAt x = some ticket) {input : LaunchInput}
    (its : p.inputAt x = some input) :
    ∃ worker job run, (Fate.launched worker job run).IsOf p.pipeline input ∧
      h.of x <+: Deed.life worker job run ∧
      ∀ outcome, p.replies.lookup ticket = some outcome →
        h.of x = Deed.life worker job run ∧ outcome = run.ending.verdict.outcome := by
  have standing := told.sent x ticket hx
  revert standing
  generalize h.of x = deeds
  intro standing
  have numbered := sound.numbered
  cases standing with
  | @queued job waits same =>
    have mem : job ∈ p.jobs := List.mem_append_left _ waits
    have carried := sound.placed.carried job mem x (same ▸ hx)
    obtain rfl : job.input = input := Option.some.inj (carried.symm.trans its)
    refine ⟨0, job, p.pipeline.run p.clock job.input, ⟨rfl, _, rfl⟩, ⟨_, rfl⟩, ?_⟩
    intro outcome found
    have lt := numbered.ticket_lt_of_replied (mem_of_lookup found)
    have le := (numbered.le_ticket_of_queued waits).1
    simp only at lt
    omega
  | @held i w job run at_i has same ran carries =>
    refine ⟨i, job, run, sound.launched ran (same ▸ hx) its, List.take_prefix _ _, ?_⟩
    intro outcome found
    subst same
    exact absurd (mem_of_lookup found)
      (numbered.not_replied_of_held (List.mem_of_getElem? at_i) has outcome)
  | @answered job run i same ran answer =>
    refine ⟨i, job, run, sound.launched ran (same ▸ hx) its, List.prefix_refl _, ?_⟩
    intro outcome found
    rw [numbered.lookup_of_replied answer] at found
    exact ⟨rfl, (Option.some.inj found).symm⟩

/-- **What was done for an input that was not sent.** -/
theorem Told.fate_of_unsent {p : Pool} {h : History} (told : p.Told h) {b k : Nat} {batch : Batch}
    (at_b : p.batches[b]? = some batch) (unsent : batch.tickets[k]? = none) {input : LaunchInput}
    (its : batch.inputs[k]? = some input) :
    h.of ⟨b, k⟩ = if k < batch.gone then Deed.refusal input .shutDown else [] := by
  have none : p.ticketAt ⟨b, k⟩ = none := by rw [ticketAt, at_b, Option.bind_some, unsent]
  rw [told.unsent _ none, refusalAt, at_b, Option.map_some, Option.getD_some, Batch.refusalAt, its]
  rfl

/-- The summary of a batch, once it has returned. -/
def summaryOf (p : Pool) (b : Nat) : Option Summary := p.batches[b]?.bind Batch.summary?

/-- **A fate of an input at a place**, of a batch that found the queue open or not. -/
structure Ends (p : Pool) (h : History) (isOpen : Bool) (x : Place) (input : LaunchInput)
    (fate : Fate) : Prop where
  isOf : fate.IsOf p.pipeline input
  late : fate = .turnedAway ↔ isOpen = false
  so_far : h.of x <+: fate.deeds input
  returned : (p.summaryOf x.batch).isSome → h.of x = fate.deeds input
  answer : ∀ ticket, p.ticketAt x = some ticket → ∀ outcome,
    p.replies.lookup ticket = some outcome → outcome = fate.verdict.outcome

/-- **An input that found the queue open is launched.** -/
theorem Told.ends_of_open {p : Pool} {h : History} (told : p.Told h) (sound : p.Sound) {b k : Nat}
    {batch : Batch} {inputs : List LaunchInput} {input : LaunchInput}
    (at_b : p.batches[b]? = some batch) (since : batch.Since true inputs)
    (its : inputs[k]? = some input) : ∃ fate, p.Ends h true ⟨b, k⟩ input fate := by
  have same : batch.inputs = inputs := by cases since <;> rfl
  have here : p.inputAt ⟨b, k⟩ = some input := by rw [inputAt, at_b, Option.bind_some, same, its]
  cases sent : batch.tickets[k]? with
  | some ticket =>
    have hx : p.ticketAt ⟨b, k⟩ = some ticket := by rw [ticketAt, at_b, Option.bind_some, sent]
    obtain ⟨worker, job, run, isOf, so_far, answered⟩ := told.fate_of_sent sound hx here
    refine ⟨.launched worker job run, isOf, by simp, so_far, ?_, ?_⟩
    · intro returned
      rw [summaryOf, at_b, Option.bind_some] at returned
      cases batch with
      | returned inputs tickets summary =>
        obtain ⟨outcome, found⟩ := (sound.placed.fits _ (List.mem_of_getElem? at_b)).answered sent
        exact (answered outcome found).1
      | _ => cases returned
    · intro t ht outcome found
      obtain rfl : ticket = t := Option.some.inj (hx.symm.trans ht)
      exact (answered outcome found).2
  | none =>
    obtain ⟨gone, unreturned⟩ := since.pending (sound.placed.fits _ (List.mem_of_getElem? at_b))
      (List.getElem?_eq_some_iff.mp its).1 sent
    refine ⟨.launched 0 ⟨0, 0, input⟩ (p.pipeline.run 0 input), ⟨rfl, 0, rfl⟩, by simp, ?_, ?_, ?_⟩
    · rw [told.fate_of_unsent at_b sent (same ▸ its), gone]
      exact List.nil_prefix
    · intro returned
      rw [summaryOf, at_b, Option.bind_some, unreturned] at returned
      cases returned
    · intro t ht
      rw [ticketAt, at_b, Option.bind_some, sent] at ht
      cases ht

/-- **An input that found the queue shut is turned away.** -/
theorem Told.ends_of_shut {p : Pool} {h : History} (told : p.Told h) (sound : p.Sound) {b k : Nat}
    {batch : Batch} {inputs : List LaunchInput} {input : LaunchInput}
    (at_b : p.batches[b]? = some batch) (since : batch.Since false inputs)
    (its : inputs[k]? = some input) : p.Ends h false ⟨b, k⟩ input .turnedAway := by
  have none : batch.tickets = [] := by
    cases since with
    | sending rest tickets rejected =>
      cases sound.placed.fits _ (List.mem_of_getElem? at_b) with
      | detached => rfl
    | returned summary all => exact List.length_eq_zero_iff.mp all
  have same : batch.inputs = inputs := by cases since <;> rfl
  have done := told.fate_of_unsent at_b (by rw [none]; rfl) (same ▸ its)
  refine ⟨trivial, ⟨fun _ => rfl, fun _ => rfl⟩, ?_, ?_, ?_⟩
  · rw [done]
    split
    · exact List.prefix_refl _
    · exact List.nil_prefix
  · intro returned
    rw [summaryOf, at_b, Option.bind_some] at returned
    cases since with
    | sending rest tickets rejected => cases returned
    | returned summary all =>
      have lt := (List.getElem?_eq_some_iff.mp its).1
      rw [done, if_pos]
      · rfl
      · simp only [Bool.false_eq_true, if_false, Batch.gone] at all ⊢
        omega
  · intro t ht
    rw [ticketAt, at_b, Option.bind_some, none] at ht
    cases ht

/-! ## All inputs of a batch -/

/-- What there is one of for each entry of a list, there is a list of. -/
theorem exists_forall_getElem? {P : Nat → α → β → Prop} {l : List α}
    (h : ∀ k a, l[k]? = some a → ∃ c, P k a c) :
    ∃ cs : List β, cs.length = l.length ∧
      ∀ k a c, l[k]? = some a → cs[k]? = some c → P k a c := by
  induction l generalizing P with
  | nil => exact ⟨[], rfl, nofun⟩
  | cons a l ih =>
    obtain ⟨c, first⟩ := h 0 a rfl
    obtain ⟨cs, length, rest⟩ := ih (P := fun k => P (k + 1)) fun k a at_k => h (k + 1) a at_k
    refine ⟨c :: cs, congrArg (· + 1) length, ?_⟩
    intro k b d at_k at_k'
    cases k with
    | zero =>
      cases at_k
      cases at_k'
      exact first
    | succ k => exact rest k b d at_k at_k'

/-- The outcomes of verdicts, counted. -/
theorem count_outcome (verdicts : List Verdict) :
    (verdicts.map Verdict.outcome).count .succeeded = verdicts.count .success ∧
      (verdicts.map Verdict.outcome).count .failed
        = verdicts.length - verdicts.count .success := by
  induction verdicts with
  | nil => exact ⟨rfl, rfl⟩
  | cons v verdicts ih =>
    have le := List.count_le_length (a := Verdict.success) (l := verdicts)
    cases v <;> simp [Verdict.outcome, ih] <;> omega

section Fates

variable {p : Pool} {h : History} {b : Nat} {isOpen : Bool} {inputs : List LaunchInput}
  {tickets : List Nat} {fates : List Fate} (length : fates.length = inputs.length)
  (ends : ∀ k input fate, inputs[k]? = some input → fates[k]? = some fate →
    p.Ends h isOpen ⟨b, k⟩ input fate)

include length ends

/-- The answers that a batch got are those of its fates. -/
theorem outcomes_of_fates {summary : Summary}
    (at_b : p.batches[b]? = some (.returned inputs tickets summary)) {outcomes : List Outcome}
    (all : tickets.length = inputs.length)
    (replies : tickets.map (fun t => p.replies.lookup t) = outcomes.map some) :
    outcomes = (fates.map Fate.verdict).map Verdict.outcome := by
  refine List.ext_getElem? fun k => ?_
  have found := congrArg (·[k]?) replies
  simp only [List.getElem?_map] at found ⊢
  by_cases lt : k < inputs.length
  · have at_k := List.getElem?_eq_getElem lt
    have at_k' := List.getElem?_eq_getElem (l := fates) (length ▸ lt)
    have at_t := List.getElem?_eq_getElem (l := tickets) (all ▸ lt)
    rw [at_t, Option.map_some] at found
    obtain ⟨outcome, at_o, found⟩ := Option.map_eq_some_iff.mp found.symm
    have hx : p.ticketAt ⟨b, k⟩ = some tickets[k] := by rw [ticketAt, at_b, ← at_t]; rfl
    have answer := (ends k _ _ at_k at_k').answer _ hx outcome found.symm
    rw [at_o, at_k', answer]
    rfl
  · have same := congrArg List.length replies
    rw [List.length_map, List.length_map] at same
    rw [List.getElem?_eq_none (by omega : outcomes.length ≤ k),
      List.getElem?_eq_none (by omega : fates.length ≤ k)]
    rfl

/-- None of the inputs that were turned away succeeded. -/
theorem count_success_of_shut (shut : isOpen = false) :
    (fates.map Fate.verdict).count .success = 0 := by
  rw [List.count_eq_zero]
  intro mem
  obtain ⟨fate, mem, success⟩ := List.mem_map.mp mem
  obtain ⟨k, hk⟩ := List.mem_iff_getElem?.mp mem
  have lt := (List.getElem?_eq_some_iff.mp hk).1
  have ended := ends k _ _ (List.getElem?_eq_getElem (length ▸ lt)) hk
  obtain rfl := ended.late.mpr shut
  cases success

/-- **The summary of a batch counts the fates of its inputs.** -/
theorem Sound.summary_of_fates (sound : p.Sound) {summary : Summary}
    (at_b : p.batches[b]? = some (.returned inputs tickets summary))
    (since : (Batch.returned inputs tickets summary).Since isOpen inputs) :
    summary = ⟨inputs.length, (fates.map Fate.verdict).count .success,
      inputs.length - (fates.map Fate.verdict).count .success⟩ := by
  obtain ⟨succeeded, failed⟩ := count_outcome (fates.map Fate.verdict)
  rw [List.length_map, length] at failed
  cases sound.placed.fits _ (List.mem_of_getElem? at_b) with
  | served all replies =>
    rw [outcomes_of_fates length ends at_b all replies, succeeded, failed]
  | refused =>
    have none : (fates.map Fate.verdict).count .success = 0 := by
      cases isOpen with
      | true =>
        cases since with
        | returned _ all =>
          have nothing : fates = [] := List.length_eq_zero_iff.mp (length.trans all.symm)
          rw [nothing]
          rfl
      | false => exact count_success_of_shut length ends rfl
    rw [none, Nat.sub_zero]

end Fates

/-- **No input is turned away for want of a worker.** -/
theorem Told.ne_queueClosed {p : Pool} {h : History} (told : p.Told h) (x : Place) :
    (x, .rejected .queueClosed) ∉ h := by
  intro mem
  have done := History.mem_of mem
  cases hx : p.ticketAt x with
  | some ticket =>
    have standing := told.sent x ticket hx
    have of_life : ∀ {worker : Nat} {job : Job} {run : Run},
        .rejected .queueClosed ∉ Deed.life worker job run := by
      intro worker job run mem
      simp [Deed.life] at mem
    revert standing done
    generalize h.of x = deeds
    intro done standing
    cases standing with
    | queued waits its => simp at done
    | held at_i has its ran carries => exact of_life (List.mem_of_mem_take done)
    | answered i its ran answer => exact of_life done
  | none =>
    rw [told.unsent x hx, refusalAt] at done
    cases at_b : p.batches[x.batch]? with
    | none =>
      rw [at_b] at done
      cases done
    | some batch =>
      rw [at_b, Option.map_some, Option.getD_some, Batch.refusalAt] at done
      split at done
      · cases its : batch.inputs[x.index]? with
        | none =>
          rw [its] at done
          cases done
        | some input =>
          rw [its] at done
          simp [Deed.refusal] at done
      · cases done

/-- **Every input of a batch comes to one end, once.**  From a new pool, whatever its counts, some
steps lead to where the batch is called, then the batch comes to the queue, and any steps follow.

* What was counted and launched in all is what was done for the inputs of all batches: the progress
  moves on once for each time that one is resumed, and each count once for each time that one is
  judged or counted so.
* Each input of the batch is launched or, if and only if a closing had shut the queue when the batch
  came to it, turned away; what was done for it so far is the beginning of that, and all of it once
  the batch has returned.
* The summary of the batch counts these ends.
* Where nothing can go on any more, the batch has returned. -/
theorem each_input_once {parallelism start : Nat} {pipeline : Pipeline} {progress : Progress}
    {tally : Tally} {log : List Entry} {before after : List Move} {p q : Pool} {b : Nat}
    {inputs : List LaunchInput}
    (came : ((Pool.new parallelism pipeline start).withCounts progress tally log).steps before
      = some p)
    (at_b : p.batches[b]? = some (.called inputs))
    (went : p.steps (.batch b :: after) = some q) :
    let new := (Pool.new parallelism pipeline start).withCounts progress tally log
    let told := new.history (before ++ .batch b :: after)
    let done := told.map Prod.snd
    new.Books told q ∧
    q.progress = { progress with resumed := progress.resumed + done.count .resumed } ∧
    q.tally = { tally with
      resumedSync := tally.resumedSync + done.count (.counted .sync)
      resumedCheck := tally.resumedCheck + done.count (.counted .check)
      resumedDiscover := tally.resumedDiscover + done.count (.counted .discover)
      resumedSpec := tally.resumedSpec + done.count (.counted .spec)
      successes := tally.successes + done.count (.judged .success)
      failures := tally.failures + (done.count (.judged .failure) + done.count (.judged .panic))
      panics := tally.panics + done.count (.judged .panic) } ∧
    (∀ x, (x, .rejected .queueClosed) ∉ told) ∧
    (∀ batch ∈ q.batches, ∀ ticket ∈ batch.tickets, q.reply? ticket ≠ some .dropped) ∧
    (∃ fates : List Fate, fates.length = inputs.length ∧
      (∀ k input fate, inputs[k]? = some input → fates[k]? = some fate →
        fate.IsOf pipeline input ∧
        (fate = .turnedAway ↔ ∃ c ∈ p.closings, c ≠ .called) ∧
        told.of ⟨b, k⟩ <+: fate.deeds input ∧
        ((q.summaryOf b).isSome → told.of ⟨b, k⟩ = fate.deeds input)) ∧
      ∀ summary, q.summaryOf b = some summary →
        summary = ⟨inputs.length, (fates.map Fate.verdict).count .success,
          inputs.length - (fates.map Fate.verdict).count .success⟩) ∧
    (q.advance = none → (q.summaryOf b).isSome) := by
  intro new told done
  have all : new.steps (before ++ .batch b :: after) = some q := by
    rw [steps, List.foldlM_append]
    exact Option.bind_eq_some_iff.mpr ⟨p, came, went⟩
  have fresh : new.Sound := (sound_new parallelism pipeline start).withCounts progress tally log
  have sound_p : p.Sound := fresh.reaches ⟨_, came⟩
  have sound : q.Sound := fresh.reaches ⟨_, all⟩
  have true_told : q.Told told := told_of_steps fresh (told_new _ _ _ _ _ _) all
  have same : q.pipeline = pipeline := Reaches.pipeline_eq (p := new) ⟨_, all⟩
  obtain ⟨batch, now, since⟩ := Batch.since_of_steps sound_p at_b went
  have books : new.Books told q := books_of_steps all
  refine ⟨books, books.progress.trans (told.progress_eq progress),
    books.tally.trans (told.tally_eq tally), true_told.ne_queueClosed, ?_, ?_, ?_⟩
  · intro other mem ticket has
    obtain ⟨c, at_c⟩ := List.mem_iff_getElem?.mp mem
    obtain ⟨k, hk⟩ := List.mem_iff_getElem?.mp has
    have issued := (sound.placed.issued ticket).mp
      ⟨⟨c, k⟩, by rw [ticketAt, at_c, Option.bind_some, hk]⟩
    exact sound.numbered.reply?_ne_dropped sound.staffed issued
  · have ends : ∀ k input, inputs[k]? = some input →
        ∃ fate, q.Ends told p.isOpen ⟨b, k⟩ input fate := by
      intro k input its
      cases isOpen : p.isOpen with
      | true => exact true_told.ends_of_open sound now (isOpen ▸ since) its
      | false => exact ⟨_, true_told.ends_of_shut sound now (isOpen ▸ since) its⟩
    obtain ⟨fates, length, fated⟩ := exists_forall_getElem? ends
    refine ⟨fates, length, ?_, ?_⟩
    · intro k input fate its has
      have h := fated k input fate its has
      exact ⟨same ▸ h.isOf, h.late.trans sound_p.staffed.shut_iff, h.so_far, h.returned⟩
    · intro summary returned
      rw [summaryOf, now, Option.bind_some] at returned
      cases since with
      | sending rest tickets rejected => cases returned
      | returned summary all =>
        cases returned
        exact sound.summary_of_fates length fated now (.returned _ all)
  · intro quiet
    obtain ⟨_, _, summary, rfl⟩ := sound.returned_of_quiet quiet now
    rw [summaryOf, now]
    rfl

/-- A launch whose stage panics before it is built, beside a batch that comes too late. -/
theorem each_input_once_unbuilt :
    let pipeline : Pipeline := ⟨[⟨"load", fun _ => .unbuilt .wordless⟩], .noop⟩
    let input : LaunchInput := ⟨"w-1", .sync, "", [], "", none⟩
    let new := (Pool.new 1 pipeline 0).withCounts {} {} []
    let before : List Move := [.call [input], .call [input], .batch 0, .close, .closing 0]
    let after : List Move := [.batch 1, .batch 0, .worker 0, .worker 0, .worker 0, .worker 0,
      .worker 0, .worker 0, .batch 0, .batch 1]
    ∃ p q, new.steps before = some p ∧ p.batches[1]? = some (.called [input]) ∧
      p.steps (.batch 1 :: after) = some q ∧
      (new.history (before ++ .batch 1 :: after)).of ⟨1, 0⟩ = Deed.refusal input .shutDown ∧
      q.summaryOf 1 = some ⟨1, 0, 1⟩ := by
  intro pipeline input new before after
  obtain ⟨p, came⟩ : ∃ p, new.steps before = some p := ⟨_, rfl⟩
  have at_b : p.batches[1]? = some (.called [input]) := by
    cases came
    rfl
  obtain ⟨q, went⟩ : ∃ q, p.steps (.batch 1 :: after) = some q := by
    cases came
    exact ⟨_, rfl⟩
  obtain ⟨-, -, -, -, -, ⟨fates, length, ends, -⟩, -⟩ := each_input_once came at_b went
  obtain ⟨fate, rfl⟩ : ∃ fate, fates = [fate] := List.length_eq_one_iff.mp length
  obtain ⟨-, late, -, returned⟩ := ends 0 input fate rfl rfl
  have summary : q.summaryOf 1 = some ⟨1, 0, 1⟩ := by
    cases came
    cases went
    rfl
  have shut : ∃ c ∈ p.closings, c ≠ .called := by
    cases came
    exact ⟨.shut, List.mem_singleton.mpr rfl, nofun⟩
  refine ⟨p, q, came, at_b, went, ?_, summary⟩
  rw [returned (by rw [summary]; rfl), late.mpr shut]
  rfl

end Pool

end Relaunch
