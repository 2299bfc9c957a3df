import Mathlib.Data.List.Flatten
import Mathlib.Data.List.Nodup
import Mathlib.Data.Option.Basic
import Relaunch.Proofs.Launch.Lone
import Relaunch.Proofs.Pool.Alone
import Relaunch.Proofs.Pool.Line

/-!
# Proofs/Pool/Isolation — side by side is one by one

Launches share a queue, workers and counts, but nothing of one gets into another: each of them is
what it would be alone, but for the time.  Where every input of every batch was launched and every
batch has returned, the summaries, the counts, the progress and the failure reports are those of the
inputs launched one by one; so the number of workers, the order of the steps and the order of the
inputs are no matter.

* `Sound.tickets_perm` — the tickets of all batches are those that were issued.
* `tally_of_served` — the shared counts of any run are those of the inputs one by one.
* `isolated` — all of it for two runs.
-/

namespace Relaunch

/-! ## Histories by inputs -/

namespace History

theorem mem_arrivals {h : History} {x : Place} (came : .queued ∈ h.of x) : x ∈ h.arrivals := by
  obtain ⟨⟨y, d⟩, mem, its⟩ := List.mem_filterMap.mp came
  simp only [Option.ite_none_right_eq_some, Option.some.injEq] at its
  obtain ⟨rfl, rfl⟩ := its
  exact List.mem_map.mpr ⟨_, List.mem_filter.mpr ⟨mem, rfl⟩, rfl⟩

end History

/-- **Deeds commute** in what they do to the counts. -/
theorem Deed.onTally_comm (d e : Deed) (t : Tally) :
    e.onTally (d.onTally t) = d.onTally (e.onTally t) := by
  cases d with
  | judged v =>
    cases e with
    | judged w => cases v <;> cases w <;> rfl
    | counted k => cases v <;> cases k <;> rfl
    | _ => rfl
  | counted j =>
    cases e with
    | judged w => cases j <;> cases w <;> rfl
    | counted k => cases j <;> cases k <;> rfl
    | _ => rfl
  | _ => rfl

/-- **A batch that is served**: it has returned, and every one of its inputs was sent. -/
def Batch.isServed : Batch → Bool
  | returned inputs tickets _ => tickets.length == inputs.length
  | called _ | sending .. => false

namespace Pool

/-! ## Each launch by itself -/

variable {p q : Pool}

/-- **Each launch is what it would be alone**, but for the time. -/
theorem Sound.alone (sound : p.Sound) {e : Job × Run} (ran : e ∈ p.journal.runs) :
    e.2 = (p.pipeline.run 0 e.1.input).shift e.2.start := by
  obtain ⟨time, -, eq⟩ := sound.genuine.launched e ran
  rw [eq, Pipeline.start_run]
  exact p.pipeline.run_eq_shift time e.1.input

theorem Sound.verdict_eq (sound : p.Sound) {e : Job × Run} (ran : e ∈ p.journal.runs) :
    e.2.ending.verdict = p.pipeline.verdict e.1.input := by
  rw [sound.alone ran]
  rfl

/-- **The tickets of all batches** are those that were issued, each once. -/
theorem Placed.tickets_perm (placed : p.Placed) :
    (p.batches.flatMap Batch.tickets).Perm (List.range p.nextTicket) := by
  have at_place : ∀ {b k t : Nat} (hb : b < p.batches.length)
      (hk : k < p.batches[b].tickets.length), p.batches[b].tickets[k] = t →
      p.ticketAt ⟨b, k⟩ = some t := by
    intro b k t hb hk eq
    rw [ticketAt, List.getElem?_eq_getElem hb, Option.bind_some, List.getElem?_eq_getElem hk, eq]
  refine (List.perm_ext_iff_of_nodup (List.nodup_flatMap.mpr ⟨?_, ?_⟩) List.nodup_range).mpr ?_
  · intro batch mem
    obtain ⟨b, hb, rfl⟩ := List.getElem_of_mem mem
    refine List.pairwise_iff_getElem.mpr fun i j hi hj lt same => ?_
    have := placed.unique _ _ _ (at_place hb hi same) (at_place hb hj rfl)
    simp only [Place.mk.injEq, true_and] at this
    omega
  · refine List.pairwise_iff_getElem.mpr fun b c hb hc lt t left right => ?_
    obtain ⟨i, hi, rfl⟩ := List.getElem_of_mem left
    obtain ⟨j, hj, same⟩ := List.getElem_of_mem right
    have := placed.unique _ _ _ (at_place hb hi rfl) (at_place hc hj same)
    simp only [Place.mk.injEq] at this
    omega
  · intro t
    rw [List.mem_range, ← placed.issued t, List.mem_flatMap]
    constructor
    · rintro ⟨batch, mem, has⟩
      obtain ⟨b, hb, rfl⟩ := List.getElem_of_mem mem
      obtain ⟨k, hk, eq⟩ := List.getElem_of_mem has
      exact ⟨⟨b, k⟩, at_place hb hk eq⟩
    · rintro ⟨x, hx⟩
      obtain ⟨batch, at_b, at_k⟩ := Option.bind_eq_some_iff.mp hx
      exact ⟨batch, List.mem_of_getElem? at_b, List.mem_of_getElem? at_k⟩

/-! ## Where every input was launched -/

theorem exists_of_isServed {b : Batch} (served : b.isServed = true) :
    ∃ inputs tickets summary, b = .returned inputs tickets summary ∧
      tickets.length = inputs.length := by
  cases b with
  | returned inputs tickets summary =>
    exact ⟨inputs, tickets, summary, rfl, beq_iff_eq.mp served⟩
  | _ => cases served

theorem returned_of_served (served : ∀ b ∈ p.batches, b.isServed) :
    ∀ b ∈ p.batches, b.isReturned := by
  intro b mem
  obtain ⟨inputs, tickets, summary, rfl, -⟩ := exists_of_isServed (served b mem)
  rfl

section Served

variable (sound : p.Sound) (served : ∀ b ∈ p.batches, b.isServed)

include sound served

/-- The launch of a ticket. -/
theorem Sound.exists_launch {b : Nat} {batch : Batch} (at_b : p.batches[b]? = some batch)
    {k t : Nat} (at_k : batch.tickets[k]? = some t) :
    ∃ e, p.journal.runs[t]? = some e ∧ e.1.ticket = t ∧ batch.inputs[k]? = some e.1.input := by
  have back := returned_of_served served
  have hx : p.ticketAt ⟨b, k⟩ = some t := by rw [ticketAt, at_b, Option.bind_some, at_k]
  have lt : t < p.journal.runs.length := by
    rw [sound.numbered.runs_of_returned back sound.placed]
    exact (sound.placed.issued t).mp ⟨_, hx⟩
  have ticket := sound.numbered.ticket_getElem lt
  refine ⟨p.journal.runs[t], List.getElem?_eq_getElem lt, ticket, ?_⟩
  have carried := sound.placed.carried p.journal.runs[t].1
    (List.mem_append_right _ (List.mem_map_of_mem (List.getElem_mem lt))) ⟨b, k⟩ (ticket ▸ hx)
  rwa [inputAt, at_b, Option.bind_some] at carried

/-- The inputs of a batch are those of the launches that have its tickets. -/
theorem Sound.inputs_of_served {batch : Batch} (mem : batch ∈ p.batches) :
    batch.tickets.map (fun t => p.journal.runs[t]?.map (·.1.input)) = batch.inputs.map some := by
  obtain ⟨b, at_b⟩ := List.mem_iff_getElem?.mp mem
  refine List.ext_getElem? fun k => ?_
  rw [List.getElem?_map, List.getElem?_map]
  cases at_k : batch.tickets[k]? with
  | some t =>
    obtain ⟨e, at_t, -, its⟩ := sound.exists_launch served at_b at_k
    rw [its, Option.map_some, Option.map_some, at_t, Option.map_some]
  | none =>
    obtain ⟨inputs, tickets, summary, rfl, all⟩ := exists_of_isServed (served batch mem)
    have le := List.getElem?_eq_none_iff.mp at_k
    rw [List.getElem?_eq_none (all ▸ le)]
    rfl

/-- **The launches are those of all inputs**, each once. -/
theorem Sound.launches_perm :
    (p.journal.runs.map (·.1.input)).Perm (p.batches.flatMap Batch.inputs) := by
  have back := returned_of_served served
  have byTicket := sound.placed.tickets_perm.map fun t => p.journal.runs[t]?.map (·.1.input)
  have inputs : (p.batches.flatMap Batch.tickets).map (fun t => p.journal.runs[t]?.map (·.1.input))
      = (p.batches.flatMap Batch.inputs).map some := by
    rw [List.map_flatMap, List.map_flatMap]
    exact List.flatMap_congr fun batch mem => sound.inputs_of_served served mem
  have launches : (List.range p.nextTicket).map (fun t => p.journal.runs[t]?.map (·.1.input))
      = (p.journal.runs.map (·.1.input)).map some := by
    rw [← sound.numbered.runs_of_returned back sound.placed]
    refine List.ext_getElem? fun k => ?_
    by_cases lt : k < p.journal.runs.length
    · simp [lt]
    · simp [lt]
  rw [inputs, launches] at byTicket
  have := byTicket.filterMap id
  simpa [List.filterMap_map] using this.symm

/-- **A batch's summary** is that of its inputs one by one. -/
theorem Sound.summary_of_served {batch : Batch} (mem : batch ∈ p.batches) :
    batch.summary? = some (p.pipeline.summary batch.inputs) := by
  obtain ⟨b, at_b⟩ := List.mem_iff_getElem?.mp mem
  have all := served batch mem
  cases sound.placed.fits batch mem with
  | @served inputs tickets outcomes all replies =>
    have length : outcomes.length = inputs.length := by
      have := congrArg List.length replies
      rw [List.length_map, List.length_map] at this
      omega
    have own : outcomes = inputs.map fun input => (p.pipeline.verdict input).outcome := by
      refine List.ext_getElem (by rw [length, List.length_map]) fun k hk _ => ?_
      have lt : k < tickets.length := by omega
      obtain ⟨e, at_t, ticket, its⟩ :=
        sound.exists_launch served at_b (List.getElem?_eq_getElem lt)
      have found := congrArg (·[k]?) replies
      simp only [List.getElem?_map, List.getElem?_eq_getElem lt, List.getElem?_eq_getElem hk,
        Option.map_some, Option.some.injEq] at found
      obtain ⟨f, ran, same, outcome⟩ := sound.genuine.replied _ (mem_of_lookup found)
      obtain rfl : e = f :=
        sound.numbered.eq_of_started (List.mem_of_getElem? at_t) ran (ticket.trans same.symm)
      simp only [Batch.inputs, List.getElem?_eq_some_iff] at its
      obtain ⟨_, its⟩ := its
      rw [List.getElem_map, its, ← sound.verdict_eq ran]
      exact outcome.symm
    rw [own]
    rfl
  | refused inputs =>
    have none : 0 = inputs.length := beq_iff_eq.mp all
    obtain rfl := List.length_eq_zero_iff.mp none.symm
    rfl
  | _ => cases all

/-- The failure reports are those of all inputs, one by one. -/
theorem Sound.reports_perm :
    (p.journal.runs.flatMap (·.2.reports)).Perm
      (p.pipeline.reports (p.batches.flatMap Batch.inputs)) := by
  have own : p.journal.runs.flatMap (·.2.reports)
      = p.pipeline.reports (p.journal.runs.map (·.1.input)) := by
    rw [Pipeline.reports, List.flatMap_map]
    exact List.flatMap_congr fun e ran => by rw [sound.alone ran]; rfl
  rw [own]
  exact p.pipeline.reports_perm (sound.launches_perm served)

/-! ## The shared counts -/

variable {h : History} (told : p.Told h)

include told

/-- All that was done for an input that was sent. -/
theorem Told.of_served {x : Place} {ticket : Nat} (hx : p.ticketAt x = some ticket) :
    ∃ (input : LaunchInput) (worker : Nat) (job : Job) (run : Run), p.inputAt x = some input ∧
      h.of x = Deed.life worker job run ∧ job.input = input ∧
      run.ending.verdict = p.pipeline.verdict input := by
  have back := returned_of_served served
  have issued := (sound.placed.issued ticket).mp ⟨x, hx⟩
  obtain ⟨outcome, answer⟩ := sound.placed.answered_of_returned back issued
  obtain ⟨batch, at_b, at_k⟩ := Option.bind_eq_some_iff.mp hx
  obtain ⟨e, -, -, its⟩ := sound.exists_launch served at_b at_k
  have here : p.inputAt x = some e.1.input := by rw [inputAt, at_b, Option.bind_some, its]
  obtain ⟨worker, job, run, ⟨same, time, eq⟩, -, answered⟩ := told.fate_of_sent sound hx here
  obtain ⟨whole, -⟩ := answered outcome (sound.numbered.lookup_of_replied answer)
  refine ⟨e.1.input, worker, job, run, here, whole, same, ?_⟩
  rw [eq, Pipeline.run_eq_shift]
  rfl

/-- Nothing was done for anything else. -/
theorem Told.mem_arrivals_of_served {e : Place × Deed} (mem : e ∈ h) : e.1 ∈ h.arrivals := by
  have done := History.mem_of (x := e.1) (d := e.2) mem
  cases hx : p.ticketAt e.1 with
  | some ticket =>
    obtain ⟨-, worker, job, run, -, whole, -, -⟩ := told.of_served sound served hx
    exact History.mem_arrivals (whole ▸ List.mem_cons_self)
  | none =>
    have none : p.refusalAt e.1 = [] := by
      rw [refusalAt]
      cases at_b : p.batches[e.1.batch]? with
      | none => rfl
      | some batch =>
        obtain ⟨inputs, tickets, summary, rfl, all⟩ :=
          exists_of_isServed (served batch (List.mem_of_getElem? at_b))
        rw [Option.map_some, Option.getD_some, Batch.refusalAt, if_neg]
        simp only [Batch.gone, all]
        omega
    rw [told.unsent _ hx, none] at done
    cases done

omit told in
/-- The inputs came in the order in which they were launched. -/
theorem Lined.inputAt_arrivals (lined : p.Lined h) :
    h.arrivals.map p.inputAt = p.journal.runs.map fun e => some e.1.input := by
  have back := returned_of_served served
  have length : h.arrivals.length = p.journal.runs.length := by
    have := congrArg List.length lined.arrivals
    rw [List.length_map, List.length_map, List.length_range] at this
    rw [this, sound.numbered.runs_of_returned back sound.placed]
  refine List.ext_getElem (by rw [List.length_map, List.length_map, length]) fun k _ hk => ?_
  have lt : k < p.journal.runs.length := by simpa using hk
  have hx := eq_of_map_range lined.arrivals (List.getElem?_eq_getElem (length ▸ lt))
  have ticket := sound.numbered.ticket_getElem lt
  rw [List.getElem_map, List.getElem_map]
  exact sound.placed.carried _
    (List.mem_append_right _ (List.mem_map_of_mem (List.getElem_mem lt))) _
    (hx.trans (congrArg some ticket.symm))

/-- **The shared counts are those of the inputs one by one.** -/
theorem tally_of_served (lined : p.Lined h) (t : Tally) :
    h.tally t = p.pipeline.tally (p.batches.flatMap Batch.inputs) t := by
  have nodup : h.arrivals.Nodup :=
    .of_map p.ticketAt (lined.arrivals ▸ List.nodup_range.map (Option.some_injective Nat))
  have grouped := History.perm_flatMap_of nodup fun e mem =>
    told.mem_arrivals_of_served sound served mem
  have own : ∀ (t : Tally), ∀ x ∈ h.arrivals, (h.of x).foldl (fun t d => d.onTally t) t
      = (p.inputAt x).elim t (p.pipeline.tallyOne t) := by
    intro t x came
    obtain ⟨ticket, hx⟩ := lined.exists_ticket came
    obtain ⟨input, worker, job, run, here, whole, rfl, verdict⟩ := told.of_served sound served hx
    rw [here, whole, Option.elim_some, Pipeline.tallyOne, ← verdict]
    rfl
  -- deeds of different inputs may change places, so they can be taken input by input
  calc h.tally t
    _ = (h.map Prod.snd).foldl (fun t d => d.onTally t) t := by
      rw [List.foldl_map]
      rfl
    _ = (h.arrivals.flatMap h.of).foldl (fun t d => d.onTally t) t :=
      grouped.foldl_eq' (fun d _ e _ t => d.onTally_comm e t) t
    _ = h.arrivals.foldl (fun t x => (p.inputAt x).elim t (p.pipeline.tallyOne t)) t :=
      List.foldl_flatMap.trans (List.foldl_ext _ _ _ own)
    _ = (h.arrivals.map p.inputAt).foldl (fun t i => i.elim t (p.pipeline.tallyOne t)) t := by
      rw [List.foldl_map]
    _ = p.pipeline.tally (p.journal.runs.map (·.1.input)) t := by
      rw [lined.inputAt_arrivals sound served, Pipeline.tally, List.foldl_map, List.foldl_map]
      rfl
    _ = p.pipeline.tally (p.batches.flatMap Batch.inputs) t :=
      p.pipeline.tally_perm (sound.launches_perm served) t

end Served

/-! ## Every batch is served -/

/-- **A pool that no closing was asked of**: whoever returned is served. -/
structure Attended (p : Pool) : Prop where
  unshut : p.closings = []
  all : ∀ b ∈ p.batches, b.isReturned = true → b.isServed = true

theorem Attended.set {b : Nat} {new : Batch} (h : p.Attended)
    (closings : q.closings = p.closings) (batches : q.batches = p.batches.set b new)
    (served : new.isReturned = true → new.isServed = true) : q.Attended where
  unshut := closings.trans h.unshut
  all c mem := by
    rw [batches] at mem
    rcases List.mem_or_eq_of_mem_set mem with old | rfl
    · exact h.all c old
    · exact served

/-- **No step but a closing turns anyone away.** -/
theorem Attended.step {m : Move} (h : p.Attended) (sound : p.Sound) (other : m ≠ .close)
    (s : p.Step m q) : q.Attended := by
  have none : ∀ {c : Nat} {closing : Closing}, p.closings[c]? ≠ some closing := by
    intro c closing at_c
    rw [h.unshut] at at_c
    cases at_c
  cases s with
  | close => exact absurd rfl other
  | shut at_c => exact absurd at_c none
  | takeCharge at_c => exact absurd at_c none
  | join at_c gone => exact absurd at_c none
  | call inputs =>
    refine ⟨h.unshut, fun b mem returned => ?_⟩
    rcases List.mem_append.mp mem with old | new
    · exact h.all b old returned
    · obtain rfl := List.mem_singleton.mp new
      cases returned
  | skip at_b => exact h.set rfl rfl fun _ => rfl
  | attach at_b some_input => exact h.set rfl rfl nofun
  | turnAway at_b => exact h.set rfl rfl nofun
  | refuse at_b unserved => exact h.set rfl rfl nofun
  | send at_b served => exact h.set rfl rfl nofun
  | finish at_b there =>
    refine h.set rfl rfl fun _ => ?_
    have fits := sound.placed.fits _ (List.mem_of_getElem? at_b)
    have whole := fits.whole.1
    cases fits with
    | attached sent le => exact beq_iff_eq.mpr whole
    | detached shut gone le =>
      obtain ⟨c, mem, -⟩ := sound.staffed.shut_iff.mp shut
      rw [h.unshut] at mem
      cases mem
  | _ => exact { h with }

theorem Attended.steps {moves : List Move} (h : p.Attended) (sound : p.Sound)
    (others : .close ∉ moves) (went : p.steps moves = some q) : q.Attended := by
  refine (foldlM_induction (P := fun q => q.Sound ∧ q.Attended) ?_ ⟨sound, h⟩ went).2
  rintro r s m mem ⟨sound, h⟩ step
  exact ⟨sound.step step, h.step sound (ne_of_mem_of_not_mem mem others) (.of_step step)⟩

/-- **A prompt run serves every batch.** -/
theorem Attended.runQuiet (h : p.Attended) (sound : p.Sound) {b : Batch}
    (mem : b ∈ p.runQuiet.batches) : b.isServed = true := by
  obtain ⟨sound', attended⟩ := runQuiet_induction (P := fun q => q.Sound ∧ q.Attended)
    ⟨sound, h⟩ fun ⟨sound, h⟩ own s =>
      ⟨sound.step s, h.step sound (by rintro rfl; cases own) (.of_step s)⟩
  obtain ⟨k, at_k⟩ := List.mem_iff_getElem?.mp mem
  obtain ⟨inputs, tickets, summary, rfl⟩ := sound'.returned_of_quiet (advance_runQuiet p) at_k
  exact attended.all _ mem rfl

/-! ## Two runs -/

/-- All inputs of a pool. -/
def inputs (p : Pool) : List LaunchInput := p.batches.flatMap Batch.inputs

/-- **A pool that came to what its inputs come to one by one**, from such progress and counts. -/
structure OneByOne (pipeline : Pipeline) (progress : Progress) (tally : Tally) (p : Pool) :
    Prop where
  /-- Each input was launched. -/
  placed : ∀ x input, p.inputAt x = some input →
    ∃ e ∈ p.journal.runs, p.ticketAt x = some e.1.ticket ∧ e.1.input = input
  endings : (p.journal.runs.map fun e => (e.1.input, e.2.ending)).Perm
    (p.inputs.map fun input => (input, (pipeline.run 0 input).ending))
  summaries : ∀ b ∈ p.batches, b.summary? = some (pipeline.summary b.inputs)
  tally : p.tally = pipeline.tally p.inputs tally
  progress : p.progress = { progress with resumed := progress.resumed + p.inputs.length }
  reports : (p.journal.runs.flatMap (·.2.reports)).Perm (pipeline.reports p.inputs)

theorem total_inputs (l : List Batch) :
    total (·.inputs.length) l = (l.flatMap Batch.inputs).length := by
  induction l with
  | nil => rfl
  | cons b l ih => rw [total, ih, List.flatMap_cons, List.length_append]

/-- **Whatever the order of steps, a pool comes to what its inputs come to one by one.** -/
theorem oneByOne_of_served {parallelism start : Nat} {pipeline : Pipeline} {progress : Progress}
    {tally : Tally} {log : List Entry} {moves : List Move}
    (went : ((Pool.new parallelism pipeline start).withCounts progress tally log).steps moves
      = some p)
    (served : ∀ b ∈ p.batches, b.isServed) : p.OneByOne pipeline progress tally := by
  let new := (Pool.new parallelism pipeline start).withCounts progress tally log
  have fresh : new.Lived := .share (.new parallelism pipeline start) progress tally log
  have reached : new.Reaches p := ⟨moves, went⟩
  have lived : p.Lived := fresh.reaches reached
  have sound := lived.sound
  have same : p.pipeline = pipeline := reached.pipeline_eq
  have back := returned_of_served served
  have told : p.Told (new.history moves) := told_of_steps fresh.sound (told_new _ _ _ _ _ _) went
  have lined : p.Lined (new.history moves) :=
    lined_of_steps fresh.sound (lined_new _ _ _ _ _ _) went
  subst same
  refine ⟨?_, ?_, ?_, ?_, ?_, sound.reports_perm served⟩
  · intro x input its
    obtain ⟨batch, at_b, at_k⟩ := Option.bind_eq_some_iff.mp its
    obtain ⟨inputs, tickets, summary, rfl, all⟩ :=
      exists_of_isServed (served batch (List.mem_of_getElem? at_b))
    have lt : x.index < tickets.length := by
      rw [all]
      exact (List.getElem?_eq_some_iff.mp at_k).1
    have sent := List.getElem?_eq_getElem lt
    obtain ⟨e, at_t, ticket, its⟩ := sound.exists_launch served at_b sent
    refine ⟨e, List.mem_of_getElem? at_t, ?_, Option.some.inj (its.symm.trans at_k)⟩
    rw [ticketAt, at_b, Option.bind_some, ticket]
    exact sent
  · have own : p.journal.runs.map (fun e => (e.1.input, e.2.ending))
        = (p.journal.runs.map (·.1.input)).map fun input =>
          (input, (p.pipeline.run 0 input).ending) := by
      rw [List.map_map]
      refine List.map_congr_left fun e ran => ?_
      rw [sound.alone ran]
      rfl
    rw [own]
    exact (sound.launches_perm served).map _
  · exact fun b mem => sound.summary_of_served served mem
  · rw [(books_of_steps went).tally]
    exact tally_of_served sound served told lined tally
  · obtain ⟨kept, moved⟩ := reached.progress_eq fresh.sound
    have settled : new.settled = 0 := by
      rw [fresh.settled_of_returned fun b mem => absurd mem List.not_mem_nil]
      rfl
    rw [settled, lived.settled_of_returned back, total_inputs, Nat.add_zero] at moved
    rw [kept, moved]
    rfl

theorem alone_of_steps {parallelism start : Nat} {pipeline : Pipeline} {progress : Progress}
    {tally : Tally} {log : List Entry} {moves : List Move}
    (went : ((Pool.new parallelism pipeline start).withCounts progress tally log).steps moves
      = some p) :
    ∀ e ∈ p.journal.runs, e.2 = (pipeline.run 0 e.1.input).shift e.2.start := by
  intro e ran
  let new := (Pool.new parallelism pipeline start).withCounts progress tally log
  have fresh : new.Sound := (sound_new parallelism pipeline start).withCounts progress tally log
  have reached : new.Reaches p := ⟨moves, went⟩
  have same : p.pipeline = pipeline := reached.pipeline_eq
  exact same ▸ (fresh.reaches reached).alone ran

/-- **Launches are isolated, and the schedule is no matter.**  For any two runs of pools with any
numbers of workers, any steps and any two pipelines:

* Each launch is what it would be alone, but for the time.
* An input with which both pipelines do the same has the same launch in both runs, whatever they do
  with other inputs.
* Where every input was launched and its batch has returned, a run has come to what its inputs come
  to one by one.  So two runs of the same inputs, in any two orders, have the same counts, progress,
  endings and failure reports, and two batches of the same inputs have the same summary.
* Unless a closing is asked for, every batch is served in the end. -/
theorem isolated {A B : Pipeline} {m n s t : Nat} {progress : Progress} {tally : Tally}
    {log other : List Entry} {ms ns : List Move}
    (left : ((Pool.new m A s).withCounts progress tally log).steps ms = some p)
    (right : ((Pool.new n B t).withCounts progress tally other).steps ns = some q) :
    (∀ e ∈ p.journal.runs, e.2 = (A.run 0 e.1.input).shift e.2.start) ∧
    (∀ e ∈ p.journal.runs, ∀ f ∈ q.journal.runs, e.1.input = f.1.input →
      A.AgreesAt B e.1.input → ∃ r : Run, e.2 = r.shift e.2.start ∧ f.2 = r.shift f.2.start) ∧
    ((∀ b ∈ p.batches, b.isServed) → p.OneByOne A progress tally ∧
      ((∀ b ∈ q.batches, b.isServed) → p.inputs.Perm q.inputs →
        (∀ input ∈ p.inputs, A.AgreesAt B input) →
        p.tally = q.tally ∧ p.progress = q.progress ∧
        (p.journal.runs.map fun e => (e.1.input, e.2.ending)).Perm
          (q.journal.runs.map fun e => (e.1.input, e.2.ending)) ∧
        (p.journal.runs.flatMap (·.2.reports)).Perm (q.journal.runs.flatMap (·.2.reports)) ∧
        ∀ b ∈ p.batches, ∀ c ∈ q.batches, b.inputs.Perm c.inputs → b.summary? = c.summary?)) ∧
    (.close ∉ ms → ∀ b ∈ p.runQuiet.batches, b.isServed) := by
  refine ⟨alone_of_steps left, ?_, ?_, ?_⟩
  · intro e ran f ran' same agree
    refine ⟨A.run 0 e.1.input, alone_of_steps left e ran, ?_⟩
    rw [Pipeline.run_congr agree, same]
    exact alone_of_steps right f ran'
  · intro served_p
    have one := oneByOne_of_served left served_p
    refine ⟨one, fun served_q same agree => ?_⟩
    have two := oneByOne_of_served right served_q
    refine ⟨?_, ?_, ?_, ?_, ?_⟩
    · rw [one.tally, two.tally, A.tally_perm same]
      exact Pipeline.tally_congr (fun input mem => agree input (same.mem_iff.mpr mem)) tally
    · rw [one.progress, two.progress, same.length_eq]
    · refine one.endings.trans (List.Perm.trans ?_ two.endings.symm)
      refine List.Perm.trans (.of_eq ?_) (same.map _)
      exact List.map_congr_left fun input mem => by rw [Pipeline.run_congr (agree input mem)]
    · refine one.reports.trans (List.Perm.trans ?_ two.reports.symm)
      rw [Pipeline.reports_congr agree]
      exact B.reports_perm same
    · intro b mem c mem' own
      rw [one.summaries b mem, two.summaries c mem', A.summary_perm own]
      refine congrArg some (Pipeline.summary_congr fun input its => agree input ?_)
      exact List.mem_flatMap.mpr ⟨b, mem, own.mem_iff.mpr its⟩
  · intro others b mem
    have fresh : ((Pool.new m A s).withCounts progress tally log).Sound :=
      (sound_new m A s).withCounts progress tally log
    have attended : ((Pool.new m A s).withCounts progress tally log).Attended :=
      ⟨rfl, fun b mem => absurd mem List.not_mem_nil⟩
    exact (attended.steps fresh others left).runQuiet (fresh.reaches ⟨ms, left⟩) mem

/-- A launch that panics and one that sleeps: on one worker, and on two with the inputs the other
way round. -/
theorem isolated_of_two :
    let pipeline : Pipeline := ⟨[⟨"load", fun input =>
      if input.id = "w-1" then .unbuilt .wordless else .script [.sleep 2] .ok⟩], .noop⟩
    let first : LaunchInput := ⟨"w-1", .sync, "", [], "", none⟩
    let second : LaunchInput := ⟨"w-2", .check, "", [], "", none⟩
    let ms : List Move := [.call [first, second], .batch 0, .batch 0, .batch 0, .worker 0,
      .worker 0, .worker 0, .worker 0, .worker 0, .worker 0, .worker 0, .worker 0, .tick 2,
      .worker 0, .worker 0, .worker 0, .worker 0, .batch 0]
    let ns : List Move := [.call [second, first], .batch 0, .batch 0, .worker 0, .worker 0,
      .batch 0, .worker 1, .worker 1, .worker 1, .worker 1, .tick 7, .worker 0, .worker 1,
      .worker 0, .worker 1, .worker 0, .worker 0, .batch 0]
    ∃ p q, ((Pool.new 1 pipeline 0).withCounts {} {} []).steps ms = some p ∧
      ((Pool.new 2 pipeline 5).withCounts {} {} []).steps ns = some q ∧
      (∀ b ∈ p.batches, b.isServed) ∧ (∀ b ∈ q.batches, b.isServed) ∧ p.inputs.Perm q.inputs ∧
      p.tally = q.tally ∧ p.progress = q.progress ∧
      (p.journal.runs.map fun e => (e.1.input, e.2.ending)).Perm
        (q.journal.runs.map fun e => (e.1.input, e.2.ending)) := by
  intro pipeline first second ms ns
  obtain ⟨p, left, served_p, inputs_p⟩ : ∃ p : Pool,
      ((Pool.new 1 pipeline 0).withCounts {} {} []).steps ms = some p ∧
        (∀ b ∈ p.batches, b.isServed) ∧ p.inputs = [first, second] :=
    ⟨_, rfl, by decide, rfl⟩
  obtain ⟨q, right, served_q, inputs_q⟩ : ∃ q : Pool,
      ((Pool.new 2 pipeline 5).withCounts {} {} []).steps ns = some q ∧
        (∀ b ∈ q.batches, b.isServed) ∧ q.inputs = [second, first] :=
    ⟨_, rfl, by decide, rfl⟩
  have same : p.inputs.Perm q.inputs := by
    rw [inputs_p, inputs_q]
    exact .swap second first []
  obtain ⟨-, -, whole, -⟩ := isolated left right
  obtain ⟨tally, progress, endings, -, -⟩ :=
    (whole served_p).2 served_q same fun _ _ => ⟨rfl, fun _ _ => rfl⟩
  exact ⟨p, q, left, right, served_p, served_q, same, tally, progress, endings⟩

end Pool

end Relaunch
