import Relaunch.Proofs.Pool.Settled
import Relaunch.Proofs.Pool.Quiet

/-!
# Proofs/Pool/Shutdown — a pool with nothing in hand is shut at once

Where all batches have returned, a prompt pool has no launch to wait for and none to start: its
workers leave, its closings return, and the rest of it stays as it is (`AtRest.advance`).  So its
shutdown takes no time, launches nothing and logs nothing (`shutdown_of_returned`), and no batch
gets a place at the queue any more (`isOpen_shutdown`).
-/

namespace Relaunch.Pool

/-- **Another pool at rest**: all batches have returned, and only workers, handles, closings and the
door can differ. -/
structure AtRest (p q : Pool) : Prop where
  sound : q.Sound
  back : ∀ b ∈ q.batches, b.isReturned
  clock : q.clock = p.clock
  batches : q.batches = p.batches
  journal : q.journal = p.journal
  progress : q.progress = p.progress
  tally : q.tally = p.tally

/-- A step of a pool at rest that neither takes time nor asks for anything new. -/
theorem AtRest.step {p q r : Pool} (h : p.AtRest q) {m : Move} (mem : m ∈ q.moves)
    (s : q.step m = some r) : p.AtRest r := by
  have sound := h.sound.step s
  have busy : ∀ {i : Nat} {w : Worker} {job : Job}, q.workers[i]? = some w → w.job? ≠ some job := by
    intro i w job at_i
    rw [h.sound.numbered.job?_of_returned h.back h.sound.placed (List.mem_of_getElem? at_i)]
    nofun
  have returned : ∀ {b : Nat} {batch : Batch}, q.batches[b]? = some batch →
      batch.isReturned = true := fun at_b => h.back _ (List.mem_of_getElem? at_b)
  cases Step.of_step s with
  | tick => rcases mem_moves mem with ⟨_, eq⟩ | ⟨_, eq⟩ | ⟨_, eq⟩ <;> cases eq
  | call => rcases mem_moves mem with ⟨_, eq⟩ | ⟨_, eq⟩ | ⟨_, eq⟩ <;> cases eq
  | close => rcases mem_moves mem with ⟨_, eq⟩ | ⟨_, eq⟩ | ⟨_, eq⟩ <;> cases eq
  | take at_i first =>
    rw [h.sound.numbered.queue_of_returned h.back h.sound.placed] at first
    cases first
  | judge at_i ended => exact absurd rfl (busy at_i)
  | count at_i => exact absurd rfl (busy at_i)
  | resume at_i => exact absurd rfl (busy at_i)
  | answer at_i => exact absurd rfl (busy at_i)
  | skip at_b => cases returned at_b
  | attach at_b => cases returned at_b
  | turnAway at_b => cases returned at_b
  | refuse at_b => cases returned at_b
  | send at_b => cases returned at_b
  | finish at_b => cases returned at_b
  | _ => exact ⟨sound, h.back, h.clock, h.batches, h.journal, h.progress, h.tally⟩

/-- **A prompt pool at rest stays at rest.** -/
theorem AtRest.advance {p q r : Pool} (h : p.AtRest q) (goesOn : q.advance = some r) :
    p.AtRest r := by
  unfold Pool.advance at goesOn
  split at goesOn
  · rename_i prompt
    cases goesOn
    obtain ⟨m, mem, s⟩ := exists_step_of_prompt? prompt
    exact h.step mem s
  · -- The clock goes on to the end of a launch only, and none runs.
    obtain ⟨time, deadline, -⟩ := Option.bind_eq_some_iff.mp goesOn
    obtain ⟨w, mem, its⟩ := List.mem_filterMap.mp (List.min?_mem deadline)
    have free := h.sound.numbered.job?_of_returned h.back h.sound.placed mem
    cases w with
    | running => cases free
    | _ => cases its

/-- **The shutdown of a pool whose batches have all returned** takes no time, launches nothing and
logs nothing. -/
theorem shutdown_of_returned {p : Pool} (sound : p.Sound)
    (back : ∀ b ∈ p.batches, b.isReturned) : p.AtRest p.shutdown := by
  have closed : p.close.Sound := sound.reaches p.reaches_close
  exact runQuiet_induction_advance (P := p.AtRest) ⟨closed, back, rfl, rfl, rfl, rfl, rfl⟩
    fun rests goesOn => rests.advance goesOn

end Relaunch.Pool
