import Relaunch.Pool.Rounds

/-!
# Pool/Reach — every run of a pool is made of its steps

`Pool.Reaches p q` says that some steps lead from `p` to `q`.  The runs of `Relaunch.Pool.Schedule`
and `Relaunch.Pool.Rounds` only choose the order of steps, so what every step keeps, they keep.

* `Pool.reaches_runQuiet`, `Pool.reaches_runBatch`, `Pool.reaches_shutdown` — the prompt runs.
* `Pool.reaches_runBatches` — batches side by side.
-/

namespace Relaunch

namespace Pool

/-- **Some steps lead from one pool to another.** -/
def Reaches (p q : Pool) : Prop := ∃ moves, p.steps moves = some q

theorem Reaches.refl (p : Pool) : p.Reaches p := ⟨[], rfl⟩

theorem Reaches.trans {p q r : Pool} (hpq : p.Reaches q) (hqr : q.Reaches r) : p.Reaches r := by
  obtain ⟨ms, hm⟩ := hpq
  obtain ⟨ns, hn⟩ := hqr
  refine ⟨ms ++ ns, ?_⟩
  simp only [steps] at *
  rw [List.foldlM_append, hm]
  exact hn

theorem Reaches.of_step {p q : Pool} {m : Move} (h : p.step m = some q) : p.Reaches q :=
  ⟨[m], by simp [steps, h]⟩

/-- A step that is taken if it can be taken. -/
theorem reaches_getD_step (p : Pool) (m : Move) : p.Reaches ((p.step m).getD p) := by
  cases h : p.step m with
  | none => exact .refl p
  | some q => exact .of_step h

theorem reaches_callAll (p : Pool) (batches : List (List LaunchInput)) :
    p.Reaches (p.callAll batches) := by
  induction batches generalizing p with
  | nil =>
    have : p.callAll [] = p := by simp [callAll]
    rw [this]
    exact .refl p
  | cons inputs batches ih =>
    have h : p.callAll (inputs :: batches) = (p.callAll [inputs]).callAll batches := by
      simp [callAll]
    rw [h]
    exact (Reaches.of_step (m := .call inputs) rfl).trans (ih _)

theorem reaches_close (p : Pool) : p.Reaches p.close := .of_step (m := .close) rfl

/-! ## Prompt runs -/

theorem reaches_advance {p q : Pool} (h : p.advance = some q) : p.Reaches q := by
  unfold advance at h
  split at h
  · rename_i r hr
    cases h
    obtain ⟨m, _, hs⟩ := List.exists_of_findSome?_eq_some hr
    exact .of_step hs
  · obtain ⟨time, _, hs⟩ := Option.bind_eq_some_iff.mp h
    exact .of_step hs

theorem reaches_advanceWith (fuel : Nat) (p : Pool) : p.Reaches (advanceWith fuel p) := by
  induction fuel generalizing p with
  | zero => exact .refl p
  | succ fuel ih =>
    simp only [advanceWith]
    split
    · rename_i q hq
      exact (reaches_advance hq).trans (ih q)
    · exact .refl p

/-- **A prompt run is made of steps.** -/
theorem reaches_runQuiet (p : Pool) : p.Reaches p.runQuiet := reaches_advanceWith p.work p

theorem reaches_runBatch (p : Pool) (inputs : List LaunchInput) : p.Reaches (p.runBatch inputs) :=
  (reaches_callAll p [inputs]).trans (reaches_runQuiet _)

theorem reaches_shutdown (p : Pool) : p.Reaches p.shutdown :=
  (reaches_close p).trans (reaches_runQuiet _)

end Pool

/-! ## Rounds -/

namespace Rounds

/-- The pool of `r` can get to the pool of `s`. -/
abbrev Leads (r s : Rounds) : Prop := r.pool.Reaches s.pool

theorem leads_move (r : Rounds) (m : Move) : r.Leads (r.move m) := r.pool.reaches_getD_step m

theorem leads_moves (r : Rounds) (m : Move) (count : Nat) : r.Leads (r.moves m count) := by
  induction count with
  | zero => exact .refl r.pool
  | succ count ih => exact Pool.Reaches.trans ih (leads_move _ m)

theorem leads_handOver (r : Rounds) : r.Leads r.handOver := by
  unfold handOver
  split
  · exact .refl r.pool
  · exact leads_move r _

theorem leads_conclude (r : Rounds) (i : Nat) (job : Job) : r.Leads (r.conclude i job) := by
  simp only [conclude]
  split <;> exact leads_moves r _ 4

theorem leads_concludeAt (r : Rounds) (i : Nat) (pauses : List Nat) :
    r.Leads (r.concludeAt i pauses) := by
  unfold concludeAt
  split
  · exact leads_conclude r i _
  · exact .refl r.pool

theorem leads_go (i left : Nat) (pauses : List Nat) (r : Rounds) :
    r.Leads (go i left pauses r) := by
  induction left generalizing pauses r with
  | zero => exact leads_concludeAt r i pauses
  | succ left ih =>
    refine (leads_concludeAt r i pauses).trans ?_
    simp only [go]
    split
    · split
      · split
        · exact ih _ _
        · exact .refl _
      · exact .refl _
    · split
      · exact .refl _
      · exact (leads_move _ _).trans (ih _ _)
    · split
      · split
        · exact .refl _
        · exact (leads_move _ _).trans (leads_handOver _)
      · exact ((leads_move _ _).trans (leads_handOver _)).trans (ih _ _)
    · exact .refl _

theorem leads_turns (n : Nat) (r : Rounds) : r.Leads (turns n r) := by
  induction n generalizing r with
  | zero => exact .refl r.pool
  | succ n ih =>
    simp only [turns]
    split
    · exact .refl r.pool
    · rename_i t ready _
      exact (leads_go t.worker t.left t.pauses { r with ready }).trans (ih _)

theorem leads_lookAt (acc : Rounds × Nat) (b : Nat) : acc.1.Leads (lookAt acc b).1 := by
  obtain ⟨r, left⟩ := acc
  simp only [lookAt]
  split
  · exact leads_moves r _ _
  · split
    · exact leads_move { r with seen := _ } _
    · split <;> exact .refl r.pool
  · exact .refl r.pool

theorem leads_foldl_lookAt (bs : List Nat) (acc : Rounds × Nat) :
    acc.1.Leads (bs.foldl lookAt acc).1 := by
  induction bs generalizing acc with
  | nil => exact .refl _
  | cons b bs ih => exact (leads_lookAt acc b).trans (ih _)

theorem leads_foldl_closings (is : List Nat) (r : Rounds) :
    r.Leads (is.foldl (fun r i => r.moves (.closing i) 3) r) := by
  induction is generalizing r with
  | nil => exact .refl _
  | cons i is ih => exact (leads_moves r _ 3).trans (ih _)

theorem leads_rouse (r : Rounds) : r.Leads r.rouse := by
  unfold rouse
  split
  · split <;> exact .refl r.pool
  · exact .refl r.pool

theorem leads_look (r : Rounds) : r.Leads r.look := by
  unfold look
  refine Pool.Reaches.trans ?_ (leads_rouse _)
  refine Pool.Reaches.trans ?_ (leads_foldl_closings _ _)
  exact leads_foldl_lookAt r.order ({ r with told := [], isDue := false }, allowance)

theorem leads_round (r : Rounds) : r.Leads r.round := by
  unfold round
  split
  · exact (leads_look r).trans (leads_turns _ _)
  · exact leads_turns _ _

theorem leads_instant (fuel : Nat) (r : Rounds) : r.Leads (instant fuel r) := by
  induction fuel generalizing r with
  | zero => exact .refl r.pool
  | succ fuel ih =>
    simp only [instant]
    split
    · exact .refl r.pool
    · exact (leads_round r).trans (ih _)

theorem leads_shutDue (r : Rounds) : r.Leads r.shutDue := by
  unfold shutDue
  split
  · exact leads_move r .close
  · exact .refl r.pool

theorem leads_wake (r : Rounds) (time : Nat) : r.Leads (r.wake time) := by
  unfold wake
  refine Pool.Reaches.trans ?_ (leads_shutDue _)
  exact leads_move r (.tick time)

theorem reaches_start (p : Pool) (batches : List (List LaunchInput)) (closeAt : Option Nat) :
    p.Reaches (start p batches closeAt).pool := by
  unfold start
  refine Pool.Reaches.trans ?_ (leads_shutDue _)
  exact p.reaches_callAll batches

theorem leads_instants (bound fuel : Nat) (r : Rounds) : r.Leads (instants bound fuel r) := by
  induction fuel generalizing r with
  | zero => exact .refl r.pool
  | succ fuel ih =>
    simp only [instants]
    split
    · exact ((leads_instant bound r).trans (leads_wake _ _)).trans (ih _)
    · exact leads_instant bound r

end Rounds

/-- **Batches side by side are run by steps.** -/
theorem Pool.reaches_runBatches (p : Pool) (batches : List (List LaunchInput))
    (shutdownAfter : Option Nat) : p.Reaches (p.runBatches batches shutdownAfter) :=
  ((Rounds.reaches_start p batches _).trans (Rounds.leads_instants _ _ _)).trans
    (reaches_runQuiet _)

end Relaunch
