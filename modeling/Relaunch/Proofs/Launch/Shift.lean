import Relaunch.Launch.Pipeline

/-!
# Proofs/Launch/Shift — a launch is the same whenever it starts

Nothing that a stage or a hook does depends on the time.  A launch that starts later by some time is
the same launch, with all its times later by as much (`Pipeline.run_add`); so it ends alike, and
lasts as long.

* `Scene.play_shift`, `Course.through_shift` — the same for actions, and for stages.
* `Pipeline.start_run`, `Pipeline.start_le_finish` — when a launch starts, and that it ends after.
-/

namespace Relaunch

variable (d : Nat)

/-! ## Actions -/

/-- The scene, later by some time. -/
def Scene.shift (s : Scene) : Scene :=
  { s with clock := s.clock + d, pauses := s.pauses.map (· + d) }

theorem Scene.act_shift (s : Scene) (a : Action) : (s.shift d).act a = (s.act a).shift d := by
  cases a with
  | sleep ms => simp [shift, act, Nat.add_right_comm]
  | _ => rfl

theorem Scene.play_shift (s : Scene) (actions : List Action) :
    (s.shift d).play actions = (s.play actions).shift d := by
  induction actions generalizing s with
  | nil => rfl
  | cons a actions ih =>
    rw [play, List.foldl_cons, act_shift]
    exact ih (s.act a)

/-! ## Stages -/

/-- The visit, later by some time. -/
def Visit.shift (v : Visit) : Visit := { v with start := v.start + d, stop := v.stop.map (· + d) }

/-- The course, later by some time. -/
def Course.shift (c : Course) : Course :=
  { c with
    clock := c.clock + d
    pauses := c.pauses.map (· + d)
    visits := c.visits.map (·.shift d) }

theorem Course.after_shift (c : Course) (stage : String) (actions : List Action)
    (ending : Ending) :
    (c.shift d).after stage actions ending = (c.after stage actions ending).shift d := by
  have played := Scene.play_shift d { context := c.context.enter stage, clock := c.clock } actions
  simp only [Scene.shift, List.map_nil] at played
  cases ending <;>
    simp [after, shift, played, Scene.close, Visit.shift, Ending.stop?]

theorem Course.unbuilt_shift (c : Course) (stage : String) :
    (c.shift d).unbuilt stage = (c.unbuilt stage).shift d := by
  simp [unbuilt, shift, Visit.shift]

theorem Course.through_shift (c : Course) (stages : List Stage) :
    (c.shift d).through stages = ((c.through stages).1.shift d, (c.through stages).2) := by
  induction stages generalizing c with
  | nil => rfl
  | cons stage stages ih =>
    simp only [through, show (c.shift d).context = c.context from rfl]
    split
    · rfl
    · split
      · rw [unbuilt_shift]
      · rw [after_shift, ih]

/-! ## Launches -/

/-- The launch, later by some time. -/
def Run.shift (r : Run) : Run :=
  { r with
    start := r.start + d
    finish := r.finish + d
    pauses := r.pauses.map (· + d)
    visits := r.visits.map (·.shift d) }

theorem Pipeline.conclude_shift (p : Pipeline) (start : Nat) (c : Course) :
    p.conclude (start + d) (c.shift d) = (p.conclude start c).shift d :=
  rfl

/-- **A launch that starts later is the same launch**, with all its times later by as much. -/
theorem Pipeline.run_add (p : Pipeline) (start : Nat) (input : LaunchInput) :
    p.run (start + d) input = (p.run start input).shift d := by
  have later : ({ context := { input }, clock := start + d } : Course).through p.stages = _ :=
    Course.through_shift d { context := { input }, clock := start } p.stages
  rw [run, run, later]
  rcases ({ context := { input }, clock := start } : Course).through p.stages with
    ⟨c, none | payload⟩
  · exact p.conclude_shift d start c
  · rfl

/-- A launch at any time is the one at the beginning of time, shifted. -/
theorem Pipeline.run_eq_shift (p : Pipeline) (start : Nat) (input : LaunchInput) :
    p.run start input = (p.run 0 input).shift start := by
  rw [← run_add, Nat.zero_add]

theorem Pipeline.start_run (p : Pipeline) (start : Nat) (input : LaunchInput) :
    (p.run start input).start = start := by
  rw [run]
  split <;> rfl

/-- **A launch takes as long whenever it starts**, and so ends after its start. -/
theorem Pipeline.start_le_finish (p : Pipeline) (start : Nat) (input : LaunchInput) :
    start ≤ (p.run start input).finish := by
  rw [run_eq_shift]
  exact Nat.le_add_left start _

end Relaunch
