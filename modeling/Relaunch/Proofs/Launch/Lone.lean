import Mathlib.Data.List.Perm.Basic
import Relaunch.Pool.Basic
import Relaunch.Proofs.Launch.FirstMark
import Relaunch.Proofs.Launch.Shift

/-!
# Proofs/Launch/Lone — launches one by one

What the launches of some inputs come to, each of them alone: the summary, the counts and the
failure reports.  None of them depends on the order of the inputs, and none on what a pipeline
does with inputs that are not among them.

* `Pipeline.run_congr` — a launch is decided by what the stages and hooks do with its own input.
* `Pipeline.summary_perm`, `Pipeline.tally_perm`, `Pipeline.reports_perm` — the order is no matter.
-/

namespace Relaunch

/-! ## What a launch depends on -/

theorem Context.input_finish (c : Context) (t : Terminal) : (c.finish t).input = c.input := by
  unfold finish
  split <;> rfl

theorem Scene.input_act (s : Scene) (a : Action) : (s.act a).context.input = s.context.input := by
  cases a with
  | succeed => exact Context.input_finish _ _
  | fail cause => exact Context.input_finish _ _
  | _ => rfl

theorem Scene.input_play (s : Scene) (actions : List Action) :
    (s.play actions).context.input = s.context.input := by
  induction actions generalizing s with
  | nil => rfl
  | cons a actions ih => exact (ih (s.act a)).trans (s.input_act a)

theorem Scene.input_close (s : Scene) (stage : String) (ending : Ending) :
    (s.close stage ending).input = s.context.input := by
  cases ending with
  | ok => rfl
  | error cause => exact Context.input_finish _ _
  | panic payload => exact Context.input_finish _ _

/-- A stage leaves the input as it is. -/
theorem Course.input_after (c : Course) (stage : String) (actions : List Action)
    (ending : Ending) : (c.after stage actions ending).context.input = c.context.input :=
  (Scene.input_close _ stage ending).trans (Scene.input_play _ actions)

/-- Stages that do the same with the input take the same course. -/
theorem Course.through_congr {stages others : List Stage} (c : Course)
    (same : stages.map (fun s => (s.name, s.behaviour c.context.input))
      = others.map fun s => (s.name, s.behaviour c.context.input)) :
    c.through stages = c.through others := by
  induction stages generalizing others c with
  | nil =>
    obtain rfl := List.map_eq_nil_iff.mp same.symm
    rfl
  | cons stage stages ih =>
    cases others with
    | nil => cases same
    | cons other others =>
      obtain ⟨first, rest⟩ := List.cons.inj same
      obtain ⟨name, behaviour⟩ := Prod.mk.inj first
      simp only [through, behaviour, name]
      split
      · rfl
      · split
        · rfl
        · rename_i actions ending _
          refine ih _ ?_
          rw [input_after]
          exact rest

/-- **Two pipelines that do the same with an input.** -/
structure Pipeline.AgreesAt (p q : Pipeline) (input : LaunchInput) : Prop where
  stages : p.stages.map (fun s => (s.name, s.behaviour input))
    = q.stages.map fun s => (s.name, s.behaviour input)
  hooks : ∀ c : Context, c.input = input → p.hooks.reaction c = q.hooks.reaction c

/-- The stages leave the input as it is. -/
theorem Course.input_through (c : Course) (stages : List Stage) :
    (c.through stages).1.context.input = c.context.input := by
  induction stages generalizing c with
  | nil => rfl
  | cons stage stages ih =>
    simp only [through]
    split
    · rfl
    · split
      · rfl
      · rw [ih, input_after]

/-- **A launch is decided by what is done with its own input.** -/
theorem Pipeline.run_congr {p q : Pipeline} {input : LaunchInput} (agree : p.AgreesAt q input)
    (start : Nat) : p.run start input = q.run start input := by
  have same := Course.through_congr { context := { input }, clock := start } agree.stages
  have its := Course.input_through { context := { input }, clock := start } q.stages
  rw [run, run, same]
  revert its
  rcases ({ context := { input }, clock := start } : Course).through q.stages with
    ⟨c, none | payload⟩
  · intro its
    have final : c.context.succeed.input = input := (Context.input_finish _ _).trans its
    simp only [conclude_eq _ _ _ rfl, agree.hooks _ final]
  · exact fun _ => rfl

/-! ## Inputs one by one -/

namespace Pipeline

/-- How the launch of an input ends. -/
def verdict (p : Pipeline) (input : LaunchInput) : Verdict := (p.run 0 input).ending.verdict

/-- The summary of a batch, if each of its inputs is launched alone. -/
def summary (p : Pipeline) (inputs : List LaunchInput) : Summary :=
  let outcomes := inputs.map fun input => (p.verdict input).outcome
  ⟨inputs.length, outcomes.count .succeeded, outcomes.count .failed⟩

/-- What the launch of an input alone adds to the counts. -/
def tallyOne (p : Pipeline) (t : Tally) (input : LaunchInput) : Tally :=
  ((p.verdict input).count t).addResumed input.kind

/-- The counts, if each of some inputs is launched alone, one after another. -/
def tally (p : Pipeline) (inputs : List LaunchInput) (t : Tally) : Tally :=
  inputs.foldl p.tallyOne t

/-- The failure reports, if each of some inputs is launched alone. -/
def reports (p : Pipeline) (inputs : List LaunchInput) : List FailureReport :=
  inputs.flatMap fun input => (p.run 0 input).reports

variable {p q : Pipeline} {inputs others : List LaunchInput}

/-! The order of the inputs is no matter. -/

theorem summary_perm (p : Pipeline) (same : inputs.Perm others) :
    p.summary inputs = p.summary others := by
  have outcomes := same.map fun input => (p.verdict input).outcome
  simp only [summary, same.length_eq, outcomes.count_eq]

/-- **Counts commute.** -/
theorem tallyOne_comm (p : Pipeline) (t : Tally) (i j : LaunchInput) :
    p.tallyOne (p.tallyOne t i) j = p.tallyOne (p.tallyOne t j) i := by
  simp only [tallyOne]
  cases p.verdict i <;> cases p.verdict j <;> cases i.kind <;> cases j.kind <;> rfl

theorem tally_perm (p : Pipeline) (same : inputs.Perm others) (t : Tally) :
    p.tally inputs t = p.tally others t :=
  same.foldl_eq' (fun i _ j _ t => p.tallyOne_comm t i j) t

theorem reports_perm (p : Pipeline) (same : inputs.Perm others) :
    (p.reports inputs).Perm (p.reports others) :=
  same.flatMap_right _

/-! Nor is what a pipeline does with other inputs. -/

section Congr

variable (agree : ∀ input ∈ inputs, p.AgreesAt q input)

include agree

theorem verdict_congr {input : LaunchInput} (mem : input ∈ inputs) :
    p.verdict input = q.verdict input := by
  rw [verdict, verdict, run_congr (agree input mem)]

theorem summary_congr : p.summary inputs = q.summary inputs := by
  have same : inputs.map (fun input => (p.verdict input).outcome)
      = inputs.map fun input => (q.verdict input).outcome :=
    List.map_congr_left fun input mem => by rw [verdict_congr agree mem]
  simp only [summary, same]

theorem tally_congr (t : Tally) : p.tally inputs t = q.tally inputs t := by
  refine List.foldl_ext _ _ _ fun t input mem => ?_
  rw [tallyOne, tallyOne, verdict_congr agree mem]

theorem reports_congr : p.reports inputs = q.reports inputs :=
  List.flatMap_congr fun input mem => by rw [run_congr (agree input mem)]

end Congr

end Pipeline

end Relaunch
