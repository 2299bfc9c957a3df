import Relaunch.Proofs.Launch.Lone
import Relaunch.Proofs.Launch.Unwound

/-!
# Proofs/Launch/Report — what hooks add to a launch

Hooks have the last word of a launch that came through its stages.  They change nothing of what went
before: a launch with hooks is the same launch without any (`Pipeline.mute`), and then the reaction
to its end.  A reaction may log, report, and panic; a panic unwinds the launch.

The hooks that report failures react to a failure with one report and to a success with nothing.  So
they can make a failure out of nothing but a failure, whatever the registry answers.

* `Pipeline.run_eq_mute` — a launch is the one without hooks, and the reaction to its end.
* `Pipeline.reports_reporter` — the reports of a launch are read off its end without hooks.
* `Pipeline.outcome_run`, `Pipeline.ending_run` — what hooks leave of the outcome and the end.
-/

namespace Relaunch

/-- The pipeline without its hooks. -/
def Pipeline.mute (p : Pipeline) : Pipeline := ⟨p.stages, .noop⟩

/-- **The report of an end**: a launch that came through its stages with a failure has one. -/
def RunEnding.report? : RunEnding → Option FailureReport
  | .finished c => c.failure?.map (Hooks.reportOf c)
  | .unwound _ => none

/-- What hooks do about an end; a launch that is unwound does not come to them. -/
def Hooks.reactionTo (h : Hooks) : RunEnding → Reaction
  | .finished c => h.reaction c
  | .unwound _ => {}

/-- The end after a reaction to it. -/
def RunEnding.after (ending : RunEnding) (reaction : Reaction) : RunEnding :=
  match reaction.panic with
  | some payload => .unwound payload
  | none => ending

/-- **A launch is the one without hooks, and the reaction to its end.** -/
theorem Pipeline.run_eq_mute (p : Pipeline) (start : Nat) (input : LaunchInput) :
    let run := p.mute.run start input
    let reaction := p.hooks.reactionTo run.ending
    p.run start input = { run with
      ending := run.ending.after reaction
      events := run.events ++ reaction.events
      reports := reaction.reports } := by
  have silent : ∀ c, Hooks.noop.reaction c = {} := by
    intro c
    rw [Hooks.reaction]
    split <;> rfl
  simp only [run, mute]
  rcases ({ context := { input }, clock := start } : Course).through p.stages with
    ⟨c, none | payload⟩
  · have others : c.events
          ++ c.context.succeed.verdict :: (p.hooks.reaction c.context.succeed).events
        = (c.events ++ [c.context.succeed.verdict])
          ++ (p.hooks.reaction c.context.succeed).events :=
      List.append_cons _ _ _
    simp only [conclude_eq _ _ _ rfl, silent, Hooks.reactionTo, others]
    rfl
  · simp only [Hooks.reactionTo, List.append_nil]
    rfl

/-- Without hooks, a launch that came through its stages has its own input. -/
theorem Pipeline.input_of_finished {p : Pipeline} {start : Nat} {input : LaunchInput} {c : Context}
    (finished : (p.run start input).ending = .finished c) : c.input = input := by
  have its := Course.input_through { context := { input }, clock := start } p.stages
  rw [run] at finished
  revert finished its
  rcases ({ context := { input }, clock := start } : Course).through p.stages with
    ⟨course, none | payload⟩
  · intro finished its
    simp only [conclude_eq _ _ _ rfl] at finished
    split at finished
    · cases finished
    · cases finished
      exact (Context.input_finish _ _).trans its
  · intro finished
    cases finished

/-! ## Reports -/

namespace Hooks

theorem reports_afterReport (c : Context) (e : StageError) (reply : ReportReply) :
    (afterReport c e reply).reports = [reportOf c e] := by
  cases reply <;> rfl

/-- One report for an end that has one. -/
theorem reports_reactionTo (answer : FailureReport → ReportReply) (ending : RunEnding) :
    ((reporter answer).reactionTo ending).reports = ending.report?.toList := by
  cases ending with
  | unwound payload => rfl
  | finished c =>
    rw [reactionTo, reaction, RunEnding.report?]
    cases c.failure? with
    | none => rfl
    | some e => exact reports_afterReport c e _

end Hooks

/-- **The reports of a launch** are read off its end without hooks. -/
theorem Pipeline.reports_reporter (stages : List Stage)
    (answer : FailureReport → Hooks.ReportReply) (start : Nat) (input : LaunchInput) :
    ((⟨stages, .reporter answer⟩ : Pipeline).run start input).reports
      = ((⟨stages, .noop⟩ : Pipeline).run start input).ending.report?.toList := by
  rw [run_eq_mute]
  exact Hooks.reports_reactionTo answer _

/-- **The report of a failed launch**: its input's id, the source of all reports, and the messages
of the cause's chain. -/
theorem Pipeline.report?_of_failure {stages : List Stage} {start : Nat} {input : LaunchInput}
    {c : Context} {e : StageError}
    (finished : ((⟨stages, .noop⟩ : Pipeline).run start input).ending = .finished c)
    (failed : c.failure? = some e) :
    ((⟨stages, .noop⟩ : Pipeline).run start input).ending.report?
      = some ⟨input.id, "workload-launcher", ": ".intercalate e.cause.chain⟩ := by
  rw [finished, RunEnding.report?, failed, Option.map_some, Hooks.reportOf,
    input_of_finished finished]
  rfl

/-- **The end after the answer to its report**: a call that blows up unwinds the launch. -/
def RunEnding.answered (answer : FailureReport → Hooks.ReportReply) (ending : RunEnding) :
    RunEnding :=
  match ending.report?.map answer with
  | some (.panicked payload) => .unwound payload
  | some .accepted | some (.refused _) | none => ending

/-- An answer leaves the end as it is, whatever it says. -/
theorem RunEnding.answered_of_safe {answer : FailureReport → Hooks.ReportReply}
    {ending : RunEnding} (safe : ∀ report, ending.report? = some report →
      ∀ payload, answer report ≠ .panicked payload) :
    ending.answered answer = ending := by
  unfold answered
  split
  · rename_i payload its
    obtain ⟨report, its, panicked⟩ := Option.map_eq_some_iff.mp its
    exact absurd panicked (safe report its payload)
  · rfl
  · rfl
  · rfl

/-- **The end of a launch** that reports its failure. -/
theorem Pipeline.ending_reporter (stages : List Stage)
    (answer : FailureReport → Hooks.ReportReply) (start : Nat) (input : LaunchInput) :
    ((⟨stages, .reporter answer⟩ : Pipeline).run start input).ending
      = ((⟨stages, .noop⟩ : Pipeline).run start input).ending.answered answer := by
  rw [run_eq_mute]
  simp only [mute]
  cases ((⟨stages, .noop⟩ : Pipeline).run start input).ending with
  | unwound payload => rfl
  | finished c =>
    simp only [RunEnding.after, Hooks.reactionTo, Hooks.reaction, RunEnding.answered,
      RunEnding.report?]
    cases c.failure? with
    | none => rfl
    | some e =>
      simp only [Option.map_some, Hooks.reporter]
      cases answer (Hooks.reportOf c e) <;> rfl

/-! ## Outcomes -/

/-- **Hooks that panic over failures only**, and not even over these if they are `calm`. -/
structure Hooks.Tame (calm : Bool) (h : Hooks) : Prop where
  onSuccess : ∀ c, (h.onSuccess c).panic = none
  onFailure : calm = true → ∀ c e, (h.onFailure c e).panic = none

namespace Hooks

variable {calm : Bool}

theorem tame_noop : noop.Tame calm := ⟨fun _ => rfl, fun _ _ _ => rfl⟩

theorem panic_afterReport (c : Context) (e : StageError) {reply : ReportReply}
    (safe : ∀ payload, reply ≠ .panicked payload) : (afterReport c e reply).panic = none := by
  cases reply with
  | panicked payload => exact absurd rfl (safe payload)
  | accepted => rfl
  | refused error => rfl

/-- Reporting is tame, and calm where no call blows up. -/
theorem tame_reporter {answer : FailureReport → ReportReply}
    (safe : calm = true → ∀ report payload, answer report ≠ .panicked payload) :
    (reporter answer).Tame calm where
  onSuccess _ := rfl
  onFailure isCalm c e := panic_afterReport c e (safe isCalm _)

/-- Tame hooks that panic over an end are not calm, and the end is a failure. -/
theorem Tame.of_panic {h : Hooks} (tame : h.Tame calm) {c : Context} {payload : Payload}
    (panic : (h.reaction c).panic = some payload) : calm = false ∧ c.failure?.isSome := by
  rw [reaction] at panic
  split at panic
  · rename_i e failed
    refine ⟨?_, by rw [failed]; rfl⟩
    rw [Bool.eq_false_iff]
    intro isCalm
    cases panic.symm.trans (tame.onFailure isCalm c e)
  · cases panic.symm.trans (tame.onSuccess c)

end Hooks

/-- Tame hooks leave an end as it is, or make one failure out of another. -/
theorem RunEnding.after_reactionTo {calm : Bool} {h : Hooks} (tame : h.Tame calm)
    (ending : RunEnding) :
    ending.after (h.reactionTo ending) = ending ∨
      calm = false ∧ ending.report?.isSome ∧
        ∃ payload, ending.after (h.reactionTo ending) = .unwound payload := by
  cases ending with
  | unwound payload => exact .inl rfl
  | finished c =>
    rw [Hooks.reactionTo, after, report?, Option.isSome_map]
    cases panic : (h.reaction c).panic with
    | none => exact .inl rfl
    | some payload =>
      obtain ⟨loud, failed⟩ := tame.of_panic panic
      exact .inr ⟨loud, failed, payload, rfl⟩

/-- An end that has a report is no success. -/
theorem RunEnding.outcome_of_report? {ending : RunEnding} (reported : ending.report?.isSome) :
    ending.verdict.outcome = .failed := by
  cases ending with
  | unwound payload => rfl
  | finished c =>
    rw [report?, Option.isSome_map, Context.failure?] at reported
    rw [verdict]
    split at reported
    · rename_i e terminal
      rw [terminal]
      simp only
      split <;> rfl
    · cases reported

section Tame

variable {calm : Bool} {p : Pipeline} (tame : p.hooks.Tame calm) (start : Nat)
  (input : LaunchInput)

include tame

/-- **Tame hooks do not change the outcome.** -/
theorem Pipeline.outcome_run : (p.run start input).ending.verdict.outcome
    = (p.mute.run start input).ending.verdict.outcome := by
  rw [run_eq_mute]
  simp only
  rcases RunEnding.after_reactionTo tame (p.mute.run start input).ending with
    same | ⟨-, reported, payload, unwound⟩
  · rw [same]
  · rw [unwound, RunEnding.outcome_of_report? reported]
    rfl

end Tame

/-- **Calm hooks do not change the end.** -/
theorem Pipeline.ending_run {p : Pipeline} (calm : p.hooks.Tame true) (start : Nat)
    (input : LaunchInput) : (p.run start input).ending = (p.mute.run start input).ending := by
  rw [run_eq_mute]
  rcases RunEnding.after_reactionTo calm (p.mute.run start input).ending with same | ⟨loud, -⟩
  · exact same
  · cases loud

/-- **Hooks that report failures**, whatever is answered. -/
def Hooks.Reports (h : Hooks) : Prop := ∃ answer, h = .reporter answer

/-- **A launch that makes a report is a failure**, and makes no other. -/
theorem Pipeline.length_reports_le {p : Pipeline} (reports : p.hooks.Reports) (start : Nat)
    (input : LaunchInput) :
    let run := p.run start input
    run.reports.length ≤ if run.ending.verdict.outcome = .failed then 1 else 0 := by
  obtain ⟨stages, hooks⟩ := p
  obtain ⟨answer, rfl⟩ := reports
  have tame : (Hooks.reporter answer).Tame false := Hooks.tame_reporter nofun
  have outcome := outcome_run (p := ⟨stages, .reporter answer⟩) tame start input
  simp only [reports_reporter, outcome]
  cases reported : ((⟨stages, .noop⟩ : Pipeline).run start input).ending.report? with
  | none => exact Nat.zero_le _
  | some report =>
    rw [mute, if_pos (RunEnding.outcome_of_report? (by rw [reported]; rfl))]
    exact Nat.le_refl _

/-- Nor does any hook change when a launch ends. -/
theorem Pipeline.finish_run (p : Pipeline) (start : Nat) (input : LaunchInput) :
    (p.run start input).finish = (p.mute.run start input).finish := by
  rw [run_eq_mute]

end Relaunch
