import Relaunch.Pool.Basic
import Relaunch.Proofs.Launch.Unwound

/-!
# Proofs/Launch/Trouble — what becomes of an error that a stage did not report

A stage that returns an error or panics makes a mark like any other, so what counts is whether it is
the first.  If it is, it is the end of the launch and is logged.  If the stage has marked the launch
before, nothing remains of the error: no failure has it as its cause, and no line that the launch
logs by itself tells of it.

* `Pipeline.isQuiet_of_visited` — which stages stand before one that runs.
* `Course.events_through` — what is logged on the way.
* `accountsFor_iff` — which errors and panics are accounted for, and which launches with one of them
  count as a success.
-/

namespace Relaunch

/-- **What went wrong in a stage that ended so.** -/
def Ending.trouble? : Ending → Option Failure
  | ok => none
  | error cause => some cause
  | panic payload => some (.text payload.message)

/-- Whether a level is a warning or worse. -/
def Level.isLoud : Level → Bool
  | error | warn => true
  | info | debug => false

/-- **A warning or worse that carries a text** in one of its fields. -/
structure Event.Tells (e : Event) (text : String) : Prop where
  loud : e.level.isLoud = true
  field : ∃ name value, (name, FieldValue.text value) ∈ e.fields ∧ text.toList <:+: value.toList

/-- **A launch that accounts for an error**: it came back with a failure of that cause, or it logged
a warning or worse that carries the error's text. -/
def Run.AccountsFor (run : Run) (f : Failure) : Prop :=
  (∃ c e, run.ending = .finished c ∧ c.failure? = some e ∧ e.cause = f) ∨
    ∃ event ∈ run.events, event.Tells f.message

/-! ## The stages that run -/

theorem length_visitsFrom (input : LaunchInput) (start : Nat) (before : List StageOutcome)
    (scripts : List StageScript) :
    (visitsFrom input start before scripts).length = scripts.length := by
  induction scripts generalizing start before with
  | nil => rfl
  | cons s scripts ih => rw [visitsFrom, List.length_cons, List.length_cons, ih]

section Visits

variable {c d : Course} {input : LaunchInput} {p : Pipeline} {s : Stage} {before after : List Stage}

/-- Quiet stages all run. -/
theorem Course.GoesOn.length_visits_quiet (on : c.GoesOn input)
    (quiet : ∀ s ∈ before, s.isQuiet input = true) (through : c.through before = (d, none)) :
    d.visits.length = c.visits.length + before.length := by
  obtain ⟨scripts, follow, silent⟩ := exists_follow_of_isQuiet quiet
  have unmarked := firstMark_eq_none silent
  have follow : Follow before c.context.input scripts := on.input_eq ▸ follow
  obtain ⟨pauses, eq⟩ := Course.through_eq follow on.unmarked on.idle
  have same : before.length = scripts.length := by simpa using congrArg List.length follow
  obtain rfl := (Prod.mk.inj (through.symm.trans eq)).1
  simp only [List.length_append, length_visitsFrom]
  rw [executed_of_firstMark_eq_none unmarked, same]

/-- A stage that is not quiet runs, and none after it. -/
theorem Course.GoesOn.length_visits_loud (on : c.GoesOn input) (loud : s.isQuiet input = false)
    (after : List Stage) : (c.through (s :: after)).1.visits.length = c.visits.length + 1 := by
  cases script : s.script? input with
  | none =>
    obtain ⟨payload, unbuilt⟩ := Stage.script?_eq_none_iff.mp script
    rw [on.through_unbuilt unbuilt, Course.unbuilt, List.length_append, List.length_singleton]
  | some t =>
    have marked : t.marks ≠ [] := fun none =>
      Bool.false_ne_true (loud.symm.trans (Stage.isQuiet_iff.mpr ⟨t, script, none⟩))
    rw [on.through_eq_after script marked, Course.after, List.length_append, List.length_singleton]

/-- The visits of a launch are those of its course. -/
theorem Pipeline.visits_run (p : Pipeline) (start : Nat) (input : LaunchInput) :
    (p.run start input).visits
      = (Course.through { context := { input }, clock := start } p.stages).1.visits := by
  rw [Pipeline.run]
  split
  · rename_i c payload through
    rw [through]
  · rename_i c through
    rw [through, p.conclude_eq start c rfl]

/-- The stages up to the first that is not quiet run. -/
theorem Pipeline.length_visits (stages : p.stages = before ++ s :: after)
    (quiet : ∀ r ∈ before, r.isQuiet input = true) (loud : s.isQuiet input = false) (start : Nat) :
    (p.run start input).visits.length = before.length + 1 := by
  obtain ⟨d, through, on⟩ := (Course.goesOn_start input start).through_quiet quiet
  have visited := (Course.goesOn_start input start).length_visits_quiet quiet through
  rw [p.visits_run, stages, Course.through_append through, on.length_visits_loud loud, visited,
    List.length_nil, Nat.zero_add]

/-- **The stages before one that runs are quiet.** -/
theorem Pipeline.isQuiet_of_visited (stages : p.stages = before ++ s :: after) {start : Nat}
    (visited : before.length < (p.run start input).visits.length) :
    ∀ r ∈ before, r.isQuiet input = true := by
  intro r mem
  cases r_quiet : r.isQuiet input with
  | true => rfl
  | false =>
    -- the launch would have ended with the first stage that is not quiet
    have found : (before.find? fun r => !r.isQuiet input).isSome :=
      List.find?_isSome.mpr ⟨r, mem, by rw [r_quiet]; rfl⟩
    obtain ⟨first, first_is⟩ := Option.isSome_iff_exists.mp found
    obtain ⟨loud, ahead, behind, parts, quiet⟩ := List.find?_eq_some_iff_append.mp first_is
    have whole : p.stages = ahead ++ first :: (behind ++ s :: after) := by simp [stages, parts]
    have ended := p.length_visits whole (fun r mem => by simpa using quiet r mem)
      (by simpa using loud) start
    have length : before.length = ahead.length + (behind.length + 1) := by simp [parts]
    omega

end Visits

/-! ## What is logged on the way -/

/-- **On the way through the stages** nothing is logged but that stages finished. -/
theorem Course.events_through (c : Course) (stages : List Stage) :
    ∀ e ∈ (c.through stages).1.events,
      e ∈ c.events ∨ ∃ id stage terminal, e = .stageFinished id stage terminal := by
  induction stages generalizing c with
  | nil => exact fun e mem => .inl mem
  | cons s stages ih =>
    intro e mem
    rw [through] at mem
    split at mem
    · exact .inl mem
    · split at mem
      · exact .inl mem
      · rename_i actions ending behaviour
        rcases ih _ e mem with before | finished
        · rcases List.mem_append.mp before with old | new
          · exact .inl old
          · exact .inr ⟨_, _, _, List.mem_singleton.mp new⟩
        · exact .inr finished

/-- A finished stage is no warning, -/
theorem not_tells_stageFinished (id stage : String) (terminal : Bool) (text : String) :
    ¬ (Event.stageFinished id stage terminal).Tells text := fun tells => nomatch tells.loud

/-- and neither is a launch that succeeded. -/
theorem not_tells_launchSucceeded (id text : String) : ¬ (Event.launchSucceeded id).Tells text :=
  fun tells => nomatch tells.loud

/-- **The line about a failed launch carries the text of the cause.** -/
theorem tells_launchFailed (id : String) (e : StageError) :
    (Event.launchFailed id e).Tells e.cause.message where
  loud := rfl
  field := by
    refine ⟨"error", e.message, by simp [Event.fields, Event.workload?, Event.details], ?_⟩
    rw [StageError.message, String.toList_append]
    exact List.suffix_append _ _ |>.isInfix

section Through

variable {p : Pipeline} {start : Nat} {input : LaunchInput} {d : Course} {c : Context}

/-- **A launch whose stages are through accounts for an error** if the line about its end carries
the error's text, or if what its hook logs does. -/
theorem Pipeline.accountsFor_iff
    (through : Course.through { context := { input }, clock := start } p.stages = (d, none))
    (final : d.context.succeed = c) (f : Failure) :
    (p.run start input).AccountsFor f ↔
      c.verdict.Tells f.message ∨
        ∃ event ∈ (p.hooks.reaction c).events, event.Tells f.message := by
  rw [Pipeline.run_of_through through, p.conclude_eq start d final]
  constructor
  · rintro (⟨c', e, ending, failed, rfl⟩ | ⟨event, mem, tells⟩)
    · -- the failure that came back is the one that was logged
      split at ending
      · cases ending
      · obtain rfl := RunEnding.finished.inj ending
        rw [Context.verdict, failed]
        exact .inl (tells_launchFailed _ e)
    · rcases List.mem_append.mp mem with passed | ended
      · have finished := Course.events_through { context := { input }, clock := start } p.stages
        rw [through] at finished
        rcases finished event passed with none | ⟨id, stage, terminal, rfl⟩
        · cases none
        · exact absurd tells (not_tells_stageFinished id stage terminal f.message)
      · rcases List.mem_cons.mp ended with rfl | mem
        · exact .inl tells
        · exact .inr ⟨event, mem, tells⟩
  · rintro (tells | ⟨event, mem, tells⟩)
    · exact .inr ⟨_, List.mem_append_right _ List.mem_cons_self, tells⟩
    · exact .inr ⟨event, List.mem_append_right _ (List.mem_cons_of_mem _ mem), tells⟩

/-- **It counts as a success** if it ended as one and its hook did not panic. -/
theorem Pipeline.outcome_eq_succeeded_iff
    (through : Course.through { context := { input }, clock := start } p.stages = (d, none))
    (final : d.context.succeed = c) :
    (p.run start input).ending.verdict.outcome = .succeeded ↔
      c.terminal = some .success ∧ (p.hooks.reaction c).panic = none := by
  rw [Pipeline.run_of_through through, p.conclude_eq start d final]
  cases (p.hooks.reaction c).panic with
  | some payload =>
    refine ⟨fun counted => ?_, fun ended => ?_⟩
    · cases counted
    · cases ended.2
  | none =>
    cases terminal : c.terminal with
    | none => simp [RunEnding.verdict, terminal, Verdict.outcome]
    | some t =>
      cases t with
      | success => simp [RunEnding.verdict, terminal, Verdict.outcome]
      | failure e =>
        by_cases panicked : e.kind = .panicked <;>
          simp [RunEnding.verdict, terminal, Verdict.outcome, panicked]

end Through

/-! ## Errors and panics of a stage -/

/-- **The marks that a script makes before it ends.** -/
def StageScript.made (t : StageScript) : List Mark := t.actions.filterMap Action.mark?

/-- They are successes and reported failures. -/
theorem StageScript.mark_cases {t : StageScript} {m : Mark} {made : List Mark}
    (first : t.made = m :: made) : m = .succeed ∨ ∃ cause, m = .fail cause := by
  have mem : m ∈ t.made := first ▸ List.mem_cons_self
  obtain ⟨a, -, mark⟩ := List.mem_filterMap.mp mem
  cases a with
  | succeed =>
    cases mark
    exact .inl rfl
  | fail cause =>
    cases mark
    exact .inr ⟨cause, rfl⟩
  | observe => cases mark
  | readInput => cases mark
  | sleep ms => cases mark

/-- An ending that something went wrong in is a mark of its own, a failure of that cause. -/
theorem Ending.exists_mark {ending : Ending} {f : Failure} (trouble : ending.trouble? = some f)
    (stage : String) :
    ∃ m, ending.mark? = some m ∧ ∃ kind, m.terminal stage = .failure ⟨stage, kind, f⟩ := by
  cases ending with
  | ok => cases trouble
  | error cause =>
    cases trouble
    exact ⟨_, rfl, .raised, rfl⟩
  | panic payload =>
    cases trouble
    exact ⟨_, rfl, .panicked, Mark.terminal_panic stage payload⟩

/-- **The first mark of a stage that something went wrong in**: one that it made before, or else the
failure. -/
theorem StageScript.first_cases {t : StageScript} {f : Failure}
    (trouble : t.ending.trouble? = some f) : ∃ m, t.marks.head? = some m ∧
      (t.made = [] ∧ (∃ kind, m.terminal t.name = .failure ⟨t.name, kind, f⟩) ∨
        t.made.head? = some m ∧ (m = .succeed ∨ ∃ cause, m = .fail cause)) := by
  obtain ⟨last, mark, kind, terminal⟩ := t.ending.exists_mark trouble t.name
  cases before : t.made with
  | nil =>
    refine ⟨last, ?_, .inl ⟨rfl, kind, terminal⟩⟩
    rw [marks, ← made, before, mark]
    rfl
  | cons m made =>
    refine ⟨m, ?_, .inr ⟨rfl, mark_cases before⟩⟩
    rw [marks, ← StageScript.made, before]
    rfl

section Accounts

variable {p : Pipeline} {start : Nat} {input : LaunchInput} {before after : List Stage} {s : Stage}
  {t : StageScript} {f : Failure} {m : Mark} {outcomes : List StageOutcome}

/-- **How a launch ended that a stage ended by a mark.** -/
def markedContext (input : LaunchInput) (outcomes : List StageOutcome) (stage : String) (m : Mark) :
    Context where
  input := input
  outcomes := outcomes ++ [⟨stage, m.status⟩]
  terminal := some (m.terminal stage)

/-- The course of a launch through a stage that makes a mark. -/
theorem Pipeline.exists_through_marked (stages : p.stages = before ++ s :: after)
    (quiet : ∀ r ∈ before, r.isQuiet input = true) (script : s.script? input = some t)
    (first : t.marks.head? = some m) (start : Nat) :
    ∃ d outcomes, Course.through { context := { input }, clock := start } p.stages = (d, none) ∧
      d.context.succeed = markedContext input outcomes s.name m := by
  obtain ⟨made, marks⟩ := List.head?_eq_some_iff.mp first
  obtain ⟨c, through, on⟩ := (Course.goesOn_start input start).through_quiet quiet
  obtain ⟨d, ended, context⟩ := on.through_marked script marks after
  refine ⟨d, c.context.outcomes, by rw [stages, Course.through_append through, ended], ?_⟩
  rw [Context.succeed_of_isTerminal (by rw [context]; rfl), context]
  rfl

/-- **What the line about its end carries**: the text of the error or panic, if that is the first
mark of the stage; and otherwise at most that of the failure that the stage reported first. -/
theorem tells_verdict_iff (trouble : t.ending.trouble? = some f) (first : t.marks.head? = some m) :
    (markedContext input outcomes t.name m).verdict.Tells f.message ↔
      t.made = [] ∨ ∃ cause, t.made.head? = some (.fail cause) ∧
        (Event.launchFailed input.id ⟨t.name, .reported, cause⟩).Tells f.message := by
  obtain ⟨m', its, cases⟩ := StageScript.first_cases trouble
  obtain rfl := Option.some.inj (first.symm.trans its)
  rcases cases with ⟨none, kind, terminal⟩ | ⟨before, rfl | ⟨cause, rfl⟩⟩
  · have verdict : (markedContext input outcomes t.name m).verdict
        = .launchFailed input.id ⟨t.name, kind, f⟩ := by
      rw [Context.verdict, Context.failure?, markedContext, terminal]
    rw [verdict]
    exact ⟨fun _ => .inl none, fun _ => tells_launchFailed input.id ⟨t.name, kind, f⟩⟩
  · refine ⟨fun tells => absurd tells (not_tells_launchSucceeded input.id f.message), ?_⟩
    rw [before]
    rintro (none | ⟨cause, other, -⟩)
    · rw [none] at before
      cases before
    · cases other
  · refine ⟨fun tells => .inr ⟨cause, before, tells⟩, ?_⟩
    rintro (none | ⟨cause', same, tells⟩)
    · rw [none] at before
      cases before
    · cases before.symm.trans same
      exact tells

/-- It ended as a success if the stage had marked it as one before. -/
theorem terminal_eq_success_iff (trouble : t.ending.trouble? = some f)
    (first : t.marks.head? = some m) :
    (markedContext input outcomes t.name m).terminal = some .success ↔
      t.made.head? = some .succeed := by
  obtain ⟨m', its, cases⟩ := StageScript.first_cases trouble
  obtain rfl := Option.some.inj (first.symm.trans its)
  rcases cases with ⟨none, kind, terminal⟩ | ⟨before, rfl | ⟨cause, rfl⟩⟩
  · rw [none, markedContext, terminal]
    exact ⟨nofun, nofun⟩
  · exact ⟨fun _ => before, fun _ => rfl⟩
  · rw [before]
    exact ⟨nofun, nofun⟩

/-- A stage that is not quiet and has only quiet ones before it ends the launch. -/
theorem Pipeline.ender?_eq_some (stages : p.stages = before ++ s :: after)
    (quiet : ∀ r ∈ before, r.isQuiet input = true) (loud : s.isQuiet input = false) :
    p.ender? input = some s := by
  rw [ender?, stages, List.find?_eq_some_iff_append]
  exact ⟨by rw [loud]; rfl, before, after, rfl, fun r mem => by rw [quiet r mem]; rfl⟩

end Accounts

/-- **What becomes of a stage's error or panic.**  The stage runs, with others before it.

* If it returns an error or panics, it is the last stage to run, and its first mark is the end of
  the launch.  The error is accounted for if the stage made no mark before; otherwise only if its
  text happens to be in the line about a failure that the stage reported first, or in what the hook
  logs.
* The launch counts as a success nevertheless if that first mark was one and the hook does not
  panic.
* If it panics before it is built, the launch never counts as a success, and the worker logs the
  panic. -/
theorem accounted_iff {p : Pipeline} {input : LaunchInput} {start : Nat} {before after : List Stage}
    {s : Stage} (stages : p.stages = before ++ s :: after)
    (visited : before.length < (p.run start input).visits.length) :
    let run := p.run start input
    (∀ t f, s.script? input = some t → t.ending.trouble? = some f →
      ∃ m outcomes, t.marks.head? = some m ∧
        let c := markedContext input outcomes s.name m
        run.visits.length = before.length + 1 ∧
        (run.ending = match (p.hooks.reaction c).panic with
          | some payload => .unwound payload
          | none => .finished c) ∧
        (run.AccountsFor f ↔
          t.made = [] ∨
          (∃ cause, t.made.head? = some (.fail cause) ∧
            (Event.launchFailed input.id ⟨s.name, .reported, cause⟩).Tells f.message) ∨
          ∃ event ∈ (p.hooks.reaction c).events, event.Tells f.message) ∧
        (run.ending.verdict.outcome = .succeeded ↔
          t.made.head? = some .succeed ∧ (p.hooks.reaction c).panic = none)) ∧
    ∀ payload, s.behaviour input = .unbuilt payload →
      run.ending = .unwound payload ∧ run.ending.verdict.outcome = .failed ∧
        ∀ worker, ∃ event ∈ run.ending.events worker input.id,
          event.Tells payload.message ∧ event.worker? = some worker ∧
            event.workload? = some input.id := by
  intro run
  have quiet := Pipeline.isQuiet_of_visited stages visited
  refine ⟨fun t f script trouble => ?_, fun payload unbuilt => ?_⟩
  · obtain ⟨name, -⟩ := Stage.behaviour_of_script? script
    obtain ⟨m, first, -⟩ := StageScript.first_cases trouble
    have loud : s.isQuiet input = false := by
      obtain ⟨made, marks⟩ := List.head?_eq_some_iff.mp first
      simp [Stage.isQuiet, script, marks]
    obtain ⟨d, outcomes, through, final⟩ :=
      Pipeline.exists_through_marked stages quiet script first start
    have whole : run = p.conclude start d := Pipeline.run_of_through through
    rw [p.conclude_eq start d final] at whole
    refine ⟨m, outcomes, first, p.length_visits stages quiet loud start,
      congrArg Run.ending whole, ?_, ?_⟩
    · rw [p.accountsFor_iff through final, name, tells_verdict_iff trouble first, or_assoc]
    · rw [p.outcome_eq_succeeded_iff through final, name, terminal_eq_success_iff trouble first]
  · have loud : s.isQuiet input = false := by
      rw [Stage.isQuiet, Stage.script?_eq_none_iff.mpr ⟨payload, unbuilt⟩]
      rfl
    obtain ⟨unwound, -⟩ :=
      p.run_of_unbuilt (Pipeline.ender?_eq_some stages quiet loud) unbuilt start
    rw [show run.ending = .unwound payload from unwound]
    refine ⟨rfl, rfl, fun worker => ⟨_, List.mem_singleton.mpr rfl, ⟨rfl, "panic",
      payload.message, ?_, List.infix_rfl⟩, rfl, rfl⟩⟩
    simp [Event.fields, Event.workload?, Event.details]

/-- A stage that panics after a quiet one, with nothing marked before. -/
theorem accounted_iff_of_panic :
    let quiet : Stage := ⟨"fetch", fun _ => .script [.sleep 5] .ok⟩
    let s : Stage := ⟨"start", fun _ => .script [.observe] (.panic (.text "boom"))⟩
    let p : Pipeline := ⟨[quiet, s], .noop⟩
    let input : LaunchInput := ⟨"w-1", .sync, "", [], "", none⟩
    let run := p.run 3 input
    p.stages = [quiet] ++ s :: [] ∧ 1 < run.visits.length ∧ run.AccountsFor (.text "boom") ∧
      run.ending.verdict.outcome ≠ .succeeded := by
  intro quiet s p input run
  obtain ⟨scripted, -⟩ := @accounted_iff p input 3 [quiet] [] s rfl (by decide)
  obtain ⟨m, outcomes, -, -, -, accounted, succeeded⟩ :=
    scripted ⟨"start", [.observe], .panic (.text "boom")⟩ (.text "boom") rfl rfl
  refine ⟨rfl, by decide, accounted.mpr (.inl rfl), fun counted => ?_⟩
  cases (succeeded.mp counted).1

/-- **Not every error is accounted for**: that of a stage which marked the launch as a success
before is gone, and the launch counts as one. -/
theorem not_accountsFor_of_succeed :
    let s : Stage := ⟨"submit", fun _ => .script [.succeed] (.error (.text "boom"))⟩
    let p : Pipeline := ⟨[s], .noop⟩
    let input : LaunchInput := ⟨"w-1", .sync, "", [], "", none⟩
    let run := p.run 0 input
    run.visits.map Visit.stage = ["submit"] ∧ ¬ run.AccountsFor (.text "boom") ∧
      run.ending.verdict.outcome = .succeeded := by
  intro s p input run
  refine ⟨by decide, ?_, by decide⟩
  have events : run.events = [.stageFinished "w-1" "submit" true, .launchSucceeded "w-1"] := by
    decide
  rintro (⟨c, e, ending, failed, -⟩ | ⟨event, mem, tells⟩)
  · cases ending
    cases failed
  · rw [events] at mem
    rcases List.mem_cons.mp mem with rfl | mem
    · exact not_tells_stageFinished _ _ _ _ tells
    · obtain rfl := List.mem_singleton.mp mem
      exact not_tells_launchSucceeded _ _ tells

end Relaunch
