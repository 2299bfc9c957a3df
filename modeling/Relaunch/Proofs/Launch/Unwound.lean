import Relaunch.Proofs.Launch.FirstMark

/-!
# Proofs/Launch/Unwound — which launches come back

The first stage that makes a mark, or that panics before it is built, ends the launch.  A panic of a
running stage is a mark like any other.  A panic before there is anything to run is none: nobody
catches it, so it takes the launch with it, past the hooks.

* `Course.GoesOn.through_quiet` — the stages before the one that ends the launch.
* `Pipeline.returns_of_mark`, `Pipeline.run_of_unbuilt` — the launch after that one, either way.
* `finished_iff_built` — a launch whose hooks do not panic comes back, with an end, if and only if
  the stage that ends it is built.
-/

namespace Relaunch

/-! ## The stage that ends a launch -/

/-- The script of a stage, unless it panics before it is built. -/
def Stage.script? (s : Stage) (input : LaunchInput) : Option StageScript :=
  match s.behaviour input with
  | .unbuilt _ => none
  | .script actions ending => some ⟨s.name, actions, ending⟩

/-- Whether a stage is built and makes no mark, so that the launch goes on after it. -/
def Stage.isQuiet (s : Stage) (input : LaunchInput) : Bool :=
  (s.script? input).any fun t => t.marks.isEmpty

/-- **The first stage that ends the launch** of an input. -/
def Pipeline.ender? (p : Pipeline) (input : LaunchInput) : Option Stage :=
  p.stages.find? fun s => !s.isQuiet input

theorem Stage.behaviour_of_script? {s : Stage} {input : LaunchInput} {t : StageScript}
    (script : s.script? input = some t) :
    s.name = t.name ∧ s.behaviour input = .script t.actions t.ending := by
  unfold script? at script
  split at script
  · exact nomatch script
  · rename_i behaviour
    obtain rfl := Option.some.inj script
    exact ⟨rfl, behaviour⟩

theorem Stage.script?_eq_none_iff {s : Stage} {input : LaunchInput} :
    s.script? input = none ↔ ∃ payload, s.behaviour input = .unbuilt payload := by
  unfold script?
  split
  · rename_i payload behaviour
    exact ⟨fun _ => ⟨payload, behaviour⟩, fun _ => rfl⟩
  · rename_i behaviour
    refine ⟨nofun, fun ⟨payload, unbuilt⟩ => ?_⟩
    exact nomatch behaviour.symm.trans unbuilt

theorem Stage.isQuiet_iff {s : Stage} {input : LaunchInput} :
    s.isQuiet input = true ↔ ∃ t, s.script? input = some t ∧ t.marks = [] := by
  simp [isQuiet, Option.any_eq_true_iff_get, Option.eq_some_iff_get_eq]

/-- Quiet stages follow scripts without marks. -/
theorem exists_follow_of_isQuiet {stages : List Stage} {input : LaunchInput}
    (quiet : ∀ s ∈ stages, s.isQuiet input = true) :
    ∃ scripts, Follow stages input scripts ∧ ∀ t ∈ scripts, t.marks = [] := by
  induction stages with
  | nil => exact ⟨[], rfl, nofun⟩
  | cons s stages ih =>
    obtain ⟨t, script, silent⟩ := Stage.isQuiet_iff.mp (quiet s List.mem_cons_self)
    obtain ⟨name, behaviour⟩ := Stage.behaviour_of_script? script
    obtain ⟨scripts, follow, unmarked⟩ := ih fun s mem => quiet s (List.mem_cons_of_mem _ mem)
    refine ⟨t :: scripts, ?_, List.forall_mem_cons.mpr ⟨silent, unmarked⟩⟩
    rw [Follow, List.map_cons, List.map_cons, name, behaviour, follow]

/-- Scripts without marks make no first mark. -/
theorem firstMark_eq_none {scripts : List StageScript} (silent : ∀ t ∈ scripts, t.marks = []) :
    firstMark scripts = none := by
  rw [firstMark, List.head?_eq_none_iff, List.flatMap_eq_nil_iff]
  intro s mem
  rw [silent s mem, List.map_nil]

/-! ## The course up to it -/

/-- Stages that follow others which all came to their end. -/
theorem Course.through_append {c d : Course} {before : List Stage}
    (through : c.through before = (d, none)) (after : List Stage) :
    c.through (before ++ after) = d.through after := by
  induction before generalizing c with
  | nil =>
    obtain rfl := (Prod.mk.inj through).1
    rfl
  | cons s before ih =>
    rw [Course.through] at through
    rw [List.cons_append, Course.through]
    split at through
    · rename_i ended
      obtain rfl := (Prod.mk.inj through).1
      rw [if_pos ended, through_of_isTerminal ended]
    · rename_i live
      rw [if_neg live]
      split at through
      · exact absurd (Prod.mk.inj through).2 (Option.some_ne_none _)
      · exact ih through

/-- **A launch that still goes on**: nothing has ended it, no stage is running, and its log has
stages that did not end it and nothing else. -/
structure Course.GoesOn (c : Course) (input : LaunchInput) : Prop where
  input_eq : c.context.input = input
  unmarked : c.context.terminal = none
  idle : c.context.current = none
  logged : ∀ e ∈ c.events, ∃ stage, e = .stageFinished input.id stage false

theorem Course.goesOn_start (input : LaunchInput) (start : Nat) :
    GoesOn { context := { input }, clock := start } input where
  input_eq := rfl
  unmarked := rfl
  idle := rfl
  logged _ mem := absurd mem List.not_mem_nil

theorem Course.GoesOn.not_isTerminal {c : Course} {input : LaunchInput} (on : c.GoesOn input) :
    ¬ c.context.isTerminal = true := by
  rw [Context.isTerminal, on.unmarked]
  exact Bool.false_ne_true

/-- **Quiet stages do not end a launch.** -/
theorem Course.GoesOn.through_quiet {c : Course} {input : LaunchInput} (on : c.GoesOn input)
    {stages : List Stage} (quiet : ∀ s ∈ stages, s.isQuiet input = true) :
    ∃ d, c.through stages = (d, none) ∧ d.GoesOn input := by
  obtain ⟨scripts, follow, silent⟩ := exists_follow_of_isQuiet quiet
  have unmarked := firstMark_eq_none silent
  obtain ⟨pauses, through⟩ := Course.through_eq (on.input_eq ▸ follow) on.unmarked on.idle
  refine ⟨_, through, on.input_eq, unmarked, rfl, fun e mem => ?_⟩
  rw [executed_of_firstMark_eq_none unmarked] at mem
  rcases List.mem_append.mp mem with old | new
  · exact on.logged e old
  · obtain ⟨s, its, rfl⟩ := List.mem_map.mp new
    exact ⟨s.name, by rw [silent s its, on.input_eq]; rfl⟩

/-- No stage runs after one that makes a mark. -/
theorem Course.GoesOn.through_eq_after {c : Course} {input : LaunchInput} (on : c.GoesOn input)
    {s : Stage} {t : StageScript} (script : s.script? input = some t) (marked : t.marks ≠ [])
    (after : List Stage) :
    c.through (s :: after) = (c.after t.name t.actions t.ending, none) := by
  obtain ⟨name, behaviour⟩ := Stage.behaviour_of_script? script
  obtain ⟨pauses, eq⟩ := Course.after_eq on.unmarked t
  have ended : (c.after t.name t.actions t.ending).context.isTerminal = true := by
    obtain ⟨m, made, marks⟩ := List.exists_cons_of_ne_nil marked
    rw [eq, marks]
    rfl
  rw [through, if_neg on.not_isTerminal, on.input_eq, behaviour, name]
  exact through_of_isTerminal ended after

/-- **The stage that ends a launch by a mark.**  Its first mark is the end of the launch, and no
later stage runs. -/
theorem Course.GoesOn.through_marked {c : Course} {input : LaunchInput} (on : c.GoesOn input)
    {s : Stage} {t : StageScript} (script : s.script? input = some t) {m : Mark} {made : List Mark}
    (marks : t.marks = m :: made) (after : List Stage) :
    ∃ d, c.through (s :: after) = (d, none) ∧
      d.context = {
        input
        outcomes := c.context.outcomes ++ [⟨s.name, m.status⟩]
        terminal := some (m.terminal s.name) } := by
  obtain ⟨name, -⟩ := Stage.behaviour_of_script? script
  obtain ⟨pauses, eq⟩ := Course.after_eq on.unmarked t
  refine ⟨_, on.through_eq_after script (by rw [marks]; exact List.cons_ne_nil _ _) after, ?_⟩
  rw [eq, marks, on.input_eq, StageScript.outcome, marks, name]
  rfl

/-- **The stage that ends a launch before it is built**: the launch is cut short. -/
theorem Course.GoesOn.through_unbuilt {c : Course} {input : LaunchInput} (on : c.GoesOn input)
    {s : Stage} {payload : Payload} (unbuilt : s.behaviour input = .unbuilt payload)
    (after : List Stage) : c.through (s :: after) = (c.unbuilt s.name, some payload) := by
  rw [through, if_neg on.not_isTerminal, on.input_eq, unbuilt]

/-! ## The whole launch -/

/-- **Hooks that do not panic.** -/
structure Hooks.Calm (h : Hooks) : Prop where
  onSuccess : ∀ c, (h.onSuccess c).panic = none
  onFailure : ∀ c e, (h.onFailure c e).panic = none

theorem Hooks.Calm.reaction {h : Hooks} (calm : h.Calm) (c : Context) :
    (h.reaction c).panic = none := by
  unfold Hooks.reaction
  split
  · exact calm.onFailure c _
  · exact calm.onSuccess c

/-- **A launch that comes back**, with an end: exactly one hook was called, the one for that end. -/
structure Run.Returns (run : Run) (hooks : Hooks) (c : Context) : Prop where
  ending : run.ending = .finished c
  isTerminal : c.isTerminal
  callbacks : run.callbacks = [c.callback]
  reports : run.reports = (hooks.reaction c).reports

section Endings

variable {p : Pipeline} {input : LaunchInput}

/-- A launch whose stages came to their end goes on to its own. -/
theorem Pipeline.run_of_through {start : Nat} {d : Course}
    (through : Course.through { context := { input }, clock := start } p.stages = (d, none)) :
    p.run start input = p.conclude start d := by
  simp only [Pipeline.run, through]

/-- It comes back. -/
theorem Pipeline.returns_of_through (calm : p.hooks.Calm) {start : Nat} {d : Course}
    (through : Course.through { context := { input }, clock := start } p.stages = (d, none)) :
    (p.run start input).Returns p.hooks d.context.succeed := by
  rw [Pipeline.run_of_through through, p.conclude_eq start d rfl, calm.reaction]
  exact ⟨rfl, Context.isTerminal_finish _ _, rfl, rfl⟩

/-- The stages before the one that ends the launch are quiet. -/
theorem Pipeline.through_ender {s : Stage} (ender : p.ender? input = some s) (start : Nat) :
    ∃ d after, Course.GoesOn d input ∧
      Course.through { context := { input }, clock := start } p.stages
        = d.through (s :: after) := by
  obtain ⟨-, before, after, stages, quiet⟩ := List.find?_eq_some_iff_append.mp ender
  obtain ⟨d, through, on⟩ := (Course.goesOn_start input start).through_quiet fun s mem => by
    simpa using quiet s mem
  exact ⟨d, after, on, by rw [stages, Course.through_append through]⟩

/-- A launch that no stage ends is a success. -/
theorem Pipeline.returns_of_ender?_eq_none (calm : p.hooks.Calm) (none : p.ender? input = none)
    (start : Nat) : ∃ c, (p.run start input).Returns p.hooks c := by
  obtain ⟨d, through, -⟩ := (Course.goesOn_start input start).through_quiet fun s mem => by
    simpa using List.find?_eq_none.mp none s mem
  exact ⟨_, p.returns_of_through calm through⟩

/-- **A launch that a stage ends by a mark**: the mark is its end, and the stage's outcome the last
one. -/
theorem Pipeline.returns_of_mark (calm : p.hooks.Calm) {s : Stage}
    (ender : p.ender? input = some s) {t : StageScript} (script : s.script? input = some t)
    {m : Mark} (first : t.marks.head? = some m) (start : Nat) :
    ∃ outcomes, (p.run start input).Returns p.hooks {
      input
      outcomes := outcomes ++ [⟨s.name, m.status⟩]
      terminal := some (m.terminal s.name) } := by
  obtain ⟨d, after, on, through⟩ := p.through_ender ender start
  obtain ⟨made, marks⟩ := List.head?_eq_some_iff.mp first
  obtain ⟨e, ended, context⟩ := on.through_marked script marks after
  have returns := p.returns_of_through calm (through.trans ended)
  have final : e.context.succeed = e.context :=
    Context.succeed_of_isTerminal (by rw [context]; rfl)
  rw [final, context] at returns
  exact ⟨_, returns⟩

/-- **A launch that a stage ends before it is built** is unwound by the stage's panic. -/
theorem Pipeline.run_of_unbuilt {s : Stage} (ender : p.ender? input = some s) {payload : Payload}
    (unbuilt : s.behaviour input = .unbuilt payload) (start : Nat) :
    let run := p.run start input
    run.ending = .unwound payload ∧ run.callbacks = [] ∧ run.reports = [] ∧
      run.visits.getLast? = some ⟨input.id, s.name, run.finish, none, []⟩ ∧
      ∀ e ∈ run.events, ∃ stage, e = .stageFinished input.id stage false := by
  intro run
  obtain ⟨d, after, on, through⟩ := p.through_ender ender start
  have whole : run = {
      ending := .unwound payload
      start := start
      finish := d.clock
      pauses := d.pauses
      visits := d.visits ++ [⟨input.id, s.name, d.clock, none, []⟩]
      events := d.events } := by
    simp only [run, Pipeline.run, through, on.through_unbuilt unbuilt, Course.unbuilt, on.input_eq]
  rw [whole]
  exact ⟨rfl, rfl, rfl, List.getLast?_concat, on.logged⟩

/-- A launch comes back if the stage that ends it is built. -/
theorem Pipeline.exists_returns (calm : p.hooks.Calm)
    (built : ∀ s, p.ender? input = some s → (s.script? input).isSome) (start : Nat) :
    ∃ c, (p.run start input).Returns p.hooks c := by
  cases ender : p.ender? input with
  | none => exact p.returns_of_ender?_eq_none calm ender start
  | some s =>
    obtain ⟨t, script⟩ := Option.isSome_iff_exists.mp (built s ender)
    cases first : t.marks.head? with
    | none =>
      have loud : s.isQuiet input = false := by simpa using List.find?_some ender
      have quiet : s.isQuiet input = true :=
        Stage.isQuiet_iff.mpr ⟨t, script, List.head?_eq_none_iff.mp first⟩
      exact absurd (loud.symm.trans quiet) nofun
    | some m =>
      obtain ⟨outcomes, returns⟩ := p.returns_of_mark calm ender script first start
      exact ⟨_, returns⟩

/-- A launch that comes back is ended by a stage that is built. -/
theorem Pipeline.built_of_finished {start : Nat} {c : Context}
    (finished : (p.run start input).ending = .finished c) (s : Stage)
    (ender : p.ender? input = some s) : (s.script? input).isSome := by
  rw [Option.isSome_iff_ne_none]
  intro unscripted
  obtain ⟨payload, unbuilt⟩ := Stage.script?_eq_none_iff.mp unscripted
  obtain ⟨unwound, -⟩ := p.run_of_unbuilt ender unbuilt start
  exact nomatch unwound.symm.trans finished

end Endings

/-- **A launch comes back if and only if the stage that ends it is built.**  Its hooks do not panic.

* It then has an end, and exactly one hook was called, the one for that end.
* If the first mark of that stage is a panic, the launch failed with the panic's text, the stage is
  named and has failed, and the failure went to the hook.
* If that stage panics before it is built, the launch is unwound by this panic: no hook is called,
  nothing is reported, and all that is left of the stage is that it was begun. -/
theorem finished_iff_built {p : Pipeline} (calm : p.hooks.Calm) (input : LaunchInput)
    (start : Nat) :
    let run := p.run start input
    ((∃ c, run.ending = .finished c ∧ c.isTerminal) ↔
      ∀ s, p.ender? input = some s → (s.script? input).isSome) ∧
    (∀ c, run.ending = .finished c → c.isTerminal ∧ run.callbacks = [c.callback]) ∧
    (∀ s t payload, p.ender? input = some s → s.script? input = some t →
      t.marks.head? = some (.panic payload) → ∃ c, run.ending = .finished c ∧
        c.failure? = some ⟨s.name, .panicked, .text payload.message⟩ ∧
        c.outcomes.getLast? = some ⟨s.name, .failed⟩ ∧ run.callbacks = [.failure input.id] ∧
        run.reports = (p.hooks.onFailure c ⟨s.name, .panicked, .text payload.message⟩).reports) ∧
    (∀ s payload, p.ender? input = some s → s.behaviour input = .unbuilt payload →
      run.ending = .unwound payload ∧ run.callbacks = [] ∧ run.reports = [] ∧
      run.visits.getLast? = some ⟨input.id, s.name, run.finish, none, []⟩ ∧
      ∀ e ∈ run.events, ∃ stage, e = .stageFinished input.id stage false) := by
  intro run
  refine ⟨⟨fun ⟨c, finished, _⟩ => Pipeline.built_of_finished finished, fun built => ?_⟩, ?_, ?_,
    fun s payload ender unbuilt => Pipeline.run_of_unbuilt ender unbuilt start⟩
  · obtain ⟨c, returns⟩ := p.exists_returns calm built start
    exact ⟨c, returns.ending, returns.isTerminal⟩
  · intro c finished
    obtain ⟨d, returns⟩ := p.exists_returns calm (Pipeline.built_of_finished finished) start
    obtain rfl := RunEnding.finished.inj (returns.ending.symm.trans finished)
    exact ⟨returns.isTerminal, returns.callbacks⟩
  · intro s t payload ender script first
    obtain ⟨outcomes, returns⟩ := p.returns_of_mark calm ender script first start
    rw [Mark.terminal_panic] at returns
    exact ⟨_, returns.ending, rfl, List.getLast?_concat, returns.callbacks, returns.reports⟩

/-- A stage that panics after a quiet one; the stage behind it could not be built. -/
theorem finished_iff_built_of_panic :
    let p : Pipeline := ⟨[
      ⟨"fetch", fun _ => .script [.sleep 5] .ok⟩,
      ⟨"check", fun _ => .script [.observe] (.panic (.text "boom"))⟩,
      ⟨"start", fun _ => .unbuilt .wordless⟩], .reporter fun _ => .accepted⟩
    let input : LaunchInput := ⟨"w-1", .sync, "", [], "", none⟩
    p.hooks.Calm ∧ (∃ c, (p.run 3 input).ending = .finished c ∧ c.isTerminal ∧
      c.failure? = some ⟨"check", .panicked, .text "boom"⟩) ∧
      (p.run 3 input).callbacks = [.failure "w-1"] := by
  intro p input
  have calm : p.hooks.Calm := ⟨fun _ => rfl, fun _ _ => rfl⟩
  obtain ⟨-, returned, panicked, -⟩ := finished_iff_built calm input 3
  obtain ⟨c, ending, failure, -, callbacks, -⟩ :=
    panicked ⟨"check", fun _ => .script [.observe] (.panic (.text "boom"))⟩
      ⟨"check", [.observe], .panic (.text "boom")⟩ (.text "boom") rfl rfl rfl
  exact ⟨calm, ⟨c, ending, (returned c ending).1, failure⟩, callbacks⟩

/-- **Not every launch comes back**: a stage that panics before it is built leaves no end, no
outcome and no hook behind. -/
theorem not_finished_of_unbuilt :
    let p : Pipeline := ⟨[⟨"only", fun _ => .unbuilt (.text "boom")⟩], .noop⟩
    let input : LaunchInput := ⟨"w-1", .sync, "", [], "", none⟩
    p.hooks.Calm ∧ (p.run 0 input).ending = .unwound (.text "boom") ∧
      (¬ ∃ c, (p.run 0 input).ending = .finished c) ∧ (p.run 0 input).callbacks = [] := by
  intro p input
  exact ⟨⟨fun _ => rfl, fun _ _ => rfl⟩, rfl, nofun, rfl⟩

end Relaunch
