import Mathlib.Algebra.GroupWithZero.Nat
import Relaunch.Launch.Pipeline

/-!
# Proofs/Launch/FirstMark — the first mark of a launch decides everything

A script marks its launch in four ways: it succeeds, it fails, it returns an error or it panics.
Read the marks of all scripts of a pipeline in the order in which they are made: the first one is
the end of the launch, and the stage that made it is the last one to run.

* `Scene.play_eq`, `Scene.close_eq` — the marks of one stage.
* `Course.through_eq` — the marks of all stages.
* `run_eq_firstMark` — the whole launch, from its first mark.
-/

namespace Relaunch

/-! ## Marks -/

/-- **What can end a launch.** -/
inductive Mark where
  | succeed
  | fail (cause : Failure)
  | error (cause : Failure)
  | panic (payload : Payload)
deriving DecidableEq

/-- The end of a launch whose first mark this is, made by a stage.  A panic is told by its text, and
by a fixed one if it carries none. -/
def Mark.terminal (stage : String) : Mark → Terminal
  | succeed => .success
  | fail cause => .failure ⟨stage, .reported, cause⟩
  | error cause => .failure ⟨stage, .raised, cause⟩
  | panic (.text s) => .failure ⟨stage, .panicked, .text s⟩
  | panic .wordless => .failure ⟨stage, .panicked, .text "unknown panic payload"⟩

/-- What the outcome of a stage is that made this mark first. -/
def Mark.status : Mark → StageStatus
  | succeed => .succeeded
  | fail _ | error _ | panic _ => .failed

def Action.mark? : Action → Option Mark
  | succeed => some .succeed
  | fail cause => some (.fail cause)
  | observe | readInput | sleep _ => none

def Ending.mark? : Ending → Option Mark
  | ok => none
  | error cause => some (.error cause)
  | panic payload => some (.panic payload)

/-- The end of a launch with these marks, all of one stage. -/
def firstOf (stage : String) (marks : List Mark) : Option Terminal :=
  marks.head?.map (Mark.terminal stage)

/-- The context with the first of the marks that a stage made. -/
def Context.marked (c : Context) (stage : String) (made : List Mark) : Context :=
  { c with terminal := firstOf stage made }

/-- What an action sees, in a context where these marks were made. -/
def Action.sight? (c : Context) (stage : String) (made : List Mark) : Action → Option Sight
  | observe => some (.context (c.marked stage made))
  | readInput => some (.input c.input)
  | succeed | fail _ | sleep _ => none

def Action.span : Action → Nat
  | sleep ms => ms
  | succeed | fail _ | observe | readInput => 0

/-- **A stage with a script.** -/
structure StageScript where
  name : String
  actions : List Action
  ending : Ending
deriving DecidableEq

namespace StageScript

/-- **The marks of a script in their order.** -/
def marks (s : StageScript) : List Mark :=
  s.actions.filterMap Action.mark? ++ s.ending.mark?.toList

/-- The outcome of the stage, if no mark was made before it. -/
def outcome (s : StageScript) : StageOutcome :=
  ⟨s.name, (s.marks.head?.map Mark.status).getD .continued⟩

/-- How long the stage takes. -/
def span (s : StageScript) : Nat := (s.actions.map Action.span).sum

/-- The context at the start of the stage, if no mark was made before it. -/
def entry (input : LaunchInput) (before : List StageOutcome) (s : StageScript) : Context where
  input := input
  outcomes := before
  current := some s.name

/-- What the stage sees: the context has the outcomes of the stages before it, and the first of the
marks made so far. -/
def sights (input : LaunchInput) (before : List StageOutcome) (s : StageScript) : List Sight :=
  s.actions.zipIdx.filterMap fun e =>
    e.1.sight? (s.entry input before) s.name ((s.actions.take e.2).filterMap Action.mark?)

end StageScript

/-! ## All stages of a launch -/

/-- **The stages that run**: up to the first that makes a mark. -/
def executed (scripts : List StageScript) : List StageScript :=
  scripts.take (scripts.findIdx (fun s => !s.marks.isEmpty) + 1)

/-- **The end of a launch**, which is its first mark. -/
def firstMark (scripts : List StageScript) : Option Terminal :=
  (scripts.flatMap fun s => s.marks.map (Mark.terminal s.name)).head?

/-- Stages one after another, each from the end of the one before it. -/
def visitsFrom (input : LaunchInput) : Nat → List StageOutcome → List StageScript → List Visit
  | _, _, [] => []
  | start, before, s :: scripts =>
    ⟨input.id, s.name, start, s.ending.stop? (start + s.span), s.sights input before⟩
      :: visitsFrom input (start + s.span) (before ++ [s.outcome]) scripts

theorem executed_cons (s : StageScript) (scripts : List StageScript) :
    executed (s :: scripts) = s :: if s.marks = [] then executed scripts else [] := by
  cases h : s.marks with
  | nil => simp [executed, List.findIdx_cons, h]
  | cons m marks => simp [executed, List.findIdx_cons, h]

theorem firstMark_cons (s : StageScript) (scripts : List StageScript) :
    firstMark (s :: scripts)
      = if s.marks = [] then firstMark scripts else firstOf s.name s.marks := by
  cases h : s.marks with
  | nil => simp [firstMark, h]
  | cons m marks => simp [firstMark, firstOf, h]

/-! ## One mark -/

/-- The text that stands for a panic is the one that the stage's failure carries. -/
theorem Mark.terminal_panic (stage : String) (payload : Payload) :
    (Mark.panic payload).terminal stage
      = .failure ⟨stage, .panicked, .text payload.message⟩ := by
  cases payload <;> rfl

/-- A failure by a mark is charged to the stage that made it. -/
theorem Mark.stage_of_terminal {m : Mark} {stage : String} {e : StageError}
    (failed : m.terminal stage = .failure e) : e.stage = stage := by
  cases m with
  | succeed => cases failed
  | fail cause | error cause =>
    cases failed
    rfl
  | panic payload =>
    rw [Mark.terminal_panic] at failed
    cases failed
    rfl

theorem Context.status_of_mark {c : Context} {m : Mark} {stage : String}
    (ended : c.terminal = some (m.terminal stage)) : c.status = m.status := by
  rw [Context.status, ended]
  cases m with
  | succeed | fail cause | error cause => rfl
  | panic payload =>
    rw [Mark.terminal_panic]
    rfl

/-! ## One stage -/

/-- **A mark ends a launch that has no mark yet.** -/
theorem Context.finish_marked (c : Context) (stage : String) (made : List Mark) (mark : Mark) :
    (c.marked stage made).finish (mark.terminal stage) = c.marked stage (made ++ [mark]) := by
  cases made with
  | nil => rfl
  | cons m made => rfl

/-- One action: the context has its mark too, and time goes on if it sleeps. -/
theorem Scene.act_eq {c : Context} {stage : String} (current : c.current = some stage)
    (made : List Mark) (a : Action) (clock : Nat) (seen : List Sight) (pauses : List Nat) :
    ∃ later, Scene.act ⟨c.marked stage made, clock, seen, pauses⟩ a
      = ⟨c.marked stage (made ++ a.mark?.toList), clock + a.span,
          seen ++ (a.sight? c stage made).toList, later⟩ := by
  cases a with
  | succeed =>
    refine ⟨pauses, ?_⟩
    rw [act, Context.succeed]
    rw [show Terminal.success = Mark.succeed.terminal stage from rfl, Context.finish_marked]
    simp [Action.mark?, Action.span, Action.sight?]
  | fail cause =>
    refine ⟨pauses, ?_⟩
    have its : (c.marked stage made).current = some stage := current
    rw [act, Context.fail, its, Option.getD_some, Context.failWith]
    rw [show Terminal.failure ⟨stage, .reported, cause⟩ = (Mark.fail cause).terminal stage from rfl,
      Context.finish_marked]
    simp [Action.mark?, Action.span, Action.sight?]
  | observe => exact ⟨pauses, by simp [act, Action.mark?, Action.span, Action.sight?]⟩
  | readInput =>
    exact ⟨pauses, by simp [act, Action.mark?, Action.span, Action.sight?, Context.marked]⟩
  | sleep ms =>
    exact ⟨pauses ++ [clock + ms],
      by simp [act, Action.mark?, Action.span, Action.sight?]⟩

/-- **The actions of a stage**, after those `done` before: the context has the first of all marks,
and time goes on with the sleeps. -/
theorem Scene.play_eq {c : Context} {stage : String} (current : c.current = some stage)
    (done rest : List Action) (clock : Nat) (seen : List Sight) (pauses : List Nat) :
    ∃ later, Scene.play ⟨c.marked stage (done.filterMap Action.mark?), clock, seen, pauses⟩ rest
      = ⟨c.marked stage ((done ++ rest).filterMap Action.mark?),
          clock + (rest.map Action.span).sum,
          seen ++ (rest.zipIdx done.length).filterMap fun e =>
            e.1.sight? c stage (((done ++ rest).take e.2).filterMap Action.mark?),
          later⟩ := by
  induction rest generalizing done clock seen pauses with
  | nil => exact ⟨pauses, by simp [Scene.play]⟩
  | cons a rest ih =>
    have onward : done ++ a :: rest = (done ++ [a]) ++ rest := by simp
    have here : (done ++ a :: rest).take done.length = done := by simp
    have made : (done ++ [a]).filterMap Action.mark?
        = done.filterMap Action.mark? ++ a.mark?.toList := by
      rw [List.filterMap_append]
      cases h : a.mark? <;> simp [h]
    have split : ∀ (f : Action × Nat → Option Sight),
        ((a :: rest).zipIdx done.length).filterMap f
          = (f (a, done.length)).toList ++ (rest.zipIdx (done ++ [a]).length).filterMap f := by
      intro f
      rw [List.zipIdx_cons, List.length_append, List.length_singleton]
      cases h : f (a, done.length) <;> simp [h]
    obtain ⟨pauses', acted⟩ := act_eq current (done.filterMap Action.mark?) a clock seen pauses
    obtain ⟨later, played⟩ := ih (done ++ [a]) (clock + a.span)
      (seen ++ (a.sight? c stage (done.filterMap Action.mark?)).toList) pauses'
    refine ⟨later, ?_⟩
    rw [play, List.foldl_cons, acted, ← made, split]
    simp only [here]
    refine played.trans ?_
    rw [← onward, List.map_cons, List.sum_cons, Nat.add_assoc, List.append_assoc]

/-- **The end of a stage**: a returned error and a panic are marks like the others. -/
theorem Scene.close_eq {c : Context} {stage : String} {made : List Mark} {s : Scene}
    (h : s.context = c.marked stage made) (ending : Ending) :
    s.close stage ending = c.marked stage (made ++ ending.mark?.toList) := by
  cases ending with
  | ok =>
    rw [close, h, Ending.mark?, Option.toList_none, List.append_nil]
  | error cause =>
    rw [close, h, Context.failWith]
    exact Context.finish_marked c stage made (.error cause)
  | panic payload =>
    rw [close, h, Context.failWith, ← Mark.terminal_panic]
    exact Context.finish_marked c stage made (.panic payload)

/-- What a stage left behind is told by its first mark. -/
theorem Context.status_marked (c : Context) (stage : String) (made : List Mark) :
    (c.marked stage made).status = (made.head?.map Mark.status).getD .continued := by
  cases made with
  | nil => rfl
  | cons m made => exact Context.status_of_mark rfl

theorem Context.isTerminal_leave_marked (c : Context) (stage : String) (made : List Mark) :
    ((c.marked stage made).leave stage).isTerminal = !made.isEmpty := by
  cases made <;> rfl

/-- **A stage of a launch that has no mark yet.** -/
theorem Course.after_eq {c : Course} (unmarked : c.context.terminal = none) (s : StageScript) :
    ∃ pauses, c.after s.name s.actions s.ending
      = { context := {
            input := c.context.input
            outcomes := c.context.outcomes ++ [s.outcome]
            terminal := firstOf s.name s.marks },
          clock := c.clock + s.span,
          pauses,
          visits := c.visits ++ visitsFrom c.context.input c.clock c.context.outcomes [s],
          events := c.events ++ [.stageFinished c.context.input.id s.name !s.marks.isEmpty] } := by
  have entered : c.context.enter s.name
      = (s.entry c.context.input c.context.outcomes).marked s.name [] := by
    rw [Context.enter, unmarked]
    rfl
  obtain ⟨later, played⟩ := Scene.play_eq (c := s.entry c.context.input c.context.outcomes) rfl
    [] s.actions c.clock [] []
  rw [List.filterMap_nil, ← entered] at played
  simp only [List.nil_append, List.length_nil] at played
  refine ⟨c.pauses ++ later, ?_⟩
  have closed := Scene.close_eq
    (s := Scene.play ⟨c.context.enter s.name, c.clock, [], []⟩ s.actions)
    (congrArg Scene.context played) s.ending
  rw [played] at closed
  simp only [after, played, closed, Context.isTerminal_leave_marked]
  rw [Context.leave, Context.status_marked]
  rfl

/-! ## All stages -/

/-- Whether the stages follow the scripts, for an input. -/
def Follow (stages : List Stage) (input : LaunchInput) (scripts : List StageScript) : Prop :=
  stages.map (fun s => (s.name, s.behaviour input))
    = scripts.map fun s => (s.name, .script s.actions s.ending)

theorem Follow.of_cons {stages : List Stage} {input : LaunchInput} {s : StageScript}
    {scripts : List StageScript} (h : Follow stages input (s :: scripts)) :
    ∃ stage rest, stages = stage :: rest ∧ stage.name = s.name ∧
      stage.behaviour input = .script s.actions s.ending ∧ Follow rest input scripts := by
  cases stages with
  | nil => cases h
  | cons stage rest =>
    rw [Follow, List.map_cons, List.map_cons, List.cons.injEq, Prod.mk.injEq] at h
    exact ⟨stage, rest, rfl, h.1.1, h.1.2, h.2⟩

/-- Nothing runs after a mark. -/
theorem Course.through_of_isTerminal {c : Course} (h : c.context.isTerminal) (stages : List Stage) :
    c.through stages = (c, none) := by
  cases stages with
  | nil => rfl
  | cons stage stages => rw [through, if_pos h]

/-- **The marks of all stages**, from a launch that has no mark yet. -/
theorem Course.through_eq {c : Course} {stages : List Stage} {scripts : List StageScript}
    (follow : Follow stages c.context.input scripts) (unmarked : c.context.terminal = none)
    (idle : c.context.current = none) :
    ∃ pauses, c.through stages
      = ({ context := {
              input := c.context.input
              outcomes := c.context.outcomes ++ (executed scripts).map StageScript.outcome
              terminal := firstMark scripts },
            clock := c.clock + ((executed scripts).map StageScript.span).sum,
            pauses,
            visits := c.visits
              ++ visitsFrom c.context.input c.clock c.context.outcomes (executed scripts),
            events := c.events ++ (executed scripts).map fun s =>
              .stageFinished c.context.input.id s.name !s.marks.isEmpty }, none) := by
  induction scripts generalizing c stages with
  | nil =>
    obtain rfl : stages = [] := List.map_eq_nil_iff.mp follow
    obtain ⟨⟨input, outcomes, terminal, current⟩, clock, pauses, visits, events⟩ := c
    simp only at unmarked idle
    subst unmarked idle
    exact ⟨pauses, by simp [through, executed, firstMark, visitsFrom]⟩
  | cons s scripts ih =>
    obtain ⟨stage, stages, rfl, name, behaviour, follow⟩ := follow.of_cons
    have live : c.context.isTerminal = false := by rw [Context.isTerminal, unmarked]; rfl
    obtain ⟨pauses, after⟩ := Course.after_eq unmarked s
    have next : c.through (stage :: stages)
        = (c.after s.name s.actions s.ending).through stages := by
      rw [through, if_neg (by rw [live]; nofun), behaviour, name]
    rw [next, executed_cons, firstMark_cons]
    cases marks : s.marks with
    | nil =>
      rw [marks] at after
      obtain ⟨later, rest⟩ := ih (c := c.after s.name s.actions s.ending)
        (by rw [after]; exact follow) (by rw [after]; rfl) (by rw [after])
      refine ⟨later, rest.trans ?_⟩
      rw [after]
      simp [visitsFrom, Nat.add_assoc, marks]
    | cons m made =>
      have ended : (c.after s.name s.actions s.ending).context.isTerminal = true := by
        rw [after, marks]
        rfl
      refine ⟨pauses, (through_of_isTerminal ended stages).trans ?_⟩
      rw [after]
      simp [marks]

/-- **The stages before the last that ran made no mark.** -/
theorem marks_of_mem_dropLast {scripts : List StageScript} {s : StageScript}
    (h : s ∈ (executed scripts).dropLast) : s.marks = [] := by
  induction scripts with
  | nil => cases h
  | cons first scripts ih =>
    rw [executed_cons] at h
    split at h
    · rename_i none
      cases rest : executed scripts with
      | nil =>
        rw [rest] at h
        cases h
      | cons next later =>
        rw [rest, List.dropLast_cons_cons] at h
        rcases List.mem_cons.mp h with rfl | later
        · exact none
        · rw [rest] at ih
          exact ih later
    · cases h

/-- **The first mark is the last stage's that ran.** -/
theorem firstMark_eq (scripts : List StageScript) :
    firstMark scripts = (executed scripts).getLast?.bind fun s => firstOf s.name s.marks := by
  induction scripts with
  | nil => rfl
  | cons first scripts ih =>
    rw [executed_cons, firstMark_cons]
    split
    · rename_i none
      cases rest : executed scripts with
      | nil =>
        rw [ih, rest]
        simp [firstOf, none]
      | cons next later =>
        rw [ih, rest]
        rfl
    · rfl

/-- Every stage runs if none makes a mark. -/
theorem executed_of_firstMark_eq_none {scripts : List StageScript} (h : firstMark scripts = none) :
    executed scripts = scripts := by
  induction scripts with
  | nil => rfl
  | cons s scripts ih =>
    rw [firstMark_cons] at h
    split at h
    · rename_i none
      rw [executed_cons, if_pos none, ih h]
    · rename_i some_mark
      obtain ⟨m, made, marks⟩ := List.exists_cons_of_ne_nil some_mark
      rw [marks] at h
      cases h

/-! ## The whole launch -/

/-- The context at the end of a launch: without a mark it is a success. -/
def finalContext (input : LaunchInput) (scripts : List StageScript) : Context where
  input := input
  outcomes := (executed scripts).map StageScript.outcome
  terminal := some ((firstMark scripts).getD .success)

/-- What the hook for the end of a launch does. -/
def Hooks.reaction (h : Hooks) (c : Context) : Reaction :=
  match c.failure? with
  | some e => h.onFailure c e
  | none => h.onSuccess c

/-- Which hook that is. -/
def Context.callback (c : Context) : Callback :=
  match c.failure? with
  | some _ => .failure c.input.id
  | none => .success c.input.id

/-- What is logged before it is called. -/
def Context.verdict (c : Context) : Event :=
  match c.failure? with
  | some e => .launchFailed c.input.id e
  | none => .launchSucceeded c.input.id

/-- The context of a launch that is through its stages becomes the final one. -/
theorem succeed_eq_finalContext (input : LaunchInput) (scripts : List StageScript) :
    Context.succeed {
      input
      outcomes := (executed scripts).map StageScript.outcome
      terminal := firstMark scripts } = finalContext input scripts := by
  unfold Context.succeed Context.finish finalContext
  cases h : firstMark scripts <;> rfl

/-- **The end of a launch** calls the hook that its final context asks for. -/
theorem Pipeline.conclude_eq (p : Pipeline) (start : Nat) (course : Course) {c : Context}
    (final : course.context.succeed = c) :
    p.conclude start course =
      { ending :=
          match (p.hooks.reaction c).panic with
          | some payload => .unwound payload
          | none => .finished c
        start := start
        finish := course.clock
        pauses := course.pauses
        visits := course.visits
        events := course.events ++ c.verdict :: (p.hooks.reaction c).events
        callbacks := [c.callback]
        reports := (p.hooks.reaction c).reports } := by
  subst final
  simp only [conclude, Hooks.reaction, Context.verdict, Context.callback]
  cases course.context.succeed.failure? <;> rfl

/-- The stage that made the first mark has the outcome of the launch. -/
theorem outcome_of_getLast? {scripts : List StageScript} {s : StageScript} (input : LaunchInput)
    (last : (executed scripts).getLast? = some s) :
    s.outcome
      = ⟨s.name, if s.marks = [] then .continued else (finalContext input scripts).status⟩ := by
  have first := firstMark_eq scripts
  rw [last, Option.bind_some] at first
  rw [StageScript.outcome]
  cases marks : s.marks with
  | nil => rfl
  | cons m made =>
    rw [marks] at first
    have ended : (finalContext input scripts).terminal = some (m.terminal s.name) := by
      rw [finalContext, first]
      rfl
    rw [if_neg (by nofun), Context.status_of_mark ended]
    rfl

/-- A failure names the stage that made the first mark. -/
theorem getLast?_of_failure? {scripts : List StageScript} {e : StageError} (input : LaunchInput)
    (failed : (finalContext input scripts).failure? = some e) :
    ∃ s, (executed scripts).getLast? = some s ∧ e.stage = s.name := by
  have first := firstMark_eq scripts
  cases last : (executed scripts).getLast? with
  | none =>
    rw [last, Option.bind_none] at first
    rw [Context.failure?, finalContext, first] at failed
    cases failed
  | some s =>
    refine ⟨s, rfl, ?_⟩
    rw [last, Option.bind_some] at first
    rw [Context.failure?, finalContext, first] at failed
    cases marks : s.marks with
    | nil =>
      rw [marks] at failed
      cases failed
    | cons m made =>
      rw [marks] at failed
      cases ended : m.terminal s.name with
      | success => simp [firstOf, ended] at failed
      | failure other =>
        have its : other = e := by simpa [firstOf, ended] using failed
        exact Mark.stage_of_terminal (its ▸ ended)

/-- **The first mark of a launch decides everything.**  The stages that run are those up to the one
that makes it, each from the end of the one before; it is the end of the launch; exactly one hook is
called, the one for that end; and the launch comes back with the final context unless the hook
panics. -/
theorem run_eq_firstMark {p : Pipeline} {input : LaunchInput} {scripts : List StageScript}
    (follow : Follow p.stages input scripts) (start : Nat) :
    let run := p.run start input
    let ran := executed scripts
    let c := finalContext input scripts
    let reaction := p.hooks.reaction c
    (run.ending = match reaction.panic with
      | some payload => .unwound payload
      | none => .finished c) ∧
    run.visits = visitsFrom input start [] ran ∧
    run.callbacks = [c.callback] ∧
    run.reports = reaction.reports ∧
    (run.events = (ran.map fun s => .stageFinished input.id s.name !s.marks.isEmpty)
      ++ c.verdict :: reaction.events) ∧
    run.start = start ∧ run.finish = start + (ran.map StageScript.span).sum ∧
    (firstMark scripts = none → ran = scripts) ∧
    (∀ s ∈ ran.dropLast, s.outcome = ⟨s.name, .continued⟩) ∧
    (∀ s, ran.getLast? = some s →
      s.outcome = ⟨s.name, if s.marks = [] then .continued else c.status⟩) ∧
    (∀ e, c.failure? = some e → ∃ s, ran.getLast? = some s ∧ e.stage = s.name) := by
  intro run ran c reaction
  obtain ⟨pauses, through⟩ :=
    Course.through_eq (c := { context := { input }, clock := start }) follow rfl rfl
  have whole : run = p.conclude start (Course.through { context := { input }, clock := start }
      p.stages).1 := by
    simp only [run, Pipeline.run, through]
  rw [through, p.conclude_eq start _ (succeed_eq_finalContext input scripts)] at whole
  refine ⟨?_, ?_, ?_, ?_, ?_, ?_, ?_, executed_of_firstMark_eq_none, ?_,
    fun s => outcome_of_getLast? input, fun e => getLast?_of_failure? input⟩
  · rw [whole]
  · rw [whole]
    rfl
  · rw [whole]
  · rw [whole]
  · rw [whole]
    rfl
  · rw [whole]
  · rw [whole]
  · intro s mem
    rw [StageScript.outcome, marks_of_mem_dropLast mem]
    rfl

/-- A stage that fails, then succeeds and panics, after one that sleeps: the third never runs.  And
two launches that a panic ends, with a text and with none. -/
theorem run_eq_firstMark_of_panic :
    let pipeline (scripts : List StageScript) : Pipeline :=
      ⟨scripts.map fun s => ⟨s.name, fun _ => .script s.actions s.ending⟩, .noop⟩
    let input : LaunchInput := ⟨"w-1", .sync, "", [], "", none⟩
    let failing : List StageScript := [
      ⟨"fetch", [.sleep 5, .observe], .ok⟩,
      ⟨"check", [.fail (.text "no"), .succeed, .sleep 2], .panic .wordless⟩,
      ⟨"start", [.succeed], .ok⟩]
    let texted : List StageScript := [
      ⟨"fetch", [.sleep 5], .ok⟩, ⟨"check", [.observe], .panic (.text "boom")⟩,
      ⟨"start", [.succeed], .ok⟩]
    let wordless : List StageScript := [⟨"fetch", [], .panic .wordless⟩, ⟨"check", [], .ok⟩]
    (Follow (pipeline failing).stages input failing ∧
      ((pipeline failing).run 3 input).callbacks = [.failure "w-1"] ∧
      ((pipeline failing).run 3 input).finish = 10 ∧
      ((pipeline failing).run 3 input).ending = .finished {
        input
        outcomes := [⟨"fetch", .continued⟩, ⟨"check", .failed⟩]
        terminal := some (.failure ⟨"check", .reported, .text "no"⟩) }) ∧
    (Follow (pipeline texted).stages input texted ∧
      ((pipeline texted).run 3 input).events = [.stageFinished "w-1" "fetch" false,
        .stageFinished "w-1" "check" true,
        .launchFailed "w-1" ⟨"check", .panicked, .text "boom"⟩] ∧
      ((pipeline texted).run 3 input).ending = .finished {
        input
        outcomes := [⟨"fetch", .continued⟩, ⟨"check", .failed⟩]
        terminal := some (.failure ⟨"check", .panicked, .text "boom"⟩) }) ∧
    Follow (pipeline wordless).stages input wordless ∧
      ((pipeline wordless).run 0 input).ending = .finished {
        input
        outcomes := [⟨"fetch", .failed⟩]
        terminal := some (.failure ⟨"fetch", .panicked, .text "unknown panic payload"⟩) } := by
  intro pipeline input failing texted wordless
  have fails : Follow (pipeline failing).stages input failing := rfl
  have tells : Follow (pipeline texted).stages input texted := rfl
  have silent : Follow (pipeline wordless).stages input wordless := rfl
  obtain ⟨failed, -, callbacks, -, -, -, finish, -⟩ := run_eq_firstMark fails 3
  obtain ⟨told, -, -, -, events, -⟩ := run_eq_firstMark tells 3
  obtain ⟨untold, -⟩ := run_eq_firstMark silent 0
  exact ⟨⟨fails, callbacks, finish, failed⟩, ⟨tells, events, told⟩, silent, untold⟩

end Relaunch
