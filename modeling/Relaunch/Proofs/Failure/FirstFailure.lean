import Relaunch.Proofs.Failure.SideBySide
import Relaunch.Proofs.Failure.Walk

/-!
# Proofs/Failure/FirstFailure — a latch captures the first failure, and no other

A latch is used any number of times, by whoever holds it or a clone of it: it is given failures, and
its token may be cancelled by others.  The first failure it is given it captures, whole, and the
token is cancelled; from then on it changes no more, and every failure it is given goes back as it
came.

* `after_of_set`, `after_of_untriggered` — what any number of uses leaves of a latch.
* `keys_event` — what is logged of a failure that is captured.
* `first_failure_captured` — all of it, of uses one after another and of callers side by side.
-/

namespace Relaunch

namespace FatalLatch

/-- **A use of a latch.** -/
inductive Use where
  | trigger (context : String) (f : Failure)
  /-- The token is cancelled by someone else. -/
  | cancel

/-- The latch after a use. -/
def use (l : FatalLatch) : Use → FatalLatch
  | .trigger context f => (l.trigger context f).latch
  | .cancel => l.cancel

/-- The latch after some uses. -/
def after (l : FatalLatch) (uses : List Use) : FatalLatch := uses.foldl use l

variable {l : FatalLatch} {uses : List Use}

theorem trigger_of_set {g : Failure} (set : l.failure = some g) (context : String) (f : Failure) :
    l.trigger context f = ⟨l, f, []⟩ := by
  rw [trigger, set]

theorem trigger_of_unset (unset : l.failure = none) (context : String) (f : Failure) :
    l.trigger context f = ⟨⟨some (.captured f), true⟩, .captured f, [event context f]⟩ := by
  rw [trigger, unset]

/-- **A use leaves a latch as it is**, once a failure is captured and the token cancelled. -/
theorem use_of_set {g : Failure} (set : l = ⟨some g, true⟩) (u : Use) : l.use u = l := by
  subst set
  cases u with
  | trigger context f => exact congrArg Triggered.latch (trigger_of_set rfl context f)
  | cancel => rfl

theorem after_of_set {g : Failure} (set : l = ⟨some g, true⟩) (uses : List Use) :
    l.after uses = l := by
  induction uses with
  | nil => rfl
  | cons u uses ih => rw [after, List.foldl_cons, use_of_set set, ← after, ih]

/-- Before any failure is brought the latch holds none, and its token is cancelled only if others
have done it. -/
theorem after_of_untriggered (untriggered : ∀ u ∈ uses, u = .cancel) (l : FatalLatch) :
    l.after uses = ⟨l.failure, l.cancelled || !uses.isEmpty⟩ := by
  induction uses generalizing l with
  | nil => simp [after]
  | cons u uses ih =>
    obtain rfl := untriggered u List.mem_cons_self
    rw [after, List.foldl_cons, ← after, ih fun v mem => untriggered v (List.mem_cons_of_mem _ mem)]
    simp [use, cancel]

/-! ## What is logged -/

theorem level_event (context : String) (f : Failure) : (event context f).level = .error := by
  unfold event
  cases f.query? <;> rfl

/-- **The log tells kind and attempts of a given-up query, and of nothing else.** -/
theorem fields_event (context : String) (f : Failure) :
    (event context f).fields =
      ("context", .text context) ::
        (match f.query? with
          | some q => [("kind", .text q.error.kind.name), ("attempts", .number q.attempts)]
          | none => []) ++ [("error", .text f.full)] := by
  unfold event
  cases f.query? <;> rfl

theorem keys_event (context : String) (f : Failure) :
    ("kind" ∈ (event context f).fields.map Prod.fst ↔ f.query?.isSome = true) ∧
    ("attempts" ∈ (event context f).fields.map Prod.fst ↔ f.query?.isSome = true) := by
  rw [fields_event]
  cases f.query? <;> simp

/-! ## The first failure -/

/-- **A latch captures the first failure it is given, whole, and changes no more.**

* Before that it holds none, and its token is cancelled only if others have done it.
* From then on it holds what the first caller got, whatever it is given later, and its token is
  cancelled.
* What was captured says what the failure says, and stands before all of it: its chain is the
  failure's message and then the failure's chain, and on the way down all the errors of the failure
  are met, a given-up query among them.
* One error is logged, which tells kind and attempts if and only if the failure is a given-up query.
* Whatever is given later goes back as it came, the latch stays as it is, and nothing is logged.

Callers side by side, whatever the order of their steps, do not get in each other's way: either
nothing has happened yet, or one caller is the first, the others that are done have their own
failures back, and once the first is done the latch and the log are as if it had been alone.  A
caller that is alone gets what the latch gives in one go. -/
theorem first_failure_captured (cancelled : Bool) :
    (∀ before : List Use, (∀ u ∈ before, u = .cancel) → ∀ context e later,
      let fresh := ({ cancelled } : FatalLatch).after before
      let first := fresh.trigger context e
      let l := first.latch.after later
      (fresh.failure = none ∧ fresh.isTriggered = false ∧
        (fresh.cancelled = true ↔ cancelled = true ∨ before ≠ [])) ∧
      (l.failure = some first.returned ∧ l.isTriggered = true ∧ l.cancelled = true) ∧
      (first.returned.message = e.message ∧ first.returned.chain = e.message :: e.chain ∧
        ∀ nodes, Walk (.failure e) nodes →
          Walk (.failure first.returned) (.failure first.returned :: nodes) ∧
          nodes.map Node.text = e.chain ∧
          ∀ q, e.query? = some q → .failure (.query q) ∈ nodes) ∧
      (∃ event, first.events = [event] ∧ event.level = .error ∧
        ("kind" ∈ event.fields.map Prod.fst ↔ e.query?.isSome = true) ∧
        ("attempts" ∈ event.fields.map Prod.fst ↔ e.query?.isSome = true)) ∧
      ∀ context' f, l.trigger context' f = ⟨l, f, []⟩) ∧
    ∀ moves c, ({ cancelled } : Capture).steps moves = some c →
      ((c.flag = false ∧ c.slot = none ∧ c.log = [] ∧
          (c.cancelled = true → cancelled = true ∨ .cancel ∈ moves) ∧
          ∀ x ∈ c.callers, x.returned? = none) ∨
        ∃ (i : Nat) (x : Caller), c.flag = true ∧ c.callers[i]? = some x ∧
          (∀ (j : Nat) y, c.callers[j]? = some y → j ≠ i →
            y.returned? = none ∨ y.returned? = some y.failure) ∧
          let first := ({ cancelled } : FatalLatch).trigger x.context x.failure
          (x.returned? = none ∨ x.returned? = some first.returned ∧ c.latch = first.latch ∧
            c.log = first.events)) ∧
      (c.AtRest → ∀ context f,
        let t := c.latch.trigger context f
        ∃ more d x, (∀ m ∈ more, m = .caller c.callers.length) ∧
          c.steps (.call context f :: more) = some d ∧
          d.callers = c.callers ++ [x] ∧ x.returned? = some t.returned ∧
          d.latch = t.latch ∧ d.log = c.log ++ t.events) := by
  refine ⟨fun before untriggered context e later => ?_, fun moves c run =>
    ⟨Capture.first_of_steps run, Capture.exists_alone (Capture.sound_of_steps run)⟩⟩
  intro fresh first l
  have its : fresh = ⟨none, cancelled || !before.isEmpty⟩ := after_of_untriggered untriggered _
  have given : first = ⟨⟨some (.captured e), true⟩, .captured e, [event context e]⟩ :=
    trigger_of_unset (by rw [its]) context e
  have left : l = ⟨some (.captured e), true⟩ := by
    rw [show l = first.latch.after later from rfl, given]
    exact after_of_set rfl later
  obtain ⟨kind, attempts⟩ := keys_event context e
  refine ⟨⟨?_, ?_, ?_⟩, ?_, ?_, ⟨event context e, ?_, level_event context e, kind, attempts⟩, ?_⟩
  · rw [its]
  · rw [its]
    rfl
  · rw [its]
    simp
  · rw [left, given]
    exact ⟨rfl, rfl, rfl⟩
  · rw [given]
    exact ⟨rfl, rfl, fun nodes walk =>
      ⟨walk.of_captured, walk.map_text, fun q found => walk.mem_of_query? found⟩⟩
  · rw [given]
  · rw [left]
    exact trigger_of_set rfl

/-- A token cancelled beforehand, a refused query under a context, and a failure after it; and the
two side by side, where the second to come is the first to raise the flag. -/
theorem first_failure_captured_of_refused :
    let query : QueryError := ⟨true, 1, ⟨listMethod, .socketRejected (.plain "denied")⟩⟩
    let e : Failure := .context "failed to list" (.query query)
    let first := (({} : FatalLatch).after [.cancel]).trigger "startup" e
    let l := first.latch.after [.trigger "periodic" (.text "second"), .cancel]
    let moves : List Capture.Move := [.call "periodic" (.text "second"), .call "startup" e,
      .caller 1, .caller 0, .caller 1, .caller 1, .caller 1]
    (∀ u ∈ [Use.cancel], u = .cancel) ∧ l.failure = some first.returned ∧
      first.returned.chain = "failed to list" :: e.chain ∧
      (∃ nodes, Walk (.failure e) nodes ∧ .failure (.query query) ∈ nodes) ∧
      (∃ event, first.events = [event] ∧ "kind" ∈ event.fields.map Prod.fst) ∧
      l.trigger "periodic" (.text "third") = ⟨l, .text "third", []⟩ ∧
      ∃ c, ({} : Capture).steps moves = some c ∧ c.AtRest ∧
        (∃ x ∈ c.callers, x.returned? = some (.captured x.failure) ∧ c.slot = x.returned?) ∧
        ∃ more d x, c.steps (.call "periodic" (.text "third") :: more) = some d ∧
          d.callers = c.callers ++ [x] ∧ x.returned? = some (.text "third") ∧
          d.latch = c.latch := by
  intro query e first l moves
  obtain ⟨inTurn, sideBySide⟩ := first_failure_captured false
  obtain ⟨-, ⟨held, -, -⟩, ⟨-, chain, down⟩, ⟨event, logged, -, kind, -⟩, later⟩ :=
    inTurn [.cancel] (by simp) "startup" e [.trigger "periodic" (.text "second"), .cancel]
  obtain ⟨nodes, walk, -⟩ := Walk.exists_failure e
  refine ⟨by simp, held, chain, ⟨nodes, walk, (down nodes walk).2.2 query rfl⟩,
    ⟨event, logged, kind.mpr rfl⟩, later "periodic" (.text "third"), ?_⟩
  let c : Capture := {
    flag := true, slot := some (.captured e), cancelled := true
    callers := [⟨"periodic", .text "second", .handedBack⟩, ⟨"startup", e, .captured⟩]
    log := [FatalLatch.event "startup" e] }
  have run : ({} : Capture).steps moves = some c := rfl
  have atRest : c.AtRest := by simp [Capture.AtRest, c]
  have done : ∀ x ∈ c.callers, x.returned? ≠ none := by simp [Caller.returned?, c]
  obtain ⟨order, alone⟩ := sideBySide moves c run
  obtain ⟨more, d, x, -, went, callers, returned, left, -⟩ :=
    alone atRest "periodic" (.text "third")
  refine ⟨c, run, atRest, ?_, more, d, x, went, callers, returned, left⟩
  rcases order with ⟨down, -⟩ | ⟨i, x, -, at_i, others, first⟩
  · cases down
  · rcases first with none | ⟨returned, left, -⟩
    · exact absurd none (done x (List.mem_of_getElem? at_i))
    · exact ⟨x, List.mem_of_getElem? at_i, returned, returned ▸ congrArg FatalLatch.failure left⟩

end FatalLatch

end Relaunch
