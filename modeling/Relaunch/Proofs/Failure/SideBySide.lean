import Relaunch.Capture
import Relaunch.Proofs.Pool.Step

/-!
# Proofs/Failure/SideBySide — callers of one latch do not get in each other's way

Whatever the order of their steps, at most one caller raises the flag, and only that one goes on to
log its failure, to store it and to cancel the token.  So the flag, the slot, the token and the log
are at any time what this one caller has made of them, and the others have their failures back.

* `Step` — the steps of a latch, with what each needs.
* `Sound` — what is so wherever steps lead to, `sound_of_steps`.
* `first_of_steps` — what the callers get, and what is left of the latch.
* `exists_alone` — a caller that has the latch to itself.
-/

namespace Relaunch.Capture

variable {c d : Capture} {m : Move} {i : Nat} {x : Caller}

/-! ## Steps -/

/-- **The steps of a latch.** -/
inductive Step (c : Capture) : Move → Capture → Prop where
  | call (context : String) (failure : Failure) :
      Step c (.call context failure) { c with callers := c.callers ++ [{ context, failure }] }
  | raise {i : Nat} {x : Caller} (at_i : c.callers[i]? = some x) (its : x.phase = .called)
      (down : c.flag = false) :
      Step c (.caller i) { c.setPhase i x .raised with flag := true }
  | handBack {i : Nat} {x : Caller} (at_i : c.callers[i]? = some x) (its : x.phase = .called)
      (up : c.flag = true) : Step c (.caller i) (c.setPhase i x .handedBack)
  | log {i : Nat} {x : Caller} (at_i : c.callers[i]? = some x) (its : x.phase = .raised) :
      Step c (.caller i)
        { c.setPhase i x .logged with log := c.log ++ [FatalLatch.event x.context x.failure] }
  | store {i : Nat} {x : Caller} (at_i : c.callers[i]? = some x) (its : x.phase = .logged) :
      Step c (.caller i)
        { c.setPhase i x .stored with slot := c.slot <|> some (.captured x.failure) }
  | capture {i : Nat} {x : Caller} (at_i : c.callers[i]? = some x) (its : x.phase = .stored) :
      Step c (.caller i) { c.setPhase i x .captured with cancelled := true }
  | cancel : Step c .cancel { c with cancelled := true }

theorem Step.of_stepCaller (at_i : c.callers[i]? = some x) (took : c.stepCaller i x = some d) :
    c.Step (.caller i) d := by
  unfold stepCaller at took
  split at took
  · rename_i its
    cases flag : c.flag with
    | true =>
      rw [flag, if_pos rfl] at took
      cases took
      exact .handBack at_i its flag
    | false =>
      rw [flag, if_neg Bool.false_ne_true] at took
      cases took
      exact .raise at_i its flag
  · rename_i its
    cases took
    exact .log at_i its
  · rename_i its
    cases took
    exact .store at_i its
  · rename_i its
    cases took
    exact .capture at_i its
  · cases took
  · cases took

/-- **The relation is the step function.** -/
theorem step_eq_some_iff : c.step m = some d ↔ c.Step m d := by
  constructor
  · intro took
    cases m with
    | call context failure =>
      cases took
      exact .call context failure
    | caller i =>
      obtain ⟨x, at_i, took⟩ := Option.bind_eq_some_iff.mp took
      exact .of_stepCaller at_i took
    | cancel =>
      cases took
      exact .cancel
  · intro s
    cases s <;> simp_all [step, stepCaller]

/-! ## Who is first -/

/-- The token is cancelled by no one but others. -/
def Untouched (others : Prop) (c : Capture) : Prop := c.cancelled = true → others

/-- **What the first caller has made of the latch**, as far as it has come. -/
inductive Stage (others : Prop) (c : Capture) (x : Caller) : Prop where
  | raised (its : x.phase = .raised) (slot : c.slot = none) (log : c.log = [])
      (token : c.Untouched others)
  | logged (its : x.phase = .logged) (slot : c.slot = none)
      (log : c.log = [FatalLatch.event x.context x.failure]) (token : c.Untouched others)
  | stored (its : x.phase = .stored) (slot : c.slot = some (.captured x.failure))
      (log : c.log = [FatalLatch.event x.context x.failure]) (token : c.Untouched others)
  | captured (its : x.phase = .captured) (slot : c.slot = some (.captured x.failure))
      (log : c.log = [FatalLatch.event x.context x.failure]) (token : c.cancelled = true)

/-- All but one caller have their failures back, or have yet to ask. -/
def Rest (c : Capture) (i : Nat) : Prop :=
  ∀ j y, c.callers[j]? = some y → j ≠ i → y.phase = .called ∨ y.phase = .handedBack

/-- **What is so wherever steps lead to**: no caller was first yet and nothing is done, or one was
and the latch is what that one has made of it. -/
inductive Sound (others : Prop) (c : Capture) : Prop where
  | fresh (flag : c.flag = false) (slot : c.slot = none) (log : c.log = [])
      (token : c.Untouched others) (callers : ∀ x ∈ c.callers, x.phase = .called)
  | first {i : Nat} {x : Caller} (flag : c.flag = true) (at_i : c.callers[i]? = some x)
      (stage : c.Stage others x) (rest : c.Rest i)

variable {others : Prop} {p : Caller.Phase}

theorem sound_new {cancelled : Bool} (token : cancelled = true → others) :
    ({ cancelled } : Capture).Sound others := .fresh rfl rfl rfl token nofun

/-- A caller that is neither yet to ask nor served is the first one. -/
theorem Rest.eq_of_phase {j : Nat} {y : Caller} (rest : c.Rest i) (at_j : c.callers[j]? = some y)
    (called : y.phase ≠ .called) (handedBack : y.phase ≠ .handedBack) : j = i :=
  Decidable.byContradiction fun apart => (rest j y at_j apart).elim called handedBack

/-- The first caller takes a step. -/
theorem Sound.own (at_i : c.callers[i]? = some x) (rest : c.Rest i) (flag : d.flag = true)
    (callers : d.callers = c.callers.set i { x with phase := p })
    (stage : d.Stage others { x with phase := p }) : d.Sound others := by
  have within : i < c.callers.length := (List.getElem?_eq_some_iff.mp at_i).1
  refine .first flag (i := i) (by rw [callers, List.getElem?_set_self within]) stage ?_
  intro j y at_j apart
  rw [callers, List.getElem?_set_ne (Ne.symm apart)] at at_j
  exact rest j y at_j apart

/-- Another caller has its failure back. -/
theorem Sound.other {j : Nat} {y : Caller} (flag : d.flag = true) (at_i : c.callers[i]? = some x)
    (stage : d.Stage others x) (rest : c.Rest i) (at_j : c.callers[j]? = some y) (apart : j ≠ i)
    (callers : d.callers = c.callers.set j { y with phase := .handedBack }) : d.Sound others := by
  have within : j < c.callers.length := (List.getElem?_eq_some_iff.mp at_j).1
  refine .first flag (i := i) (by rw [callers, List.getElem?_set_ne apart, at_i]) stage ?_
  intro k z at_k distinct
  rw [callers] at at_k
  by_cases same : j = k
  · subst same
    rw [List.getElem?_set_self within] at at_k
    cases at_k
    exact .inr rfl
  · rw [List.getElem?_set_ne same] at at_k
    exact rest k z at_k distinct

/-- The stage is read off the slot, the log and the token alone. -/
theorem Stage.congr (stage : c.Stage others x) (slot : d.slot = c.slot) (log : d.log = c.log)
    (token : c.cancelled = true → d.cancelled = true)
    (untouched : c.Untouched others → d.Untouched others) : d.Stage others x := by
  cases stage with
  | raised its s l t => exact .raised its (slot.trans s) (log.trans l) (untouched t)
  | logged its s l t => exact .logged its (slot.trans s) (log.trans l) (untouched t)
  | stored its s l t => exact .stored its (slot.trans s) (log.trans l) (untouched t)
  | captured its s l t => exact .captured its (slot.trans s) (log.trans l) (token t)

theorem Stage.of_raised (stage : c.Stage others x) (its : x.phase = .raised) :
    c.slot = none ∧ c.log = [] ∧ c.Untouched others := by
  cases stage <;> simp_all

theorem Stage.of_logged (stage : c.Stage others x) (its : x.phase = .logged) :
    c.slot = none ∧ c.log = [FatalLatch.event x.context x.failure] ∧ c.Untouched others := by
  cases stage <;> simp_all

theorem Stage.of_stored (stage : c.Stage others x) (its : x.phase = .stored) :
    c.slot = some (.captured x.failure) ∧ c.log = [FatalLatch.event x.context x.failure] ∧
      c.Untouched others := by
  cases stage <;> simp_all

theorem Stage.of_captured (stage : c.Stage others x) (its : x.phase = .captured) :
    c.slot = some (.captured x.failure) ∧ c.log = [FatalLatch.event x.context x.failure] ∧
      c.cancelled = true := by
  cases stage <;> simp_all

theorem Stage.phase_ne (stage : c.Stage others x) : x.phase ≠ .called ∧ x.phase ≠ .handedBack := by
  cases stage <;> simp_all

/-- **Every step keeps it.** -/
theorem Sound.step (h : c.Sound others) (s : c.Step m d) (allowed : m = .cancel → others) :
    d.Sound others := by
  cases h with
  | fresh flag slot log token callers =>
    -- no caller has gone further than to ask, so one may come, or raise the flag
    have asked {i : Nat} {x : Caller} (at_i : c.callers[i]? = some x) : x.phase = .called :=
      callers x (List.mem_of_getElem? at_i)
    cases s with
    | call context failure =>
      refine .fresh flag slot log token fun x mem => ?_
      rcases List.mem_append.mp mem with old | new
      · exact callers x old
      · cases List.mem_singleton.mp new
        rfl
    | raise at_i its down =>
      exact .own at_i (fun j y at_j _ => .inl (asked at_j)) rfl rfl (.raised rfl slot log token)
    | handBack at_i its up => exact nomatch flag.symm.trans up
    | log at_i its => exact nomatch its.symm.trans (asked at_i)
    | store at_i its => exact nomatch its.symm.trans (asked at_i)
    | capture at_i its => exact nomatch its.symm.trans (asked at_i)
    | cancel => exact .fresh flag slot log (fun _ => allowed rfl) callers
  | first flag at_i stage rest =>
    rename_i i₀ x₀
    -- a caller between the flag and the end is the first one, whose stage says what is so
    have the_first {j : Nat} {y : Caller} (at_j : c.callers[j]? = some y)
        (called : y.phase ≠ .called) (handedBack : y.phase ≠ .handedBack) : j = i₀ ∧ y = x₀ := by
      obtain rfl := rest.eq_of_phase at_j called handedBack
      exact ⟨rfl, Option.some.inj (at_j.symm.trans at_i)⟩
    cases s with
    | call context failure =>
      have within : i₀ < c.callers.length := (List.getElem?_eq_some_iff.mp at_i).1
      refine .first (i := i₀) flag ((List.getElem?_append_left within).trans at_i)
        (stage.congr rfl rfl id id) fun j y at_j apart => ?_
      rcases Nat.lt_or_ge j c.callers.length with old | new
      · exact rest j y ((List.getElem?_append_left old).symm.trans at_j) apart
      · rw [List.getElem?_append_right new] at at_j
        cases List.mem_singleton.mp (List.mem_of_getElem? at_j)
        exact .inl rfl
    | raise at_j its down => exact nomatch flag.symm.trans down
    | handBack at_j its up =>
      refine .other flag at_i (stage.congr rfl rfl id id) rest at_j ?_ rfl
      rintro rfl
      obtain rfl := Option.some.inj (at_j.symm.trans at_i)
      exact stage.phase_ne.1 its
    | log at_j its =>
      obtain ⟨rfl, rfl⟩ := the_first at_j (by simp [its]) (by simp [its])
      obtain ⟨slot, log, token⟩ := stage.of_raised its
      exact .own at_i rest flag rfl (.logged rfl slot (by simp [log]) token)
    | store at_j its =>
      obtain ⟨rfl, rfl⟩ := the_first at_j (by simp [its]) (by simp [its])
      obtain ⟨slot, log, token⟩ := stage.of_logged its
      exact .own at_i rest flag rfl (.stored rfl (by simp [slot]) log token)
    | capture at_j its =>
      obtain ⟨rfl, rfl⟩ := the_first at_j (by simp [its]) (by simp [its])
      obtain ⟨slot, log, -⟩ := stage.of_stored its
      exact .own at_i rest flag rfl (.captured rfl slot log rfl)
    | cancel =>
      exact .first flag at_i (stage.congr rfl rfl (fun _ => rfl) fun _ _ => allowed rfl) rest

/-- **Wherever steps lead to.** -/
theorem sound_of_steps {cancelled : Bool} {moves : List Move}
    (run : ({ cancelled } : Capture).steps moves = some c) :
    c.Sound (cancelled = true ∨ .cancel ∈ moves) := by
  refine Pool.foldlM_induction (P := Sound (cancelled = true ∨ .cancel ∈ moves))
    (fun {b d m} mem sound took => ?_) (sound_new .inl) run
  exact sound.step (step_eq_some_iff.mp took) fun its => .inr (its ▸ mem)

/-- **What callers side by side get from a latch.**  Either nothing has happened yet, and no caller
is done; or there is a first caller, all others that are done have their failures back, and once the
first is done the latch is as that one alone would have left it. -/
theorem first_of_steps {cancelled : Bool} {moves : List Move}
    (run : ({ cancelled } : Capture).steps moves = some c) :
    (c.flag = false ∧ c.slot = none ∧ c.log = [] ∧
      (c.cancelled = true → cancelled = true ∨ .cancel ∈ moves) ∧
      ∀ x ∈ c.callers, x.returned? = none) ∨
    ∃ (i : Nat) (x : Caller), c.flag = true ∧ c.callers[i]? = some x ∧
      (∀ (j : Nat) y, c.callers[j]? = some y → j ≠ i →
        y.returned? = none ∨ y.returned? = some y.failure) ∧
      let first := ({ cancelled } : FatalLatch).trigger x.context x.failure
      (x.returned? = none ∨ x.returned? = some first.returned ∧ c.latch = first.latch ∧
        c.log = first.events) := by
  cases sound_of_steps run with
  | fresh flag slot log token callers =>
    refine .inl ⟨flag, slot, log, token, fun x mem => ?_⟩
    rw [Caller.returned?, callers x mem]
  | first flag at_i stage rest =>
    rename_i i x
    refine .inr ⟨i, x, flag, at_i, fun j y at_j apart => ?_, ?_⟩
    · rcases rest j y at_j apart with its | its
      · exact .inl (by rw [Caller.returned?, its])
      · exact .inr (by rw [Caller.returned?, its])
    · cases stage with
      | raised its => exact .inl (by rw [Caller.returned?, its])
      | logged its => exact .inl (by rw [Caller.returned?, its])
      | stored its => exact .inl (by rw [Caller.returned?, its])
      | captured its slot log token =>
        exact .inr ⟨by rw [Caller.returned?, its]; rfl, by rw [latch, slot, token]; rfl, log⟩

/-! ## A caller with the latch to itself -/

/-- No caller has the flag up and something left to do. -/
def AtRest (c : Capture) : Prop :=
  ∀ x ∈ c.callers, x.phase = .called ∨ x.phase = .captured ∨ x.phase = .handedBack

/-- At rest the flag says whether the slot is full. -/
theorem Sound.flag_eq (h : c.Sound others) (atRest : c.AtRest) : c.flag = c.slot.isSome := by
  cases h with
  | fresh flag slot =>
    rw [flag, slot]
    rfl
  | first flag at_i stage =>
    have ended := (atRest _ (List.mem_of_getElem? at_i)).resolve_left stage.phase_ne.1
    obtain ⟨slot, -, -⟩ := stage.of_captured (ended.resolve_right stage.phase_ne.2)
    rw [flag, slot]
    rfl

/-- **A caller that has the latch to itself** gets from it what the latch gives in one go, and
leaves it as the latch would be left. -/
theorem exists_alone (h : c.Sound others) (atRest : c.AtRest) (context : String) (f : Failure) :
    let t := c.latch.trigger context f
    ∃ moves d x, (∀ m ∈ moves, m = .caller c.callers.length) ∧
      c.steps (.call context f :: moves) = some d ∧
      d.callers = c.callers ++ [x] ∧ x.returned? = some t.returned ∧
      d.latch = t.latch ∧ d.log = c.log ++ t.events := by
  intro t
  have filled := h.flag_eq atRest
  cases slot : c.slot with
  | some g =>
    have up : c.flag = true := by rw [filled, slot]; rfl
    have given : t = ⟨c.latch, f, []⟩ := by simp only [t, FatalLatch.trigger, latch, slot]
    refine ⟨[.caller c.callers.length],
      { c with callers := c.callers ++ [{ context, failure := f, phase := .handedBack }] },
      { context, failure := f, phase := .handedBack }, by simp, ?_, rfl, by rw [given]; rfl,
      by rw [given]; rfl, by rw [given]; simp⟩
    simp [steps, step, stepCaller, setPhase, up]
  | none =>
    have down : c.flag = false := by rw [filled, slot]; rfl
    have given : t = ⟨⟨some (.captured f), true⟩, .captured f, [FatalLatch.event context f]⟩ := by
      simp only [t, FatalLatch.trigger, latch, slot]
    refine ⟨List.replicate 4 (.caller c.callers.length),
      { flag := true
        slot := some (.captured f)
        cancelled := true
        callers := c.callers ++ [{ context, failure := f, phase := .captured }]
        log := c.log ++ [FatalLatch.event context f] },
      { context, failure := f, phase := .captured }, by simp, ?_, rfl, by rw [given]; rfl,
      by rw [given]; rfl, by rw [given]⟩
    simp [steps, step, stepCaller, setPhase, down, slot]

end Relaunch.Capture
