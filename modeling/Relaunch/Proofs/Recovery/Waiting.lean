import Mathlib.Data.List.Induction
import Relaunch.Proofs.Recovery.Scan

/-!
# Proofs/Recovery/Waiting — no one who waits for a cycle sleeps past its end

An observer asks for a notice before it looks, and whatever can complete a cycle sends one to all
who asked before.  So of an observer that sleeps there are two kinds: a notice was sent since it
asked, and it will look again; or none was, and then nothing has happened that could have completed
the cycle since it looked.

* `Step` — the steps of a latch, with what each needs.
* `Awake` — what is so of an observer wherever steps lead to, `Awake.step` and `awake_of_steps`.
* `no_notice_lost` — while a cycle is caught up no observer sleeps without a notice, and whoever is
  done saw it caught up.
* `Scan.Step.latch_cases`, `Scan.exists_observer_step` — in recovery as a whole the latch takes no
  other steps, so there too no one sleeps past the end of a cycle.
-/

namespace Relaunch

namespace Latch

/-- The latch after some moves; `none` if one of them cannot be made. -/
def steps (l : Latch) (moves : List Move) : Option Latch := moves.foldlM (fun l m => step m l) l

def setWaiter (l : Latch) (i : Nat) (w : Waiter) : Latch := { l with waiters := l.waiters.set i w }

/-- **The steps of a latch.** -/
inductive Step (l : Latch) : Move → Latch → Prop where
  | reset : Step l .reset { l with progress := l.progress.reset }
  | discover (count : Nat) :
      Step l (.discover count)
        { l with progress := l.progress.discover count, epoch := l.epoch + 1 }
  | resume : Step l .resume { l with progress := l.progress.resume, epoch := l.epoch + 1 }
  | join : Step l .join { l with waiters := l.waiters ++ [.start] }
  /-- An observer asks for a notice. -/
  | ask {i : Nat} (at_i : l.waiters[i]? = some .start) :
      Step l (.waiter i) (l.setWaiter i (.armed l.epoch))
  /-- It looks, and the cycle is caught up. -/
  | pass {i epoch : Nat} (at_i : l.waiters[i]? = some (.armed epoch))
      (caught : l.progress.isCaughtUp = true) : Step l (.waiter i) (l.setWaiter i .done)
  /-- It looks, and the cycle is not. -/
  | sleep {i epoch : Nat} (at_i : l.waiters[i]? = some (.armed epoch))
      (behind : l.progress.isCaughtUp = false) :
      Step l (.waiter i) (l.setWaiter i (.parked epoch))
  /-- A notice wakes it. -/
  | wake {i epoch : Nat} (at_i : l.waiters[i]? = some (.parked epoch)) (sent : epoch < l.epoch) :
      Step l (.waiter i) (l.setWaiter i .start)

variable {l k : Latch} {m : Move}

/-- **The steps are those of the step function.** -/
theorem step_eq_some_iff : step m l = some k ↔ l.Step m k := by
  constructor
  · intro took
    cases m with
    | reset => cases took; exact .reset
    | discover count => cases took; exact .discover count
    | resume => cases took; exact .resume
    | join => cases took; exact .join
    | waiter i =>
      obtain ⟨w, at_i, went⟩ := Option.bind_eq_some_iff.mp took
      obtain ⟨v, advanced, set⟩ := Option.bind_eq_some_iff.mp went
      cases set
      cases w with
      | start =>
        cases advanced
        exact .ask at_i
      | armed epoch =>
        cases caught : l.progress.isCaughtUp with
        | true =>
          simp only [advance, caught, if_true] at advanced
          cases advanced
          exact .pass at_i caught
        | false =>
          simp only [advance, caught] at advanced
          cases advanced
          exact .sleep at_i caught
      | parked epoch =>
        simp only [advance] at advanced
        split at advanced
        · rename_i sent
          cases advanced
          exact .wake at_i sent
        · cases advanced
      | done => cases advanced
  · intro s
    cases s with
    | ask at_i => simp only [step, at_i]; rfl
    | pass at_i caught => simp [step, at_i, advance, caught, setWaiter]
    | sleep at_i behind => simp [step, at_i, advance, behind, setWaiter]
    | wake at_i sent => simp [step, at_i, advance, sent, setWaiter]
    | _ => rfl

theorem steps_concat {moves : List Move} :
    l.steps (moves ++ [m]) = some k ↔ ∃ j, l.steps moves = some j ∧ j.Step m k := by
  rw [steps, List.foldlM_append, ← steps]
  simp [Option.bind_eq_some_iff, step_eq_some_iff]

/-! ## Who sleeps -/

/-- **What is so of an observer**: it asked no later than now; and if it sleeps and no notice was
sent since it asked, the cycle is not caught up. -/
inductive Awake (l : Latch) : Waiter → Prop where
  | start : Awake l .start
  | armed {epoch : Nat} (asked : epoch ≤ l.epoch) : Awake l (.armed epoch)
  | parked {epoch : Nat} (asked : epoch ≤ l.epoch)
      (noticed : l.progress.isCaughtUp = true → epoch < l.epoch) : Awake l (.parked epoch)
  | done : Awake l .done

variable {w : Waiter}

/-- A notice reaches all who asked before, whatever came with it. -/
theorem Awake.notify (h : l.Awake w) (sent : k.epoch = l.epoch + 1) : k.Awake w := by
  cases h with
  | start => exact .start
  | armed asked => exact .armed (by omega)
  | parked asked noticed => exact .parked (by omega) fun _ => by omega
  | done => exact .done

/-- Without a notice all is as before, unless the cycle has come to be caught up. -/
theorem Awake.mono (h : l.Awake w) (epoch : k.epoch = l.epoch)
    (caught : k.progress.isCaughtUp = true → l.progress.isCaughtUp = true) : k.Awake w := by
  cases h with
  | start => exact .start
  | armed asked => exact .armed (epoch ▸ asked)
  | parked asked noticed => exact .parked (epoch ▸ asked) fun now => epoch ▸ noticed (caught now)
  | done => exact .done

/-- What an observer's own step leaves it in. -/
theorem Awake.set (h : ∀ w ∈ l.waiters, l.Awake w) {i : Nat} {v : Waiter} (own : l.Awake v) :
    ∀ w ∈ (l.setWaiter i v).waiters, (l.setWaiter i v).Awake w := by
  intro w mem
  rcases List.mem_or_eq_of_mem_set mem with before | rfl
  · exact (h w before).mono rfl id
  · exact own.mono rfl id

/-- **Every step keeps it**, whoever takes it. -/
theorem Awake.step (h : ∀ w ∈ l.waiters, l.Awake w) (s : l.Step m k) :
    ∀ w ∈ k.waiters, k.Awake w := by
  cases s with
  | reset => exact fun w mem => (h w mem).mono rfl nofun
  | discover count => exact fun w mem => (h w mem).notify rfl
  | resume => exact fun w mem => (h w mem).notify rfl
  | join =>
    intro w mem
    rcases List.mem_append.mp mem with before | new
    · exact (h w before).mono rfl id
    · obtain rfl := List.mem_singleton.mp new
      exact .start
  | ask at_i => exact Awake.set h (.armed (Nat.le_refl _))
  | pass at_i caught => exact Awake.set h .done
  | sleep at_i behind =>
    -- it asked before it looked, and when it looked the cycle was not caught up
    cases h _ (List.mem_of_getElem? at_i) with
    | armed asked =>
      exact Awake.set h (.parked asked fun caught => absurd (behind.symm.trans caught) nofun)
  | wake at_i sent => exact Awake.set h .start

/-- **And so do any steps.** -/
theorem awake_of_steps {moves : List Move} (went : steps {} moves = some l) :
    ∀ w ∈ l.waiters, l.Awake w :=
  Pool.foldlM_induction (P := fun l => ∀ w ∈ l.waiters, l.Awake w)
    (fun _ h took => Awake.step h (step_eq_some_iff.mp took)) nofun went

/-- **An observer gets through while the cycle is caught up**, wherever it stands. -/
theorem Awake.restWaiter_eq (h : l.Awake w) (caught : l.progress.isCaughtUp = true) :
    l.restWaiter 4 w = .done := by
  cases h with
  | start => simp [restWaiter, advance, caught]
  | armed asked => simp [restWaiter, advance, caught]
  | parked asked noticed => simp [restWaiter, advance, caught, noticed caught]
  | done => rfl

/-! ## Steps of others -/

/-- Others leave an observer where it is, and no notice is taken back. -/
theorem Step.kept (s : l.Step m k) {i : Nat} (other : m ≠ .waiter i)
    (at_i : l.waiters[i]? = some w) : k.waiters[i]? = some w ∧ l.epoch ≤ k.epoch := by
  have elsewhere {j : Nat} (v : Waiter) (is : m = .waiter j) :
      (l.setWaiter j v).waiters[i]? = some w := by
    have ne : j ≠ i := fun eq => other (eq ▸ is)
    exact (List.getElem?_set_ne ne).trans at_i
  cases s with
  | reset => exact ⟨at_i, Nat.le_refl _⟩
  | discover count => exact ⟨at_i, Nat.le_succ _⟩
  | resume => exact ⟨at_i, Nat.le_succ _⟩
  | join =>
    obtain ⟨bound, -⟩ := List.getElem?_eq_some_iff.mp at_i
    exact ⟨(List.getElem?_append_left bound).trans at_i, Nat.le_refl _⟩
  | ask at_j => exact ⟨elsewhere _ rfl, Nat.le_refl _⟩
  | pass at_j caught => exact ⟨elsewhere _ rfl, Nat.le_refl _⟩
  | sleep at_j behind => exact ⟨elsewhere _ rfl, Nat.le_refl _⟩
  | wake at_j sent => exact ⟨elsewhere _ rfl, Nat.le_refl _⟩

/-- **A notice that was sent stays until the observer takes it.** -/
theorem kept_of_steps {i : Nat} {moves : List Move} (others : .waiter i ∉ moves)
    (at_i : l.waiters[i]? = some w) (went : l.steps moves = some k) :
    k.waiters[i]? = some w ∧ l.epoch ≤ k.epoch := by
  refine Pool.foldlM_induction (P := fun k => k.waiters[i]? = some w ∧ l.epoch ≤ k.epoch) ?_
    ⟨at_i, Nat.le_refl _⟩ went
  rintro j k m mem ⟨there, le⟩ took
  obtain ⟨there, le'⟩ :=
    (step_eq_some_iff.mp took).kept (fun is => others (is ▸ mem)) there
  exact ⟨there, Nat.le_trans le le'⟩

/-- Someone who is done after an observer's step was done before, or is that observer. -/
theorem done_of_setWaiter {i j : Nat} {v : Waiter}
    (done : (l.setWaiter j v).waiters[i]? = some .done) :
    l.waiters[i]? = some .done ∨ j = i ∧ v = .done := by
  by_cases own : j = i
  · obtain ⟨bound, eq⟩ := List.getElem?_eq_some_iff.mp done
    simp only [setWaiter, own, List.getElem_set_self] at eq
    exact .inr ⟨own, eq⟩
  · exact .inl ((List.getElem?_set_ne own).symm.trans done)

/-- **What it takes to be done**: a look at a cycle that is caught up. -/
theorem Step.done_cases (s : l.Step m k) {i : Nat} (done : k.waiters[i]? = some .done) :
    l.waiters[i]? = some .done ∨
      m = .waiter i ∧ l.progress.isCaughtUp = true ∧
        ∃ epoch, l.waiters[i]? = some (.armed epoch) := by
  cases s with
  | reset => exact .inl done
  | discover count => exact .inl done
  | resume => exact .inl done
  | join =>
    refine .inl ?_
    rw [List.getElem?_append] at done
    split at done
    · exact done
    · cases List.mem_singleton.mp (List.mem_of_getElem? done)
  | ask at_j =>
    rcases done_of_setWaiter done with before | ⟨-, ⟨⟩⟩
    exact .inl before
  | pass at_j caught =>
    rcases done_of_setWaiter done with before | ⟨rfl, -⟩
    · exact .inl before
    · exact .inr ⟨rfl, caught, _, at_j⟩
  | sleep at_j behind =>
    rcases done_of_setWaiter done with before | ⟨-, ⟨⟩⟩
    exact .inl before
  | wake at_j sent =>
    rcases done_of_setWaiter done with before | ⟨-, ⟨⟩⟩
    exact .inl before

/-- Whoever is done takes no step. -/
theorem Step.ne_of_done (s : l.Step m k) {i : Nat} (done : l.waiters[i]? = some .done) :
    m ≠ .waiter i := by
  rintro rfl
  cases s with
  | ask at_i => cases done.symm.trans at_i
  | pass at_i => cases done.symm.trans at_i
  | sleep at_i => cases done.symm.trans at_i
  | wake at_i => cases done.symm.trans at_i

/-- **Whoever is done looked at a cycle that was caught up**, and took no step since. -/
theorem exists_look {i : Nat} {moves : List Move} (went : steps {} moves = some l)
    (done : l.waiters[i]? = some .done) : ∃ before after j epoch,
      moves = before ++ .waiter i :: after ∧ .waiter i ∉ after ∧ steps {} before = some j ∧
        j.waiters[i]? = some (.armed epoch) ∧ j.progress.isCaughtUp = true := by
  induction moves using List.reverseRecOn generalizing l with
  | nil =>
    cases went
    cases done
  | append_singleton moves m ih =>
    obtain ⟨j, first, s⟩ := steps_concat.mp went
    rcases s.done_cases done with before | ⟨rfl, caught, epoch, looked⟩
    · obtain ⟨before', after, j', epoch, rfl, others, rest⟩ := ih first before
      refine ⟨before', after ++ [m], j', epoch, by rw [List.append_assoc]; rfl, ?_, rest⟩
      rw [List.mem_append, List.mem_singleton, not_or]
      exact ⟨others, (s.ne_of_done before).symm⟩
    · exact ⟨moves, [], j, epoch, rfl, List.not_mem_nil, first, looked, caught⟩

/-- A notice wakes an observer, and the next thing it does is to ask for another and look. -/
theorem steps_of_noticed {i epoch : Nat} (at_i : l.waiters[i]? = some (.parked epoch))
    (sent : epoch < l.epoch) :
    l.steps [.waiter i, .waiter i] = some (l.setWaiter i (.armed l.epoch)) := by
  obtain ⟨bound, -⟩ := List.getElem?_eq_some_iff.mp at_i
  have woken : (l.setWaiter i .start).waiters[i]? = some .start :=
    List.getElem?_set_self bound
  have first : step (.waiter i) l = some (l.setWaiter i .start) :=
    step_eq_some_iff.mpr (.wake at_i sent)
  have second : step (.waiter i) (l.setWaiter i .start)
      = some ((l.setWaiter i .start).setWaiter i (.armed l.epoch)) :=
    step_eq_some_iff.mpr (.ask woken)
  have again : (l.setWaiter i .start).setWaiter i (.armed l.epoch)
      = l.setWaiter i (.armed l.epoch) := by simp only [setWaiter, List.set_set]
  rw [steps, List.foldlM_cons, first, Option.bind_eq_bind, Option.bind_some, List.foldlM_cons,
    second, again]
  rfl

/-- **No notice is lost.**  Some moves were made, in any order and by anyone.

* If the cycle is caught up, a notice was sent to every observer that sleeps since it asked for one;
  its own next steps are to wake, to ask again, and to look.
* A notice stays until the observer takes it, whatever the others do.
* While the cycle stays caught up, every observer gets through.
* Whoever is done was done by a look at a cycle that was caught up, its last step. -/
theorem no_notice_lost {moves : List Move} {l : Latch} (went : steps {} moves = some l) :
    (l.progress.isCaughtUp = true → ∀ i epoch, l.waiters[i]? = some (.parked epoch) →
      epoch < l.epoch ∧
        l.steps [.waiter i, .waiter i] = some (l.setWaiter i (.armed l.epoch))) ∧
    (∀ i epoch later k, l.waiters[i]? = some (.parked epoch) → epoch < l.epoch →
      .waiter i ∉ later → l.steps later = some k →
        k.waiters[i]? = some (.parked epoch) ∧ epoch < k.epoch) ∧
    (l.progress.isCaughtUp = true → ∀ w ∈ l.rest.waiters, w = .done) ∧
    ∀ i, l.waiters[i]? = some .done → ∃ before after j epoch,
      moves = before ++ .waiter i :: after ∧ .waiter i ∉ after ∧ steps {} before = some j ∧
        j.waiters[i]? = some (.armed epoch) ∧ j.progress.isCaughtUp = true := by
  have awake := awake_of_steps went
  refine ⟨fun caught i epoch at_i => ?_, fun i epoch later k at_i sent others on => ?_,
    fun caught w mem => ?_, fun i done => exists_look went done⟩
  · cases awake _ (List.mem_of_getElem? at_i) with
    | parked asked noticed => exact ⟨noticed caught, steps_of_noticed at_i (noticed caught)⟩
  · obtain ⟨there, le⟩ := kept_of_steps others at_i on
    exact ⟨there, Nat.lt_of_lt_of_le sent le⟩
  · obtain ⟨v, there, rfl⟩ := List.mem_map.mp mem
    exact (awake v there).restWaiter_eq caught

/-- Two observers; one sleeps through a cycle that is given up, the other asks before the last claim
is at its end and looks after it. -/
theorem no_notice_lost_of_two :
    let moves : List Move := [.join, .discover 1, .waiter 0, .waiter 0, .reset, .join, .discover 1,
      .waiter 1, .resume, .waiter 1]
    let l : Latch := ⟨⟨1, 1, true⟩, 3, [.parked 1, .done]⟩
    steps {} moves = some l ∧ 1 < l.epoch ∧ (∀ w ∈ l.rest.waiters, w = .done) ∧
      ∃ before after j epoch, moves = before ++ .waiter 1 :: after ∧ .waiter 1 ∉ after ∧
        steps {} before = some j ∧ j.waiters[1]? = some (.armed epoch) ∧
        j.progress.isCaughtUp = true := by
  intro moves l
  have went : steps {} moves = some l := by decide
  obtain ⟨noticed, -, through, looked⟩ := no_notice_lost went
  exact ⟨went, (noticed rfl 0 1 rfl).1, through rfl, looked 1 rfl⟩

end Latch

namespace Scan

/-! ## Recovery as a whole -/

variable [Clock] {s t : Scan} {m : Move}

/-- **A step of recovery is a step of its latch**, or it leaves the latch as it is. -/
theorem Step.latch_cases (h : s.Step m t) : t.latch = s.latch ∨ ∃ n, s.latch.Step n t.latch := by
  cases h with
  | ask rests => exact .inr ⟨_, .reset⟩
  | @hear start query asks past =>
    rw [Scan.hear, afterQuery_of_le past]
    cases query.result with
    | error e => exact .inl rfl
    | ok response => exact .inr ⟨_, .discover response.workloads.length⟩
  | launch waits => exact .inl rfl
  | conclude launches there => exact .inl rfl
  | @pool m p own went =>
    let sent := p.progress.resumed - s.pool.progress.resumed
    change (⟨p.progress, s.epoch + sent, s.waiters⟩ : Latch) = s.latch ∨
      ∃ n, s.latch.Step n ⟨p.progress, s.epoch + sent, s.waiters⟩
    rcases (Pool.Step.of_step went).progress_cases with same | resumed
    · have none : sent = 0 := by simp only [sent, same, Nat.sub_self]
      rw [none, same]
      exact .inl rfl
    · have one : sent = 1 := by simp only [sent, resumed, Progress.resume, Nat.add_sub_cancel_left]
      rw [one, resumed]
      exact .inr ⟨_, .resume⟩
  | join => exact .inr ⟨_, .join⟩
  | @observer i l looks =>
    have own := Latch.step_eq_some_iff.mp looks
    have same : { s with waiters := l.waiters }.latch = l := by cases own <;> rfl
    exact .inr ⟨_, same ▸ own⟩

section Steps

variable {owner : String} {policy : Backoff} {script : Script} {parallelism : Nat}
  {pipeline : Pipeline} {start : Nat} {moves : List Move}

/-- **What is so of an observer in recovery as a whole.** -/
theorem awake_of_steps
    (went : (new owner policy script parallelism pipeline start).steps moves = some s) :
    ∀ w ∈ s.latch.waiters, s.latch.Awake w := by
  refine Pool.foldlM_induction (P := fun s : Scan => ∀ w ∈ s.latch.waiters, s.latch.Awake w)
    (fun mem h took => ?_) (List.forall_mem_nil _) went
  rcases (Step.of_step took).latch_cases with same | ⟨n, moved⟩
  · exact same ▸ h
  · exact Latch.Awake.step h moved

/-- **No one sleeps through the end of a cycle**: once recovery is caught up, every observer can
take its next step, unless it is done. -/
theorem exists_observer_step
    (went : (new owner policy script parallelism pipeline start).steps moves = some s)
    (caught : s.pool.progress.isCaughtUp = true) {i : Nat} {w : Waiter}
    (at_i : s.waiters[i]? = some w) : w = .done ∨ ∃ t, s.step (.observer i) = some t := by
  have took {l : Latch} (own : s.latch.Step (.waiter i) l) : ∃ t, s.step (.observer i) = some t :=
    ⟨_, congrArg (Option.map _) (Latch.step_eq_some_iff.mpr own)⟩
  cases awake_of_steps went w (List.mem_of_getElem? at_i) with
  | start => exact .inr (took (.ask at_i))
  | armed asked => exact .inr (took (.pass at_i caught))
  | parked asked noticed => exact .inr (took (.wake at_i (noticed caught)))
  | done => exact .inl rfl

end Steps

end Scan

end Relaunch
