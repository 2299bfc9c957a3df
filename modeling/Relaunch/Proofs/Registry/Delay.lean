import Relaunch.Config.Basic
import Relaunch.Proofs.Registry.Client
import Mathlib.Order.Monotone.Basic

/-!
# Proofs/Registry/Delay — the delays of a retry loop in closed form

Delays are doubled step by step, in a range that ends at the longest duration, and cut off at the
policy's ceiling at every step.  In whole nanoseconds they are what doubling without end and without
a range gives, cut off once: the ceiling lies in the range, so a doubling that would leave it is cut
off by the ceiling in any case.

* `Backoff.nanos_delay` — the closed form of the delays.
* `Retry.waits_run`, `Query.waited_runFrom`, `Client.sleeps_eq` — those delays are what a loop hands
  on, and how long it sleeps.
* `Backoff.delays_exact` — all of it for any two bounds.
-/

namespace Relaunch

namespace Backoff

/-- **Doubling without end**, in nanoseconds; nothing is followed by a millisecond. -/
def growth (initial : Nat) : Nat → Nat
  | 0 => initial
  | n + 1 => if growth initial n = 0 then 1000000 else 2 * growth initial n

theorem growth_of_pos {initial : Nat} (some_delay : 0 < initial) (n : Nat) :
    growth initial n = initial * 2 ^ n := by
  induction n with
  | zero => rw [growth, Nat.pow_zero, Nat.mul_one]
  | succ n ih =>
    have positive : growth initial n ≠ 0 := by
      rw [ih]
      exact Nat.ne_of_gt (Nat.mul_pos some_delay (Nat.two_pow_pos n))
    rw [growth, if_neg positive, ih, Nat.pow_succ', Nat.mul_left_comm]

theorem growth_of_zero (n : Nat) : growth 0 (n + 1) = 1000000 * 2 ^ n := by
  induction n with
  | zero => rfl
  | succ n ih =>
    have positive : growth 0 (n + 1) ≠ 0 := by
      rw [ih]
      exact Nat.ne_of_gt (Nat.mul_pos (by decide) (Nat.two_pow_pos n))
    rw [growth, if_neg positive, ih, Nat.pow_succ', Nat.mul_left_comm]

/-- A delay after the first is some time, where there is no range and no ceiling. -/
theorem growth_succ_pos (initial n : Nat) : 0 < growth initial (n + 1) := by
  rw [growth]
  split <;> omega

theorem growth_mono (initial : Nat) : Monotone (growth initial) := by
  refine monotone_nat_of_le_succ fun n => ?_
  rw [growth]
  split <;> omega

/-! ## One step -/

/-- **The next delay in nanoseconds**: the ceiling hides where doubling stops at the end of the
range. -/
theorem nanos_next (ceiling current : Duration) :
    (next ceiling current).nanos
      = min (if current.nanos = 0 then 1000000 else 2 * current.nanos) ceiling.nanos := by
  have within := ceiling.nanos_lt
  have doubled : current.double.nanos
      = min (2 * current.nanos) 18446744073709551615999999999 := Duration.nanos_ofNanos _
  by_cases zero : current.nanos = 0
  · have none : current.isZero = true := beq_iff_eq.mpr zero
    have milli : (Duration.ofMillis 1).nanos = 1000000 := rfl
    rw [next, if_pos none, if_pos zero, Duration.nanos_min, milli, Nat.min_comm]
  · have some_delay : ¬current.isZero = true := fun none => zero (beq_iff_eq.mp none)
    rw [next, if_neg some_delay, if_neg zero]
    split
    · rename_i past
      have past : ceiling.nanos < current.double.nanos := past
      omega
    · rename_i below
      have below : ¬ceiling.nanos < current.double.nanos := below
      omega

/-- The ceiling of a policy of two bounds is the greater of them. -/
theorem ceiling_ofBounds (initial ceiling : Duration) :
    (ofBounds initial ceiling).ceiling = max initial ceiling := by
  refine Duration.ext ?_
  rw [ofBounds, Duration.nanos_max, Duration.nanos_max, Nat.max_comm]

/-- **The delays of a policy in closed form.** -/
theorem nanos_delay (initial ceiling : Duration) (n : Nat) :
    ((ofBounds initial ceiling).delay n).nanos
      = min (growth initial.nanos n) (max initial ceiling).nanos := by
  induction n with
  | zero =>
    rw [delay, growth, Duration.nanos_max]
    exact (Nat.min_eq_left (Nat.le_max_left _ _)).symm
  | succ n ih =>
    rw [delay, nanos_next, ih, ceiling_ofBounds, growth]
    generalize growth initial.nanos n = grown
    generalize (max initial ceiling).nanos = most
    split <;> split <;> omega

/-! ## What follows from it -/

section Bounds

variable {initial ceiling : Duration} {n m : Nat}

/-- Delays do not get shorter. -/
theorem delay_le_delay (later : n ≤ m) :
    (ofBounds initial ceiling).delay n ≤ (ofBounds initial ceiling).delay m := by
  have grows := growth_mono initial.nanos later
  rw [Duration.le_def, nanos_delay, nanos_delay]
  omega

theorem delay_le (n : Nat) : (ofBounds initial ceiling).delay n ≤ max initial ceiling := by
  rw [Duration.le_def, nanos_delay]
  exact Nat.min_le_right _ _

theorem initial_le_delay (n : Nat) : initial ≤ (ofBounds initial ceiling).delay n :=
  delay_le_delay (Nat.zero_le n)

/-- **A delay that has reached the ceiling stays there.** -/
theorem delay_of_reached (later : n ≤ m)
    (reached : (ofBounds initial ceiling).delay n = max initial ceiling) :
    (ofBounds initial ceiling).delay m = max initial ceiling := by
  have above : max initial ceiling ≤ _ := reached ▸ delay_le_delay later
  exact Duration.ext (Nat.le_antisymm (delay_le m) above)

/-- Only a ceiling of nothing makes a delay after the first nothing. -/
theorem max_eq_zero_of_delay
    (none : (ofBounds initial ceiling).delay (n + 1) = .zero) : max initial ceiling = .zero := by
  have least := congrArg Duration.nanos none
  have positive := growth_succ_pos initial.nanos n
  rw [nanos_delay] at least
  refine Duration.ext ?_
  have zero : Duration.zero.nanos = 0 := rfl
  omega

end Bounds

end Backoff

/-- **A valid configuration's ceiling is its longest backoff.** -/
theorem Config.backoff_of_valid {c : Config} (valid : c.validate = .ok ()) :
    c.backoff = ⟨c.initialBackoff, c.maxBackoff⟩ := by
  have ordered : ¬c.initialBackoff > c.maxBackoff := by
    unfold validate at valid
    split_ifs at valid
    assumption
  have ordered : ¬c.maxBackoff.nanos < c.initialBackoff.nanos := ordered
  have ceiling : max c.maxBackoff c.initialBackoff = c.maxBackoff := by
    refine Duration.ext ?_
    rw [Duration.nanos_max]
    omega
  rw [backoff, Backoff.ofBounds, ceiling]

/-! ## The delays that a loop hands on -/

namespace Retry

/-- Whether the loop waits after a reply. -/
def isPutOff (classify : ε → Disposition) : Except ε α → Bool
  | .ok _ => false
  | .error e => classify e = .retry

/-- The number of the attempt and the delay that are handed on before a wait. -/
def Sign.wait? : Sign ε → Option (Nat × Duration)
  | .retry attempt delay _ => some (attempt, delay)
  | .call _ | .classify _ => none

/-- **The waits of a loop**, one after each reply up to the first that ends it. -/
theorem waits_run (policy : Backoff) (classify : ε → Disposition) (last : α) (m : Nat)
    (replies : List (Except ε α)) :
    (run policy classify last (nth policy m) replies).1.filterMap Sign.wait?
      = (List.range (replies.takeWhile (isPutOff classify)).length).map
          fun n => (m + n + 1, policy.delay (m + n)) := by
  induction replies generalizing m with
  | nil => rfl
  | cons reply replies ih =>
    cases reply with
    | ok a => rfl
    | error e =>
      cases disposition : classify e with
      | retry =>
        have off : isPutOff classify (.error e : Except ε α) = true := by
          simp [isPutOff, disposition]
        rw [List.takeWhile_cons_of_pos off, List.length_cons, List.range_succ_eq_map, List.map_cons,
          List.map_map]
        simp only [run, take, disposition, List.filterMap_cons, Sign.wait?]
        rw [show (nth policy m).again policy = nth policy (m + 1) from rfl, ih, attempt_nth,
          delay_eq]
        refine congrArg _ (List.map_congr_left fun n _ => ?_)
        rw [Function.comp_apply, Nat.succ_eq_add_one, Nat.add_right_comm m 1 n, Nat.add_assoc m n 1]
      | abort => simp [run, take, isPutOff, disposition, Sign.wait?]
      | fatal => simp [run, take, isPutOff, disposition, Sign.wait?]

end Retry

namespace Query

/-- A query calls at once. -/
theorem first_call [Clock] (policy : Backoff) (request : ListRequest) (r : Retry) (time : Nat)
    (script : Script) :
    (runFrom policy request r time script).calls[0]? = some ⟨time, request⟩ := by
  cases script <;> rfl

/-- **A query sleeps for its delays**: a retry is logged when the reply comes, and the next call is
made when the delay that was logged is over. -/
theorem waited_runFrom [Clock] (policy : Backoff) (request : ListRequest) (m time : Nat)
    (script : Script) {n : Nat}
    (retried : n < (runFrom policy request (Retry.nth policy m) time script).retries) :
    let q := runFrom policy request (Retry.nth policy m) time script
    ∃ (reached : Nat) (e : RegistryError),
      q.log[n]? = some ⟨reached,
        .queryRetried (ownerName request) e (m + n + 1) (policy.delay (m + n))⟩ ∧
      q.calls[n + 1]? = some ⟨reached + (policy.delay (m + n)).ticks reached, request⟩ := by
  induction script generalizing m time n with
  | nil => exact absurd retried (Nat.not_lt_zero n)
  | cons answer script ih =>
    simp only [runFrom, calling] at retried ⊢
    split at retried
    · exact absurd retried (Nat.not_lt_zero n)
    · exact absurd retried (Nat.not_lt_zero n)
    · rename_i e next
      cases n with
      | zero =>
        simp only [Nat.add_zero, retry, Retry.attempt_nth, Retry.delay_eq]
        exact ⟨_, e, rfl, first_call _ _ _ _ _⟩
      | succ n =>
        have goesOn := ih (m + 1) _ (Nat.lt_of_succ_lt_succ retried)
        rw [Nat.add_right_comm m 1 n] at goesOn
        exact goesOn

end Query

/-- How long a query sleeps. -/
def Act.sleep? : Act → Option Duration
  | sleep delay => some delay
  | call _ | hear _ | log _ => none

/-- The number of the attempt and the delay that a query logs before it sleeps. -/
def Act.retried? : Act → Option (Nat × Duration)
  | log (.queryRetried _ _ attempt delay) => some (attempt, delay)
  | _ => none

namespace Client

/-- What is read off the retries of a query, if each gives one thing. -/
theorem filterMap_retrials {policy : Backoff} {request : ListRequest} {f : Act → Option β}
    {g : Nat → β} (each : ∀ n e, (Query.retrial policy request n e).filterMap f = [g n])
    (errors : List RegistryError) :
    (Query.retrials policy request errors).filterMap f = (List.range errors.length).map g := by
  induction errors using List.reverseRecOn with
  | nil => rfl
  | append_singleton errors e ih =>
    rw [Query.retrials_concat, List.filterMap_append, ih, each, List.length_append,
      List.length_singleton, List.range_succ, List.map_append, List.map_singleton]

/-- What is read off the end of a query, if none of its acts gives anything. -/
theorem filterMap_ending {f : Act → Option β} {request : ListRequest} {reply : ListReply}
    {events : List Event} (call : f (.call request) = none) (hear : f (.hear reply) = none)
    (words : ∀ event ∈ events, f (.log event) = none) :
    (Act.call request :: .hear reply :: events.map .log).filterMap f = [] := by
  rw [List.filterMap_cons_none call, List.filterMap_cons_none hear, List.filterMap_map]
  exact List.filterMap_eq_nil_iff.mpr words

/-- A query's last words are of no retry. -/
theorem retried?_of_mem_lastEvents {request : ListRequest} {attempts : Nat} {reply : ListReply}
    {event : Event} (mem : event ∈ Query.lastEvents request attempts reply) :
    (Act.log event).retried? = none := by
  unfold Query.lastEvents at mem
  cases reply with
  | ok response =>
    rcases List.mem_append.mp mem with recovered | completed
    · split at recovered
      · cases recovered
      · obtain rfl := List.mem_singleton.mp recovered
        rfl
    · obtain rfl := List.mem_singleton.mp completed
      rfl
  | error e =>
    simp only at mem
    split at mem <;> obtain rfl := List.mem_singleton.mp mem <;> rfl

/-- **A query sleeps for the delays of its policy**, one after another, and logs each of them
first. -/
theorem sleeps_eq [Clock] {policy : Backoff} {start : Nat} {tally : Tally}
    {moves : List Client.Move} {c : Client}
    (went : (Client.new policy start tally).steps moves = some c) {i : Nat}
    {q : Inquiry} (at_i : c.inquiries[i]? = some q) :
    (c.acts i).filterMap Act.sleep? = (List.range q.retries).map policy.delay ∧
      (c.acts i).filterMap Act.retried?
        = (List.range q.retries).map fun n => (n + 1, policy.delay n) := by
  obtain ⟨errors, -, stands⟩ := ((sane_new policy start tally).steps went).standing i q at_i
  rw [stands.retries_eq]
  have sleeps : (Query.retrials policy q.request errors).filterMap Act.sleep? = _ :=
    filterMap_retrials (fun _ _ => rfl) errors
  have logs : (Query.retrials policy q.request errors).filterMap Act.retried? = _ :=
    filterMap_retrials (fun _ _ => rfl) errors
  rcases stands.phase_cases with ⟨-, acts⟩ | ⟨-, acts⟩ | ⟨reply, -, -, acts⟩
  · rw [acts, List.filterMap_append, List.filterMap_append, sleeps, logs]
    exact ⟨List.append_nil _, List.append_nil _⟩
  · rw [acts]
    exact ⟨sleeps, logs⟩
  · rw [acts, List.filterMap_append, List.filterMap_append, sleeps, logs,
      filterMap_ending rfl rfl fun _ _ => rfl,
      filterMap_ending rfl rfl fun _ mem => retried?_of_mem_lastEvents mem]
    exact ⟨List.append_nil _, List.append_nil _⟩

end Client

/-! ## All of it -/

/-- **The delays of any two bounds are exact.**  Let the ceiling be the greater of them.

* In nanoseconds the delays are the first one doubled again and again, or nothing and then a
  millisecond doubled again and again, each cut off once, at the ceiling.
* They do not get shorter, lie between the first and the ceiling, and stay at the ceiling once
  there; one after the first is nothing only if the ceiling is nothing.
* A loop hands on those delays, whatever it retries and however its failures are classified; a query
  logs them and sleeps for them, alone and among others.
* The ceiling of a valid configuration is its longest backoff. -/
theorem Backoff.delays_exact [Clock] (initial ceiling : Duration) :
    let policy := Backoff.ofBounds initial ceiling
    let most := max initial ceiling
    (0 < initial.nanos →
      ∀ n, (policy.delay n).nanos = min (initial.nanos * 2 ^ n) most.nanos) ∧
    (initial.nanos = 0 → (policy.delay 0).nanos = 0 ∧
      ∀ n, (policy.delay (n + 1)).nanos = min (1000000 * 2 ^ n) most.nanos) ∧
    (∀ n m, n ≤ m → policy.delay n ≤ policy.delay m) ∧
    (∀ n, initial ≤ policy.delay n ∧ policy.delay n ≤ most) ∧
    (∀ n m, n ≤ m → policy.delay n = most → policy.delay m = most) ∧
    (∀ n, policy.delay (n + 1) = .zero → most = .zero) ∧
    (∀ {ε α : Type} (classify : ε → Disposition) (last : α) (replies : List (Except ε α)),
      (Retry.run policy classify last (.first policy) replies).1.filterMap Retry.Sign.wait?
        = (List.range (replies.takeWhile (Retry.isPutOff classify)).length).map
            fun n => (n + 1, policy.delay n)) ∧
    (∀ (request : ListRequest) (start : Nat) (script : Script),
      let q := Query.run policy request start script
      ∀ n, n < q.retries → ∃ (reached wakes : Nat) (e : RegistryError),
        q.log[n]? = some ⟨reached,
          .queryRetried (Query.ownerName request) e (n + 1) (policy.delay n)⟩ ∧
        (policy.delay n).Sleeps reached wakes ∧ q.calls[n + 1]? = some ⟨wakes, request⟩) ∧
    (∀ (start : Nat) (tally : Tally) (moves : List Client.Move) (c : Client),
      (Client.new policy start tally).steps moves = some c →
      ∀ (i : Nat) (q : Inquiry), c.inquiries[i]? = some q →
        (c.acts i).filterMap Act.sleep? = (List.range q.retries).map policy.delay ∧
        (c.acts i).filterMap Act.retried?
          = (List.range q.retries).map fun n => (n + 1, policy.delay n)) ∧
    (∀ c : Config, c.validate = .ok () →
      c.backoff = .ofBounds c.initialBackoff c.maxBackoff ∧ c.backoff.ceiling = c.maxBackoff) := by
  intro policy most
  refine ⟨?_, ?_, ?_, ?_, ?_, ?_, ?_, ?_, ?_, ?_⟩
  · intro some_delay n
    rw [nanos_delay, growth_of_pos some_delay]
  · intro none
    refine ⟨none, fun n => ?_⟩
    rw [nanos_delay, none, growth_of_zero]
  · exact fun n m later => delay_le_delay later
  · exact fun n => ⟨initial_le_delay n, delay_le n⟩
  · exact fun n m later reached => delay_of_reached later reached
  · exact fun n none => max_eq_zero_of_delay none
  · intro ε α classify last replies
    have waits := Retry.waits_run policy classify last 0 replies
    simp only [Nat.zero_add] at waits
    exact waits
  · intro request start script q n retried
    obtain ⟨reached, e, logged, called⟩ :=
      Query.waited_runFrom policy request 0 start script retried
    simp only [Nat.zero_add] at logged called
    exact ⟨reached, _, e, logged, Duration.sleeps_ticks _ reached, called⟩
  · exact fun start tally moves c went i q at_i => Client.sleeps_eq went at_i
  · exact fun c valid => ⟨rfl, by rw [Config.backoff_of_valid valid]⟩

/-- Bounds at the end of the range, where doubling the first delay leaves it, and bounds below one
millisecond. -/
theorem Backoff.delays_exact_of_extremes :
    let longest : Duration := .ofNanos 18446744073709551615999999999
    let policy := Backoff.ofBounds (.ofNanos 18446744073709551615999999998) longest
    let short := Backoff.ofBounds .zero (.ofNanos 7)
    policy.delay 1 = longest ∧ (short.delay 0).nanos = 0 ∧ (short.delay 3).nanos = 7 := by
  intro longest policy short
  obtain ⟨doubled, -⟩ := Backoff.delays_exact (.ofNanos 18446744073709551615999999998) longest
  obtain ⟨-, fromNone, -⟩ := Backoff.delays_exact .zero (.ofNanos 7)
  obtain ⟨first, later⟩ := fromNone rfl
  have reached := (doubled (by decide) 1).trans (show _ = longest.nanos by decide)
  exact ⟨Duration.ext reached, first, (later 2).trans (by decide)⟩

end Relaunch
