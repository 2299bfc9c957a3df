import Relaunch.Registry.Client

/-!
# Proofs/Registry/Query — a query ends with the first reply that lasts

A failure **passes** if the registry may be better the next time: it was not reached, was slow, or
answered with a status in 500…599.  Any other reply **lasts**.  A query makes one call for each of
the passing failures that come first, and one more; what it returns is the reply that lasts.

* `RegistryError.disposition_eq` — what a failed attempt calls for, by its fault.
* `Query.eq_append_of_leading` — the replies up to the first one that lasts.
* `Query.run_eq` — the whole course of a query: its calls and their times, its log, its retries,
  what is left of the script, and its result.
-/

namespace Relaunch

/-- **Whether a failed attempt may pass.** -/
def Fault.isPassing : Fault → Bool
  | connect _ | timeout => true
  | server status _ => 500 ≤ status && status ≤ 599
  | socketRejected _ | decode _ | other _ => false

def Fault.isSocketRejected : Fault → Bool
  | socketRejected _ => true
  | server .. | connect _ | timeout | decode _ | other _ => false

/-- **A passing failure calls for a retry**, a refusal by the socket layer is fatal, and any other
failure is for good. -/
theorem RegistryError.disposition_eq (e : RegistryError) :
    e.disposition
      = if e.fault.isPassing then .retry
        else if e.fault.isSocketRejected then .fatal else .abort := by
  rw [disposition, kind]
  cases e.fault with
  | server status body =>
    by_cases transient : status / 100 = 5
    · have within : 500 ≤ status ∧ status ≤ 599 := by omega
      simp [Fault.kind, Fault.isPassing, transient, within, FaultKind.disposition]
    · have without : ¬(500 ≤ status ∧ status ≤ 599) := by omega
      simp [Fault.kind, Fault.isPassing, Fault.isSocketRejected, transient, without,
        FaultKind.disposition]
  | _ => rfl

/-- The faults that are fatal are those of one kind. -/
theorem Fault.isSocketRejected_iff (f : Fault) :
    f.isSocketRejected = true ↔ f.kind = .socketRejected := by
  cases f with
  | server status body =>
    refine ⟨nofun, fun h => ?_⟩
    simp only [kind] at h
    split at h <;> cases h
  | socketRejected cause => exact ⟨fun _ => rfl, fun _ => rfl⟩
  | _ => exact ⟨nofun, nofun⟩

/-! ## Replies up to the first that lasts -/

/-- Whether a query goes no further than this reply. -/
def ListReply.isLasting : ListReply → Bool
  | .ok _ => true
  | .error e => !e.fault.isPassing

namespace Query

/-- **The passing failures that come first.** -/
def leading : List ListReply → List RegistryError
  | .error e :: replies => if e.fault.isPassing then e :: leading replies else []
  | .ok _ :: _ | [] => []

/-- What a query makes of a reply that lasts, after so many attempts. -/
def verdict (attempts : Nat) : ListReply → Except QueryError ListResponse
  | .ok response => .ok response
  | .error e => .error ⟨e.fault.isSocketRejected, attempts, e⟩

/-- What a query logs of a reply that lasts, after so many attempts. -/
def lastEvents (request : ListRequest) (attempts : Nat) : ListReply → List Event
  | .ok response =>
    (if attempts = 1 then [] else [.queryRecovered (ownerName request) attempts])
      ++ [.queryCompleted (ownerName request) response.workloads.length]
  | .error e =>
    if e.fault.isSocketRejected then [.queryRejected (ownerName request) e attempts]
    else [.queryAborted (ownerName request) e attempts]

theorem isPassing_of_mem_leading {replies : List ListReply} {e : RegistryError}
    (mem : e ∈ leading replies) : e.fault.isPassing = true := by
  induction replies with
  | nil => cases mem
  | cons reply replies ih =>
    cases reply with
    | ok response => cases mem
    | error f =>
      rw [leading] at mem
      split at mem
      · rename_i passing
        rcases List.mem_cons.mp mem with rfl | later
        · exact passing
        · exact ih later
      · cases mem

/-- Passing failures and a reply that lasts: the failures are those that come first. -/
theorem leading_append {errors : List RegistryError}
    (passing : ∀ e ∈ errors, e.fault.isPassing = true) {reply : ListReply}
    (lasting : ListReply.isLasting reply = true) (rest : List ListReply) :
    leading (errors.map .error ++ reply :: rest) = errors := by
  induction errors with
  | nil =>
    cases reply with
    | ok response => rfl
    | error e =>
      have lasting : (!e.fault.isPassing) = true := lasting
      rw [List.map_nil, List.nil_append, leading, if_neg (by simpa using lasting)]
  | cons e errors ih =>
    rw [List.map_cons, List.cons_append, leading, if_pos (passing e List.mem_cons_self),
      ih fun f mem => passing f (List.mem_cons_of_mem e mem)]

theorem leading_map_error {errors : List RegistryError}
    (passing : ∀ e ∈ errors, e.fault.isPassing = true) :
    leading (errors.map .error) = errors := by
  induction errors with
  | nil => rfl
  | cons e errors ih =>
    rw [List.map_cons, leading, if_pos (passing e List.mem_cons_self),
      ih fun f mem => passing f (List.mem_cons_of_mem e mem)]

/-- **The replies up to the first one that lasts.** -/
theorem eq_append_of_leading {replies : List ListReply} {reply : ListReply}
    (next : replies[(leading replies).length]? = some reply) :
    (∃ rest, replies = (leading replies).map .error ++ reply :: rest) ∧
      ListReply.isLasting reply = true := by
  induction replies with
  | nil => cases next
  | cons first replies ih =>
    cases first with
    | ok response =>
      cases next
      exact ⟨⟨replies, rfl⟩, rfl⟩
    | error e =>
      cases passing : e.fault.isPassing with
      | true =>
        rw [leading, if_pos passing] at next ⊢
        obtain ⟨⟨rest, eq⟩, lasting⟩ := ih next
        refine ⟨⟨rest, ?_⟩, lasting⟩
        rw [List.map_cons, List.cons_append, ← eq]
      | false =>
        rw [leading, if_neg (by rw [passing]; exact Bool.false_ne_true)] at next ⊢
        cases next
        refine ⟨⟨replies, rfl⟩, ?_⟩
        rw [ListReply.isLasting, passing]
        rfl

/-! ## What a loop makes of a reply -/

theorem take_of_passing {e : RegistryError} (passing : e.fault.isPassing = true) (r : Retry) :
    r.take RegistryError.disposition (.error e : ListReply) = .wait e := by
  rw [Retry.take, RegistryError.disposition_eq, if_pos passing]

theorem take_of_lasting {e : RegistryError} (lasting : e.fault.isPassing = false) (r : Retry) :
    r.take RegistryError.disposition (.error e : ListReply)
      = .stop ⟨e, e.fault.isSocketRejected, r.attempt⟩ := by
  rw [Retry.take, RegistryError.disposition_eq, lasting]
  cases e.fault.isSocketRejected <;> rfl

/-- The end of a query with a list, after so many attempts. -/
theorem succeed_eq (request : ListRequest) {attempts : Nat} (some_attempt : attempts ≠ 0)
    (time : Nat) (rest : Script) (response : ListResponse) :
    succeed request attempts time rest response = {
      calls := []
      log := (lastEvents request attempts (.ok response)).map (Entry.mk time)
      retries := 0
      finish := time
      rest := rest
      result := verdict attempts (.ok response) } := by
  by_cases first : attempts = 1
  · simp [succeed, lastEvents, verdict, first]
  · have again : 1 < attempts := by omega
    simp [succeed, lastEvents, verdict, first, again]

/-- The end of a query without one. -/
theorem giveUp_eq (request : ListRequest) (attempts time : Nat) (rest : Script)
    (e : RegistryError) :
    giveUp request time rest ⟨e, e.fault.isSocketRejected, attempts⟩ = {
      calls := []
      log := (lastEvents request attempts (.error e)).map (Entry.mk time)
      retries := 0
      finish := time
      rest := rest
      result := verdict attempts (.error e) } := by
  rw [giveUp, lastEvents, verdict]
  cases e.fault.isSocketRejected <;> rfl

/-! ## The whole course of a query -/

section Course

variable [Clock]

/-- When the reply comes to the `n`-th call, if this is made at a time. -/
def arrival (script : Script) (n time : Nat) : Nat :=
  (script[n]?.map fun answer => answer.arrival time).getD time

/-- **When the `n`-th call is made**, counted from zero, in a loop that has `m` attempts behind it:
each reply is awaited and then the next delay. -/
def callTime (policy : Backoff) (m : Nat) (script : Script) (start : Nat) : Nat → Nat
  | 0 => start
  | n + 1 =>
    let reached := arrival script n (callTime policy m script start n)
    reached + (policy.delay (m + n)).ticks reached

/-- When the reply to the `n`-th call comes. -/
def replyTime (policy : Backoff) (m : Nat) (script : Script) (start n : Nat) : Nat :=
  arrival script n (callTime policy m script start n)

/-- When a loop with `m` attempts behind it calls again after a call that gets this answer. -/
def recallTime (policy : Backoff) (m : Nat) (answer : Answer) (start : Nat) : Nat :=
  answer.arrival start + (policy.delay m).ticks (answer.arrival start)

theorem arrival_zero (answer : Answer) (script : Script) (time : Nat) :
    arrival (answer :: script) 0 time = answer.arrival time := rfl

theorem arrival_cons (answer : Answer) (script : Script) (n time : Nat) :
    arrival (answer :: script) (n + 1) time = arrival script n time := by
  rw [arrival, List.getElem?_cons_succ, arrival]

theorem callTime_cons (policy : Backoff) (m : Nat) (answer : Answer) (script : Script)
    (start n : Nat) :
    callTime policy m (answer :: script) start (n + 1)
      = callTime policy (m + 1) script (recallTime policy m answer start) n := by
  induction n with
  | zero => rfl
  | succ n ih => rw [callTime, ih, callTime, arrival_cons, show m + 1 + n = m + (n + 1) by omega]

theorem replyTime_cons (policy : Backoff) (m : Nat) (answer : Answer) (script : Script)
    (start n : Nat) :
    replyTime policy m (answer :: script) start (n + 1)
      = replyTime policy (m + 1) script (recallTime policy m answer start) n := by
  rw [replyTime, callTime_cons, arrival_cons, replyTime]

/-- **The course of a query** that hears passing failures and then a reply that lasts. -/
def lone (policy : Backoff) (request : ListRequest) (m : Nat) (script : Script) (start : Nat)
    (errors : List RegistryError) (reply : ListReply) : Query where
  calls := (List.range (errors.length + 1)).map fun n => ⟨callTime policy m script start n, request⟩
  log := errors.zipIdx.map (fun x => ⟨replyTime policy m script start x.2,
      .queryRetried (ownerName request) x.1 (m + x.2 + 1) (policy.delay (m + x.2))⟩)
    ++ (lastEvents request (m + errors.length + 1) reply).map
        (Entry.mk (replyTime policy m script start errors.length))
  retries := errors.length
  finish := replyTime policy m script start errors.length
  rest := script.drop (errors.length + 1)
  result := verdict (m + errors.length + 1) reply

/-- A course that starts with a retry. -/
theorem lone_cons (policy : Backoff) (request : ListRequest) (m : Nat) (answer : Answer)
    (script : Script) (start : Nat) (e : RegistryError) (errors : List RegistryError)
    (reply : ListReply) :
    lone policy request m (answer :: script) start (e :: errors) reply
      = calling request start (retry request (Retry.nth policy m) (answer.arrival start) e
          (lone policy request (m + 1) script (recallTime policy m answer start) errors
            reply)) := by
  have attempts : m + (errors.length + 1) + 1 = m + 1 + errors.length + 1 := by omega
  have calls : (List.range (errors.length + 1 + 1)).map (fun n =>
        (⟨callTime policy m (answer :: script) start n, request⟩ : Call))
      = ⟨start, request⟩ :: (List.range (errors.length + 1)).map (fun n =>
        ⟨callTime policy (m + 1) script (recallTime policy m answer start) n, request⟩) := by
    rw [List.range_succ_eq_map, List.map_cons, List.map_map]
    refine congrArg _ (List.map_congr_left fun n _ => ?_)
    rw [Function.comp_apply, callTime_cons]
  have log : (e :: errors).zipIdx.map (fun x =>
        (⟨replyTime policy m (answer :: script) start x.2,
          .queryRetried (ownerName request) x.1 (m + x.2 + 1) (policy.delay (m + x.2))⟩ : Entry))
      = ⟨answer.arrival start, .queryRetried (ownerName request) e (m + 1) (policy.delay m)⟩
        :: errors.zipIdx.map (fun x => ⟨replyTime policy (m + 1) script
            (recallTime policy m answer start) x.2,
          .queryRetried (ownerName request) x.1 (m + 1 + x.2 + 1)
            (policy.delay (m + 1 + x.2))⟩) := by
    rw [List.zipIdx_cons', List.map_cons, List.map_map]
    refine congrArg _ (List.map_congr_left fun x _ => ?_)
    simp only [Function.comp_apply, Prod.map_fst, Prod.map_snd, id, replyTime_cons,
      Nat.add_right_comm m 1 x.2]
    rfl
  simp only [lone, List.length_cons, calls, log, replyTime_cons, attempts, List.drop_succ_cons,
    calling, retry, Retry.attempt_nth, Retry.delay_eq, List.cons_append]

theorem runFrom_eq {policy : Backoff} {request : ListRequest} {errors : List RegistryError}
    (passing : ∀ e ∈ errors, e.fault.isPassing = true) {reply : ListReply}
    (lasting : ListReply.isLasting reply = true) (m start : Nat) {script : Script}
    {rest : List ListReply}
    (replies : script.map Answer.reply = errors.map .error ++ reply :: rest) :
    runFrom policy request (Retry.nth policy m) start script
      = lone policy request m script start errors reply := by
  induction errors generalizing m start script with
  | nil =>
    cases script with
    | nil => cases replies
    | cons answer script =>
      obtain ⟨rfl, -⟩ := List.cons.inj replies
      simp only [runFrom]
      cases heard : answer.reply with
      | ok response =>
        simp only [Retry.take, Retry.attempt_nth, succeed_eq request (Nat.succ_ne_zero m)]
        simp [calling, lone, callTime, replyTime, arrival_zero]
      | error e =>
        rw [heard] at lasting
        have lasting : e.fault.isPassing = false := by simpa [ListReply.isLasting] using lasting
        simp only [take_of_lasting lasting, Retry.attempt_nth, giveUp_eq]
        simp [calling, lone, callTime, replyTime, arrival_zero]
  | cons e errors ih =>
    cases script with
    | nil => cases replies
    | cons answer script =>
      obtain ⟨heard, replies⟩ := List.cons.inj replies
      have goesOn := ih (fun f mem => passing f (List.mem_cons_of_mem e mem)) (m + 1)
        (recallTime policy m answer start) replies
      simp only [runFrom, heard, take_of_passing (passing e List.mem_cons_self), lone_cons,
        ← goesOn, Retry.delay_eq]
      rfl

/-- **The whole course of a query** whose script holds a reply that lasts. -/
theorem run_eq {script : Script} {reply : ListReply}
    (next : (script.map Answer.reply)[(leading (script.map Answer.reply)).length]? = some reply)
    (policy : Backoff) (request : ListRequest) (start : Nat) :
    run policy request start script
      = lone policy request 0 script start (leading (script.map Answer.reply)) reply := by
  obtain ⟨⟨rest, replies⟩, lasting⟩ := eq_append_of_leading next
  exact runFrom_eq (fun e => isPassing_of_mem_leading) lasting 0 start replies

end Course

end Query

end Relaunch
