import Relaunch.Event
import Relaunch.Retry
import Relaunch.Workload.Basic

/-!
# Registry/Query — asking for workloads until the registry answers

A query makes list calls through a retry loop.  The registry is a **script**: its replies to
successive calls, each after a delay; when the script is at its end, every call is answered at once
with an empty list.  Delays and sleeps take the time that the clock of the machine makes of them.

`Query.run` gives the whole course of a query: its calls with their times, its log, the number of
retries, what is left of the script, and the result.
-/

namespace Relaunch

/-- A reply to a list call, and after how many milliseconds it is due. -/
structure Answer where
  reply : Except RegistryError ListResponse
  delay : Nat := 0

/-- When the reply comes to a call that is made at a time. -/
def Answer.arrival [Clock] (a : Answer) (time : Nat) : Nat := time + Timer.span a.delay time

abbrev Script := List Answer

/-- A list call and its time. -/
structure Call where
  time : Nat
  request : ListRequest
deriving DecidableEq

/-- **The course of a query.** -/
structure Query where
  calls : List Call
  log : List Entry
  retries : Nat
  finish : Nat
  rest : Script
  result : Except QueryError ListResponse

namespace Query

/-- The name under which a query is logged: the owners it asks for. -/
def ownerName (request : ListRequest) : String := ",".intercalate request.owners

/-- The course before the call at a time, whose reply sets off `next`. -/
def calling (request : ListRequest) (time : Nat) (next : Query) : Query :=
  { next with calls := ⟨time, request⟩ :: next.calls }

/-- The end of a query with a list. -/
def succeed (request : ListRequest) (attempt time : Nat) (rest : Script) (response : ListResponse) :
    Query where
  calls := []
  log :=
    (if attempt > 1 then [⟨time, .queryRecovered (ownerName request) attempt⟩] else [])
      ++ [⟨time, .queryCompleted (ownerName request) response.workloads.length⟩]
  retries := 0
  finish := time
  rest := rest
  result := .ok response

/-- The end of a query without one. -/
def giveUp (request : ListRequest) (time : Nat) (rest : Script) (e : GivenUp RegistryError) :
    Query where
  calls := []
  log := [⟨time,
    if e.isFatal then .queryRejected (ownerName request) e.error e.attempts
    else .queryAborted (ownerName request) e.error e.attempts⟩]
  retries := 0
  finish := time
  rest := rest
  result := .error ⟨e.isFatal, e.attempts, e.error⟩

/-- A retry, and what comes of it. -/
def retry (request : ListRequest) (r : Retry) (time : Nat) (error : RegistryError) (next : Query) :
    Query :=
  { next with
    log := ⟨time, .queryRetried (ownerName request) error r.attempt r.delay⟩ :: next.log
    retries := next.retries + 1 }

section Run

variable [Clock]

/-- **The course of a query** from an attempt on, at a time, over a script. -/
def runFrom (policy : Backoff) (request : ListRequest) : Retry → Nat → Script → Query
  | r, time, [] => calling request time (succeed request r.attempt time [] ⟨[]⟩)
  | r, time, answer :: rest =>
    let reached := answer.arrival time
    calling request time <|
      match r.take RegistryError.disposition answer.reply with
      | .done response => succeed request r.attempt reached rest response
      | .stop e => giveUp request reached rest e
      | .wait e =>
        retry request r reached e <|
          runFrom policy request (r.again policy) (reached + r.delay.ticks reached) rest

def run (policy : Backoff) (request : ListRequest) (start : Nat) (script : Script) : Query :=
  runFrom policy request (.first policy) start script

/-- A script never gets longer by being asked. -/
theorem length_rest_runFrom (policy : Backoff) (request : ListRequest) (r : Retry) (time : Nat)
    (script : Script) : (runFrom policy request r time script).rest.length ≤ script.length := by
  induction script generalizing r time with
  | nil => simp [runFrom, calling, succeed]
  | cons answer rest ih =>
    simp only [runFrom, calling]
    split
    · simp [succeed]
    · simp [giveUp]
    · simp only [retry, List.length_cons]
      exact Nat.le_succ_of_le (ih _ _)

end Run

end Query

end Relaunch
