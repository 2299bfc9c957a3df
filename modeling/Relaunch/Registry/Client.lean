import Relaunch.Registry.Query
import Relaunch.Tally

/-!
# Registry/Client — queries of one client side by side

Any number of queries may be under way with one client and its clones.  They share the registry, the
retry policy and the counts; each has a retry loop of its own, and sleeps on its own.

The state of a client is a value (`Client`), and `Client.step` takes one step: time goes on, a query
is asked, the registry replies to a list call, or a sleep is over.  Nothing is said about the order
of steps, nor about who gets which reply.  What each query does is written down under its number.

A query that has the client to itself, and wakes on time, is `Query.run`.
-/

namespace Relaunch

/-- A reply of the registry to a list call. -/
abbrev ListReply := Except RegistryError ListResponse

/-- **Where a query under way stands.** -/
inductive Inquiry.Phase where
  /-- Its list call is out. -/
  | calling
  /-- It sleeps, and wakes at this time or later. -/
  | sleeping (wakes : Nat)
  | returned (result : Except QueryError ListResponse)

/-- **A query under way.**  Its loop knows the number of the attempt; the query itself counts its
retries. -/
structure Inquiry where
  request : ListRequest
  loop : Retry
  retries : Nat := 0
  phase : Inquiry.Phase := .calling

/-- What a query does. -/
inductive Act where
  | call (request : ListRequest)
  | hear (reply : ListReply)
  | log (event : Event)
  | sleep (delay : Duration)

/-- The reply that is heard. -/
def Act.reply? : Act → Option ListReply
  | hear reply => some reply
  | call _ | log _ | sleep _ => none

/-- An act of the query of that number. -/
structure Noted where
  query : Nat
  time : Nat
  act : Act

/-- **The state of a client**: the queries asked so far, and what they did. -/
structure Client where
  policy : Backoff
  clock : Nat := 0
  tally : Tally := {}
  inquiries : List Inquiry := []
  notes : List Noted := []

namespace Client

/-- A step that a client can be asked to take. -/
inductive Move where
  /-- Time goes on. -/
  | tick (time : Nat)
  /-- A new query. -/
  | ask (request : ListRequest)
  /-- The registry replies to the query of that number. -/
  | reply (i : Nat) (reply : ListReply)
  /-- The sleep of the query of that number is over. -/
  | wake (i : Nat)

/-- A client of a policy without queries, whose counts are shared with others. -/
def new (policy : Backoff) (start : Nat) (tally : Tally) : Client where
  policy := policy
  clock := start
  tally := tally

/-- Writes down what a query does. -/
def note (c : Client) (i : Nat) (acts : List Act) : Client :=
  { c with notes := c.notes ++ acts.map fun act => ⟨i, c.clock, act⟩ }

def setInquiry (c : Client) (i : Nat) (q : Inquiry) : Client :=
  { c with inquiries := c.inquiries.set i q }

/-- A query returns, with the log of the query's end. -/
def conclude (c : Client) (i : Nat) (q : Inquiry) (reply : ListReply) (ending : Query) : Client :=
  (c.note i (.hear reply :: ending.log.map (.log ·.event))).setInquiry i
    { q with phase := .returned ending.result }

variable [Clock]

/-- **A query hears a reply**: it returns, or it counts a retry and sleeps. -/
def hear (c : Client) (i : Nat) (q : Inquiry) (reply : ListReply) : Client :=
  match q.loop.take RegistryError.disposition reply with
  | .done response =>
    c.conclude i q reply (Query.succeed q.request (q.retries + 1) c.clock [] response)
  | .stop e => c.conclude i q reply (Query.giveUp q.request c.clock [] e)
  | .wait e =>
    { (c.note i [.hear reply,
        .log (.queryRetried (Query.ownerName q.request) e q.loop.attempt q.loop.delay),
        .sleep q.loop.delay]).setInquiry i
      { q with
        loop := q.loop.again c.policy
        retries := q.retries + 1
        phase := .sleeping (c.clock + q.loop.delay.ticks c.clock) } with
      tally := c.tally.addRetry }

/-- One step of a query that has something to hear. -/
def stepReply (c : Client) (i : Nat) (reply : ListReply) (q : Inquiry) : Option Client :=
  match q.phase with
  | .calling => some (c.hear i q reply)
  | .sleeping _ | .returned _ => none

/-- One step of a query that sleeps: it calls again, once its time has come. -/
def stepWake (c : Client) (i : Nat) (q : Inquiry) : Option Client :=
  match q.phase with
  | .sleeping wakes =>
    if wakes ≤ c.clock then
      some ((c.note i [.call q.request]).setInquiry i { q with phase := .calling })
    else none
  | .calling | .returned _ => none

/-- **One step of a client**; `none` if it cannot be taken. -/
def step (c : Client) : Move → Option Client
  | .tick time => if c.clock < time then some { c with clock := time } else none
  | .ask request =>
    some { c.note c.inquiries.length [.call request] with
      inquiries := c.inquiries ++ [{ request, loop := .first c.policy }] }
  | .reply i reply => c.inquiries[i]?.bind (c.stepReply i reply)
  | .wake i => c.inquiries[i]?.bind (c.stepWake i)

/-- The client after some steps; `none` if one of them cannot be taken. -/
def steps (c : Client) (moves : List Move) : Option Client := moves.foldlM step c

/-- What the query of that number did, with the times. -/
def course (c : Client) (i : Nat) : List (Nat × Act) :=
  c.notes.filterMap fun n => if n.query = i then some (n.time, n.act) else none

/-- **What the query of that number did.** -/
def acts (c : Client) (i : Nat) : List Act := (c.course i).map Prod.snd

/-- **The replies that the query of that number got.** -/
def repliesTo (c : Client) (i : Nat) : List ListReply := (c.acts i).filterMap Act.reply?

end Client

end Relaunch
