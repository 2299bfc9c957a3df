import Relaunch.Registry.Fault

/-!
# Failure — errors with the chain of their causes

A `Failure` is told from the outside in.  It may be a text, a failed registry call, a query that was
given up (`QueryError`), another failure under a context, or the failure a latch captured.

* `message` is the outermost text, `chain` all of them, and `full` the chain in one line.
* `query?` finds the given-up query below any number of contexts, but not inside a captured failure.
-/

namespace Relaunch

/-- **A list query that was given up**, after so many attempts, because of the last one's error.
`isFatal` tells a refusal by the socket layer from every other cause. -/
structure QueryError where
  isFatal : Bool
  attempts : Nat
  error : RegistryError
deriving DecidableEq, Repr

namespace QueryError

def message (e : QueryError) : String :=
  "registry query " ++ (if e.isFatal then "rejected by the socket layer" else "aborted") ++
    " after " ++ toString e.attempts ++ " attempt(s)"

def chain (e : QueryError) : List String := e.message :: e.error.chain

end QueryError

/-- **An error with its causes.** -/
inductive Failure where
  | text (s : String)
  | context (s : String) (inner : Failure)
  | registry (e : RegistryError)
  | query (e : QueryError)
  | captured (inner : Failure)
deriving DecidableEq, Repr

namespace Failure

def message : Failure → String
  | text s => s
  | context s _ => s
  | registry e => e.message
  | query e => e.message
  | captured inner => inner.message

/-- The messages from the outermost in.  A captured failure's message stands before the whole chain
of what was captured. -/
def chain : Failure → List String
  | text s => [s]
  | context s inner => s :: inner.chain
  | registry e => e.chain
  | query e => e.chain
  | captured inner => inner.message :: inner.chain

/-- The chain in one line. -/
def full (f : Failure) : String := ": ".intercalate f.chain

/-- **The given-up query a failure is**, under any number of contexts. -/
def query? : Failure → Option QueryError
  | query e => some e
  | context _ inner => inner.query?
  | text _ | registry _ | captured _ => none

/-- Whether the failure is a query that the socket layer rejected. -/
def isSocketRejection (f : Failure) : Bool := f.query?.any QueryError.isFatal

/-- The failure of texts, outermost first. -/
def ofChain : List String → Failure
  | [] => text ""
  | [s] => text s
  | s :: rest => context s (ofChain rest)

/-- The first of a failure's messages is its message. -/
theorem head?_chain (f : Failure) : f.chain.head? = some f.message := by
  cases f <;> rfl

end Failure

end Relaunch
