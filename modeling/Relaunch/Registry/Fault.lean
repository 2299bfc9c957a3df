import Relaunch.Json.Problem
import Relaunch.Registry.Io

/-!
# Registry/Fault — failed registry calls, and what to do about them

A registry call fails with a `RegistryError`: the name of the call and a `Fault`.  Faults are sorted
into kinds, and a kind decides what the caller does next (`RegistryError.disposition`):

* the registry may be recovering — it was not reached, was slow, or answered with a status in
  500…599: **retry**;
* the socket was refused by the system: **fatal**, since no later attempt can differ;
* anything else: **abort**.
-/

namespace Relaunch

/-! ## Transport errors -/

/-- One link below a transport error: an input or output error, or some other. -/
inductive Link where
  | io (e : IoError)
  | plain (text : String)
deriving DecidableEq, Repr

def Link.text : Link → String
  | io e => e.text
  | plain text => text

/-- **Why a request got no reply**: what is known of it, and the errors below it from the outermost
in. -/
structure TransportError where
  text : String
  isTimeout : Bool := false
  isConnect : Bool := false
  isDecode : Bool := false
  links : List Link := []
deriving DecidableEq, Repr

/-- The kind of the first input or output error below, if there is one. -/
def TransportError.ioKind? (e : TransportError) : Option IoKind :=
  e.links.findSome? fun
    | .io e => some e.kind
    | .plain _ => none

/-! ## Faults -/

/-- What lies below a fault. -/
inductive Cause where
  | plain (text : String)
  /-- A reply whose body holds no record. -/
  | problem (p : Json.Problem)
  | transport (e : TransportError)
deriving DecidableEq, Repr

/-- The texts of a cause and of what lies below it, outermost first. -/
def Cause.chain : Cause → List String
  | plain text => [text]
  | problem p => [p.message]
  | transport e => e.text :: e.links.map Link.text

def Cause.text : Cause → String
  | plain text => text
  | problem p => p.message
  | transport e => e.text

/-- **What went wrong in a call.** -/
inductive Fault where
  /-- A reply with a status that is no success. -/
  | server (status : Nat) (body : String)
  | connect (cause : Cause)
  | timeout
  | socketRejected (cause : Cause)
  | decode (cause : Cause)
  | other (cause : Cause)
deriving DecidableEq, Repr

/-- A failed call: its name and its fault. -/
structure RegistryError where
  method : String
  fault : Fault
deriving DecidableEq, Repr

/-- Faults by what they mean for the caller. -/
inductive FaultKind where
  | serverPermanent
  | serverTransient
  | connect
  | timeout
  | socketRejected
  | decode
  | other
deriving DecidableEq, Repr

def FaultKind.name : FaultKind → String
  | serverPermanent => "ServerPermanent"
  | serverTransient => "ServerTransient"
  | connect => "Connect"
  | timeout => "Timeout"
  | socketRejected => "SocketRejected"
  | decode => "Decode"
  | other => "Other"

/-- **What a failed attempt calls for.** -/
inductive Disposition where
  | retry
  | abort
  | fatal
deriving DecidableEq, Repr

def FaultKind.disposition : FaultKind → Disposition
  | connect | timeout | serverTransient => .retry
  | socketRejected => .fatal
  | serverPermanent | decode | other => .abort

namespace Fault

/-- **The kind of a fault**: a status in 500…599 is transient, any other is permanent. -/
def kind : Fault → FaultKind
  | server status _ => if status / 100 = 5 then .serverTransient else .serverPermanent
  | connect _ => .connect
  | timeout => .timeout
  | socketRejected _ => .socketRejected
  | decode _ => .decode
  | other _ => .other

def cause? : Fault → Option Cause
  | connect c | socketRejected c | decode c | other c => some c
  | server _ _ | timeout => none

/-- The fault that an input or output kind stands for. -/
def ofIoKind (kind : IoKind) (cause : Cause) : Fault :=
  match kind with
  | .permissionDenied => socketRejected cause
  | .timedOut => timeout
  | kind => if kind.isConnection then connect cause else other cause

def ofIo (e : IoError) : Fault := ofIoKind e.kind (.plain e.text)

/-- **The fault behind a request without a reply**: a timeout if it is known to be one; else what
the first input or output error below it says; else what is known of it. -/
def ofTransport (e : TransportError) : Fault :=
  if e.isTimeout then timeout
  else match e.ioKind? with
    | some kind => ofIoKind kind (.transport e)
    | none =>
      if e.isConnect then connect (.transport e)
      else if e.isDecode then decode (.transport e)
      else other (.transport e)

end Fault

namespace RegistryError

def kind (e : RegistryError) : FaultKind := e.fault.kind

def disposition (e : RegistryError) : Disposition := e.kind.disposition

/-- The status of a reply that was no success. -/
def status? (e : RegistryError) : Option Nat :=
  match e.fault with
  | .server status _ => some status
  | _ => none

/-- **The message of a failed call**, the text of what lies right below included. -/
def message (e : RegistryError) : String :=
  "registry " ++ e.method ++
    match e.fault with
    | .server status body => " returned HTTP " ++ toString status ++ ": " ++ body
    | .connect cause => " connection failed: " ++ cause.text
    | .timeout => " timed out"
    | .socketRejected cause => " socket operation not permitted: " ++ cause.text
    | .decode cause => " returned an undecodable body: " ++ cause.text
    | .other cause => " call failed: " ++ cause.text

/-- The messages from the call down to the innermost cause. -/
def chain (e : RegistryError) : List String :=
  e.message :: (e.fault.cause?.map Cause.chain).getD []

end RegistryError

/-- The name under which the list call fails. -/
def listMethod : String := "workload_list"

/-- The name under which the failure report fails. -/
def failureMethod : String := "workload_failure"

end Relaunch
