import Relaunch.Proofs.Registry.Query

/-!
# Proofs/Registry/Transport — which error below a failure decides

A call that gets no reply fails with errors below it, one below the other.  The **first** input or
output error of them says what the fault is, whatever lies further down: a refusal by the socket
layer that is first is fatal, and one behind a connection error is a connection error.

* `TransportError.ioKind?_eq_some_iff` — the first input or output error.
* `Fault.kind_ofTransport_eq_socketRejected_iff` — the failures that are fatal.
* `Fault.kind_ofTransport_eq_connect_iff` — the failures to connect, which are retried.
* `Query.retries_of_passing` — a query never tires of failures that may pass.
* `Fault.exists_refused_connect` — a refusal does not always tell.
-/

namespace Relaunch

/-! ## The first input or output error -/

/-- The kind of a link that is an input or output error. -/
def Link.kind? : Link → Option IoKind
  | io e => some e.kind
  | plain _ => none

theorem Link.exists_io {link : Link} {kind : IoKind} (its : link.kind? = some kind) :
    ∃ text, link = .io ⟨kind, text⟩ := by
  cases link with
  | io e =>
    obtain ⟨of, text⟩ := e
    obtain rfl : of = kind := Option.some.inj its
    exact ⟨text, rfl⟩
  | plain text => cases its

namespace TransportError

theorem ioKind?_eq_findSome? (e : TransportError) : e.ioKind? = e.links.findSome? Link.kind? :=
  rfl

/-- **The first input or output error below a failure**, with none in front of it. -/
theorem ioKind?_eq_some_iff {e : TransportError} {kind : IoKind} :
    e.ioKind? = some kind ↔ ∃ before text after,
      e.links = before ++ .io ⟨kind, text⟩ :: after ∧ ∀ link ∈ before, link.kind? = none := by
  rw [ioKind?_eq_findSome?, List.findSome?_eq_some_iff]
  constructor
  · rintro ⟨before, link, after, links, its, others⟩
    obtain ⟨text, rfl⟩ := Link.exists_io its
    exact ⟨before, text, after, links, others⟩
  · rintro ⟨before, text, after, links, others⟩
    exact ⟨before, .io ⟨kind, text⟩, after, links, rfl, others⟩

theorem ioKind?_eq_none_iff {e : TransportError} :
    e.ioKind? = none ↔ ∀ link ∈ e.links, link.kind? = none := by
  rw [ioKind?_eq_findSome?, List.findSome?_eq_none_iff]

/-- Whether the socket layer refuses anywhere below a failure. -/
def IsRefused (e : TransportError) : Prop := ∃ link ∈ e.links, link.kind? = some .permissionDenied

theorem isRefused_of_ioKind? {e : TransportError} (first : e.ioKind? = some .permissionDenied) :
    e.IsRefused := by
  obtain ⟨before, text, after, links, -⟩ := ioKind?_eq_some_iff.mp first
  refine ⟨.io ⟨.permissionDenied, text⟩, ?_, rfl⟩
  rw [links]
  exact List.mem_append_right before List.mem_cons_self

end TransportError

/-! ## The fault of a failure -/

namespace Fault

/-- **The kind of a failure** that is no timeout. -/
theorem kind_ofTransport {e : TransportError} (in_time : e.isTimeout = false) :
    (ofTransport e).kind = match e.ioKind? with
      | some kind => (ofIoKind kind (.transport e)).kind
      | none => if e.isConnect then .connect else if e.isDecode then .decode else .other := by
  rw [ofTransport, in_time]
  cases e.ioKind? with
  | some kind => rfl
  | none =>
    cases e.isConnect
    · cases e.isDecode <;> rfl
    · rfl

/-- **A failure is fatal if the first input or output error below it is a refusal**, and only
then. -/
theorem kind_ofTransport_eq_socketRejected_iff {e : TransportError}
    (in_time : e.isTimeout = false) :
    (ofTransport e).kind = .socketRejected ↔ e.ioKind? = some .permissionDenied := by
  rw [kind_ofTransport in_time]
  cases e.ioKind? with
  | some kind => cases kind <;> simp [ofIoKind, IoKind.isConnection, Fault.kind]
  | none => cases e.isConnect <;> cases e.isDecode <;> simp

/-- **A failure is one to connect** if the first input or output error below it is, or there is none
and it is known to be. -/
theorem kind_ofTransport_eq_connect_iff {e : TransportError} (in_time : e.isTimeout = false) :
    (ofTransport e).kind = .connect ↔
      (∃ kind, e.ioKind? = some kind ∧ kind.isConnection = true) ∨
        e.ioKind? = none ∧ e.isConnect = true := by
  rw [kind_ofTransport in_time]
  cases e.ioKind? with
  | some kind => cases kind <;> simp [ofIoKind, IoKind.isConnection, Fault.kind]
  | none => cases e.isConnect <;> cases e.isDecode <;> simp

/-- A failure that is fatal has a refusal below it. -/
theorem isRefused_of_kind {e : TransportError} (in_time : e.isTimeout = false)
    (fatal : (ofTransport e).kind = .socketRejected) : e.IsRefused :=
  TransportError.isRefused_of_ioKind? ((kind_ofTransport_eq_socketRejected_iff in_time).mp fatal)

end Fault

/-! ## What a query makes of it -/

/-- **A query never tires of failures that may pass**: it retries after every one of them. -/
theorem Query.retries_of_passing [Clock] {script : Script}
    (passing : ∀ answer ∈ script, ∃ e : RegistryError,
      answer.reply = .error e ∧ e.fault.isPassing = true)
    (policy : Backoff) (request : ListRequest) (r : Retry) (time : Nat) :
    (runFrom policy request r time script).retries = script.length := by
  induction script generalizing r time with
  | nil => rfl
  | cons answer script ih =>
    obtain ⟨first, others⟩ := List.forall_mem_cons.mp passing
    obtain ⟨e, heard, passes⟩ := first
    simp only [runFrom, heard, take_of_passing passes]
    exact congrArg (· + 1) (ih others _ _)

/-- **A refusal behind a connection error does not tell**: the failure is one to connect, and a
query that meets it every time retries every time. -/
theorem Fault.exists_refused_connect [Clock] :
    ∃ e : TransportError, e.isTimeout = false ∧ e.IsRefused ∧ (ofTransport e).kind = .connect ∧
      ∀ policy request start n,
        (Query.run policy request start
          (List.replicate n ⟨.error ⟨listMethod, ofTransport e⟩, 0⟩)).retries = n := by
  let e : TransportError := {
    text := "error sending request"
    links := [.io (.ofKind .connectionReset), .io (.ofKind .permissionDenied)] }
  have refused : e.IsRefused :=
    ⟨.io (.ofKind .permissionDenied), List.mem_cons_of_mem _ List.mem_cons_self, rfl⟩
  refine ⟨e, rfl, refused, rfl, fun policy request start n => ?_⟩
  have passing : ∀ answer ∈ List.replicate n (⟨.error ⟨listMethod, ofTransport e⟩, 0⟩ : Answer),
      ∃ e : RegistryError, answer.reply = .error e ∧ e.fault.isPassing = true := by
    intro answer mem
    rw [List.eq_of_mem_replicate mem]
    exact ⟨_, rfl, rfl⟩
  rw [Query.run, Query.retries_of_passing passing, List.length_replicate]

end Relaunch
