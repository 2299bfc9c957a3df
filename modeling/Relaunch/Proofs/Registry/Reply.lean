import Relaunch.Proofs.Json.Beginning
import Relaunch.Proofs.Registry.Query
import Relaunch.Proofs.Text.Lossy
import Relaunch.Proofs.Workload.Form
import Relaunch.Registry.Http

/-!
# Proofs/Registry/Reply — what becomes of a reply

A reply has a status and a body.  With a status in 200…299 the body decides about a list call, and
a failure report does not look at it; with any other status both fail, whatever the body is, and the
error keeps the beginning of its text (`Keeps`).

Over a run of replies a query goes on past those with a status in 500…599, and no further.

* `Keeps.unique` — an error keeps one text of a body.
* `isWhite_of_decodeBytes` — no body with an answer begins another one.
* `Response.runFrom_eq` — the course of a query over replies.
* `every_reply_mapped` — the outcome of every call, and of every query.
-/

namespace Relaunch.Http

/-! ## What an error keeps -/

/-- **The beginning of a text, up to a limit**: no more characters of it than that, and as many as
there may be. -/
structure IsOpening (limit : Nat) (kept text : List Char) : Prop where
  sub : kept <+: text
  length_le : kept.length ≤ limit
  longest : ∀ other, other <+: text → other.length ≤ limit → other <+: kept

theorem isOpening_take (limit : Nat) (text : List Char) :
    IsOpening limit (text.take limit) text where
  sub := List.take_prefix limit text
  length_le := List.length_take_le limit text
  longest _ sub length_le := List.prefix_take_iff.mpr ⟨sub, length_le⟩

theorem IsOpening.unique {limit : Nat} {kept other text : List Char}
    (opening : IsOpening limit kept text) (opening' : IsOpening limit other text) : kept = other :=
  (opening'.longest kept opening.sub opening.length_le).eq_of_length_le
    (opening.longest other opening'.sub opening'.length_le).length_le

/-- A text that is not longer is kept whole. -/
theorem IsOpening.eq_of_length_le {limit : Nat} {kept text : List Char}
    (opening : IsOpening limit kept text) (short : text.length ≤ limit) : kept = text :=
  opening.sub.eq_of_length_le (opening.longest text List.prefix_rfl short).length_le

/-- A body, if all of it came. -/
abbrev Body := Except TransportError (List UInt8)

/-- **What an error may keep of a body**: up to 512 characters of its text, and nothing of a body
that did not all come. -/
inductive Keeps : Body → String → Prop where
  | read {bytes : List UInt8} {text : List Char} {kept : String} (lossy : Lossy bytes text)
    (opening : IsOpening 512 kept.toList text) : Keeps (.ok bytes) kept
  | unread (e : TransportError) : Keeps (.error e) ""

theorem keeps_errorBody (body : Body) : Keeps body (errorBody body) := by
  cases body with
  | ok bytes =>
    refine .read (Glyph.lossy_iff.mpr rfl) ?_
    rw [errorBody, String.toList_ofList]
    exact isOpening_take 512 _
  | error e => exact .unread e

/-- **An error keeps one text of a body.** -/
theorem Keeps.unique {body : Body} {kept other : String} (keeps : Keeps body kept)
    (keeps' : Keeps body other) : kept = other := by
  cases keeps with
  | read lossy opening =>
    cases keeps' with
    | read lossy' opening' =>
      rw [lossy'.unique lossy] at opening'
      exact String.toList_inj.mp (opening.unique opening')
  | unread e =>
    cases keeps'
    rfl

/-- A text that is short enough is kept whole. -/
theorem Keeps.toList_eq {bytes : List UInt8} {text : List Char} {kept : String}
    (keeps : Keeps (.ok bytes) kept) (lossy : Lossy bytes text) (short : text.length ≤ 512) :
    kept.toList = text := by
  cases keeps with
  | read lossy' opening =>
    obtain rfl := lossy'.unique lossy
    exact opening.eq_of_length_le short

/-! ## Bodies of list calls -/

/-- The white space that may stand between the parts of a body, and around them. -/
def isWhite (b : UInt8) : Bool := b == 0x20 || b == 0x09 || b == 0x0A || b == 0x0D

/-- **Bodies that hold no answer.** -/
inductive Broken (bytes : List UInt8) : Prop
  /-- There is no object and no array in front; so it is with an empty body. -/
  | misfit (front : ¬ Json.Bracketed (Glyph.scan bytes))
  /-- An answer is cut off before its end. -/
  | truncated (more : List UInt8) (solid : ∃ b ∈ more, isWhite b = false) (response : ListResponse)
      (whole : decodeBytes ListResponse.read (bytes ++ more) = .ok response)
  /-- There is more behind an answer than white space. -/
  | trailed (part more : List UInt8) (split : bytes = part ++ more)
      (solid : ∃ b ∈ more, isWhite b = false) (response : ListResponse)
      (whole : decodeBytes ListResponse.read part = .ok response)
  /-- A text of an answer begins, and goes wrong. -/
  | flawed (problem? : Option Json.Problem)
      (flaw : ListResponse.form.flaws problem? (Glyph.scan bytes))

section

variable {bytes more : List UInt8} {response other : ListResponse}

theorem isWhite_of_isSpace {c : Char} (space : Json.isSpace (.char c) = true) :
    ∀ b ∈ String.utf8EncodeChar c, isWhite b = true := by
  simp only [Json.isSpace, Bool.or_eq_true, beq_iff_eq] at space
  rcases space with ((rfl | rfl) | rfl) | rfl <;> exact List.forall_mem_singleton.mpr rfl

/-- A lossy text that is white space is that of bytes that are. -/
theorem isWhite_of_lossy {text : List Char} (lossy : Lossy more text)
    (spaces : ∀ c ∈ text, Json.isSpace (.char c) = true) : ∀ b ∈ more, isWhite b = true := by
  induction lossy with
  | nil => exact nofun
  | char c rest ih =>
    obtain ⟨first, others⟩ := List.forall_mem_cons.mp spaces
    intro b mem
    exact (List.mem_append.mp mem).elim (isWhite_of_isSpace first b) (ih others b)
  | broken breaks rest ih => exact absurd (spaces _ List.mem_cons_self) (by decide)

theorem isWhite_of_skipSpace (blank : Json.skipSpace (Glyph.scan more) = []) :
    ∀ b ∈ more, isWhite b = true := by
  refine isWhite_of_lossy (Glyph.lossy_scan more) fun c mem => ?_
  obtain ⟨g, there, rfl⟩ := List.mem_map.mp mem
  have space := List.dropWhile_eq_nil_iff.mp blank g there
  cases g with
  | char c => exact space
  | broken run => exact nomatch space

/-- **No body with an answer begins another one**, save for white space behind it. -/
theorem isWhite_of_decodeBytes (decoded : decodeBytes ListResponse.read bytes = .ok response)
    (longer : decodeBytes ListResponse.read (bytes ++ more) = .ok other) :
    ∀ b ∈ more, isWhite b = true := by
  have passes := ListResponse.reads.passes
  obtain ⟨part, c, last⟩ := Json.Shape.exists_last passes decoded
  have whole : Glyph.EndsWhole (Glyph.scan bytes) := by
    intro g mem
    rw [last, List.getLast?_concat] at mem
    exact ⟨c, (Option.some.inj mem).symm⟩
  rw [decodeBytes, Glyph.scan_append whole] at longer
  exact isWhite_of_skipSpace (Json.Shape.blank_of_append passes decoded longer)

/-- **Nothing is decoded of a broken body.** -/
theorem Broken.ne_ok (broken : Broken bytes) :
    decodeBytes ListResponse.read bytes ≠ .ok response := by
  intro decoded
  cases broken with
  | misfit front =>
    obtain ⟨t, read, -⟩ := Json.whole?_eq_ok_iff.mp decoded
    exact front (Json.Shape.bracketed read)
  | truncated more solid longer whole =>
    obtain ⟨b, mem, solid⟩ := solid
    exact Bool.false_ne_true (solid.symm.trans (isWhite_of_decodeBytes decoded whole b mem))
  | trailed part more split solid shorter whole =>
    subst split
    obtain ⟨b, mem, solid⟩ := solid
    exact Bool.false_ne_true (solid.symm.trans (isWhite_of_decodeBytes whole decoded b mem))
  | flawed problem? flaw =>
    obtain ⟨problem, failed, -⟩ := ListResponse.reads.flawed flaw
    cases failed.symm.trans decoded

end

/-! ## Single calls -/

theorem isSuccess_iff {status : Nat} : isSuccess status = true ↔ 200 ≤ status ∧ status ≤ 299 := by
  rw [isSuccess, Bool.and_eq_true, decide_eq_true_eq, decide_eq_true_eq]

section

variable {status : Nat}

theorem bodyOf_of_isSuccess (success : isSuccess status = true) (body : Body) :
    bodyOf (.replied status body) = .ok body := if_pos success

theorem bodyOf_of_not_isSuccess (failure : ¬ isSuccess status = true) (body : Body) :
    bodyOf (.replied status body) = .error (.server status (errorBody body)) := if_neg failure

/-- With a status that means success a list call has the outcome of its body. -/
theorem listOutcome_of_isSuccess (success : isSuccess status = true) (bytes : List UInt8) :
    listOutcome (.replied status (.ok bytes))
      = (decodeBytes ListResponse.read bytes).mapError
          fun problem => ⟨listMethod, .decode (.problem problem)⟩ := by
  simp only [listOutcome, bodyOf_of_isSuccess success]
  cases decodeBytes ListResponse.read bytes <;> rfl

/-- A body that did not all come is no reply: the list call ends in a transport error. -/
theorem listOutcome_of_unread (success : isSuccess status = true) (e : TransportError) :
    listOutcome (.replied status (.error e)) = .error ⟨listMethod, .ofTransport e⟩ := by
  simp only [listOutcome, bodyOf_of_isSuccess success]

/-- With any other status the body only goes into the error. -/
theorem listOutcome_of_not_isSuccess (failure : ¬ isSuccess status = true) (body : Body) :
    listOutcome (.replied status body)
      = .error ⟨listMethod, .server status (errorBody body)⟩ := by
  simp only [listOutcome, bodyOf_of_not_isSuccess failure]

theorem reportOutcome_of_isSuccess (success : isSuccess status = true) (body : Body) :
    reportOutcome (.replied status body) = .ok () := by
  simp only [reportOutcome, bodyOf_of_isSuccess success]

theorem reportOutcome_of_not_isSuccess (failure : ¬ isSuccess status = true) (body : Body) :
    reportOutcome (.replied status body)
      = .error ⟨failureMethod, .server status (errorBody body)⟩ := by
  simp only [reportOutcome, bodyOf_of_not_isSuccess failure]

end

/-! ## Queries -/

/-- **A reply to a list call.**  A body whose status promised it came whole: where it does not, the
call ends in a transport error, and there is no reply. -/
structure Response where
  status : Nat
  body : Body
  whole : 200 ≤ status ∧ status ≤ 299 → ∃ bytes, body = .ok bytes
  delay : Nat := 0

namespace Response

/-- What the query hears. -/
def heard (r : Response) : ListReply := listOutcome (.replied r.status r.body)

def answer (r : Response) : Answer := ⟨r.heard, r.delay⟩

/-- Whether the registry may be recovering. -/
def isTransient (r : Response) : Bool := 500 ≤ r.status && r.status ≤ 599

theorem isTransient_iff {r : Response} :
    r.isTransient = true ↔ 500 ≤ r.status ∧ r.status ≤ 599 := by
  rw [isTransient, Bool.and_eq_true, decide_eq_true_eq, decide_eq_true_eq]

/-- A transient status is heard as a failure that may pass. -/
theorem heard_of_isTransient {r : Response} (transient : r.isTransient = true) :
    ∃ e : RegistryError, r.heard = .error e ∧ e.fault.isPassing = true := by
  have range := isTransient_iff.mp transient
  have failure : ¬ isSuccess r.status = true := fun success => by
    have := isSuccess_iff.mp success
    omega
  exact ⟨_, listOutcome_of_not_isSuccess failure r.body, transient⟩

/-- **Any other reply lasts, and is not fatal.** -/
theorem heard_of_not_isTransient {r : Response} (lasting : ¬ r.isTransient = true)
    {e : RegistryError} (heard : r.heard = .error e) :
    e.fault.isPassing = false ∧ e.fault.isSocketRejected = false := by
  rw [Response.heard] at heard
  by_cases success : isSuccess r.status = true
  · obtain ⟨bytes, whole⟩ := r.whole (isSuccess_iff.mp success)
    rw [whole, listOutcome_of_isSuccess success] at heard
    cases decoded : decodeBytes ListResponse.read bytes with
    | ok response =>
      rw [decoded] at heard
      cases heard
    | error problem =>
      rw [decoded] at heard
      cases heard
      exact ⟨rfl, rfl⟩
  · rw [listOutcome_of_not_isSuccess success] at heard
    cases heard
    exact ⟨Bool.eq_false_iff.mpr lasting, rfl⟩

/-- How many replies a query goes past: the transient ones that come first. -/
def passed (replies : List Response) : Nat := (replies.takeWhile isTransient).length

/-- The first reply that is not transient, if there is one. -/
def next? (replies : List Response) : Option Response := replies.find? (!·.isTransient)

/-- **The course of a query over replies**, from an attempt on: a retry for each transient reply
that comes first, one more call, and the outcome of the next reply. -/
theorem runFrom_eq [Clock] (policy : Backoff) (request : ListRequest) (r : Retry) (time : Nat)
    (replies : List Response) :
    let query := Query.runFrom policy request r time (replies.map answer)
    query.retries = passed replies ∧ query.calls.length = passed replies + 1 ∧
      query.result = ((next? replies).elim (.ok ⟨[]⟩) heard).mapError
        (⟨false, r.attempt + passed replies, ·⟩) := by
  induction replies generalizing r time with
  | nil => exact ⟨rfl, rfl, rfl⟩
  | cons first replies ih =>
    by_cases transient : first.isTransient = true
    · obtain ⟨e, heard, passing⟩ := heard_of_isTransient transient
      have passed_eq : passed (first :: replies) = passed replies + 1 := by
        rw [passed, List.takeWhile_cons_of_pos transient, List.length_cons, passed]
      have next_eq : next? (first :: replies) = next? replies := by
        rw [next?, List.find?_cons_of_neg (by simpa using transient), next?]
      obtain ⟨retries, calls, result⟩ :=
        ih (r.again policy)
          (first.answer.arrival time + r.delay.ticks (first.answer.arrival time))
      have attempts :
          (r.again policy).attempt + passed replies = r.attempt + (passed replies + 1) :=
        (Nat.add_right_comm _ _ _).trans (Nat.add_assoc _ _ _)
      simp only [List.map_cons, Query.runFrom, answer, heard, Query.take_of_passing passing]
      rw [passed_eq, next_eq, ← attempts, ← result]
      exact ⟨congrArg (· + 1) retries, congrArg (· + 1) calls, rfl⟩
    · have passed_eq : passed (first :: replies) = 0 := by
        rw [passed, List.takeWhile_cons_of_neg transient, List.length_nil]
      have next_eq : next? (first :: replies) = some first := by
        rw [next?, List.find?_cons_of_pos (by simpa using transient)]
      simp only [List.map_cons, Query.runFrom, answer, passed_eq, next_eq, Option.elim_some]
      cases heard : first.heard with
      | ok response => exact ⟨rfl, rfl, rfl⟩
      | error e =>
        obtain ⟨lasting, harmless⟩ := heard_of_not_isTransient transient heard
        rw [Query.take_of_lasting lasting, harmless]
        exact ⟨rfl, rfl, rfl⟩

end Response

/-! ## Every reply -/

/-- **The outcome of every reply, and of every run of replies.**

* A list call succeeds if and only if the status is in 200…299 and the body holds an answer, which
  is what it returns.  Where the status is, and the body does not, it fails as undecodable.
* Every text of an answer holds it.  No broken body holds one: none that ends early, none that has
  more behind its end, and none that goes wrong before.
* With any other status it fails with that status and the one text that is kept of the body, which
  is the whole of it if that is not too long.
* A failure report fails in the same way, and succeeds with any status in 200…299.
* A query retries after each of the replies in 500…599 that come first, and then returns what comes
  of the next one.  No reply is fatal. -/
theorem every_reply_mapped [Clock] :
    (∀ status bytes response, listOutcome (.replied status (.ok bytes)) = .ok response ↔
      (200 ≤ status ∧ status ≤ 299) ∧ decodeBytes ListResponse.read bytes = .ok response) ∧
    (∀ status bytes, 200 ≤ status ∧ status ≤ 299 →
      (∀ response, decodeBytes ListResponse.read bytes ≠ .ok response) →
      ∃ problem, decodeBytes ListResponse.read bytes = .error problem ∧
        listOutcome (.replied status (.ok bytes))
          = .error ⟨listMethod, .decode (.problem problem)⟩) ∧
    (∀ bytes response, ListResponse.form.Whole response (Glyph.scan bytes) →
      decodeBytes ListResponse.read bytes = .ok response) ∧
    (∀ bytes response, Broken bytes → decodeBytes ListResponse.read bytes ≠ .ok response) ∧
    (∀ body, ∃! kept, Keeps body kept) ∧
    (∀ bytes text kept, Keeps (.ok bytes) kept → Lossy bytes text → text.length ≤ 512 →
      kept.toList = text) ∧
    (∀ status body kept, ¬ (200 ≤ status ∧ status ≤ 299) → Keeps body kept →
      listOutcome (.replied status body) = .error ⟨listMethod, .server status kept⟩ ∧
      reportOutcome (.replied status body) = .error ⟨failureMethod, .server status kept⟩) ∧
    (∀ status body, 200 ≤ status ∧ status ≤ 299 → reportOutcome (.replied status body) = .ok ()) ∧
    ∀ policy request start (replies : List Response),
      let query := Query.run policy request start (replies.map Response.answer)
      query.retries = Response.passed replies ∧ query.calls.length = Response.passed replies + 1 ∧
      (∀ reply, Response.next? replies = some reply →
        query.result = reply.heard.mapError (⟨false, Response.passed replies + 1, ·⟩)) ∧
      ∀ e, query.result = .error e → e.isFatal = false := by
  refine ⟨fun status bytes response => ?_, fun status bytes range undecodable => ?_,
    fun bytes response => ListResponse.reads.whole, fun bytes response => Broken.ne_ok,
    fun body => ?_, fun bytes text kept keeps => keeps.toList_eq,
    fun status body kept range keeps => ?_, fun status body range => ?_,
    fun policy request start replies => ?_⟩
  · by_cases success : isSuccess status = true
    · rw [listOutcome_of_isSuccess success, and_iff_right (isSuccess_iff.mp success)]
      cases decodeBytes ListResponse.read bytes with
      | ok other => exact ⟨fun same => by cases same; rfl, fun same => by cases same; rfl⟩
      | error problem => exact ⟨nofun, nofun⟩
    · rw [listOutcome_of_not_isSuccess success]
      exact ⟨nofun, fun both => absurd (isSuccess_iff.mpr both.1) success⟩
  · rw [listOutcome_of_isSuccess (isSuccess_iff.mpr range)]
    cases decoded : decodeBytes ListResponse.read bytes with
    | ok response => exact absurd decoded (undecodable response)
    | error problem => exact ⟨problem, rfl, rfl⟩
  · exact ⟨errorBody body, keeps_errorBody body,
      fun kept keeps => keeps.unique (keeps_errorBody body)⟩
  · have failure : ¬ isSuccess status = true := fun success => range (isSuccess_iff.mp success)
    rw [listOutcome_of_not_isSuccess failure, reportOutcome_of_not_isSuccess failure,
      keeps.unique (keeps_errorBody body)]
    exact ⟨rfl, rfl⟩
  · exact reportOutcome_of_isSuccess (isSuccess_iff.mpr range) body
  · obtain ⟨retries, calls, result⟩ :=
      Response.runFrom_eq policy request (.first policy) start replies
    refine ⟨retries, calls, fun reply next => ?_, fun e failed => ?_⟩
    · rw [Query.run, result, next, Retry.first, Nat.add_comm 1]
      rfl
    · rw [Query.run, result] at failed
      cases last : (Response.next? replies).elim (.ok ⟨[]⟩) Response.heard with
      | ok response =>
        rw [last] at failed
        cases failed
      | error fault =>
        rw [last] at failed
        cases failed
        rfl

/-- An answer of no workloads, and bodies that hold none: nothing at all, an answer cut short, one
with more behind it, one of the wrong type, and one with a byte in a string that is no character.  A
list call fails with each of these, and a report takes no notice.  In the error of another status
the byte is replaced.  A query that hears of a server error, whose body did not come, and then of
the body cut short, gives up. -/
theorem every_reply_mapped_of_broken :
    let empty : List UInt8 := "\x7b\x7d\n".toUTF8.data.toList
    let truncated : List UInt8 := "\x7b\"workloads\":[".toUTF8.data.toList
    let bodies : List (List UInt8) := [
      [], truncated, "\x7b\x7d,".toUTF8.data.toList, "\x7b\"workloads\":7\x7d".toUTF8.data.toList,
      "\x7b\"workloads\":[\x7b\"id\":\"".toUTF8.data.toList ++ [0xFF]]
    let replies : List Response := [
      ⟨503, .error { text := "connection closed" }, fun range => absurd range (by decide), 5⟩,
      ⟨200, .ok truncated, fun _ => ⟨truncated, rfl⟩, 0⟩,
      ⟨404, .ok [0x61, 0xFF], fun range => absurd range (by decide), 0⟩]
    listOutcome (.replied 200 (.ok empty)) = .ok ⟨[]⟩ ∧
    (∀ bytes ∈ bodies, (∃ problem, listOutcome (.replied 200 (.ok bytes))
        = .error ⟨listMethod, .decode (.problem problem)⟩) ∧
      reportOutcome (.replied 200 (.ok bytes)) = .ok ()) ∧
    listOutcome (.replied 404 (.ok [0x61, 0xFF]))
      = .error ⟨listMethod, .server 404 (String.ofList ['a', Char.ofNat 0xFFFD])⟩ ∧
    (Query.run ⟨.ofMillis 1, .ofMillis 2⟩ ⟨[], []⟩ 0 (replies.map Response.answer)).result
      = .error ⟨false, 2, ⟨listMethod, .decode (.problem .ended)⟩⟩ := by
  intro empty truncated bodies replies
  obtain ⟨succeeds, fails, texts, broken, -, -, server, reports, queries⟩ := every_reply_mapped
  have whole : ListResponse.form.Whole ⟨[]⟩ (Glyph.scan empty) := by
    refine ⟨Glyph.ofText "\n", .inl ⟨[], _, true, _, Json.token_of_skipSpace rfl, .nil _ _, ?_, ?_,
      Json.token_of_skipSpace rfl⟩, Glyph.ofText "\n", by decide, rfl⟩
    · exact fun slot mem => Nat.zero_le 1
    · simp [ListResponse.slots, Json.Slot.spared]
  have nothing : Broken [] := .misfit (by rintro ⟨c, rest, -, front⟩; cases front)
  have early : Broken truncated :=
    .truncated "]\x7d".toUTF8.data.toList (by decide) ⟨[]⟩ (by rfl)
  have late : Broken "\x7b\x7d,".toUTF8.data.toList :=
    .trailed "\x7b\x7d".toUTF8.data.toList ",".toUTF8.data.toList rfl (by decide) ⟨[]⟩ (by rfl)
  have undecodable : ∀ bytes ∈ bodies, ∀ response,
      decodeBytes ListResponse.read bytes ≠ .ok response := by
    simp only [bodies, List.forall_mem_cons]
    refine ⟨fun r => broken _ r nothing, fun r => broken _ r early, fun r => broken _ r late,
      fun r same => ?_, fun r same => ?_, fun bytes mem => absurd mem List.not_mem_nil⟩
    all_goals cases same
  have kept : Keeps (.ok [0x61, 0xFF]) (String.ofList ['a', Char.ofNat 0xFFFD]) :=
    keeps_errorBody (.ok [0x61, 0xFF])
  refine ⟨(succeeds 200 empty ⟨[]⟩).mpr ⟨by decide, texts empty ⟨[]⟩ whole⟩,
    fun bytes mem => ⟨?_, reports 200 _ (by decide)⟩, (server 404 _ _ (by decide) kept).1, ?_⟩
  · obtain ⟨problem, -, outcome⟩ := fails 200 bytes (by decide) (undecodable bytes mem)
    exact ⟨problem, outcome⟩
  · obtain ⟨-, -, result, -⟩ := queries ⟨.ofMillis 1, .ofMillis 2⟩ ⟨[], []⟩ 0 replies
    exact result _ rfl

end Relaunch.Http
