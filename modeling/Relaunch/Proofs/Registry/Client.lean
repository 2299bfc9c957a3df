import Relaunch.Proofs.Registry.Query
import Mathlib.Algebra.GroupWithZero.Nat
import Mathlib.Data.List.Chain

/-!
# Proofs/Registry/Client — a query hears no one but itself

However the queries of a client are interleaved, what each of them does is told by the replies that
it got itself: a retry for each of the passing failures that come first, with the delays of a
sequence of its own, and an end with the first reply that lasts.  That is what it would do alone.

* `Client.Step` — the steps of a client, one by one.
* `Inquiry.Stands` — where a query stands, and what it did, by the passing failures it heard.
* `Sane.step` — every step keeps all queries so.
* `query_eq_lone` — all of it for every query.
-/

namespace Relaunch

namespace Query

/-- What a query does of the retry of that number, counted from zero. -/
def retrial (policy : Backoff) (request : ListRequest) (n : Nat) (e : RegistryError) : List Act :=
  [.call request, .hear (.error e),
    .log (.queryRetried (ownerName request) e (n + 1) (policy.delay n)), .sleep (policy.delay n)]

/-- **What a query does up to its next call**, after some passing failures. -/
def retrials (policy : Backoff) (request : ListRequest) (errors : List RegistryError) : List Act :=
  errors.zipIdx.flatMap fun x => retrial policy request x.2 x.1

theorem retrials_concat (policy : Backoff) (request : ListRequest) (errors : List RegistryError)
    (e : RegistryError) :
    retrials policy request (errors ++ [e])
      = retrials policy request errors ++ retrial policy request errors.length e := by
  simp [retrials, List.zipIdx_append]

end Query

namespace Client

/-! ## Steps -/

section Steps

variable [Clock]

/-- **The steps of a client.** -/
inductive Step (c : Client) : Move → Client → Prop where
  | tick {time : Nat} (later : c.clock < time) : Step c (.tick time) { c with clock := time }
  | ask (request : ListRequest) :
      Step c (.ask request) { c.note c.inquiries.length [.call request] with
        inquiries := c.inquiries ++ [{ request, loop := .first c.policy }] }
  | retry {i : Nat} {q : Inquiry} {e : RegistryError} (at_i : c.inquiries[i]? = some q)
      (calls : q.phase = .calling) (passing : e.fault.isPassing = true) :
      Step c (.reply i (.error e))
        { (c.note i [.hear (.error e),
            .log (.queryRetried (Query.ownerName q.request) e q.loop.attempt q.loop.delay),
            .sleep q.loop.delay]).setInquiry i
          { q with
            loop := q.loop.again c.policy
            retries := q.retries + 1
            phase := .sleeping (c.clock + q.loop.delay.ticks c.clock) } with
          tally := c.tally.addRetry }
  | succeed {i : Nat} {q : Inquiry} {response : ListResponse} (at_i : c.inquiries[i]? = some q)
      (calls : q.phase = .calling) :
      Step c (.reply i (.ok response))
        ((c.note i (.hear (.ok response)
            :: (Query.lastEvents q.request (q.retries + 1) (.ok response)).map .log)).setInquiry i
          { q with phase := .returned (Query.verdict (q.retries + 1) (.ok response)) })
  | giveUp {i : Nat} {q : Inquiry} {e : RegistryError} (at_i : c.inquiries[i]? = some q)
      (calls : q.phase = .calling) (lasting : e.fault.isPassing = false) :
      Step c (.reply i (.error e))
        ((c.note i (.hear (.error e)
            :: (Query.lastEvents q.request q.loop.attempt (.error e)).map .log)).setInquiry i
          { q with phase := .returned (Query.verdict q.loop.attempt (.error e)) })
  | wake {i : Nat} {q : Inquiry} {wakes : Nat} (at_i : c.inquiries[i]? = some q)
      (sleeps : q.phase = .sleeping wakes) (due : wakes ≤ c.clock) :
      Step c (.wake i) ((c.note i [.call q.request]).setInquiry i { q with phase := .calling })

theorem hear_of_passing (c : Client) (i : Nat) (q : Inquiry) {e : RegistryError}
    (passing : e.fault.isPassing = true) :
    c.hear i q (.error e)
      = { (c.note i [.hear (.error e),
            .log (.queryRetried (Query.ownerName q.request) e q.loop.attempt q.loop.delay),
            .sleep q.loop.delay]).setInquiry i
          { q with
            loop := q.loop.again c.policy
            retries := q.retries + 1
            phase := .sleeping (c.clock + q.loop.delay.ticks c.clock) } with
          tally := c.tally.addRetry } := by
  rw [hear, Query.take_of_passing passing]

theorem hear_of_ok (c : Client) (i : Nat) (q : Inquiry) (response : ListResponse) :
    c.hear i q (.ok response)
      = (c.note i (.hear (.ok response)
          :: (Query.lastEvents q.request (q.retries + 1) (.ok response)).map .log)).setInquiry i
        { q with phase := .returned (Query.verdict (q.retries + 1) (.ok response)) } := by
  simp only [hear, Retry.take, conclude, Query.succeed_eq q.request (Nat.succ_ne_zero q.retries),
    List.map_map]
  rfl

theorem hear_of_lasting (c : Client) (i : Nat) (q : Inquiry) {e : RegistryError}
    (lasting : e.fault.isPassing = false) :
    c.hear i q (.error e)
      = (c.note i (.hear (.error e)
          :: (Query.lastEvents q.request q.loop.attempt (.error e)).map .log)).setInquiry i
        { q with phase := .returned (Query.verdict q.loop.attempt (.error e)) } := by
  simp only [hear, Query.take_of_lasting lasting, conclude, Query.giveUp_eq, List.map_map]
  rfl

theorem Step.of_step {c d : Client} {m : Move} (h : c.step m = some d) : c.Step m d := by
  cases m with
  | tick time =>
    simp only [step] at h
    split at h
    · rename_i later
      cases h
      exact .tick later
    · cases h
  | ask request =>
    cases h
    exact .ask request
  | reply i reply =>
    obtain ⟨q, at_i, h⟩ := Option.bind_eq_some_iff.mp h
    simp only [stepReply] at h
    split at h
    · rename_i calls
      cases h
      cases reply with
      | ok response =>
        rw [hear_of_ok]
        exact .succeed at_i calls
      | error e =>
        cases passing : e.fault.isPassing with
        | true =>
          rw [hear_of_passing c i q passing]
          exact .retry at_i calls passing
        | false =>
          rw [hear_of_lasting c i q passing]
          exact .giveUp at_i calls passing
    · cases h
    · cases h
  | wake i =>
    obtain ⟨q, at_i, h⟩ := Option.bind_eq_some_iff.mp h
    simp only [stepWake] at h
    split at h
    · rename_i wakes sleeps
      split at h
      · rename_i due
        cases h
        exact .wake at_i sleeps due
      · cases h
    · cases h
    · cases h

end Steps

/-! ## What is written down of a query -/

theorem course_note (c : Client) (i j : Nat) (acts : List Act) :
    (c.note i acts).course j
      = c.course j ++ if i = j then acts.map (Prod.mk c.clock) else [] := by
  rw [note, course, List.filterMap_append, List.filterMap_map]
  refine congrArg (c.course j ++ ·) ?_
  change acts.filterMap (fun act => if i = j then some (c.clock, act) else none) = _
  split
  · exact congrFun List.filterMap_eq_map acts
  · exact List.filterMap_eq_nil_iff.mpr fun _ _ => rfl

@[simp] theorem course_setInquiry (c : Client) (i : Nat) (q : Inquiry) :
    (c.setInquiry i q).course = c.course := rfl

theorem acts_note_self (c : Client) (i : Nat) (acts : List Act) :
    (c.note i acts).acts i = c.acts i ++ acts := by
  rw [Client.acts, course_note, if_pos rfl, List.map_append, List.map_map]
  exact congrArg (c.acts i ++ ·) (List.map_id acts)

theorem course_note_of_ne (c : Client) {i j : Nat} (ne : i ≠ j) (acts : List Act) :
    (c.note i acts).course j = c.course j := by
  rw [course_note, if_neg ne, List.append_nil]

/-- What a query does last is what it did last of some acts. -/
theorem getLast?_acts {course : List (Nat × Act)} {acts : List Act} {time : Nat} {last : Act}
    (ends : acts.getLast? = some last) :
    (course ++ acts.map (Prod.mk time)).getLast? = some (time, last) := by
  rw [List.getLast?_append, List.getLast?_map, ends]
  rfl

theorem replies_retrials (policy : Backoff) (request : ListRequest) (errors : List RegistryError) :
    (Query.retrials policy request errors).filterMap Act.reply? = errors.map .error := by
  induction errors using List.reverseRecOn with
  | nil => rfl
  | append_singleton errors e ih =>
    rw [Query.retrials_concat, List.filterMap_append, ih, List.map_append]
    rfl

theorem replies_log (events : List Event) : (events.map Act.log).filterMap Act.reply? = [] := by
  rw [List.filterMap_map]
  exact List.filterMap_eq_nil_iff.mpr fun _ _ => rfl

/-- What a query heard, by what it did since its last retry. -/
theorem repliesTo_eq {c : Client} {policy : Backoff} {i : Nat} {request : ListRequest}
    {errors : List RegistryError} {acts : List Act}
    (h : c.acts i = Query.retrials policy request errors ++ acts) :
    c.repliesTo i = errors.map .error ++ acts.filterMap Act.reply? := by
  rw [repliesTo, h, List.filterMap_append, replies_retrials]

theorem sum_retries_set {l : List Inquiry} {i : Nat} {q : Inquiry} (at_i : l[i]? = some q)
    (r : Inquiry) :
    ((l.set i r).map Inquiry.retries).sum + q.retries
      = (l.map Inquiry.retries).sum + r.retries := by
  induction l generalizing i with
  | nil => cases at_i
  | cons p l ih =>
    cases i with
    | zero =>
      cases at_i
      simp only [List.set_cons_zero, List.map_cons, List.sum_cons]
      omega
    | succ i =>
      have := ih at_i
      simp only [List.set_cons_succ, List.map_cons, List.sum_cons]
      omega

end Client

/-! ## Where a query stands -/

/-- **Where a query stands, and what it did**, after the passing failures that it heard. -/
inductive Inquiry.Stands (policy : Backoff) (errors : List RegistryError) :
    Inquiry → List Act → Prop where
  | calling (request : ListRequest) :
      Stands policy errors ⟨request, .nth policy errors.length, errors.length, .calling⟩
        (Query.retrials policy request errors ++ [.call request])
  | sleeping (request : ListRequest) (wakes : Nat) :
      Stands policy errors ⟨request, .nth policy errors.length, errors.length, .sleeping wakes⟩
        (Query.retrials policy request errors)
  | returned (request : ListRequest) {reply : ListReply}
      (lasting : ListReply.isLasting reply = true) :
      Stands policy errors
        ⟨request, .nth policy errors.length, errors.length,
          .returned (Query.verdict (errors.length + 1) reply)⟩
        (Query.retrials policy request errors ++ .call request :: .hear reply
          :: (Query.lastEvents request (errors.length + 1) reply).map .log)

/-- Where a query stands, told by its phase. -/
theorem Inquiry.Stands.phase_cases {policy : Backoff} {errors : List RegistryError} {q : Inquiry}
    {acts : List Act} (h : q.Stands policy errors acts) :
    q.phase = .calling ∧ acts = Query.retrials policy q.request errors ++ [.call q.request] ∨
      (∃ wakes, q.phase = .sleeping wakes) ∧ acts = Query.retrials policy q.request errors ∨
      ∃ reply : ListReply, reply.isLasting = true ∧
        q.phase = .returned (Query.verdict (errors.length + 1) reply) ∧
        acts = Query.retrials policy q.request errors ++ .call q.request :: .hear reply
          :: (Query.lastEvents q.request (errors.length + 1) reply).map .log := by
  cases h with
  | calling => exact .inl ⟨rfl, rfl⟩
  | sleeping request wakes => exact .inr (.inl ⟨⟨wakes, rfl⟩, rfl⟩)
  | @returned request reply lasting => exact .inr (.inr ⟨reply, lasting, rfl, rfl⟩)

theorem Inquiry.Stands.retries_eq {policy : Backoff} {errors : List RegistryError} {q : Inquiry}
    {acts : List Act} (h : q.Stands policy errors acts) : q.retries = errors.length := by
  cases h <;> rfl

/-- **No query cuts a sleep short**: after a sleep, it goes on no sooner than the sleep is over. -/
def Rested [Clock] (course : List (Nat × Act)) : Prop :=
  course.IsChain fun a b =>
    ∀ delay, a.2 = .sleep delay → ∃ wakes, delay.Sleeps a.1 wakes ∧ wakes ≤ b.1

/-- A query whose last act is a sleep wakes no sooner than the sleep is over. -/
def Inquiry.Rests [Clock] (q : Inquiry) (course : List (Nat × Act)) : Prop :=
  ∀ a ∈ course.getLast?, ∀ delay, a.2 = .sleep delay →
    ∃ wakes, q.phase = .sleeping wakes ∧ delay.Sleeps a.1 wakes

namespace Client

variable [Clock]

/-- **A client whose queries hear no one but themselves.** -/
structure Sane (policy : Backoff) (tally : Tally) (c : Client) : Prop where
  policy_eq : c.policy = policy
  standing : ∀ (i : Nat) (q : Inquiry), c.inquiries[i]? = some q →
    ∃ errors : List RegistryError, (∀ e ∈ errors, e.fault.isPassing = true) ∧
      q.Stands policy errors (c.acts i)
  rested : ∀ (i : Nat) (q : Inquiry), c.inquiries[i]? = some q →
    Rested (c.course i) ∧ q.Rests (c.course i)
  silent : ∀ i, c.inquiries.length ≤ i → c.course i = []
  counted : c.tally
    = { tally with retries := tally.retries + (c.inquiries.map Inquiry.retries).sum }

variable {policy : Backoff} {tally : Tally} {c d : Client}

theorem sane_new (policy : Backoff) (start : Nat) (tally : Tally) :
    (Client.new policy start tally).Sane policy tally where
  policy_eq := rfl
  standing _ _ at_i := by cases at_i
  rested _ _ at_i := by cases at_i
  silent _ _ := rfl
  counted := rfl

/-- **A query does something**: it stands where that leads, and the others where they stood. -/
theorem Sane.set (h : c.Sane policy tally) {i : Nat} {q r : Inquiry}
    (at_i : c.inquiries[i]? = some q) (acts : List Act) (more : Tally)
    (stands : ∀ (errors : List RegistryError) (done : List Act),
      (∀ e ∈ errors, e.fault.isPassing = true) → q.Stands policy errors done →
      ∃ errors : List RegistryError, (∀ e ∈ errors, e.fault.isPassing = true) ∧
        r.Stands policy errors (done ++ acts))
    (rests : Rested (c.course i) → q.Rests (c.course i) →
      Rested (c.course i ++ acts.map (Prod.mk c.clock)) ∧
        r.Rests (c.course i ++ acts.map (Prod.mk c.clock)))
    (counts : more = { c.tally with retries := c.tally.retries + (r.retries - q.retries) })
    (grows : q.retries ≤ r.retries) :
    { (c.note i acts).setInquiry i r with tally := more : Client }.Sane policy tally where
  policy_eq := h.policy_eq
  standing j p at_j := by
    have here := (List.getElem?_eq_some_iff.mp at_i).1
    by_cases eq : i = j
    · subst eq
      obtain rfl : r = p := Option.some.inj ((List.getElem?_set_self here).symm.trans at_j)
      obtain ⟨errors, passing, stood⟩ := h.standing i q at_i
      have acts_eq := acts_note_self c i acts
      obtain ⟨errors, passing, now⟩ := stands errors _ passing stood
      exact ⟨errors, passing, acts_eq ▸ now⟩
    · have at_j : c.inquiries[j]? = some p := (List.getElem?_set_ne eq).symm.trans at_j
      obtain ⟨errors, passing, stood⟩ := h.standing j p at_j
      have same : (c.note i acts).acts j = c.acts j :=
        congrArg (List.map Prod.snd) (course_note_of_ne c eq acts)
      exact ⟨errors, passing, same.symm ▸ stood⟩
  rested j p at_j := by
    have here := (List.getElem?_eq_some_iff.mp at_i).1
    by_cases eq : i = j
    · subst eq
      obtain rfl : r = p := Option.some.inj ((List.getElem?_set_self here).symm.trans at_j)
      obtain ⟨rested, rests_q⟩ := h.rested i q at_i
      have course := course_note c i i acts
      rw [if_pos rfl] at course
      exact course.symm ▸ rests rested rests_q
    · have at_j : c.inquiries[j]? = some p := (List.getElem?_set_ne eq).symm.trans at_j
      exact (course_note_of_ne c eq acts).symm ▸ h.rested j p at_j
  silent j beyond := by
    have here := (List.getElem?_eq_some_iff.mp at_i).1
    have beyond : c.inquiries.length ≤ j := by simpa [setInquiry, note] using beyond
    exact (course_note_of_ne c (by omega) acts).trans (h.silent j beyond)
  counted := by
    have summed := sum_retries_set at_i r
    have : tally.retries + (c.inquiries.map Inquiry.retries).sum + (r.retries - q.retries)
        = tally.retries + ((c.inquiries.set i r).map Inquiry.retries).sum := by omega
    rw [counts, h.counted]
    simp only [this]
    rfl

/-- A query that calls has not just slept. -/
theorem no_sleep_of_rests {q : Inquiry} {course : List (Nat × Act)} (rests : q.Rests course)
    (awake : ∀ wakes, q.phase ≠ .sleeping wakes) :
    ∀ a ∈ course.getLast?, ∀ delay, a.2 ≠ .sleep delay := by
  intro a mem delay slept
  obtain ⟨wakes, sleeps, -⟩ := rests a mem delay slept
  exact awake wakes sleeps

/-- What a query that calls does at one time, with a sleep only at the end. -/
theorem rested_append {course : List (Nat × Act)} (rested : Rested course) {acts : List Act}
    {time : Nat} (awake : ∀ a ∈ course.getLast?, ∀ delay, a.2 ≠ .sleep delay)
    (wide : ∀ act ∈ acts.dropLast, ∀ delay, act ≠ .sleep delay) :
    Rested (course ++ acts.map (Prod.mk time)) := by
  refine List.isChain_append.mpr ⟨rested, ?_, ?_⟩
  · induction acts with
    | nil => exact .nil
    | cons act acts ih =>
      cases acts with
      | nil => exact .singleton _
      | cons next acts =>
        refine .cons_cons (fun delay slept => absurd slept (wide act ?_ delay)) (ih fun a mem => ?_)
        · exact List.mem_cons_self
        · exact wide a (List.mem_cons_of_mem _ mem)
  · exact fun a mem b _ delay slept => absurd slept (awake a mem delay)

theorem Sane.ask (h : c.Sane policy tally) (request : ListRequest) :
    { c.note c.inquiries.length [.call request] with
      inquiries := c.inquiries ++ [{ request, loop := .first c.policy }] : Client }.Sane
      policy tally := by
  have fresh : (c.note c.inquiries.length [.call request]).course c.inquiries.length
      = [(c.clock, .call request)] := by
    rw [course_note, if_pos rfl, h.silent _ (Nat.le_refl _)]
    rfl
  have found : ∀ {i : Nat} {q : Inquiry},
      (c.inquiries ++ [{ request, loop := .first c.policy }])[i]? = some q →
      c.inquiries[i]? = some q ∧ c.inquiries.length ≠ i ∨
        i = c.inquiries.length ∧ q = { request, loop := .first c.policy } := by
    intro i q at_i
    rw [List.getElem?_append] at at_i
    split at at_i
    · exact .inl ⟨at_i, by omega⟩
    · have lt := (List.getElem?_eq_some_iff.mp at_i).1
      have eq : i - c.inquiries.length = 0 := by simpa using lt
      rw [eq] at at_i
      exact .inr ⟨by omega, (Option.some.inj at_i).symm⟩
  refine ⟨h.policy_eq, ?_, ?_, ?_, ?_⟩
  · intro i q at_i
    rcases found at_i with ⟨old, ne⟩ | ⟨rfl, rfl⟩
    · have same : (c.note c.inquiries.length [.call request]).acts i = c.acts i :=
        congrArg (List.map Prod.snd) (course_note_of_ne c ne _)
      exact same.symm ▸ h.standing i q old
    · refine ⟨[], nofun, ?_⟩
      have acts : (c.note c.inquiries.length [.call request]).acts c.inquiries.length
          = [.call request] := congrArg (List.map Prod.snd) fresh
      have stands := @Inquiry.Stands.calling policy [] request
      rw [h.policy_eq]
      exact acts.symm ▸ stands
  · intro i q at_i
    rcases found at_i with ⟨old, ne⟩ | ⟨rfl, rfl⟩
    · exact (course_note_of_ne c ne _).symm ▸ h.rested i q old
    · refine fresh.symm ▸ ⟨.singleton _, fun a mem delay slept => ?_⟩
      cases mem
      cases slept
  · intro i beyond
    simp only [List.length_append, List.length_singleton] at beyond
    exact (course_note_of_ne c (by omega) _).trans (h.silent i (by omega))
  · simpa [note] using h.counted

/-- **A query returns** with a reply that lasts, if both its counts agree. -/
theorem Sane.conclude (h : c.Sane policy tally) {i : Nat} {q : Inquiry}
    (at_i : c.inquiries[i]? = some q) (calls : q.phase = .calling) {reply : ListReply}
    (lasting : ListReply.isLasting reply = true) {attempts : Nat}
    (counts : q.loop.attempt = q.retries + 1 → attempts = q.retries + 1) :
    ((c.note i (.hear reply :: (Query.lastEvents q.request attempts reply).map .log)).setInquiry i
      { q with phase := .returned (Query.verdict attempts reply) }).Sane policy tally := by
  refine h.set at_i _ c.tally ?_ ?_ (by simp) (Nat.le_refl _)
  · intro errors done all stood
    cases stood with
    | calling request =>
      have agree := counts (Retry.attempt_nth policy errors.length)
      refine ⟨errors, all, ?_⟩
      rw [agree, List.append_assoc]
      exact .returned request lasting
    | sleeping => cases calls
    | returned => cases calls
  · intro rested rests
    have wide : ∀ act ∈ Act.hear reply :: (Query.lastEvents q.request attempts reply).map .log,
        ∀ delay, act ≠ .sleep delay := by
      intro act mem delay slept
      subst slept
      rcases List.mem_cons.mp mem with eq | logged
      · cases eq
      · obtain ⟨event, -, eq⟩ := List.mem_map.mp logged
        cases eq
    refine ⟨rested_append rested (no_sleep_of_rests rests (by rw [calls]; nofun)) fun act mem =>
      wide act (List.dropLast_subset _ mem), ?_⟩
    intro a mem delay slept
    rw [List.getLast?_append, List.getLast?_map] at mem
    cases last :
      (Act.hear reply :: (Query.lastEvents q.request attempts reply).map .log).getLast? with
    | none => simp at last
    | some act =>
      rw [last] at mem
      cases mem
      exact absurd slept (wide act (List.mem_of_getLast? last) delay)

/-- **A query counts a retry and sleeps.** -/
theorem Sane.retry (h : c.Sane policy tally) {i : Nat} {q : Inquiry} {e : RegistryError}
    (at_i : c.inquiries[i]? = some q) (calls : q.phase = .calling)
    (passing : e.fault.isPassing = true) :
    { (c.note i [.hear (.error e),
        .log (.queryRetried (Query.ownerName q.request) e q.loop.attempt q.loop.delay),
        .sleep q.loop.delay]).setInquiry i
      { q with
        loop := q.loop.again c.policy
        retries := q.retries + 1
        phase := .sleeping (c.clock + q.loop.delay.ticks c.clock) } with
      tally := c.tally.addRetry : Client }.Sane policy tally := by
  refine h.set at_i _ c.tally.addRetry ?_ ?_ ?_ (Nat.le_succ _)
  · intro errors done all stood
    -- the failure is one more of those that it heard
    cases stood with
    | calling request =>
      refine ⟨errors ++ [e], ?_, ?_⟩
      · intro f mem
        rcases List.mem_append.mp mem with old | new
        · exact all f old
        · obtain rfl := List.mem_singleton.mp new
          exact passing
      · have now := @Inquiry.Stands.sleeping policy (errors ++ [e]) request
          (c.clock + (policy.delay errors.length).ticks c.clock)
        rw [Query.retrials_concat, List.length_append, List.length_singleton] at now
        rw [h.policy_eq, Retry.attempt_nth, Retry.delay_eq, List.append_assoc]
        exact now
    | sleeping => cases calls
    | returned => cases calls
  · intro rested rests
    refine ⟨rested_append rested (no_sleep_of_rests rests (by rw [calls]; nofun)) (by simp), ?_⟩
    intro a mem delay slept
    rw [getLast?_acts (by rfl)] at mem
    cases mem
    cases slept
    exact ⟨_, rfl, Duration.sleeps_ticks _ c.clock⟩
  · rw [Nat.add_sub_cancel_left]
    rfl

/-- **A query wakes**, and calls again. -/
theorem Sane.wake (h : c.Sane policy tally) {i : Nat} {q : Inquiry} {wakes : Nat}
    (at_i : c.inquiries[i]? = some q) (sleeps : q.phase = .sleeping wakes)
    (due : wakes ≤ c.clock) :
    ((c.note i [.call q.request]).setInquiry i { q with phase := .calling }).Sane policy
      tally := by
  refine h.set at_i _ c.tally ?_ ?_ (by simp) (Nat.le_refl _)
  · intro errors done all stood
    cases stood with
    | calling => cases sleeps
    | sleeping request wakes => exact ⟨errors, all, .calling request⟩
    | returned => cases sleeps
  · intro rested rests
    refine ⟨List.isChain_append.mpr ⟨rested, .singleton _, ?_⟩, ?_⟩
    · intro a last b next delay slept
      cases next
      obtain ⟨wakes', sleeps', long⟩ := rests a last delay slept
      obtain rfl : wakes = wakes' := Inquiry.Phase.sleeping.inj (sleeps.symm.trans sleeps')
      exact ⟨wakes, long, due⟩
    · intro a mem delay slept
      rw [getLast?_acts (by rfl)] at mem
      cases mem
      cases slept

/-- **Every step keeps a client sane.** -/
theorem Sane.step {m : Move} (h : c.Sane policy tally) (s : c.Step m d) : d.Sane policy tally := by
  cases s with
  | tick later => exact { h with }
  | ask request => exact h.ask request
  | retry at_i calls passing => exact h.retry at_i calls passing
  | succeed at_i calls => exact h.conclude at_i calls rfl fun _ => rfl
  | @giveUp i q e at_i calls lasting =>
    refine h.conclude at_i calls ?_ id
    rw [ListReply.isLasting, lasting]
    rfl
  | wake at_i sleeps due => exact h.wake at_i sleeps due

theorem Sane.steps {moves : List Move} (h : c.Sane policy tally) (went : c.steps moves = some d) :
    d.Sane policy tally := by
  induction moves generalizing c with
  | nil =>
    cases went
    exact h
  | cons m moves ih =>
    rw [Client.steps, List.foldlM_cons] at went
    obtain ⟨e, first, rest⟩ := Option.bind_eq_some_iff.mp went
    exact ih (h.step (.of_step first)) rest

/-! ## No query goes on for ever -/

theorem steps_append {moves more : List Move} {e : Client} (went : c.steps moves = some d)
    (goesOn : d.steps more = some e) : c.steps (moves ++ more) = some e := by
  rw [Client.steps, List.foldlM_append]
  exact Option.bind_eq_some_iff.mpr ⟨d, went, goesOn⟩

theorem steps_singleton {m : Move} (s : c.step m = some d) : c.steps [m] = some d := by
  rw [Client.steps, List.foldlM_cons, s]
  rfl

/-- **A query that has not returned gets to its next call.** -/
theorem exists_calling {i : Nat} {q : Inquiry} (at_i : c.inquiries[i]? = some q)
    (under_way : ∀ result, q.phase ≠ .returned result) :
    ∃ (moves : List Move) (d : Client), c.steps moves = some d ∧
      d.inquiries[i]? = some { q with phase := .calling } := by
  have here := (List.getElem?_eq_some_iff.mp at_i).1
  cases phase : q.phase with
  | calling =>
    refine ⟨[], c, rfl, ?_⟩
    rw [at_i, ← phase]
  | returned result => exact absurd phase (under_way result)
  | sleeping wakes =>
    have wake : ∀ {d : Client}, d.inquiries = c.inquiries → wakes ≤ d.clock →
        ∃ e, d.step (.wake i) = some e ∧ e.inquiries[i]? = some { q with phase := .calling } := by
      intro d same due
      refine ⟨(d.note i [.call q.request]).setInquiry i { q with phase := .calling }, ?_, ?_⟩
      · rw [step, same, at_i, Option.bind_some, stepWake]
        simp only [phase, if_pos due]
      · rw [setInquiry, note, same, List.getElem?_set_self here]
    by_cases due : wakes ≤ c.clock
    · obtain ⟨e, s, calls⟩ := wake rfl due
      exact ⟨[.wake i], e, steps_singleton s, calls⟩
    · obtain ⟨e, s, calls⟩ := wake (d := { c with clock := wakes }) rfl (Nat.le_refl _)
      have tick : c.step (.tick wakes) = some { c with clock := wakes } := if_pos (by omega)
      exact ⟨[.tick wakes, .wake i], e,
        steps_append (steps_singleton tick) (steps_singleton s), calls⟩

/-- The loop's number of the attempt and the query's own count of retries agree. -/
theorem Sane.attempt_eq (h : c.Sane policy tally) {i : Nat} {q : Inquiry}
    (at_i : c.inquiries[i]? = some q) : q.loop.attempt = q.retries + 1 := by
  obtain ⟨errors, -, stands⟩ := h.standing i q at_i
  generalize c.acts i = acts at stands
  cases stands <;> exact Retry.attempt_nth policy errors.length

/-- A query that calls hears a reply that lasts, and returns. -/
theorem Sane.phase_hear (h : c.Sane policy tally) {i : Nat} {q : Inquiry}
    (at_i : c.inquiries[i]? = some q) {reply : ListReply}
    (lasting : ListReply.isLasting reply = true) :
    (c.hear i q reply).inquiries[i]?
      = some { q with phase := .returned (Query.verdict (q.retries + 1) reply) } := by
  have here := (List.getElem?_eq_some_iff.mp at_i).1
  cases reply with
  | ok response =>
    rw [hear_of_ok]
    exact List.getElem?_set_self here
  | error e =>
    have lasting : e.fault.isPassing = false := by simpa [ListReply.isLasting] using lasting
    rw [hear_of_lasting c i q lasting, h.attempt_eq at_i]
    exact List.getElem?_set_self here

/-- A query that calls hears any reply. -/
theorem step_reply {i : Nat} {q : Inquiry} (at_i : c.inquiries[i]? = some q)
    (calls : q.phase = .calling) (reply : ListReply) :
    c.step (.reply i reply) = some (c.hear i q reply) := by
  rw [step, at_i, Option.bind_some, stepReply, calls]

/-- **A query returns with the first reply that lasts**, however many passing failures come before
it, and whatever the others do not do. -/
theorem Sane.exists_returned (h : c.Sane policy tally) {i : Nat} {q : Inquiry}
    (at_i : c.inquiries[i]? = some q) (under_way : ∀ result, q.phase ≠ .returned result)
    {more : List RegistryError} (passing : ∀ e ∈ more, e.fault.isPassing = true)
    {reply : ListReply} (lasting : ListReply.isLasting reply = true) :
    ∃ (moves : List Move) (d : Client) (r : Inquiry), c.steps moves = some d ∧
      d.inquiries[i]? = some r ∧
      r.phase = .returned (Query.verdict (q.retries + more.length + 1) reply) := by
  induction more generalizing c q with
  | nil =>
    obtain ⟨first, d, went, calls⟩ := exists_calling at_i under_way
    exact ⟨first ++ [.reply i reply], _, _,
      steps_append went (steps_singleton (step_reply calls rfl reply)),
      (h.steps went).phase_hear calls lasting, rfl⟩
  | cons e more ih =>
    obtain ⟨first, d, went, calls⟩ := exists_calling at_i under_way
    have here := (List.getElem?_eq_some_iff.mp calls).1
    have heard := step_reply calls rfl (.error e)
    have sleeps : (d.hear i { q with phase := .calling } (.error e)).inquiries[i]? = some
        { q with
          loop := q.loop.again d.policy
          retries := q.retries + 1
          phase := .sleeping (d.clock + q.loop.delay.ticks d.clock) } := by
      rw [hear_of_passing d i _ (passing e List.mem_cons_self)]
      exact List.getElem?_set_self here
    obtain ⟨rest, f, r, goesOn, at_f, returned⟩ := ih ((h.steps went).step (.of_step heard)) sleeps
      nofun fun f mem => passing f (List.mem_cons_of_mem e mem)
    refine ⟨first ++ .reply i (.error e) :: rest, f, r, ?_, at_f, ?_⟩
    · refine steps_append went ?_
      rw [Client.steps, List.foldlM_cons, heard]
      exact goesOn
    · have counted : q.retries + 1 + more.length = q.retries + (more.length + 1) := by omega
      rw [returned, List.length_cons, counted]

end Client

/-! ## Every query, whatever the others do -/

/-- **A query that heard some passing failures and then a reply that lasts.** -/
structure Inquiry.Answered [Clock] (policy : Backoff) (q : Inquiry) (errors : List RegistryError)
    (reply : ListReply) (acts : List Act) : Prop where
  retries : q.retries = errors.length
  returned : q.phase = .returned (Query.verdict (errors.length + 1) reply)
  /-- A call, a retry logged and counted, and a delay for each failure; then one call more. -/
  acts : acts = Query.retrials policy q.request errors ++ .call q.request :: .hear reply
    :: (Query.lastEvents q.request (errors.length + 1) reply).map .log
  /-- What it gives back is never a failure that passes. -/
  verdict : ∀ e, q.phase = .returned (.error e) →
    reply = .error e.error ∧ e.attempts = errors.length + 1 ∧ e.error.fault.isPassing = false ∧
      (e.isFatal = true ↔ e.error.kind = .socketRejected)
  /-- Alone, with the same replies, it has the same course. -/
  alone : ∀ (time : Nat) (script : Script),
    (script.map Answer.reply).take (errors.length + 1) = errors.map .error ++ [reply] →
    Query.run policy q.request time script
      = Query.lone policy q.request 0 script time errors reply

/-- **A query that heard some passing failures only.** -/
structure Inquiry.UnderWay (policy : Backoff) (q : Inquiry) (errors : List RegistryError)
    (acts : List Act) : Prop where
  retries : q.retries = errors.length
  phase : q.phase = .calling ∧
      acts = Query.retrials policy q.request errors ++ [.call q.request] ∨
    (∃ wakes, q.phase = .sleeping wakes) ∧ acts = Query.retrials policy q.request errors

theorem Inquiry.UnderWay.phase_ne {policy : Backoff} {q : Inquiry} {errors : List RegistryError}
    {acts : List Act} (h : q.UnderWay policy errors acts)
    (result : Except QueryError ListResponse) : q.phase ≠ .returned result := by
  rcases h.phase with ⟨phase, -⟩ | ⟨⟨wakes, phase⟩, -⟩ <;> rw [phase] <;> nofun

theorem Query.verdict_eq_error {attempts : Nat} {reply : ListReply} {e : QueryError}
    (lasting : reply.isLasting = true) (h : verdict attempts reply = .error e) :
    reply = .error e.error ∧ e.attempts = attempts ∧ e.error.fault.isPassing = false ∧
      (e.isFatal = true ↔ e.error.kind = .socketRejected) := by
  cases reply with
  | ok response => cases h
  | error error =>
    cases h
    exact ⟨rfl, rfl, by simpa [ListReply.isLasting] using lasting, error.fault.isSocketRejected_iff⟩

namespace Client

variable [Clock] {policy : Backoff} {tally : Tally} {c : Client}

/-- **Every query is answered or under way**, by the replies that it got. -/
theorem Sane.cases (h : c.Sane policy tally) {i : Nat} {q : Inquiry}
    (at_i : c.inquiries[i]? = some q) :
    ∃ errors : List RegistryError, (∀ e ∈ errors, e.fault.isPassing = true) ∧
      (q.UnderWay policy errors (c.acts i) ∧ c.repliesTo i = errors.map .error ∨
        ∃ reply : ListReply, reply.isLasting = true ∧
          q.Answered policy errors reply (c.acts i) ∧
          c.repliesTo i = errors.map .error ++ [reply]) := by
  obtain ⟨errors, passing, stands⟩ := h.standing i q at_i
  have retries := stands.retries_eq
  refine ⟨errors, passing, ?_⟩
  rcases stands.phase_cases with ⟨phase, acts⟩ | ⟨sleeps, acts⟩ | ⟨reply, lasting, phase, acts⟩
  · refine .inl ⟨⟨retries, .inl ⟨phase, acts⟩⟩, ?_⟩
    rw [repliesTo_eq acts]
    exact List.append_nil _
  · refine .inl ⟨⟨retries, .inr ⟨sleeps, acts⟩⟩, ?_⟩
    rw [repliesTo, acts, replies_retrials]
  · refine .inr ⟨reply, lasting, ⟨retries, phase, acts, ?_, ?_⟩, ?_⟩
    · intro e returned
      exact Query.verdict_eq_error lasting (Inquiry.Phase.returned.inj (phase.symm.trans returned))
    · intro time script replies
      have whole := List.take_append_drop (errors.length + 1) (script.map Answer.reply)
      rw [replies, List.append_assoc] at whole
      exact Query.runFrom_eq passing lasting 0 time whole.symm
    · rw [repliesTo_eq acts]
      refine congrArg (errors.map Except.error ++ ·) ?_
      exact congrArg (reply :: ·) (replies_log _)

end Client

open Client

/-- **A query among others does what it would do alone.**  From a new client, any steps of any
number of queries lead to where the replies to each of them start with so many passing failures.

* If there is one more reply, the query has made one more call and no other, and has returned that
  reply, or the error that it stands for; in between it slept for the delays of a sequence of its
  own and logged each retry.  A query alone that gets the same replies has the same course.
* If there is none, the query is under way, and returns as soon as a reply comes that lasts.
* No sleep is cut short.
* The retries that are counted in all are those of the queries. -/
theorem query_eq_lone [Clock] {policy : Backoff} {start : Nat} {tally : Tally}
    {moves : List Client.Move} {c : Client}
    (went : (Client.new policy start tally).steps moves = some c) :
    (∀ (i : Nat) (q : Inquiry), c.inquiries[i]? = some q →
      let replies := c.repliesTo i
      let errors := Query.leading replies
      let k := errors.length
      (∀ reply, replies[k]? = some reply →
        replies.length = k + 1 ∧ q.Answered policy errors reply (c.acts i)) ∧
      (replies[k]? = none →
        replies.length = k ∧ q.UnderWay policy errors (c.acts i) ∧
        ∀ (more : List RegistryError) (reply : ListReply),
          (∀ e ∈ more, e.fault.isPassing = true) → reply.isLasting = true →
          ∃ (rest : List Client.Move) (d : Client) (r : Inquiry), c.steps rest = some d ∧
            d.inquiries[i]? = some r ∧
            r.phase = .returned (Query.verdict (k + more.length + 1) reply)) ∧
      Rested (c.course i)) ∧
    c.tally = { tally with
      retries := tally.retries + (c.inquiries.map Inquiry.retries).sum } := by
  have sane := (sane_new policy start tally).steps went
  refine ⟨fun i q at_i => ?_, sane.counted⟩
  obtain ⟨errors, passing, stood⟩ := sane.cases at_i
  rcases stood with ⟨underWay, replies⟩ | ⟨reply, lasting, answered, replies⟩
  · simp only [replies, Query.leading_map_error passing, List.getElem?_map, List.length_map,
      List.getElem?_eq_none (Nat.le_refl errors.length)]
    refine ⟨nofun, fun _ => ⟨trivial, underWay, fun more reply passes lasting => ?_⟩,
      (sane.rested i q at_i).1⟩
    rw [← underWay.retries]
    exact sane.exists_returned at_i underWay.phase_ne passes lasting
  · have next : (errors.map (Except.error (α := ListResponse)) ++ [reply])[errors.length]?
        = some reply := by
      rw [List.getElem?_append_right (by simp), List.length_map, Nat.sub_self]
      rfl
    simp only [replies, Query.leading_append passing lasting [], next, List.length_append,
      List.length_map, List.length_singleton]
    refine ⟨?_, nofun, (sane.rested i q at_i).1⟩
    intro other its
    cases its
    exact ⟨trivial, answered⟩

/-- Two queries: one is refused by the socket layer while the other, which was told that the
registry is down, sleeps. -/
theorem query_eq_lone_of_two :
    let down : RegistryError := ⟨"list", .server 503 "down"⟩
    let refused : RegistryError := ⟨"list", .socketRejected (.plain "denied")⟩
    let moves : List Client.Move := [.ask (.claimedBy "dp-1"), .ask (.claimedBy "dp-2"),
      .reply 0 (.error down), .reply 1 (.error refused), .tick 5, .wake 0, .reply 0 (.ok ⟨[]⟩)]
    ∃ c : Client, (Client.new ⟨.ofMillis 2, .ofMillis 8⟩ 0 {}).steps moves = some c ∧
      (∃ q, c.inquiries[0]? = some q ∧ q.phase = .returned (.ok ⟨[]⟩) ∧ q.retries = 1) ∧
      (∃ q, c.inquiries[1]? = some q ∧ q.phase = .returned (.error ⟨true, 1, refused⟩)) ∧
      c.tally.retries = 1 := by
  intro down refused moves
  obtain ⟨c, went⟩ : ∃ c, (Client.new ⟨.ofMillis 2, .ofMillis 8⟩ 0 {}).steps moves = some c :=
    ⟨_, rfl⟩
  obtain ⟨each, counted⟩ := query_eq_lone went
  cases went
  obtain ⟨-, slept⟩ := (each 0 _ rfl).1 (.ok ⟨[]⟩) rfl
  obtain ⟨-, failed⟩ := (each 1 _ rfl).1 (.error refused) rfl
  exact ⟨_, rfl, ⟨_, rfl, slept.returned, slept.retries⟩, ⟨_, rfl, failed.returned⟩,
    congrArg Tally.retries counted⟩

end Relaunch
