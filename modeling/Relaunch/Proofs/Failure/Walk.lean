import Relaunch.Failure

/-!
# Proofs/Failure/Walk — the chain of a failure is found by going down its sources

Each error of a failure says what it says, and may have a source right below it (`Node.source?`).
Going from one source to the next visits a list of nodes (`Walk`), and their texts are the chain.

* `Walk.map_text` — the chain is what is said on the way down.
* `Walk.of_captured` — a captured failure stands before all that was captured.
* `Walk.mem_of_query?` — a given-up query that a failure is, is met on the way down.
-/

namespace Relaunch

/-- **One of the errors that a failure is made of.** -/
inductive Node where
  | failure (f : Failure)
  | cause (c : Cause)
  /-- A link below a transport error, with those below it. -/
  | link (l : Link) (below : List Link)

namespace Node

/-- What an error says. -/
def text : Node → String
  | failure f => f.message
  | cause c => c.text
  | link l _ => l.text

/-- The first of some links. -/
def ofLinks : List Link → Option Node
  | [] => none
  | l :: below => some (link l below)

/-- **The error right below**, if there is one. -/
def source? : Node → Option Node
  | failure (.text _) => none
  | failure (.context _ inner) => some (failure inner)
  | failure (.captured inner) => some (failure inner)
  | failure (.query e) => some (failure (.registry e.error))
  | failure (.registry e) => e.fault.cause?.map cause
  | cause (.plain _) | cause (.problem _) => none
  | cause (.transport e) => ofLinks e.links
  | link _ below => ofLinks below

end Node

/-- **The way down from a node**: the node, its source, the source of that, down to the last. -/
inductive Walk : Node → List Node → Prop where
  | last {n : Node} (bottom : n.source? = none) : Walk n [n]
  | next {n m : Node} {ns : List Node} (below : n.source? = some m) (rest : Walk m ns) :
      Walk n (n :: ns)

namespace Walk

variable {n : Node} {ns ms : List Node}

/-- There is one way down. -/
theorem unique (one : Walk n ns) (other : Walk n ms) : ns = ms := by
  induction one generalizing ms with
  | last bottom =>
    cases other with
    | last => rfl
    | next below => exact nomatch bottom.symm.trans below
  | next below _ ih =>
    cases other with
    | last bottom => exact nomatch bottom.symm.trans below
    | next below' rest =>
      obtain rfl := Option.some.inj (below.symm.trans below')
      exact congrArg _ (ih rest)

theorem exists_link (l : Link) (below : List Link) :
    ∃ ns, Walk (.link l below) ns ∧ ns.map Node.text = (l :: below).map Link.text := by
  induction below generalizing l with
  | nil => exact ⟨_, .last rfl, rfl⟩
  | cons l' below ih =>
    obtain ⟨ns, walk, texts⟩ := ih l'
    exact ⟨_, .next rfl walk, congrArg (l.text :: ·) texts⟩

theorem exists_cause (c : Cause) :
    ∃ ns, Walk (.cause c) ns ∧ ns.map Node.text = c.chain := by
  cases c with
  | plain text => exact ⟨_, .last rfl, rfl⟩
  | problem p => exact ⟨_, .last rfl, rfl⟩
  | transport e =>
    cases its : e.links with
    | nil =>
      refine ⟨_, .last (congrArg Node.ofLinks its), ?_⟩
      rw [Cause.chain, its]
      rfl
    | cons l below =>
      obtain ⟨ns, walk, texts⟩ := exists_link l below
      refine ⟨_, .next (congrArg Node.ofLinks its) walk, ?_⟩
      rw [Cause.chain, its]
      exact congrArg (e.text :: ·) texts

theorem exists_registry (e : RegistryError) :
    ∃ ns, Walk (.failure (.registry e)) ns ∧ ns.map Node.text = e.chain := by
  cases its : e.fault.cause? with
  | none =>
    refine ⟨_, .last (congrArg (Option.map Node.cause) its), ?_⟩
    rw [RegistryError.chain, its]
    rfl
  | some c =>
    obtain ⟨ns, walk, texts⟩ := exists_cause c
    refine ⟨_, .next (congrArg (Option.map Node.cause) its) walk, ?_⟩
    rw [RegistryError.chain, its]
    exact congrArg (e.message :: ·) texts

theorem exists_failure (f : Failure) :
    ∃ ns, Walk (.failure f) ns ∧ ns.map Node.text = f.chain := by
  induction f with
  | text s => exact ⟨_, .last rfl, rfl⟩
  | context s inner ih =>
    obtain ⟨ns, walk, texts⟩ := ih
    exact ⟨_, .next rfl walk, congrArg (s :: ·) texts⟩
  | registry e => exact exists_registry e
  | query e =>
    obtain ⟨ns, walk, texts⟩ := exists_registry e.error
    exact ⟨_, .next rfl walk, congrArg (e.message :: ·) texts⟩
  | captured inner ih =>
    obtain ⟨ns, walk, texts⟩ := ih
    exact ⟨_, .next rfl walk, congrArg (inner.message :: ·) texts⟩

/-- **The chain of a failure is what is said on the way down.** -/
theorem map_text {f : Failure} (walk : Walk (.failure f) ns) : ns.map Node.text = f.chain := by
  obtain ⟨ms, other, texts⟩ := exists_failure f
  exact walk.unique other ▸ texts

/-- A captured failure stands before all that was captured. -/
theorem of_captured {f : Failure} (walk : Walk (.failure f) ns) :
    Walk (.failure (.captured f)) (.failure (.captured f) :: ns) := .next rfl walk

/-- **A given-up query that a failure is**, under any number of contexts, is met on the way
down. -/
theorem mem_of_query? {f : Failure} {q : QueryError} (walk : Walk (.failure f) ns)
    (its : f.query? = some q) : .failure (.query q) ∈ ns := by
  induction f generalizing ns with
  | query e =>
    obtain rfl := Option.some.inj its
    cases walk <;> exact List.mem_cons_self
  | context s inner ih =>
    cases walk with
    | last bottom => cases bottom
    | next below rest =>
      cases below
      exact List.mem_cons_of_mem _ (ih rest its)
  | text s => cases its
  | registry e => cases its
  | captured inner => cases its

end Walk

end Relaunch
