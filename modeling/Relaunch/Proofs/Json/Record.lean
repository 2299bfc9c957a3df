import Relaunch.Proofs.Json.Reading
import Mathlib.Data.List.Forall2

/-!
# Proofs/Json/Record — records are read from their objects and their arrays

A `Record` is a shape together with slots that say how the record is written.  The drafts that come
up while one is read are told by the record that is written and the keys that have been met: this is
`Record.given`, and everything a loop does is a step from one such draft to another.

* `Record.entries_series` — the loop over the entries of an object.
* `Record.reads` — a shape reads the form that its slots make.
-/

namespace Relaunch.Json

/-- **A field that reads the values of a slot** into drafts that are told by a record and by the
keys that were met. -/
structure Fits (slots : List (Slot α)) (given : α → List String → σ) (field : Field σ)
    (slot : Slot α) : Prop where
  name : field.name = slot.name
  required : field.required = slot.required
  spare : ∀ a, slot.spare a → slot.required = false
  isSet : ∀ a ks, field.isSet (given a ks) = ks.contains slot.name
  text : ∀ {a s t}, slot.texts a s t → ∀ ks,
    field.read (given a ks) s = .ok (given a (slot.name :: ks), t)
  flaw : ∀ {o s}, slot.flaws o s → ∀ d,
    ∃ problem, field.read d s = .error problem ∧ ∀ q ∈ o, problem = q
  /-- Any other value that is read makes the draft one of another record, with the same texts for
  the other slots. -/
  other : ∀ a ks {s d t}, field.read (given a ks) s = .ok (d, t) →
    ∃ a', d = given a' (slot.name :: ks) ∧
      ∀ other ∈ slots, other.name ≠ slot.name → other.texts a' = other.texts a
  passes : ∀ d s d' t, field.read d s = .ok (d', t) → Passes s t
  skipSpace : ∀ d s, field.read d (skipSpace s) = field.read d s
  shorter : ∀ {a s t}, slot.texts a s t → t.length < s.length
  opens_of_flaw : ∀ {o s}, slot.flaws o s → Opens s

/-- **A shape and how its record is written.** -/
structure Record (σ α : Type) where
  shape : Shape σ α
  slots : List (Slot α)
  /-- The draft of a record whose slots have been read as far as their keys were met. -/
  given : α → List String → σ
  fits : List.Forall₂ (Fits slots given) shape.fields slots
  nodup : (slots.map Slot.name).Nodup
  blank : ∀ a, given a [] = shape.blank
  unknown : ∀ a ks k, (∀ slot ∈ slots, slot.name ≠ k) → given a (k :: ks) = given a ks
  finish : ∀ a ks, (∀ slot ∈ slots, slot.name ∉ ks → slot.spare a) →
    shape.finish (given a ks) = .ok a
  missing : ∀ a ks slot, missing? slots ks = some slot →
    shape.finish (given a ks) = .error (.missingField slot.name)

/-! ## Fields and drafts -/

/-- What a draft holds for a key: the value, once the key has been met. -/
def pick (ks : List String) (name : String) (b : β) : Option β :=
  if ks.contains name then some b else none

@[simp] theorem pick_nil (name : String) (b : β) : pick [] name b = none := rfl

@[simp] theorem isSome_pick (ks : List String) (name : String) (b : β) :
    (pick ks name b).isSome = ks.contains name := by
  unfold pick
  split <;> simp_all

theorem pick_cons (k : String) (ks : List String) (name : String) (b : β) :
    pick (k :: ks) name b = if name = k then some b else pick ks name b := by
  unfold pick
  rw [List.contains_cons]
  by_cases same : name = k <;> simp [same]

theorem pick_of_mem {ks : List String} {name : String} (met : name ∈ ks) (b : β) :
    pick ks name b = some b := if_pos (List.contains_iff_mem.mpr met)

theorem pick_of_not_mem {ks : List String} {name : String} (absent : name ∉ ks) (b : β) :
    pick ks name b = none := if_neg fun has => absent (List.contains_iff_mem.mp has)

/-- A default stands in for a key that was not met. -/
theorem getD_pick {ks : List String} {name : String} {b default : β}
    (spare : name ∉ ks → b = default) : (pick ks name b).getD default = b := by
  by_cases met : name ∈ ks
  · rw [pick_of_mem met, Option.getD_some]
  · rw [pick_of_not_mem met, Option.getD_none, spare met]

/-- What is required is there, once its key has been met. -/
theorem require_of_mem {ks : List String} {name : String} (met : name ∈ ks) (b : β)
    (k : β → Except Complaint γ) : (require name (pick ks name b) >>= k) = k b := by
  rw [pick_of_mem met]
  rfl

/-- What is required is missing, or something behind it. -/
theorem require_of_missing? {name : String} {form : Form β} {value : α → β}
    {slots : List (Slot α)} {ks : List String} {slot : Slot α}
    (lacks : missing? (.needed name form value :: slots) ks = some slot) {b : β}
    {k : β → Except Complaint γ}
    (later : missing? slots ks = some slot → k b = .error (.missingField slot.name)) :
    (require name (pick ks name b) >>= k) = .error (.missingField slot.name) := by
  by_cases met : name ∈ ks
  · rw [require_of_mem met]
    refine later ((List.find?_cons_of_neg ?_).symm.trans lacks)
    simp [Slot.needed, met]
  · have first : some (.needed name form value) = some slot :=
      (List.find?_cons_of_pos (by simp [Slot.needed, met])).symm.trans lacks
    rw [pick_of_not_mem met, ← Option.some.inj first]
    rfl

/-- **A field that puts what its reader reads into the drafts of a slot.** -/
theorem Fits.of {form : Form β} {reader : Reader β} {slots : List (Slot α)}
    {given : α → List String → σ} (slot : Slot α) (reads : form.Reads reader) {get : σ → Option β}
    {set : σ → β → σ} {value : α → β} (texts : slot.texts = fun a => form.texts (value a))
    (flaws : slot.flaws = form.flaws) (spare : ∀ a, slot.spare a → slot.required = false)
    (isSet : ∀ a ks, (get (given a ks)).isSome = ks.contains slot.name) (put : α → β → α)
    (put_value : ∀ a, put a (value a) = a)
    (fill : ∀ a ks b, set (given a ks) b = given (put a b) (slot.name :: ks))
    (same : ∀ a b, ∀ other ∈ slots, other.name ≠ slot.name →
      other.texts (put a b) = other.texts a) :
    Fits slots given (.of slot.name slot.required reader get set) slot where
  name := rfl
  required := rfl
  spare := spare
  isSet := isSet
  text {a s t} there ks := by
    rw [texts] at there
    refine bind_eq_ok.mpr ⟨(value a, t), reads.text there, ?_⟩
    simp only [fill, put_value]
  flaw {o s} there d := by
    rw [flaws] at there
    obtain ⟨problem, failed, named⟩ := reads.flaw there
    refine ⟨problem, ?_, named⟩
    simp only [Field.of, failed, bind, Except.bind]
  other a ks {s d t} read := by
    obtain ⟨⟨b, u⟩, -, eq⟩ := bind_eq_ok.mp read
    obtain ⟨rfl, -⟩ := Prod.mk.inj (Except.ok.inj eq)
    exact ⟨put a b, fill a ks b, same a b⟩
  passes d s d' t read := by
    obtain ⟨⟨b, u⟩, one, eq⟩ := bind_eq_ok.mp read
    obtain ⟨-, rfl⟩ := Prod.mk.inj (Except.ok.inj eq)
    exact reads.passes b s u one
  skipSpace d s := by simp only [Field.of, reads.skipSpace]
  shorter there := reads.shorter (texts ▸ there)
  opens_of_flaw there := reads.opens_of_flaw (flaws ▸ there)

section

variable {form : Form β} {reader : Reader β} {slots : List (Slot α)} {given : α → List String → σ}
  {name : String} {get : σ → Option β} {set : σ → β → σ} {value : α → β} {default : β}

theorem fits_needed (reads : form.Reads reader) (put : α → β → α)
    (put_value : ∀ a, put a (value a) = a)
    (isSet : ∀ a ks, (get (given a ks)).isSome = ks.contains name)
    (fill : ∀ a ks b, set (given a ks) b = given (put a b) (name :: ks))
    (same : ∀ a b, ∀ other ∈ slots, other.name ≠ name → other.texts (put a b) = other.texts a) :
    Fits slots given (.of name true reader get set) (.needed name form value) :=
  .of (.needed name form value) reads rfl rfl nofun isSet put put_value fill same

theorem fits_spared (reads : form.Reads reader) (put : α → β → α)
    (put_value : ∀ a, put a (value a) = a)
    (isSet : ∀ a ks, (get (given a ks)).isSome = ks.contains name)
    (fill : ∀ a ks b, set (given a ks) b = given (put a b) (name :: ks))
    (same : ∀ a b, ∀ other ∈ slots, other.name ≠ name → other.texts (put a b) = other.texts a) :
    Fits slots given (.of name false reader get set) (.spared name form value default) :=
  .of (.spared name form value default) reads rfl rfl (fun _ _ => rfl) isSet put put_value fill same

end

/-! ## Keys -/

theorem Key.length_lt {k : String} {s t : Input} (key : Key k s t) : t.length < s.length := by
  obtain ⟨u, v, quote, spells, colon⟩ := key
  have := quote.length_lt
  have := spells.length_lt
  have := colon.length_lt
  omega

/-- The next key of an object, with what is left behind it. -/
theorem nextKey_of_start {first : Bool} {k : String} {s t u : Input} (start : Start first s t)
    (key : Key k t u) : ∃ v, nextKey first s = .ok (some k, v) ∧ colon v = .ok u := by
  obtain ⟨v, w, quote, spells, colon⟩ := key
  refine ⟨w, ?_, colon.colon⟩
  have body := stringBody_eq_ok_iff.mpr spells
  rcases first with - | -
  · simp only [nextKey, Token.skipSpace (c := ',') start rfl, quote.skipSpace rfl, body]
    rfl
  · obtain rfl : s = t := start
    simp only [nextKey, quote.skipSpace rfl, body]
    rfl

theorem nextKey_of_close (first : Bool) {s t : Input} (close : Token '\x7d' s t) :
    nextKey first s = .ok (none, t) := by
  simp only [nextKey, close.skipSpace rfl]

namespace Record

variable (record : Record σ α)

/-- Each slot has a field, which goes by the slot's name alone. -/
theorem exists_field {slot : Slot α} (mem : slot ∈ record.slots) :
    ∃ field, record.shape.fields.find? (fun field => field.name == slot.name) = some field ∧
      Fits record.slots record.given field slot := by
  have find {fields : List (Field σ)} {slots : List (Slot α)}
      (fits : List.Forall₂ (Fits record.slots record.given) fields slots)
      (nodup : (slots.map Slot.name).Nodup) (mem : slot ∈ slots) :
      ∃ field, fields.find? (fun field => field.name == slot.name) = some field ∧
        Fits record.slots record.given field slot := by
    induction fits with
    | nil => exact nomatch mem
    | @cons field first fields slots one _ ih =>
      rw [List.map_cons, List.nodup_cons] at nodup
      obtain rfl | mem := List.mem_cons.mp mem
      · exact ⟨field, List.find?_cons_of_pos (beq_iff_eq.mpr one.name), one⟩
      · obtain ⟨found, eq, fits⟩ := ih nodup.2 mem
        have other : first.name ≠ slot.name := fun eq =>
          nodup.1 (eq ▸ List.mem_map_of_mem mem)
        refine ⟨found, (List.find?_cons_of_neg fun same => ?_).trans eq, fits⟩
        exact other (one.name.symm.trans (beq_iff_eq.mp same))
  exact find record.fits record.nodup mem

/-- Each field has a slot. -/
theorem exists_slot {field : Field σ} (mem : field ∈ record.shape.fields) :
    ∃ slot ∈ record.slots, Fits record.slots record.given field slot := by
  obtain ⟨i, lt, rfl⟩ := List.mem_iff_getElem.mp mem
  have within : i < record.slots.length := record.fits.length_eq ▸ lt
  exact ⟨record.slots[i], List.getElem_mem within, record.fits.get lt within⟩

theorem find?_eq_none {k : String} (unknown : ∀ slot ∈ record.slots, slot.name ≠ k) :
    record.shape.fields.find? (fun field => field.name == k) = none := by
  refine List.find?_eq_none.mpr fun field mem named => ?_
  obtain ⟨slot, mem, fits⟩ := record.exists_slot mem
  exact unknown slot mem (fits.name.symm.trans (beq_iff_eq.mp named))

/-! ## Entries -/

section Entries

variable {record} {a : α} {k : String} {ks met : List String} {first last : Bool}
  {s t u : Input}

theorem shorter_of_mem {slot : Slot α} (mem : slot ∈ record.slots) (text : slot.texts a s t) :
    t.length < s.length :=
  have ⟨_, _, fits⟩ := record.exists_field mem
  fits.shorter text

theorem shorter_of_entry (entry : Member record.slots a k s t) : t.length < s.length := by
  rcases entry with ⟨slot, mem, _, u, key, value⟩ | ⟨_, u, key, value⟩
  · exact Nat.lt_trans (shorter_of_mem mem value) key.length_lt
  · exact Nat.lt_trans value.length_lt key.length_lt

/-- The entry of a slot that has not been met is read by its field. -/
theorem entry_of_slot {slot : Slot α} {field : Field σ}
    (found : record.shape.fields.find? (fun field => field.name == slot.name) = some field)
    (fits : Fits record.slots record.given field slot) (new : slot.name ∉ met)
    (colon : colon s = .ok t) :
    entry record.shape.fields (record.given a met) slot.name s
      = field.read (record.given a met) t := by
  have unset : field.isSet (record.given a met) = false := by
    rw [fits.isSet, List.contains_eq_mem]
    exact decide_eq_false new
  simp only [entry, found, unset, Bool.false_eq_true, if_false, colon, bind, Except.bind]

/-- The entry of a slot that has been met is one too many, whatever it holds. -/
theorem entry_of_met {slot : Slot α} (mem : slot ∈ record.slots) (old : slot.name ∈ met)
    (s : Input) :
    entry record.shape.fields (record.given a met) slot.name s
      = .error (.data (.duplicateField slot.name)) := by
  obtain ⟨field, found, fits⟩ := record.exists_field mem
  have set : field.isSet (record.given a met) = true := by
    rw [fits.isSet, List.contains_eq_mem]
    exact decide_eq_true old
  simp only [entry, found, set, if_true, fits.name]

/-- **One entry** of a loop. -/
theorem entries_entry (start : Start first s t) (entry : Member record.slots a k t u)
    (new : ∀ slot ∈ record.slots, slot.name = k → k ∉ met) (fuel : Nat) :
    entries record.shape.fields (fuel + 1) first (record.given a met) s
      = entries record.shape.fields fuel false (record.given a (k :: met)) u := by
  rcases entry with ⟨slot, mem, rfl, v, key, value⟩ | ⟨unknown, v, key, value⟩
  · obtain ⟨w, next, colon⟩ := nextKey_of_start start key
    obtain ⟨field, found, fits⟩ := record.exists_field mem
    rw [entries, next]
    simp only [bind, Except.bind]
    rw [entry_of_slot found fits (new slot mem rfl) colon, fits.text value met]
  · obtain ⟨w, next, colon⟩ := nextKey_of_start start key
    rw [entries, next]
    simp only [bind, Except.bind, Json.entry, record.find?_eq_none unknown, colon, value.skip,
      record.unknown a met k unknown]

/-- **The loop over entries goes through a series of them.** -/
theorem entries_series (series : Series (Member record.slots a) first ks s last t)
    (once : ∀ slot ∈ record.slots, ks.count slot.name + met.count slot.name ≤ 1) (fuel : Nat) :
    entries record.shape.fields (ks.length + fuel) first (record.given a met) s
      = entries record.shape.fields fuel last (record.given a (ks.reverse ++ met)) t := by
  induction series generalizing met with
  | nil => rw [List.length_nil, Nat.zero_add, List.reverse_nil, List.nil_append]
  | @cons _ _ k ks _ _ _ _ start entry _ ih =>
    have new (slot : Slot α) (mem : slot ∈ record.slots) (name : slot.name = k) : k ∉ met := by
      have few := once slot mem
      rw [name, List.count_cons_self] at few
      exact List.count_eq_zero.mp (by omega)
    have once' (slot : Slot α) (mem : slot ∈ record.slots) :
        ks.count slot.name + (k :: met).count slot.name ≤ 1 := by
      have few := once slot mem
      rw [List.count_cons] at few ⊢
      omega
    rw [List.length_cons, Nat.add_right_comm, entries_entry start entry new, ih once',
      List.reverse_cons, List.append_assoc, List.singleton_append]

/-- The loop from the opening brace on. -/
theorem entries_object (series : Series (Member record.slots a) true ks s last t)
    (once : Once record.slots ks) (fuel : Nat) :
    entries record.shape.fields (ks.length + fuel) true record.shape.blank s
      = entries record.shape.fields fuel last (record.given a ks.reverse) t := by
  rw [← record.blank a]
  refine (entries_series series (fun slot mem => ?_) fuel).trans ?_
  · rw [List.count_nil]
    exact once slot mem
  · rw [List.append_nil]

/-- The loop up to the value of a slot that has not been met: its field reads the value. -/
theorem entries_slot {slot : Slot α} {v w x : Input}
    (series : Series (Member record.slots a) true ks s last v) (once : Once record.slots ks)
    (mem : slot ∈ record.slots) (new : slot.name ∉ ks) (start : Start last v w)
    (key : Key slot.name w x) : ∃ field, Fits record.slots record.given field slot ∧
      ∀ fuel, entries record.shape.fields (ks.length + (fuel + 1)) true record.shape.blank s
        = field.read (record.given a ks.reverse) x >>= fun r =>
          entries record.shape.fields fuel false r.1 r.2 := by
  obtain ⟨y, next, colon⟩ := nextKey_of_start start key
  obtain ⟨field, found, fits⟩ := record.exists_field mem
  have unmet : slot.name ∉ ks.reverse := fun met => new (List.mem_reverse.mp met)
  refine ⟨field, fits, fun fuel => ?_⟩
  rw [entries_object series once, entries, next]
  simp only [bind, Except.bind, entry_of_slot found fits unmet colon]

end Entries

/-! ## Positions -/

section Positions

variable {record} {a : α} {first last : Bool} {s t : Input}
  {fields : List (Field σ)} {before after : List (Slot α)}

/-- **The loop over positions goes through a series of slots.** -/
theorem positions_series (title : String) (count : Nat)
    (fits : List.Forall₂ (Fits record.slots record.given) fields (before ++ after))
    (series : Series (fun slot => slot.texts a) first before s last t) (met : List String)
    (index : Nat) (at_first : first = (index == 0)) :
    ∃ rest, List.Forall₂ (Fits record.slots record.given) rest after ∧
      last = (index + before.length == 0) ∧
      positions title count fields index (record.given a met) s
        = positions title count rest (index + before.length)
          (record.given a ((before.map Slot.name).reverse ++ met)) t := by
  induction series generalizing fields met index with
  | nil => exact ⟨fields, fits, at_first, rfl⟩
  | @cons _ _ slot before _ _ _ _ start text _ ih =>
    obtain ⟨field, fields, one, others, rfl⟩ := List.forall₂_cons_right_iff.mp fits
    have next := nextItem_of_start start (one.passes _ _ _ _ (one.text text met)).opens
    obtain ⟨rest, remain, later, eq⟩ := ih others (slot.name :: met) (index + 1) rfl
    refine ⟨rest, remain, by rw [later, List.length_cons]; congr 1; omega, ?_⟩
    rw [positions, ← at_first, next]
    simp only [bind, Except.bind, one.skipSpace, one.text text met]
    rw [eq, List.length_cons, List.map_cons, List.reverse_cons, List.append_assoc,
      List.singleton_append, Nat.add_right_comm, Nat.add_assoc]

/-- At the end of an array the fields that are left keep their defaults. -/
theorem positions_close (title : String) (count : Nat)
    (fits : List.Forall₂ (Fits record.slots record.given) fields after)
    (spare : ∀ slot ∈ after, slot.spare a) (close : Token ']' s t) (index : Nat) (d : σ) :
    positions title count fields index d s = .ok (d, s) := by
  induction fits generalizing index with
  | nil => rfl
  | @cons field slot fields after one _ ih =>
    obtain ⟨first, others⟩ := List.forall_mem_cons.mp spare
    have free : field.required = false := one.required.trans (one.spare a first)
    rw [positions, nextItem_of_close (index == 0) close]
    simp only [bind, Except.bind, free, Bool.false_eq_true, if_false]
    exact ih others (index + 1)

end Positions

/-! ## Records -/

variable {record} {a : α} {o : Option Problem} {s t : Input}

theorem read_objectText (object : ObjectText record.slots a s t) :
    record.shape.read s = .ok (a, t) := by
  obtain ⟨ks, u, last, v, brace, series, once, spare, close⟩ := object
  obtain ⟨fuel, rounds⟩ := series.exists_rounds fun _ _ _ _ => shorter_of_entry
  have finished : record.shape.finish (record.given a ks.reverse) = .ok a :=
    record.finish a _ fun slot mem absent =>
      spare slot mem fun met => absent (List.mem_reverse.mpr met)
  simp only [Shape.read, brace.skipSpace rfl]
  rw [rounds, entries_object series once, entries, nextKey_of_close last close]
  simp only [bind, Except.bind, Shape.close, finished]

theorem read_arrayText (array : ArrayText record.slots a s t) :
    record.shape.read s = .ok (a, t) := by
  obtain ⟨before, after, u, last, v, split, bracket, series, spare, close⟩ := array
  have fits : List.Forall₂ (Fits record.slots record.given) record.shape.fields (before ++ after) :=
    split ▸ record.fits
  obtain ⟨rest, remain, -, eq⟩ := positions_series record.shape.title record.shape.fields.length
    fits series [] 0 rfl
  have finished : record.shape.finish (record.given a ((before.map Slot.name).reverse ++ []))
      = .ok a := by
    refine record.finish a _ fun slot mem absent => spare slot ?_
    rw [split] at mem
    obtain early | late := List.mem_append.mp mem
    · refine absurd ?_ absent
      rw [List.append_nil, List.mem_reverse]
      exact List.mem_map_of_mem early
    · exact late
  simp only [Shape.read, bracket.skipSpace rfl]
  rw [← record.blank a, eq, positions_close _ _ remain spare close]
  simp only [bind, Except.bind, Shape.close, finished, endItems_of_close close]

/-- Entries that stay the same when the value of a slot they do not have is another. -/
theorem series_of_other {slot : Slot α} {a' : α} {ks : List String} {first last : Bool}
    (series : Series (Member record.slots a) first ks s last t) (absent : slot.name ∉ ks)
    (same : ∀ other ∈ record.slots, other.name ≠ slot.name → other.texts a' = other.texts a) :
    Series (Member record.slots a') first ks s last t := by
  refine series.imp fun k mem u v entry => ?_
  rcases entry with ⟨other, there, rfl, w, key, value⟩ | ⟨unknown, w, key, value⟩
  · have differs : other.name ≠ slot.name := fun eq => absent (eq ▸ mem)
    exact .slot other there rfl w key (same other there differs ▸ value)
  · exact .other unknown w key value

/-! ## Mishaps -/

section Mishaps

variable {ks : List String} {last : Bool} {u v w x : Input} {slot : Slot α}

theorem missing?_reverse (slots : List (Slot α)) (ks : List String) :
    missing? slots ks.reverse = missing? slots ks := by
  unfold missing?
  simp only [List.contains_eq_mem, List.mem_reverse]

theorem read_missing (brace : Token '\x7b' s u)
    (series : Series (Member record.slots a) true ks u last v) (once : Once record.slots ks)
    (lacks : missing? record.slots ks = some slot) (close : Token '\x7d' v t) :
    record.shape.read s = .error (.data (.missingField slot.name)) := by
  obtain ⟨fuel, rounds⟩ := series.exists_rounds fun _ _ _ _ => shorter_of_entry
  have finished : record.shape.finish (record.given a ks.reverse)
      = .error (.missingField slot.name) :=
    record.missing a _ slot ((missing?_reverse record.slots ks).trans lacks)
  simp only [Shape.read, brace.skipSpace rfl]
  rw [rounds, entries_object series once, entries, nextKey_of_close last close]
  simp only [bind, Except.bind, Shape.close, finished]

/-- A failing loop fails the object. -/
theorem read_of_entries (brace : Token '\x7b' s u) {problem : Problem}
    (failed : entries record.shape.fields (u.length + 1) true record.shape.blank u
      = .error problem) : record.shape.read s = .error problem := by
  simp only [Shape.read, brace.skipSpace rfl, failed, bind, Except.bind]

theorem read_repeated (brace : Token '\x7b' s u)
    (series : Series (Member record.slots a) true ks u last v) (once : Once record.slots ks)
    (mem : slot ∈ record.slots) (met : slot.name ∈ ks) (start : Start last v w)
    (key : Key slot.name w x) :
    record.shape.read s = .error (.data (.duplicateField slot.name)) := by
  obtain ⟨fuel, rounds⟩ := series.exists_rounds fun _ _ _ _ => shorter_of_entry
  obtain ⟨y, next, -⟩ := nextKey_of_start start key
  refine read_of_entries brace ?_
  rw [rounds, entries_object series once, entries, next]
  simp only [bind, Except.bind, entry_of_met mem (List.mem_reverse.mpr met)]

theorem read_inObject (brace : Token '\x7b' s u)
    (series : Series (Member record.slots a) true ks u last v) (once : Once record.slots ks)
    (mem : slot ∈ record.slots) (first : slot.name ∉ ks) (start : Start last v w)
    (key : Key slot.name w x) (flaw : slot.flaws o x) :
    ∃ problem, record.shape.read s = .error problem ∧ ∀ q ∈ o, problem = q := by
  obtain ⟨fuel, rounds⟩ := series.exists_rounds fun _ _ _ _ => shorter_of_entry
  obtain ⟨field, fits, eq⟩ := entries_slot series once mem first start key
  obtain ⟨problem, failed, named⟩ := fits.flaw flaw (record.given a ks.reverse)
  refine ⟨problem, read_of_entries brace ?_, named⟩
  rw [rounds, eq, failed]
  rfl

theorem read_inArray {before after : List (Slot α)}
    (split : record.slots = before ++ slot :: after) (bracket : Token '[' s u)
    (series : Series (fun slot => slot.texts a) true before u last v) (start : Start last v w)
    (flaw : slot.flaws o w) :
    ∃ problem, record.shape.read s = .error problem ∧ ∀ q ∈ o, problem = q := by
  have fits : List.Forall₂ (Fits record.slots record.given) record.shape.fields
      (before ++ slot :: after) := split ▸ record.fits
  obtain ⟨rest, remain, at_last, eq⟩ := positions_series record.shape.title
    record.shape.fields.length fits series [] 0 rfl
  obtain ⟨field, fields, one, -, rfl⟩ := List.forall₂_cons_right_iff.mp remain
  obtain ⟨problem, failed, named⟩ :=
    one.flaw flaw (record.given a ((before.map Slot.name).reverse ++ []))
  refine ⟨problem, ?_, named⟩
  simp only [Shape.read, bracket.skipSpace rfl]
  rw [← record.blank a, eq, positions, ← at_last, nextItem_of_start start (one.opens_of_flaw flaw)]
  simp only [bind, Except.bind, one.skipSpace, failed]

/-- Keys behind one that is met once, counted with it and with those before it. -/
theorem count_behind {slots : List (Slot α)} {ks' : List String} (once : Once slots (ks ++ ks'))
    (new : slot.name ∉ ks ++ ks') {other : Slot α} (mem : other ∈ slots) :
    ks'.count other.name + (slot.name :: ks.reverse).count other.name ≤ 1 := by
  have few := once other mem
  rw [List.count_append] at few
  rw [List.count_cons, List.count_reverse]
  split
  · rename_i eq
    have none := List.count_eq_zero.mpr new
    rw [beq_iff_eq.mp eq, List.count_append] at none
    omega
  · omega

/-- The first of two keys of a slot has a value that is read, or fails; if it is read, nothing is
lost of what comes behind it, and so the second key is met. -/
theorem read_ousted {ks' : List String} {last' : Bool} {y v' w' x' : Input}
    (brace : Token '\x7b' s u) (series : Series (Member record.slots a) true ks u last v)
    (once : Once record.slots (ks ++ ks')) (mem : slot ∈ record.slots)
    (first : slot.name ∉ ks ++ ks') (start : Start last v w) (key : Key slot.name w x)
    (value : WellFormed .value x y) (series' : Series (Member record.slots a) false ks' y last' v')
    (start' : Start last' v' w') (key' : Key slot.name w' x') :
    ∃ problem, record.shape.read s = .error problem := by
  have early : slot.name ∉ ks := fun met => first (List.mem_append_left ks' met)
  have late : slot.name ∉ ks' := fun met => first (List.mem_append_right ks met)
  have once_early : Once record.slots ks := fun other there => by
    have few := once other there
    rw [List.count_append] at few
    omega
  have few : ks.length + ks'.length + 1 ≤ u.length := by
    have := series.length_le fun _ _ _ _ => shorter_of_entry
    have := start.length_le
    have := key.length_lt
    have := value.length_lt
    have := series'.length_le fun _ _ _ _ => shorter_of_entry
    omega
  obtain ⟨fuel, eq⟩ := Nat.exists_eq_add_of_le few
  have rounds : u.length + 1 = ks.length + ((ks'.length + (fuel + 1)) + 1) := by omega
  obtain ⟨field, fits, begun⟩ := entries_slot series once_early mem early start key
  rcases read : field.read (record.given a ks.reverse) x with problem | ⟨d, y'⟩
  · refine ⟨problem, read_of_entries brace ?_⟩
    rw [rounds, begun, read]
    rfl
  · obtain rfl := (fits.passes _ _ _ _ read).unique value.passes
    obtain ⟨a', rfl, same⟩ := fits.other a ks.reverse read
    obtain ⟨_, next, -⟩ := nextKey_of_start start' key'
    have met : slot.name ∈ ks'.reverse ++ slot.name :: ks.reverse :=
      List.mem_append_right _ List.mem_cons_self
    have behind := entries_series (series_of_other series' late same)
      (fun other there => count_behind once first there) (fuel + 1)
    refine ⟨.data (.duplicateField slot.name), read_of_entries brace ?_⟩
    rw [rounds, begun, read]
    refine behind.trans ?_
    rw [entries, next]
    simp only [bind, Except.bind, entry_of_met mem met]

end Mishaps

/-- **A mishap is told.** -/
theorem read_mishap (mishap : Mishap record.slots o s) :
    ∃ problem, record.shape.read s = .error problem ∧ ∀ q ∈ o, problem = q := by
  have told (p : Problem) : ∀ q ∈ some p, p = q := fun q eq => Option.some.inj eq
  cases mishap with
  | missing a ks slot _ u last v t brace series once lacks close =>
    exact ⟨_, read_missing brace series once lacks close, told _⟩
  | repeated a ks slot _ u last v w x brace series once mem met start key =>
    exact ⟨_, read_repeated brace series once mem met start key, told _⟩
  | ousted a ks ks' slot _ u last v w x y last' v' w' x' brace series once mem first start key value
      series' start' key' =>
    obtain ⟨problem, failed⟩ :=
      read_ousted brace series once mem first start key value series' start' key'
    exact ⟨problem, failed, nofun⟩
  | inObject _ a ks slot _ u last v w x brace series once mem first start key flaw =>
    exact read_inObject brace series once mem first start key flaw
  | inArray _ a before slot after _ u last v w split bracket series start flaw =>
    exact read_inArray split bracket series start flaw

/-- **A shape reads the form of its slots.** -/
theorem reads (record : Record σ α) : (Form.record record.slots).Reads record.shape.read where
  text there := there.elim read_objectText read_arrayText
  flaw := read_mishap
  passes _ _ _ := Shape.passes fun field mem =>
    have ⟨_, _, fits⟩ := record.exists_slot mem
    fits.passes
  skipSpace s := by simp only [Shape.read, skipSpace_skipSpace]
  shorter {a s t} there := by
    obtain ⟨ks, u, last, v, brace, series, -, -, close⟩ |
      ⟨before, after, u, last, v, split, bracket, series, -, close⟩ := there
    · have := series.length_le fun _ _ _ _ => shorter_of_entry
      have := brace.length_lt
      have := close.length_lt
      omega
    · have := series.length_le fun slot mem _ _ =>
        shorter_of_mem (split ▸ List.mem_append_left after mem)
      have := bracket.length_lt
      have := close.length_lt
      omega
  opens_of_flaw {o s} there := by
    cases there with
    | missing _ _ _ _ _ _ _ _ brace => exact brace.opens
    | repeated _ _ _ _ _ _ _ _ _ brace => exact brace.opens
    | ousted _ _ _ _ _ _ _ _ _ _ _ _ _ _ _ brace => exact brace.opens
    | inObject _ _ _ _ _ _ _ _ _ _ brace => exact brace.opens
    | inArray _ _ _ _ _ _ _ _ _ _ _ bracket => exact bracket.opens

end Record

end Relaunch.Json
