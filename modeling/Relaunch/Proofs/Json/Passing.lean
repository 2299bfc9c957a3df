import Relaunch.Proofs.Json.Form

/-!
# Proofs/Json/Passing — a value that is read takes what skipping it would take

A reader that succeeds leaves what is behind the value at the front, wherever it found that value.
So what follows a value does not depend on who reads it, or whether anybody does.

* `skip_mono` — more rounds change nothing about a value that is passed over.
* `passes_list`, `Shape.passes` — the readers of lists and of records keep to the values they read.
-/

namespace Relaunch.Json

/-! ## Enough rounds -/

theorem skip_succ (fuel : Nat) :
    (∀ s t, skipValue fuel s = .ok t → skipValue (fuel + 1) s = .ok t) ∧
    (∀ s t, skipItems fuel s = .ok t → skipItems (fuel + 1) s = .ok t) ∧
    (∀ s t, skipEntries fuel s = .ok t → skipEntries (fuel + 1) s = .ok t) := by
  induction fuel with
  | zero => exact ⟨nofun, nofun, nofun⟩
  | succ fuel ih =>
    obtain ⟨value, items, entries⟩ := ih
    refine ⟨fun s t passed => ?_, fun s t passed => ?_, fun s t passed => ?_⟩
    · rw [skipValue] at passed ⊢
      split at passed
      any_goals exact passed
      · split at passed
        any_goals exact passed
        exact items _ t passed
      · split at passed
        any_goals exact passed
        exact entries _ t passed
    · rw [skipItems] at passed ⊢
      obtain ⟨u, first, passed⟩ := bind_eq_ok.mp passed
      refine bind_eq_ok.mpr ⟨u, value s u first, ?_⟩
      split at passed
      any_goals exact passed
      exact items _ t passed
    · rw [skipEntries] at passed ⊢
      split at passed
      any_goals exact passed
      obtain ⟨u, key, passed⟩ := bind_eq_ok.mp passed
      obtain ⟨v, colon, passed⟩ := bind_eq_ok.mp passed
      obtain ⟨w, first, passed⟩ := bind_eq_ok.mp passed
      refine bind_eq_ok.mpr ⟨u, key, bind_eq_ok.mpr ⟨v, colon, bind_eq_ok.mpr
        ⟨w, value v w first, ?_⟩⟩⟩
      split at passed
      any_goals exact passed
      exact entries _ t passed

theorem skipValue_mono {m n : Nat} (le : m ≤ n) {s t : Input} (passed : skipValue m s = .ok t) :
    skipValue n s = .ok t := by
  induction le with
  | refl => exact passed
  | step _ ih => exact (skip_succ _).1 s t ih

theorem skipItems_mono {m n : Nat} (le : m ≤ n) {s t : Input} (passed : skipItems m s = .ok t) :
    skipItems n s = .ok t := by
  induction le with
  | refl => exact passed
  | step _ ih => exact (skip_succ _).2.1 s t ih

theorem skipEntries_mono {m n : Nat} (le : m ≤ n) {s t : Input}
    (passed : skipEntries m s = .ok t) : skipEntries n s = .ok t := by
  induction le with
  | refl => exact passed
  | step _ ih => exact (skip_succ _).2.2 s t ih

/-- **A value is passed over**, with enough rounds. -/
def Passes (s t : Input) : Prop := ∃ fuel, skipValue fuel s = .ok t

/-- The elements of an array and its end are passed over. -/
def ItemsPass (s t : Input) : Prop := ∃ fuel, skipItems fuel s = .ok t

/-- The entries of an object and its end are passed over. -/
def EntriesPass (s t : Input) : Prop := ∃ fuel, skipEntries fuel s = .ok t

/-- **What is behind a value depends on the text alone.** -/
theorem Passes.unique {s t u : Input} (one : Passes s t) (other : Passes s u) : t = u := by
  obtain ⟨m, one⟩ := one
  obtain ⟨n, other⟩ := other
  have both := (skipValue_mono (Nat.le_max_left m n) one).symm.trans
    (skipValue_mono (Nat.le_max_right m n) other)
  exact Except.ok.inj both

theorem WellFormed.passes {s t : Input} (value : WellFormed .value s t) : Passes s t :=
  ⟨_, value.skip⟩

theorem Passes.of_skipSpace {s t : Input} (passes : Passes (skipSpace s) t) : Passes s t := by
  obtain ⟨fuel, passed⟩ := passes
  exact ⟨fuel, (skipValue_skipSpace fuel s).symm.trans passed⟩

theorem Passes.opens {s t : Input} (passes : Passes s t) : Opens s := by
  obtain ⟨fuel, passed⟩ := passes
  obtain - | fuel := fuel
  · contradiction
  · rcases front : skipSpace s with - | ⟨g, rest⟩
    · simp only [skipValue, front] at passed
      contradiction
    · refine ⟨g, rest, front, ?_, ?_⟩ <;>
      · rintro rfl
        simp only [skipValue, front] at passed
        contradiction

theorem ItemsPass.last {s u t : Input} (first : Passes s u) (close : Token ']' u t) :
    ItemsPass s t := by
  obtain ⟨fuel, first⟩ := first
  exact ⟨fuel + 1, skipItems_last first close⟩

theorem ItemsPass.next {s u v t : Input} (first : Passes s u) (comma : Token ',' u v)
    (rest : ItemsPass v t) : ItemsPass s t := by
  obtain ⟨m, first⟩ := first
  obtain ⟨n, rest⟩ := rest
  refine ⟨max m n + 1, (skipItems_next (skipValue_mono (Nat.le_max_left m n) first) comma).trans ?_⟩
  exact skipItems_mono (Nat.le_max_right m n) rest

theorem ItemsPass.opens {s t : Input} (items : ItemsPass s t) : Opens s := by
  obtain ⟨fuel, passed⟩ := items
  obtain - | fuel := fuel
  · exact nomatch passed
  · obtain ⟨u, first, -⟩ := bind_eq_ok.mp ((skipItems.eq_2 s fuel).symm.trans passed)
    exact Passes.opens ⟨fuel, first⟩

theorem Passes.array {s u t : Input} (bracket : Token '[' s u) (items : ItemsPass u t) :
    Passes s t := by
  have opens := items.opens
  obtain ⟨fuel, passed⟩ := items
  exact ⟨fuel + 1, (skipValue_array bracket opens fuel).trans passed⟩

theorem EntriesPass.last {s u v w x t : Input} (quote : Token '"' s u) (key : Strung u v)
    (colon : Token ':' v w) (value : Passes w x) (close : Token '\x7d' x t) : EntriesPass s t := by
  obtain ⟨fuel, value⟩ := value
  exact ⟨fuel + 1, skipEntries_last quote key colon value close⟩

theorem EntriesPass.next {s u v w x y t : Input} (quote : Token '"' s u) (key : Strung u v)
    (colon : Token ':' v w) (value : Passes w x) (comma : Token ',' x y)
    (rest : EntriesPass y t) : EntriesPass s t := by
  obtain ⟨m, value⟩ := value
  obtain ⟨n, rest⟩ := rest
  refine ⟨max m n + 1, (skipEntries_next quote key colon
    (skipValue_mono (Nat.le_max_left m n) value) comma).trans ?_⟩
  exact skipEntries_mono (Nat.le_max_right m n) rest

theorem EntriesPass.quote {s t : Input} (entries : EntriesPass s t) : ∃ u, Token '"' s u := by
  obtain ⟨fuel, passed⟩ := entries
  obtain - | fuel := fuel
  · contradiction
  · rw [skipEntries] at passed
    split at passed
    · contradiction
    · rename_i u front
      exact ⟨u, token_of_skipSpace front⟩
    · contradiction

theorem Passes.object {s u t : Input} (brace : Token '\x7b' s u) (entries : EntriesPass u t) :
    Passes s t := by
  obtain ⟨v, quote⟩ := entries.quote
  obtain ⟨fuel, passed⟩ := entries
  exact ⟨fuel + 1, (skipValue_object brace quote fuel).trans passed⟩

/-! ## Simple readers -/

/-- **A string is read exactly where there is a text of it.** -/
theorem text_eq_ok_iff {x : String} {s t : Input} :
    text s = .ok (x, t) ↔ Form.text.texts x s t := by
  refine ⟨fun read => ?_, fun ⟨u, quote, spells⟩ => ?_⟩
  · unfold text at read
    split at read
    · exact nomatch read
    · rename_i u front
      exact ⟨u, token_of_skipSpace front, stringBody_eq_ok_iff.mp read⟩
    · exact nomatch read
  · simp only [text, quote.skipSpace rfl]
    exact stringBody_eq_ok_iff.mpr spells

theorem text_skipSpace (s : Input) : text (skipSpace s) = text s := by
  simp only [text, skipSpace_skipSpace]

theorem null_of_word {s t : Input} (read : word ['u', 'l', 'l'] s = .ok t) {r : Input}
    (front : skipSpace r = .char 'n' :: s) : Blank r ("null".toList.map .char ++ t) := by
  rw [word_eq_ok_iff.mp read] at front
  exact token_of_skipSpace front

/-- **A string or null is read exactly where there is a text of it.** -/
theorem optionalText_eq_ok_iff {o : Option String} {s t : Input} :
    optionalText s = .ok (o, t) ↔ Form.optional.texts o s t := by
  refine ⟨fun read => ?_, fun there => ?_⟩
  · unfold optionalText at read
    split at read
    · rename_i front
      obtain ⟨u, letters, eq⟩ := bind_eq_ok.mp read
      obtain ⟨rfl, rfl⟩ := Prod.mk.inj (Except.ok.inj eq)
      exact null_of_word letters front
    · obtain ⟨⟨x, u⟩, some, eq⟩ := bind_eq_ok.mp read
      obtain ⟨rfl, rfl⟩ := Prod.mk.inj (Except.ok.inj eq)
      exact text_eq_ok_iff.mp ((text_skipSpace s).symm.trans some)
  · obtain - | x := o
    · simp only [optionalText, Token.skipSpace (c := 'n') there rfl]
      exact bind_eq_ok.mpr ⟨t, word_eq_ok_iff.mpr rfl, rfl⟩
    · obtain ⟨u, quote, -⟩ := id there
      simp only [optionalText, quote.skipSpace rfl]
      refine bind_eq_ok.mpr ⟨(x, t), ?_, rfl⟩
      rw [← quote.skipSpace rfl, text_skipSpace]
      exact text_eq_ok_iff.mpr there

theorem passes_of_text {x : String} {s t : Input} (there : Form.text.texts x s t) : Passes s t := by
  obtain ⟨u, quote, spells⟩ := there
  exact (WellFormed.string s u t quote spells.strung).passes

theorem passes_of_null {s t : Input} (null : Blank s ("null".toList.map .char ++ t)) :
    Passes s t := (WellFormed.word "null" s t (by decide) null).passes

theorem passes_text {x : String} {s t : Input} (read : text s = .ok (x, t)) : Passes s t :=
  passes_of_text (text_eq_ok_iff.mp read)

theorem passes_optionalText {o : Option String} {s t : Input}
    (read : optionalText s = .ok (o, t)) : Passes s t := by
  have there := optionalText_eq_ok_iff.mp read
  obtain - | x := o
  · exact passes_of_null there
  · exact passes_of_text there

theorem passes_unit {s t : Input} (read : unit s = .ok ((), t)) : Passes s t := by
  unfold unit at read
  split at read
  · exact nomatch read
  · rename_i front
    obtain ⟨u, letters, eq⟩ := bind_eq_ok.mp read
    obtain rfl := (Prod.mk.inj (Except.ok.inj eq)).2
    exact passes_of_null (null_of_word letters front)
  · exact nomatch read

theorem passes_choice {table : List (String × α)} {a : α} {s t : Input}
    (read : choice table s = .ok (a, t)) : Passes s t := by
  unfold choice at read
  split at read
  · exact nomatch read
  · rename_i front
    obtain ⟨⟨name, u⟩, body, read⟩ := bind_eq_ok.mp read
    obtain ⟨b, -, eq⟩ := bind_eq_ok.mp read
    obtain rfl := (Prod.mk.inj (Except.ok.inj eq)).2
    exact passes_of_text ⟨_, token_of_skipSpace front, stringBody_eq_ok_iff.mp body⟩
  · rename_i brace
    split at read
    · exact nomatch read
    · rename_i quote
      obtain ⟨⟨name, u⟩, body, read⟩ := bind_eq_ok.mp read
      obtain ⟨b, -, read⟩ := bind_eq_ok.mp read
      obtain ⟨v, colon, read⟩ := bind_eq_ok.mp read
      obtain ⟨⟨⟨⟩, w⟩, null, read⟩ := bind_eq_ok.mp read
      simp only at read
      split at read
      · exact nomatch read
      · rename_i close
        obtain rfl := (Prod.mk.inj (Except.ok.inj read)).2
        exact .object (token_of_skipSpace brace) (.last (token_of_skipSpace quote)
          (stringBody_eq_ok_iff.mp body).strung (token_of_colon colon) (passes_unit null)
          (token_of_skipSpace close))
      · exact nomatch read
    · exact nomatch read
  · exact nomatch read

/-! ## Lists -/

theorem token_of_endItems {s t : Input} (read : endItems s = .ok t) : Token ']' s t := by
  unfold endItems at read
  split at read
  · exact nomatch read
  · rename_i front
    exact Except.ok.inj read ▸ token_of_skipSpace front
  · exact nomatch read

theorem start_of_nextItem {first : Bool} {s u : Input} (next : nextItem first s = .ok (some u)) :
    ∃ v, Start first s v ∧ u = skipSpace v := by
  unfold nextItem at next
  split at next
  · exact nomatch next
  · exact nomatch next
  · rename_i v front
    split at next
    · rename_i isFirst
      subst isFirst
      exact ⟨s, rfl, (Option.some.inj (Except.ok.inj next)).symm.trans front.symm⟩
    · rename_i later
      rw [Bool.not_eq_true] at later
      subst later
      split at next
      · exact nomatch next
      · exact nomatch next
      · exact ⟨v, token_of_skipSpace front, (Option.some.inj (Except.ok.inj next)).symm⟩
  · split at next
    · rename_i isFirst
      subst isFirst
      exact ⟨s, rfl, (Option.some.inj (Except.ok.inj next)).symm⟩
    · exact nomatch next

/-- What a loop over elements has left: the end of the array, or another element. -/
def ItemsLeft (first : Bool) (s t : Input) : Prop :=
  Token ']' s t ∨ ∃ u, Start first s u ∧ ItemsPass u t

/-- One element, and what a loop has left behind it. -/
theorem ItemsLeft.cons {first : Bool} {s u v t : Input} (next : nextItem first s = .ok (some u))
    (item : Passes u v) (left : ItemsLeft false v t) : ItemsLeft first s t := by
  obtain ⟨w, start, rfl⟩ := start_of_nextItem next
  refine .inr ⟨w, start, ?_⟩
  obtain close | ⟨x, comma, items⟩ := left
  · exact .last item.of_skipSpace close
  · exact .next item.of_skipSpace comma items

theorem ItemsLeft.array {s u t : Input} (bracket : Token '[' s u) (left : ItemsLeft true u t) :
    Passes s t := by
  obtain close | ⟨_, rfl, items⟩ := left
  · exact (WellFormed.emptyArray s u t bracket close).passes
  · exact .array bracket items

theorem itemsLeft_of_items {item : Reader α} (passes : ∀ a s t, item s = .ok (a, t) → Passes s t)
    {fuel : Nat} {first : Bool} {done as : List α} {s t : Input}
    (read : items item fuel first done s = .ok (as, t)) : ItemsLeft first s t := by
  induction fuel generalizing first done s with
  | zero => exact nomatch read
  | succ fuel ih =>
    obtain ⟨_ | u, next, read⟩ := bind_eq_ok.mp read
    · obtain ⟨v, close, eq⟩ := bind_eq_ok.mp read
      obtain rfl := (Prod.mk.inj (Except.ok.inj eq)).2
      exact .inl (token_of_endItems close)
    · obtain ⟨⟨a, v⟩, one, read⟩ := bind_eq_ok.mp read
      exact .cons next (passes a u v one) (ih read)

/-- **A list that is read takes what skipping it would take**, if its elements do. -/
theorem passes_list {item : Reader α} (passes : ∀ a s t, item s = .ok (a, t) → Passes s t)
    {as : List α} {s t : Input} (read : list item s = .ok (as, t)) : Passes s t := by
  unfold list at read
  split at read
  · exact nomatch read
  · rename_i front
    exact (itemsLeft_of_items passes read).array (token_of_skipSpace front)
  · exact nomatch read

/-! ## Records -/

variable {fields : List (Field σ)}

/-- The fields of an array, and its end. -/
theorem itemsLeft_of_positions {title : String} {count : Nat}
    (passes : ∀ field ∈ fields, ∀ d s d' t, field.read d s = .ok (d', t) → Passes s t)
    {index : Nat} {d d' : σ} {s t u : Input}
    (read : positions title count fields index d s = .ok (d', t)) (close : endItems t = .ok u) :
    ItemsLeft (index == 0) s u := by
  induction fields generalizing index d s with
  | nil =>
    obtain ⟨rfl, rfl⟩ := Prod.mk.inj (Except.ok.inj read)
    exact .inl (token_of_endItems close)
  | cons field fields ih =>
    obtain ⟨first, others⟩ := List.forall_mem_cons.mp passes
    obtain ⟨_ | v, next, read⟩ := bind_eq_ok.mp read
    · simp only at read
      split at read
      · exact nomatch read
      · obtain close | ⟨v, comma, -⟩ := ih others read
        · exact .inl close
        · -- the array has ended, so no comma comes next
          have front : skipSpace s = .char ',' :: v := Token.skipSpace comma rfl
          simp only [nextItem, front] at next
          split at next
          · exact nomatch next
          · split at next <;> exact nomatch next
    · obtain ⟨⟨d₁, w⟩, one, read⟩ := bind_eq_ok.mp read
      exact .cons next (first _ _ _ _ one) (ih others read)

theorem token_of_nextKey {first : Bool} {s t : Input} (next : nextKey first s = .ok (none, t)) :
    Token '\x7d' s t := by
  unfold nextKey at next
  split at next
  · exact nomatch next
  · rename_i front
    exact (Prod.mk.inj (Except.ok.inj next)).2 ▸ token_of_skipSpace front
  · split at next
    · obtain ⟨_, _, eq⟩ := bind_eq_ok.mp next
      exact nomatch eq
    · exact nomatch next
  · split at next
    · exact nomatch next
    · split at next
      · exact nomatch next
      · obtain ⟨_, _, eq⟩ := bind_eq_ok.mp next
        exact nomatch eq
      · exact nomatch next
  · exact nomatch next

theorem spells_of_stringBody {key : String} {s t : Input}
    (read : (stringBody s >>= fun (k, rest) => .ok (some k, rest)) = .ok (some key, t)) :
    Spells key.toList s t := by
  obtain ⟨⟨k, u⟩, body, eq⟩ := bind_eq_ok.mp read
  obtain ⟨same, rfl⟩ := Prod.mk.inj (Except.ok.inj eq)
  exact Option.some.inj same ▸ stringBody_eq_ok_iff.mp body

theorem start_of_nextKey {first : Bool} {key : String} {s t : Input}
    (next : nextKey first s = .ok (some key, t)) :
    ∃ u v, Start first s u ∧ Token '"' u v ∧ Spells key.toList v t := by
  unfold nextKey at next
  split at next
  · exact nomatch next
  · exact nomatch next
  · rename_i v front
    split at next
    · rename_i isFirst
      subst isFirst
      exact ⟨s, v, rfl, token_of_skipSpace front, spells_of_stringBody next⟩
    · exact nomatch next
  · rename_i u front
    split at next
    · exact nomatch next
    · rename_i later
      rw [Bool.not_eq_true] at later
      subst later
      split at next
      · exact nomatch next
      · rename_i v quote
        exact ⟨u, v, token_of_skipSpace front, token_of_skipSpace quote,
          spells_of_stringBody next⟩
      · exact nomatch next
  · exact nomatch next

/-- What a loop over entries has left: the end of the object, or another entry. -/
def EntriesLeft (first : Bool) (s t : Input) : Prop :=
  Token '\x7d' s t ∨ ∃ u, Start first s u ∧ EntriesPass u t

theorem EntriesLeft.cons {first : Bool} {key : String} {s u v w t : Input}
    (next : nextKey first s = .ok (some key, u)) (colon : Token ':' u v) (value : Passes v w)
    (left : EntriesLeft false w t) : EntriesLeft first s t := by
  obtain ⟨x, y, start, quote, spells⟩ := start_of_nextKey next
  refine .inr ⟨x, start, ?_⟩
  obtain close | ⟨z, comma, entries⟩ := left
  · exact .last quote spells.strung colon value close
  · exact .next quote spells.strung colon value comma entries

theorem EntriesLeft.object {s u t : Input} (brace : Token '\x7b' s u)
    (left : EntriesLeft true u t) : Passes s t := by
  obtain close | ⟨_, rfl, entries⟩ := left
  · exact (WellFormed.emptyObject s u t brace close).passes
  · exact .object brace entries

/-- An entry that is read, or passed over. -/
theorem passes_entry
    (passes : ∀ field ∈ fields, ∀ d s d' t, field.read d s = .ok (d', t) → Passes s t) {d d' : σ}
    {key : String} {s t : Input} (read : entry fields d key s = .ok (d', t)) :
    ∃ u, Token ':' s u ∧ Passes u t := by
  unfold entry at read
  split at read
  · rename_i field found
    split at read
    · exact nomatch read
    · obtain ⟨u, colon, read⟩ := bind_eq_ok.mp read
      exact ⟨u, token_of_colon colon, passes field (List.mem_of_find?_eq_some found) _ _ _ _ read⟩
  · obtain ⟨u, colon, read⟩ := bind_eq_ok.mp read
    obtain ⟨v, passed, eq⟩ := bind_eq_ok.mp read
    obtain rfl := (Prod.mk.inj (Except.ok.inj eq)).2
    exact ⟨u, token_of_colon colon, _, passed⟩

theorem entriesLeft_of_entries
    (passes : ∀ field ∈ fields, ∀ d s d' t, field.read d s = .ok (d', t) → Passes s t)
    {fuel : Nat} {first : Bool} {d d' : σ} {s t : Input}
    (read : entries fields fuel first d s = .ok (d', t)) : EntriesLeft first s t := by
  induction fuel generalizing first d s with
  | zero => exact nomatch read
  | succ fuel ih =>
    obtain ⟨⟨_ | key, u⟩, next, read⟩ := bind_eq_ok.mp read
    · obtain rfl := (Prod.mk.inj (Except.ok.inj read)).2
      exact .inl (token_of_nextKey next)
    · obtain ⟨⟨d₁, v⟩, one, read⟩ := bind_eq_ok.mp read
      obtain ⟨w, colon, value⟩ := passes_entry passes one
      exact .cons next colon value (ih read)

/-- **A record that is read takes what skipping it would take**, if the values of its fields do. -/
theorem Shape.passes {shape : Shape σ α}
    (passes : ∀ field ∈ shape.fields, ∀ d s d' t, field.read d s = .ok (d', t) → Passes s t)
    {a : α} {s t : Input} (read : shape.read s = .ok (a, t)) : Passes s t := by
  unfold Shape.read at read
  split at read
  · exact nomatch read
  · rename_i front
    obtain ⟨⟨d, u⟩, inside, read⟩ := bind_eq_ok.mp read
    obtain ⟨b, -, eq⟩ := bind_eq_ok.mp read
    obtain rfl := (Prod.mk.inj (Except.ok.inj eq)).2
    exact (entriesLeft_of_entries passes inside).object (token_of_skipSpace front)
  · rename_i front
    obtain ⟨⟨d, u⟩, inside, read⟩ := bind_eq_ok.mp read
    obtain ⟨b, -, read⟩ := bind_eq_ok.mp read
    obtain ⟨v, close, eq⟩ := bind_eq_ok.mp read
    obtain rfl := (Prod.mk.inj (Except.ok.inj eq)).2
    exact (itemsLeft_of_positions passes inside close).array (token_of_skipSpace front)
  · exact nomatch read

end Relaunch.Json
