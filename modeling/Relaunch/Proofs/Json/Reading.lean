import Relaunch.Proofs.Json.Passing

/-!
# Proofs/Json/Reading — readers that read a form

A reader reads a form if it takes every text of a value for that value, and every text with a flaw
for a problem, namely the one that the flaw has to be named as.  Readers are put together as forms
are, and read what these say.

* `Form.Reads` — what it is to read a form.
* `reads_list` — a reader of lists reads lists of the values that its elements' reader reads.
-/

namespace Relaunch.Json

/-- **A reader reads a form.** -/
structure Form.Reads (form : Form α) (reader : Reader α) : Prop where
  text : ∀ {a s t}, form.texts a s t → reader s = .ok (a, t)
  flaw : ∀ {o s}, form.flaws o s → ∃ problem, reader s = .error problem ∧ ∀ q ∈ o, problem = q
  passes : ∀ a s t, reader s = .ok (a, t) → Passes s t
  /-- White space before a value is the reader's own to skip. -/
  skipSpace : ∀ s, reader (skipSpace s) = reader s
  shorter : ∀ {a s t}, form.texts a s t → t.length < s.length
  opens_of_flaw : ∀ {o s}, form.flaws o s → Opens s

namespace Form.Reads

variable {form : Form α} {reader : Reader α} (reads : form.Reads reader)

include reads

theorem opens_of_text {a : α} {s t : Input} (text : form.texts a s t) : Opens s :=
  (reads.passes a s t (reads.text text)).opens

/-- **A text with nothing but white space behind it is read as its value.** -/
theorem whole {a : α} {s : Input} (whole : form.Whole a s) : whole? reader s = .ok a := by
  obtain ⟨t, text, blank⟩ := whole
  refine bind_eq_ok.mpr ⟨(a, t), reads.text text, ?_⟩
  simp only [blank.skipSpace]
  rfl

/-- **A text with a flaw is no text of any value.** -/
theorem flawed {o : Option Problem} {s : Input} (flaw : form.flaws o s) :
    ∃ problem, whole? reader s = .error problem ∧ ∀ q ∈ o, problem = q := by
  obtain ⟨problem, failed, named⟩ := reads.flaw flaw
  exact ⟨problem, by rw [whole?, failed]; rfl, named⟩

end Form.Reads

/-! ## Simple forms -/

theorem reads_text : Form.text.Reads text where
  text there := text_eq_ok_iff.mpr there
  flaw := nofun
  passes _ _ _ := passes_text
  skipSpace := text_skipSpace
  shorter := fun ⟨_, quote, spells⟩ =>
    Nat.lt_trans (Nat.lt_of_le_of_lt (Nat.le_add_left _ _) spells.length_lt) quote.length_lt
  opens_of_flaw := nofun

theorem reads_optional : Form.optional.Reads optionalText where
  text there := optionalText_eq_ok_iff.mpr there
  flaw := nofun
  passes _ _ _ := passes_optionalText
  skipSpace s := by simp only [optionalText, skipSpace_skipSpace]
  shorter {o s t} there := by
    obtain - | x := o
    · have := Blank.length_le there
      simp only [List.length_append, List.length_map] at this
      exact Nat.lt_of_lt_of_le (Nat.lt_add_of_pos_left (by decide)) this
    · exact reads_text.shorter there
  opens_of_flaw := nofun

/-- **A choice reads the names of its table.** -/
theorem reads_choice {table : List (String × α)} {name : α → String}
    (known : ∀ a, table.lookup (name a) = some a) : (Form.named name).Reads (choice table) where
  text {a s t} there := by
    obtain ⟨u, quote, spells⟩ := there
    simp only [choice, quote.skipSpace rfl]
    refine bind_eq_ok.mpr ⟨(name a, t), stringBody_eq_ok_iff.mpr spells, ?_⟩
    refine bind_eq_ok.mpr ⟨a, ?_, rfl⟩
    rw [variant, known]
  flaw := nofun
  passes _ _ _ := passes_choice
  skipSpace s := by simp only [choice, skipSpace_skipSpace]
  shorter there := reads_text.shorter there
  opens_of_flaw := nofun

/-! ## Series -/

theorem Start.length_le {first : Bool} {s t : Input} (start : Start first s t) :
    t.length ≤ s.length := by
  rcases first with - | -
  · exact Nat.le_of_lt (Token.length_lt start)
  · exact Nat.le_of_eq (congrArg List.length (Eq.symm start))

theorem Series.length_le {T : β → Input → Input → Prop} {first last : Bool} {bs : List β}
    {s t : Input} (series : Series T first bs s last t)
    (shorter : ∀ b ∈ bs, ∀ u v, T b u v → v.length < u.length) :
    bs.length + t.length ≤ s.length := by
  induction series with
  | nil => simp
  | cons start part _ ih =>
    obtain ⟨first, others⟩ := List.forall_mem_cons.mp shorter
    have := start.length_le
    have := first _ _ part
    have := ih others
    rw [List.length_cons]
    omega

/-- A loop that has a round for every glyph has one for every part of a series, and one more. -/
theorem Series.exists_rounds {T : β → Input → Input → Prop} {first last : Bool} {bs : List β}
    {s t : Input} (series : Series T first bs s last t)
    (shorter : ∀ b ∈ bs, ∀ u v, T b u v → v.length < u.length) :
    ∃ fuel, s.length + 1 = bs.length + (fuel + 1) := by
  have few := series.length_le shorter
  exact ⟨s.length - bs.length, by omega⟩

theorem Series.imp {T T' : β → Input → Input → Prop} {first last : Bool} {bs : List β}
    {s t : Input} (series : Series T first bs s last t)
    (imp : ∀ b ∈ bs, ∀ u v, T b u v → T' b u v) : Series T' first bs s last t := by
  induction series with
  | nil => exact .nil _ _
  | cons start part _ ih =>
    obtain ⟨first, others⟩ := List.forall_mem_cons.mp imp
    exact .cons start (first _ _ part) (ih others)

/-! ## Lists -/

theorem nextItem_of_start {first : Bool} {s t : Input} (start : Start first s t)
    (opens : Opens t) : nextItem first s = .ok (some (skipSpace t)) := by
  obtain ⟨g, rest, front, bracket, comma⟩ := opens
  rcases first with - | -
  · simp only [nextItem, Token.skipSpace (c := ',') start rfl, front]
    split <;> simp_all
  · obtain rfl : s = t := start
    simp only [nextItem, front]
    split <;> simp_all

theorem nextItem_of_close (first : Bool) {s t : Input} (close : Token ']' s t) :
    nextItem first s = .ok none := by
  simp only [nextItem, close.skipSpace rfl]

theorem endItems_of_close {s t : Input} (close : Token ']' s t) : endItems s = .ok t := by
  simp only [endItems, close.skipSpace rfl]

/-- **A loop over elements goes through a series of them.** -/
theorem items_series {form : Form α} {reader : Reader α} (reads : form.Reads reader)
    {first last : Bool} {as : List α} {s t : Input} (series : Series form.texts first as s last t)
    (fuel : Nat) (done : List α) :
    items reader (as.length + fuel) first done s
      = items reader fuel last (as.reverse ++ done) t := by
  induction series generalizing done with
  | nil first s => rw [List.length_nil, Nat.zero_add, List.reverse_nil, List.nil_append]
  | @cons _ _ a as _ _ _ _ start text _ ih =>
    have next := nextItem_of_start start (reads.opens_of_text text)
    have read := (reads.skipSpace _).trans (reads.text text)
    rw [List.length_cons, Nat.add_right_comm, items, next]
    simp only [bind, Except.bind, read]
    rw [ih (a :: done), List.reverse_cons, List.append_assoc, List.singleton_append]

/-- **Lists are read if their elements are.** -/
theorem reads_list {form : Form α} {reader : Reader α} (reads : form.Reads reader) :
    form.list.Reads (list reader) where
  text {as s t} there := by
    obtain ⟨u, last, v, bracket, series, close⟩ := there
    obtain ⟨fuel, rounds⟩ := series.exists_rounds fun _ _ _ _ => reads.shorter
    simp only [list, bracket.skipSpace rfl]
    rw [rounds, items_series reads series, items, nextItem_of_close last close]
    refine bind_eq_ok.mpr ⟨none, rfl, bind_eq_ok.mpr ⟨t, endItems_of_close close, ?_⟩⟩
    rw [List.append_nil, List.reverse_reverse]
  flaw {o s} there := by
    obtain ⟨as, u, last, v, w, bracket, series, start, flaw⟩ := there
    obtain ⟨problem, failed, named⟩ := reads.flaw flaw
    obtain ⟨fuel, rounds⟩ := series.exists_rounds fun _ _ _ _ => reads.shorter
    have next := nextItem_of_start start (reads.opens_of_flaw flaw)
    refine ⟨problem, ?_, named⟩
    simp only [list, bracket.skipSpace rfl]
    rw [rounds, items_series reads series, items, next]
    simp only [bind, Except.bind, reads.skipSpace, failed]
  passes _ _ _ := passes_list reads.passes
  skipSpace s := by simp only [list, skipSpace_skipSpace]
  shorter {as s t} there := by
    obtain ⟨u, last, v, bracket, series, close⟩ := there
    have := series.length_le fun _ _ _ _ => reads.shorter
    have := bracket.length_lt
    have := close.length_lt
    omega
  opens_of_flaw {o s} there := by
    obtain ⟨as, u, last, v, w, bracket, -⟩ := there
    exact bracket.opens

end Relaunch.Json
