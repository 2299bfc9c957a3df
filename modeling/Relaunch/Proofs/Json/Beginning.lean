import Mathlib.Data.List.TakeWhile
import Relaunch.Proofs.Json.Reading

/-!
# Proofs/Json/Beginning — what is taken of an input is taken of every longer one

A value is taken off the front of an input without a look at what is behind it, save that a number
goes on as long as it can.  So a text in brackets or braces does not begin another one: where it
ends, it ends whatever follows.

* `skip_steady` — a value with something behind it is passed over alike in every longer input.
* `Shape.blank_of_append` — if a text holds a record, and so does a longer one, then what is added
  is white space.
-/

namespace Relaunch.Json

/-- **A part taken off the front of an input**, which ends with a character. -/
def Taken (s t : Input) : Prop := ∃ part c, s = part ++ .char c :: t

/-- **A part is taken alike of every longer input**, if there is something behind it. -/
structure Steady (run : Input → Except Problem Input) (s t : Input) : Prop where
  taken : Taken s t
  append : t ≠ [] → ∀ q, run (s ++ q) = .ok (t ++ q)

/-- **A part is taken alike of every longer input**, whatever is behind it. -/
structure Closed (run : Input → Except Problem Input) (s t : Input) : Prop where
  taken : Taken s t
  append : ∀ q, run (s ++ q) = .ok (t ++ q)

theorem Closed.steady {run : Input → Except Problem Input} {s t : Input}
    (closed : Closed run s t) : Steady run s t := ⟨closed.taken, fun _ => closed.append⟩

/-! ## White space and words -/

theorem taken_char (c : Char) (t : Input) : Taken (.char c :: t) t := ⟨[], c, rfl⟩

theorem Taken.cons {s t : Input} (taken : Taken s t) (g : Glyph) : Taken (g :: s) t := by
  obtain ⟨part, c, rfl⟩ := taken
  exact ⟨g :: part, c, rfl⟩

theorem Taken.trans {s t u : Input} (first : Taken s t) (second : Taken t u) : Taken s u := by
  obtain ⟨part, c, rfl⟩ := first
  obtain ⟨part', c', rfl⟩ := second
  exact ⟨part ++ .char c :: part', c', by rw [List.append_assoc, List.cons_append]⟩

theorem Taken.of_blank {s t u : Input} (blank : Blank s t) (taken : Taken t u) : Taken s u := by
  obtain ⟨spaces, -, rfl⟩ := blank
  obtain ⟨part, c, rfl⟩ := taken
  exact ⟨spaces ++ part, c, by rw [List.append_assoc]⟩

theorem Token.taken {c : Char} {s t : Input} (token : Token c s t) : Taken s t :=
  (taken_char c t).of_blank token

theorem Blank.append {s t : Input} (blank : Blank s t) (q : Input) : Blank (s ++ q) (t ++ q) := by
  obtain ⟨spaces, all, rfl⟩ := blank
  exact ⟨spaces, all, List.append_assoc spaces t q⟩

theorem Token.append {c : Char} {s t : Input} (token : Token c s t) (q : Input) :
    Token c (s ++ q) (t ++ q) := Blank.append token q

/-- What stands behind white space stands there in every longer input. -/
theorem skipSpace_append {s rest : Input} {g : Glyph} (front : skipSpace s = g :: rest)
    (q : Input) : skipSpace (s ++ q) = g :: (rest ++ q) := by
  rw [skipSpace, List.dropWhile_append, ← skipSpace, front]
  rfl

theorem Opens.append {s : Input} (opens : Opens s) (q : Input) : Opens (s ++ q) := by
  obtain ⟨g, rest, front, others⟩ := opens
  exact ⟨g, rest ++ q, skipSpace_append front q, others⟩

theorem closed_word {cs : List Char} (some_letter : cs ≠ []) {s t : Input}
    (read : word cs s = .ok t) : Closed (word cs) s t where
  taken := by
    obtain ⟨init, last, rfl⟩ := List.eq_nil_or_concat cs |>.resolve_left some_letter
    rw [word_eq_ok_iff.mp read]
    exact ⟨init.map .char, last, by simp⟩
  append q := by
    rw [word_eq_ok_iff] at read ⊢
    rw [read, List.append_assoc]

theorem closed_colon {s t : Input} (read : colon s = .ok t) : Closed colon s t where
  taken := (token_of_colon read).taken
  append q := by
    have front := skipSpace_append ((token_of_colon read).skipSpace rfl) q
    simp only [colon, front]

/-! ## Strings -/

theorem Quad.append {n : Nat} {s t : Input} (quad : Quad n s t) (q : Input) :
    Quad n (s ++ q) (t ++ q) := by
  obtain ⟨a, b, c, d, w, x, y, z, ha, hb, hc, hd, rfl, rfl⟩ := quad
  exact ⟨a, b, c, d, w, x, y, z, ha, hb, hc, hd, rfl, rfl⟩

theorem Quad.taken {n : Nat} {s t : Input} (quad : Quad n s t) : Taken s t := by
  obtain ⟨a, b, c, d, w, x, y, z, -, -, -, -, rfl, -⟩ := quad
  exact (((taken_char d t).cons _).cons _).cons _

theorem Stroke.append {s t : Input} (stroke : Stroke s t) (q : Input) :
    Stroke (s ++ q) (t ++ q) := by
  cases stroke with
  | plain c t quote backslash printable => exact .plain c (t ++ q) quote backslash printable
  | named l t names => exact .named l (t ++ q) names
  | coded n s t code => exact .coded n (s ++ q) (t ++ q) (code.append q)

theorem Stroke.taken {s t : Input} (stroke : Stroke s t) : Taken s t := by
  cases stroke with
  | plain c t => exact taken_char c t
  | named l t => exact (taken_char l t).cons _
  | coded n s t code => exact (code.taken.cons _).cons _

/-- What a round over a string can meet. -/
theorem skipString_cases {fuel : Nat} {s t : Input} (read : skipString (fuel + 1) s = .ok t) :
    s = .char '"' :: t ∨ (∃ u, Stroke s u ∧ skipString fuel u = .ok t) ∨
      ∃ run u, s = .broken run :: u ∧ skipString fuel u = .ok t := by
  unfold skipString at read
  split at read
  · cases read
  · exact .inr (.inr ⟨_, _, rfl, read⟩)
  · exact .inl (Except.ok.inj read ▸ rfl)
  · cases read
  · obtain ⟨⟨n, u⟩, code, read⟩ := bind_eq_ok.mp read
    exact .inr (.inl ⟨u, .coded n _ u (quad_of_fourHex code), read⟩)
  · split at read
    · rename_i names
      exact .inr (.inl ⟨_, .named _ _ names, read⟩)
    · cases read
  · cases read
  · rename_i c rest quote last code name stray
    split at read
    · cases read
    · rename_i visible
      have backslash : c ≠ '\\' := by
        rcases rest with - | ⟨d | bytes, rest⟩
        · exact last rfl
        · exact name d rest rfl
        · exact stray bytes rest rfl
      exact .inr (.inl ⟨rest, .plain c rest quote backslash (Nat.le_of_not_lt visible), read⟩)

theorem skipString_append {fuel more : Nat} {s t : Input} (read : skipString fuel s = .ok t)
    (le : fuel ≤ more) (q : Input) : Taken s t ∧ skipString more (s ++ q) = .ok (t ++ q) := by
  induction fuel generalizing more s with
  | zero => cases read
  | succ fuel ih =>
    obtain ⟨more, rfl⟩ := Nat.exists_eq_add_one_of_ne_zero (Nat.ne_zero_of_lt le)
    rcases skipString_cases read with rfl | ⟨u, stroke, read⟩ | ⟨bytes, u, rfl, read⟩
    · exact ⟨taken_char _ t, rfl⟩
    · obtain ⟨taken, append⟩ := ih read (Nat.le_of_succ_le_succ le)
      exact ⟨stroke.taken.trans taken, ((stroke.append q).skipString more).trans append⟩
    · obtain ⟨taken, append⟩ := ih read (Nat.le_of_succ_le_succ le)
      exact ⟨taken.cons _, append⟩

/-- **A string ends where it ends.** -/
theorem closed_string {s t : Input} (read : skipString (s.length + 1) s = .ok t) :
    Closed (fun s => skipString (s.length + 1) s) s t where
  taken := (skipString_append read (Nat.le_refl _) []).1
  append q := by
    have longer : s.length + 1 ≤ (s ++ q).length + 1 := by
      rw [List.length_append]
      omega
    exact (skipString_append read longer q).2

/-! ## Numbers -/

theorem dropWhile_append_of_ne_nil {p : Glyph → Bool} {s : Input} (left : s.dropWhile p ≠ [])
    (q : Input) : (s ++ q).dropWhile p = s.dropWhile p ++ q := by
  rw [List.dropWhile_append, if_neg (by simpa using left)]

theorem taken_digits {g : Glyph} (digit : isDigit g = true) (s : Input) :
    Taken (g :: s) (s.dropWhile isDigit) := by
  induction s generalizing g with
  | nil =>
    cases g with
    | char c => exact taken_char c []
    | broken bytes => cases digit
  | cons h s ih =>
    cases next : isDigit h with
    | true =>
      rw [List.dropWhile_cons_of_pos next]
      exact (ih next).cons g
    | false =>
      rw [List.dropWhile_cons_of_neg (by rw [next]; nofun)]
      cases g with
      | char c => exact taken_char c _
      | broken bytes => cases digit

/-- What comes behind the sign of an exponent. -/
def skipDigits (s : Input) : Except Problem Input :=
  match s with
  | g :: rest => if isDigit g then .ok (rest.dropWhile isDigit) else .error .malformed
  | [] => .error .malformed

theorem skipDigits_eq_ok_iff {s t : Input} : skipDigits s = .ok t ↔
    ∃ g rest, s = g :: rest ∧ isDigit g = true ∧ rest.dropWhile isDigit = t := by
  constructor
  · intro read
    cases s with
    | nil => cases read
    | cons g rest =>
      rw [skipDigits] at read
      split at read
      · rename_i digit
        exact ⟨g, rest, rfl, digit, Except.ok.inj read⟩
      · cases read
  · rintro ⟨g, rest, rfl, digit, rfl⟩
    exact if_pos digit

theorem steady_digits {s t : Input} (read : skipDigits s = .ok t) : Steady skipDigits s t := by
  obtain ⟨g, rest, rfl, digit, rfl⟩ := skipDigits_eq_ok_iff.mp read
  refine ⟨taken_digits digit rest, fun left q => ?_⟩
  exact skipDigits_eq_ok_iff.mpr ⟨g, rest ++ q, rfl, digit, dropWhile_append_of_ne_nil left q⟩

theorem skipExponent_of_isDigit {g : Glyph} (digit : isDigit g = true) (rest : Input) :
    skipExponent (g :: rest) = skipDigits (g :: rest) := by
  have plain : g ≠ .char '+' ∧ g ≠ .char '-' := by
    constructor <;> rintro rfl <;> cases digit
  unfold skipExponent
  split <;> simp_all [skipDigits]

theorem steady_exponent {s t : Input} (read : skipExponent s = .ok t) :
    Steady skipExponent s t := by
  unfold skipExponent at read
  split at read
  · have digits := steady_digits (show skipDigits _ = .ok t from read)
    exact ⟨digits.taken.cons _, digits.append⟩
  · have digits := steady_digits (show skipDigits _ = .ok t from read)
    exact ⟨digits.taken.cons _, digits.append⟩
  · have read : skipDigits s = .ok t := read
    have digits := steady_digits read
    obtain ⟨g, rest, rfl, digit, rfl⟩ := skipDigits_eq_ok_iff.mp read
    refine ⟨digits.taken, fun left q => ?_⟩
    exact (skipExponent_of_isDigit digit (rest ++ q)).trans (digits.append left q)

/-- **A part that may be nothing is taken alike of every longer input**, if there is something
behind it. -/
structure Loose (run : Input → Except Problem Input) (s t : Input) : Prop where
  taken : s = t ∨ Taken s t
  append : t ≠ [] → ∀ q, run (s ++ q) = .ok (t ++ q)

theorem Loose.ne_nil {run : Input → Except Problem Input} {s t : Input} (loose : Loose run s t)
    (left : t ≠ []) : s ≠ [] := by
  rintro rfl
  rcases loose.taken with rfl | ⟨part, c, eq⟩
  · exact left rfl
  · exact List.append_ne_nil_of_right_ne_nil part (List.cons_ne_nil _ t) eq.symm

theorem Taken.loose {run : Input → Except Problem Input} {s t u : Input} (taken : Taken s t)
    (loose : Loose run t u) : Taken s u := by
  rcases loose.taken with rfl | more
  · exact taken
  · exact taken.trans more

theorem loose_scale {s t : Input} (read : skipScale s = .ok t) : Loose skipScale s t := by
  unfold skipScale at read
  split at read
  · have exponent := steady_exponent read
    exact ⟨.inr (exponent.taken.cons _), exponent.append⟩
  · have exponent := steady_exponent read
    exact ⟨.inr (exponent.taken.cons _), exponent.append⟩
  · rename_i small large
    obtain rfl := Except.ok.inj read
    refine ⟨.inl rfl, fun left q => ?_⟩
    obtain ⟨g, rest, rfl⟩ := List.exists_cons_of_ne_nil left
    unfold skipScale
    split <;> simp_all

theorem loose_tail {s t : Input} (read : skipTail s = .ok t) : Loose skipTail s t := by
  unfold skipTail at read
  split at read
  · split at read
    · rename_i g rest digit
      have scale := loose_scale read
      refine ⟨.inr (((taken_digits digit rest).cons _).loose scale), fun left q => ?_⟩
      simp only [List.cons_append, skipTail, digit, if_true,
        dropWhile_append_of_ne_nil (scale.ne_nil left)]
      exact scale.append left q
    · cases read
  · cases read
  · rename_i more one
    have scale := loose_scale read
    refine ⟨scale.taken, fun left q => ?_⟩
    have whole : skipTail (s ++ q) = skipScale (s ++ q) := by
      rcases s with - | ⟨g, - | ⟨h, rest⟩⟩
      · exact absurd rfl (scale.ne_nil left)
      · unfold skipTail
        split <;> simp_all
      · unfold skipTail
        split <;> simp_all
    exact whole.trans (scale.append left q)

theorem steady_zero {s t : Input} (read : skipNumber (.char '0' :: s) = .ok t) :
    Steady skipNumber (.char '0' :: s) t := by
  cases s with
  | nil =>
    obtain rfl := Except.ok.inj read
    exact ⟨taken_char '0' [], fun left => absurd rfl left⟩
  | cons g rest =>
    cases digit : isDigit g with
    | true =>
      simp only [skipNumber, digit, if_true] at read
      cases read
    | false =>
      have stop (more : Input) : ∀ h ∈ (g :: more).head?, isDigit h = false :=
        fun h head => Option.some.inj head ▸ digit
      rw [skipNumber_zero (stop rest)] at read
      have tail := loose_tail read
      refine ⟨(taken_char '0' _).loose tail, fun left q => ?_⟩
      exact (skipNumber_zero (stop (rest ++ q))).trans (tail.append left q)

/-- **A number ends where it ends**, if something is behind it. -/
theorem steady_number {s t : Input} (read : skipNumber s = .ok t) : Steady skipNumber s t := by
  rcases s with - | ⟨g, rest⟩
  · cases read
  · by_cases zero : g = .char '0'
    · subst zero
      exact steady_zero read
    · cases digit : isDigit g with
      | false =>
        unfold skipNumber at read
        split at read <;> simp_all
      | true =>
        rw [skipNumber_digits digit zero] at read
        have tail := loose_tail read
        refine ⟨(taken_digits digit rest).loose tail, fun left q => ?_⟩
        rw [List.cons_append, skipNumber_digits digit zero,
          dropWhile_append_of_ne_nil (tail.ne_nil left)]
        exact tail.append left q

/-! ## Values -/

section

variable {fuel : Nat} {s t u rest : Input}

theorem Taken.of_skipSpace {g : Glyph} (front : skipSpace s = g :: rest)
    (taken : Taken (g :: rest) t) : Taken s t :=
  taken.of_blank (front ▸ blank_skipSpace s)

theorem closed_items (value : ∀ s t, skipValue fuel s = .ok t → Steady (skipValue fuel) s t)
    (items : ∀ s t, skipItems fuel s = .ok t → Closed (skipItems fuel) s t)
    (read : skipItems (fuel + 1) s = .ok t) : Closed (skipItems (fuel + 1)) s t := by
  rw [skipItems] at read
  obtain ⟨u, first, read⟩ := bind_eq_ok.mp read
  have first := value s u first
  have left : u ≠ [] := by
    rintro rfl
    cases read
  split at read
  · cases read
  · rename_i rest comma
    have others := items _ _ read
    refine ⟨first.taken.trans (.of_skipSpace comma (others.taken.cons _)), fun q => ?_⟩
    rw [skipItems, first.append left q]
    simp only [bind, Except.bind, skipSpace_append comma q]
    exact others.append q
  · rename_i rest close
    obtain rfl := Except.ok.inj read
    refine ⟨first.taken.trans (.of_skipSpace close (taken_char _ _)), fun q => ?_⟩
    rw [skipItems, first.append left q]
    simp only [bind, Except.bind, skipSpace_append close q]
  · cases read

/-! An entry whose key need not be well formed but for its escapes. -/

section

variable {v w x : Input} (quote : skipSpace s = .char '"' :: rest)
  (key : skipString (rest.length + 1) rest = .ok u) (colon : colon u = .ok v)
  (value : skipValue fuel v = .ok w)

include quote key colon value

theorem skipEntries_comma (comma : skipSpace w = .char ',' :: x) :
    skipEntries (fuel + 1) s = skipEntries fuel x := by
  simp only [skipEntries, quote, key, colon, value, bind, Except.bind, comma]

theorem skipEntries_close (close : skipSpace w = .char '\x7d' :: x) :
    skipEntries (fuel + 1) s = .ok x := by
  simp only [skipEntries, quote, key, colon, value, bind, Except.bind, close]

end

theorem closed_entries (value : ∀ s t, skipValue fuel s = .ok t → Steady (skipValue fuel) s t)
    (entries : ∀ s t, skipEntries fuel s = .ok t → Closed (skipEntries fuel) s t)
    (read : skipEntries (fuel + 1) s = .ok t) : Closed (skipEntries (fuel + 1)) s t := by
  rw [skipEntries] at read
  split at read
  · cases read
  · rename_i rest quote
    obtain ⟨u, key, read⟩ := bind_eq_ok.mp read
    obtain ⟨v, colon, read⟩ := bind_eq_ok.mp read
    obtain ⟨w, first, read⟩ := bind_eq_ok.mp read
    have key := closed_string key
    have colon := closed_colon colon
    have first := value v w first
    have taken : Taken s w := (Taken.of_skipSpace quote (key.taken.cons _)).trans
      (colon.taken.trans first.taken)
    have left : w ≠ [] := by
      rintro rfl
      cases read
    split at read
    · cases read
    · rename_i rest comma
      have others := entries _ _ read
      refine ⟨taken.trans (.of_skipSpace comma (others.taken.cons _)), fun q => ?_⟩
      exact (skipEntries_comma (skipSpace_append quote q) (key.append q) (colon.append q)
        (first.append left q) (skipSpace_append comma q)).trans (others.append q)
    · rename_i rest close
      obtain rfl := Except.ok.inj read
      refine ⟨taken.trans (.of_skipSpace close (taken_char _ _)), fun q => ?_⟩
      exact skipEntries_close (skipSpace_append quote q) (key.append q) (colon.append q)
        (first.append left q) (skipSpace_append close q)
    · cases read
  · cases read

theorem closed_array (items : ∀ s t, skipItems fuel s = .ok t → Closed (skipItems fuel) s t)
    (front : skipSpace s = .char '[' :: rest) (read : skipValue (fuel + 1) s = .ok t) :
    Closed (skipValue (fuel + 1)) s t := by
  simp only [skipValue, front] at read
  split at read
  · cases read
  · rename_i close
    obtain rfl := Except.ok.inj read
    have taken : Taken rest _ := .of_skipSpace close (taken_char _ _)
    refine ⟨.of_skipSpace front (taken.cons _), fun q => ?_⟩
    simp only [skipValue, skipSpace_append front q, skipSpace_append close q]
  · have read : skipItems fuel rest = .ok t := (skipItems_skipSpace fuel rest).symm.trans read
    have others := items rest t read
    have opens : Opens rest := ItemsPass.opens ⟨fuel, read⟩
    refine ⟨.of_skipSpace front (others.taken.cons _), fun q => ?_⟩
    exact (skipValue_array ((token_of_skipSpace front).append q) (opens.append q) fuel).trans
      (others.append q)

theorem closed_object
    (entries : ∀ s t, skipEntries fuel s = .ok t → Closed (skipEntries fuel) s t)
    (front : skipSpace s = .char '\x7b' :: rest) (read : skipValue (fuel + 1) s = .ok t) :
    Closed (skipValue (fuel + 1)) s t := by
  simp only [skipValue, front] at read
  split at read
  · cases read
  · rename_i close
    obtain rfl := Except.ok.inj read
    have taken : Taken rest _ := .of_skipSpace close (taken_char _ _)
    refine ⟨.of_skipSpace front (taken.cons _), fun q => ?_⟩
    simp only [skipValue, skipSpace_append front q, skipSpace_append close q]
  · have read : skipEntries fuel rest = .ok t := (skipEntries_skipSpace fuel rest).symm.trans read
    have others := entries rest t read
    obtain ⟨v, quote⟩ := EntriesPass.quote ⟨fuel, read⟩
    refine ⟨.of_skipSpace front (others.taken.cons _), fun q => ?_⟩
    exact (skipValue_object ((token_of_skipSpace front).append q) (quote.append q) fuel).trans
      (others.append q)

/-- A value that is told by its first character. -/
theorem Steady.value {run : Input → Except Problem Input} {c : Char}
    (step : ∀ {s rest}, skipSpace s = .char c :: rest → skipValue (fuel + 1) s = run rest)
    (front : skipSpace s = .char c :: rest) (steady : Steady run rest t) :
    Steady (skipValue (fuel + 1)) s t where
  taken := .of_skipSpace front (steady.taken.cons _)
  append left q := (step (skipSpace_append front q)).trans (steady.append left q)

theorem steady_value (items : ∀ s t, skipItems fuel s = .ok t → Closed (skipItems fuel) s t)
    (entries : ∀ s t, skipEntries fuel s = .ok t → Closed (skipEntries fuel) s t)
    (read : skipValue (fuel + 1) s = .ok t) : Steady (skipValue (fuel + 1)) s t := by
  have passed := read
  rw [skipValue] at read
  split at read
  · cases read
  · rename_i front
    exact .value (fun front => by simp only [skipValue, front]) front
      (closed_word (by decide) read).steady
  · rename_i front
    exact .value (fun front => by simp only [skipValue, front]) front
      (closed_word (by decide) read).steady
  · rename_i front
    exact .value (fun front => by simp only [skipValue, front]) front
      (closed_word (by decide) read).steady
  · rename_i front
    exact .value (fun front => by simp only [skipValue, front]) front (steady_number read)
  · rename_i front
    exact .value (fun front => by simp only [skipValue, front]) front (closed_string read).steady
  · rename_i front
    exact (closed_array items front passed).steady
  · rename_i front
    exact (closed_object entries front passed).steady
  · rename_i g rest _ _ _ _ _ _ _ front
    split at read
    · rename_i digit
      have number := steady_number read
      refine ⟨.of_skipSpace front number.taken, fun left q => ?_⟩
      have blank : Blank (s ++ q) (g :: (rest ++ q)) :=
        skipSpace_append front q ▸ blank_skipSpace (s ++ q)
      exact (skipValue_of_isDigit blank digit _).trans (number.append left q)
    · cases read

end

/-- **What is passed over is passed over in every longer input.** -/
theorem skip_steady (fuel : Nat) :
    (∀ s t, skipValue fuel s = .ok t → Steady (skipValue fuel) s t) ∧
    (∀ s t, skipItems fuel s = .ok t → Closed (skipItems fuel) s t) ∧
    (∀ s t, skipEntries fuel s = .ok t → Closed (skipEntries fuel) s t) := by
  induction fuel with
  | zero => exact ⟨nofun, nofun, nofun⟩
  | succ fuel ih =>
    obtain ⟨value, items, entries⟩ := ih
    exact ⟨fun s t => steady_value items entries, fun s t => closed_items value items,
      fun s t => closed_entries value entries⟩

/-! ## Whole texts -/

/-- Whether a value in brackets or braces comes next. -/
def Bracketed (s : Input) : Prop :=
  ∃ c rest, (c = '[' ∨ c = '\x7b') ∧ skipSpace s = .char c :: rest

/-- **A value in brackets or braces ends where it ends.** -/
theorem Passes.closed {s t : Input} (passes : Passes s t) (bracketed : Bracketed s) :
    Taken s t ∧ ∀ q, Passes (s ++ q) (t ++ q) := by
  obtain ⟨fuel, passed⟩ := passes
  obtain - | fuel := fuel
  · cases passed
  · obtain ⟨-, items, entries⟩ := skip_steady fuel
    obtain ⟨c, rest, rfl | rfl, front⟩ := bracketed
    · have closed := closed_array items front passed
      exact ⟨closed.taken, fun q => ⟨fuel + 1, closed.append q⟩⟩
    · have closed := closed_object entries front passed
      exact ⟨closed.taken, fun q => ⟨fuel + 1, closed.append q⟩⟩

theorem Shape.bracketed {shape : Shape σ α} {a : α} {s t : Input}
    (read : shape.read s = .ok (a, t)) : Bracketed s := by
  unfold Shape.read at read
  split at read
  · cases read
  · rename_i rest front
    exact ⟨_, rest, .inr rfl, front⟩
  · rename_i rest front
    exact ⟨_, rest, .inl rfl, front⟩
  · cases read

theorem whole?_eq_ok_iff {reader : Reader α} {a : α} {s : Input} :
    whole? reader s = .ok a ↔ ∃ t, reader s = .ok (a, t) ∧ skipSpace t = [] := by
  constructor
  · intro whole
    obtain ⟨⟨b, t⟩, read, rest⟩ := bind_eq_ok.mp whole
    simp only at rest
    split at rest
    · rename_i blank
      exact ⟨t, Except.ok.inj rest ▸ read, blank⟩
    · cases rest
  · rintro ⟨t, read, blank⟩
    refine bind_eq_ok.mpr ⟨(a, t), read, ?_⟩
    simp only [blank]

section

variable {shape : Shape σ α} (passes : ∀ a s t, shape.read s = .ok (a, t) → Passes s t)
  {a : α} {s : Input}

include passes

/-- A text of a record ends with a character. -/
theorem Shape.exists_last (whole : whole? shape.read s = .ok a) :
    ∃ part c, s = part ++ [.char c] := by
  obtain ⟨t, read, blank⟩ := whole?_eq_ok_iff.mp whole
  obtain ⟨⟨part, c, rfl⟩, -⟩ := (passes a s t read).closed (Shape.bracketed read)
  obtain rfl | ⟨spaces, g, rfl⟩ := List.eq_nil_or_concat t
  · exact ⟨part, c, rfl⟩
  · have space : isSpace g = true := List.dropWhile_eq_nil_iff.mp blank g (by simp)
    cases g with
    | char d => exact ⟨part ++ .char c :: spaces, d, by simp⟩
    | broken bytes => cases space

/-- **No text of a record begins another one**: what is added to one is white space. -/
theorem Shape.blank_of_append (whole : whole? shape.read s = .ok a) {b : α} {q : Input}
    (longer : whole? shape.read (s ++ q) = .ok b) : skipSpace q = [] := by
  obtain ⟨t, read, -⟩ := whole?_eq_ok_iff.mp whole
  obtain ⟨u, read', blank⟩ := whole?_eq_ok_iff.mp longer
  have behind := ((passes a s t read).closed (Shape.bracketed read)).2 q
  obtain rfl := behind.unique (passes b _ u read')
  refine List.dropWhile_eq_nil_iff.mpr fun g mem => ?_
  exact List.dropWhile_eq_nil_iff.mp blank g (List.mem_append_right t mem)

end

end Relaunch.Json
