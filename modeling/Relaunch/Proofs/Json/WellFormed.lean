import Relaunch.Json.Skip
import Relaunch.Proofs.Json.Token

/-!
# Proofs/Json/WellFormed — well-formed values of any kind

A value that nobody asked for has no type to be read by; it only has to be well formed.  Strings in
it may hold the codes of lone surrogates, numbers may be of any size, and arrays and objects may
nest as deep as they like.

* `WellFormed` — the grammar of values, without a bound on their depth.
* `WellFormed.skip` — every well-formed value is passed over.
-/

namespace Relaunch.Json

/-! ## Strings -/

/-- A part of a string that stands for a character or half of one. -/
inductive Stroke : Input → Input → Prop
  | plain (c : Char) (t : Input) (quote : c ≠ '"') (backslash : c ≠ '\\')
      (printable : 0x20 ≤ c.toNat) : Stroke (.char c :: t) t
  | named (l : Char) (t : Input) (names : (named? l).isSome) :
      Stroke (.char '\\' :: .char l :: t) t
  | coded (n : Nat) (s t : Input) (code : Quad n s t) : Stroke (.char '\\' :: .char 'u' :: s) t

/-- **The rest of a string** with its closing quote, whatever it spells: the codes in it need not be
those of characters. -/
inductive Strung : Input → Input → Prop
  | close (t : Input) : Strung (.char '"' :: t) t
  | cons {s u t : Input} (first : Stroke s u) (rest : Strung u t) : Strung s t

theorem Stroke.length_lt {s t : Input} (stroke : Stroke s t) : t.length < s.length := by
  cases stroke with
  | plain | named => simp only [List.length_cons]; omega
  | coded n s t code => exact Nat.lt_succ_of_lt (Nat.lt_succ_of_lt code.length_lt)

theorem Strung.length_lt {s t : Input} (strung : Strung s t) : t.length < s.length := by
  induction strung with
  | close t => exact Nat.lt_succ_self _
  | cons first rest ih => exact Nat.lt_trans ih first.length_lt

theorem Stroke.skipString {s t : Input} (stroke : Stroke s t) (fuel : Nat) :
    skipString (fuel + 1) s = skipString fuel t := by
  cases stroke with
  | plain c t quote backslash printable =>
    have visible : ¬ c.toNat < 0x20 := by omega
    rw [Json.skipString, if_neg visible] <;> simp_all
  | named l t names =>
    obtain ⟨c, known⟩ := Option.isSome_iff_exists.mp names
    rw [Json.skipString, if_pos names]
    exact ne_of_named known
  | coded n s t code =>
    simp only [Json.skipString, code.fourHex, bind, Except.bind]

theorem Strung.skipString {s t : Input} (strung : Strung s t) {fuel : Nat}
    (enough : s.length < fuel) : skipString fuel s = .ok t := by
  induction strung generalizing fuel with
  | close t =>
    obtain ⟨fuel, rfl⟩ := Nat.exists_eq_add_one_of_ne_zero (Nat.ne_zero_of_lt enough)
    rfl
  | cons first rest ih =>
    obtain ⟨fuel, rfl⟩ := Nat.exists_eq_add_one_of_ne_zero (Nat.ne_zero_of_lt enough)
    have shorter := first.length_lt
    rw [first.skipString fuel]
    exact ih (by omega)

theorem Spelled.strung {c : Char} {s u t : Input} (spelled : Spelled c s u) (rest : Strung u t) :
    Strung s t := by
  rcases spelled with ⟨_, _, quote, backslash, printable⟩ | ⟨l, _, _, names⟩ | ⟨n, v, _, code, _⟩ |
    ⟨n, m, v, w, _, high, _, low, _⟩
  · exact .cons (.plain c u quote backslash printable) rest
  · exact .cons (.named l u (by rw [names]; rfl)) rest
  · exact .cons (.coded n v u code) rest
  · exact .cons (.coded n v _ high) (.cons (.coded m w u low) rest)

/-- A string that spells characters is well formed. -/
theorem Spells.strung {cs : List Char} {s t : Input} (spells : Spells cs s t) : Strung s t := by
  induction spells with
  | close t => exact .close t
  | cons first _ ih => exact first.strung ih

/-! ## Numbers -/

/-- One digit or more. -/
def Digits (s t : Input) : Prop :=
  ∃ ds : Input, ds ≠ [] ∧ (∀ g ∈ ds, isDigit g = true) ∧ s = ds ++ t

/-- Zero, or digits of which the first is another. -/
inductive Integral : Input → Input → Prop
  | zero (t : Input) : Integral (.char '0' :: t) t
  | digits (s t : Input) (digits : Digits s t) (first : s.head? ≠ some (.char '0')) : Integral s t

/-- A point with its digits, or nothing. -/
inductive Fraction : Input → Input → Prop
  | none (t : Input) : Fraction t t
  | point (s t : Input) (digits : Digits s t) : Fraction (.char '.' :: s) t

/-- An exponent with its digits, or nothing. -/
inductive Scale : Input → Input → Prop
  | none (t : Input) : Scale t t
  | exponent (mark : Char) (s u t : Input) (marks : mark = 'e' ∨ mark = 'E')
      (sign : s = u ∨ s = .char '+' :: u ∨ s = .char '-' :: u) (digits : Digits u t) :
      Scale (.char mark :: s) t

/-- Whether no number goes on here. -/
def Apart (t : Input) : Prop :=
  ∀ g ∈ t.head?, isDigit g = false ∧ g ≠ .char '.' ∧ g ≠ .char 'e' ∧ g ≠ .char 'E'

/-- **A number** that ends before what is left. -/
def Number (s t : Input) : Prop :=
  ∃ a b c, (s = a ∨ s = .char '-' :: a) ∧ Integral a b ∧ Fraction b c ∧ Scale c t ∧ Apart t

/-! ## Values -/

/-- A value, or what follows an opening bracket or brace that is not closed at once. -/
inductive Part where
  | value
  | elements
  | members

/-- **A well-formed value** of any depth, with the white space before it. -/
inductive WellFormed : Part → Input → Input → Prop
  | word (w : String) (s t : Input) (known : w ∈ ["null", "true", "false"])
      (letters : Blank s (w.toList.map .char ++ t)) : WellFormed .value s t
  | number (s u t : Input) (blank : Blank s u) (number : Number u t) : WellFormed .value s t
  | string (s u t : Input) (quote : Token '"' s u) (rest : Strung u t) : WellFormed .value s t
  | emptyArray (s u t : Input) (opens : Token '[' s u) (closes : Token ']' u t) :
      WellFormed .value s t
  | array (s u t : Input) (opens : Token '[' s u) (elements : WellFormed .elements u t) :
      WellFormed .value s t
  | emptyObject (s u t : Input) (opens : Token '\x7b' s u) (closes : Token '\x7d' u t) :
      WellFormed .value s t
  | object (s u t : Input) (opens : Token '\x7b' s u) (members : WellFormed .members u t) :
      WellFormed .value s t
  | last (s u t : Input) (value : WellFormed .value s u) (closes : Token ']' u t) :
      WellFormed .elements s t
  | next (s u v t : Input) (value : WellFormed .value s u) (comma : Token ',' u v)
      (elements : WellFormed .elements v t) : WellFormed .elements s t
  | lastMember (s u v w x t : Input) (quote : Token '"' s u) (key : Strung u v)
      (colon : Token ':' v w) (value : WellFormed .value w x) (closes : Token '\x7d' x t) :
      WellFormed .members s t
  | nextMember (s u v w x y t : Input) (quote : Token '"' s u) (key : Strung u v)
      (colon : Token ':' v w) (value : WellFormed .value w x) (comma : Token ',' x y)
      (members : WellFormed .members y t) : WellFormed .members s t

/-! ## Numbers are passed over -/

theorem dropWhile_digits {ds t : Input} (digits : ∀ g ∈ ds, isDigit g = true)
    (stop : ∀ g ∈ t.head?, isDigit g = false) : (ds ++ t).dropWhile isDigit = t := by
  rw [List.dropWhile_append_of_pos digits]
  cases t with
  | nil => rfl
  | cons g t => exact List.dropWhile_cons_of_neg (by rw [stop g rfl]; nofun)

/-- Digits at the front, and what is left of the input behind them all. -/
theorem Digits.exists_cons {s t : Input} (digits : Digits s t)
    (stop : ∀ g ∈ t.head?, isDigit g = false) :
    ∃ g rest, s = g :: rest ∧ isDigit g = true ∧ rest.dropWhile isDigit = t := by
  obtain ⟨ds, nonempty, each, rfl⟩ := digits
  obtain ⟨g, ds, rfl⟩ := List.exists_cons_of_ne_nil nonempty
  obtain ⟨first, others⟩ := List.forall_mem_cons.mp each
  exact ⟨g, ds ++ t, rfl, first, dropWhile_digits others stop⟩

theorem Scale.stop {s t : Input} (scale : Scale s t) (apart : Apart t) :
    (∀ g ∈ s.head?, isDigit g = false) ∧ s.head? ≠ some (.char '.') := by
  cases scale with
  | none => exact ⟨fun g head => (apart g head).1, fun head => (apart _ head).2.1 rfl⟩
  | exponent mark s u t marks sign digits =>
    obtain rfl | rfl := marks
    · exact ⟨fun g head => Option.some.inj head ▸ rfl, nofun⟩
    · exact ⟨fun g head => Option.some.inj head ▸ rfl, nofun⟩

theorem Fraction.stop {s u t : Input} (fraction : Fraction s u) (scale : Scale u t)
    (apart : Apart t) : ∀ g ∈ s.head?, isDigit g = false := by
  cases fraction with
  | none => exact (scale.stop apart).1
  | point s t digits => exact fun g head => Option.some.inj head ▸ rfl

theorem Scale.skipScale {s t : Input} (scale : Scale s t) (apart : Apart t) :
    skipScale s = .ok t := by
  cases scale with
  | none =>
    unfold Json.skipScale
    split
    · exact absurd rfl (apart _ rfl).2.2.1
    · exact absurd rfl (apart _ rfl).2.2.2
    · rfl
  | exponent mark s u t marks sign digits =>
    obtain ⟨g, rest, rfl, digit, rfl⟩ := digits.exists_cons fun g head => (apart g head).1
    have exponent : skipExponent s = .ok (rest.dropWhile isDigit) := by
      obtain rfl | rfl | rfl := sign
      · have plain : g ≠ .char '+' ∧ g ≠ .char '-' := by
          constructor <;> rintro rfl <;> exact nomatch digit
        unfold skipExponent
        split <;> simp_all
      · simp only [skipExponent, digit, if_true]
      · simp only [skipExponent, digit, if_true]
    obtain rfl | rfl := marks
    · exact exponent
    · exact exponent

/-- What comes behind the whole part of a number. -/
def skipTail (rest : Input) : Except Problem Input :=
  match rest with
  | .char '.' :: g :: rest =>
    if isDigit g then skipScale (rest.dropWhile isDigit) else .error .malformed
  | .char '.' :: [] => .error .malformed
  | _ => skipScale rest

theorem skipNumber_zero {t : Input} (stop : ∀ g ∈ t.head?, isDigit g = false) :
    skipNumber (.char '0' :: t) = skipTail t := by
  cases t with
  | nil => rfl
  | cons g t =>
    simp only [skipNumber, stop g rfl, Bool.false_eq_true, if_false]
    rfl

theorem skipNumber_digits {g : Glyph} {rest : Input} (digit : isDigit g = true)
    (first : g ≠ .char '0') : skipNumber (g :: rest) = skipTail (rest.dropWhile isDigit) := by
  unfold skipNumber
  split
  · rename_i eq
    exact absurd (List.cons.inj eq).1 first
  · rename_i eq
    obtain ⟨rfl, rfl⟩ := List.cons.inj eq
    rw [if_pos digit]
    rfl
  · rename_i eq
    exact nomatch eq

theorem Fraction.skipTail {s u t : Input} (fraction : Fraction s u) (scale : Scale u t)
    (apart : Apart t) : skipTail s = .ok t := by
  have stop := scale.stop apart
  cases fraction with
  | none =>
    unfold Json.skipTail
    split
    · exact absurd rfl stop.2
    · exact absurd rfl stop.2
    · exact scale.skipScale apart
  | point s t digits =>
    obtain ⟨g, rest, rfl, digit, rfl⟩ := digits.exists_cons stop.1
    simp only [Json.skipTail, digit, if_true]
    exact scale.skipScale apart

theorem Integral.skipNumber {s b u t : Input} (integral : Integral s b) (fraction : Fraction b u)
    (scale : Scale u t) (apart : Apart t) : skipNumber s = .ok t := by
  have stop := fraction.stop scale apart
  cases integral with
  | zero => exact (skipNumber_zero stop).trans (fraction.skipTail scale apart)
  | digits s t digits first =>
    obtain ⟨g, rest, rfl, digit, rfl⟩ := digits.exists_cons stop
    have other : g ≠ .char '0' := fun eq => first (congrArg some eq)
    exact (skipNumber_digits digit other).trans (fraction.skipTail scale apart)

theorem Integral.exists_cons {s t : Input} (integral : Integral s t) :
    ∃ g rest, s = g :: rest ∧ isDigit g = true := by
  cases integral with
  | zero => exact ⟨_, t, rfl, rfl⟩
  | digits s t digits first =>
    obtain ⟨ds, nonempty, each, rfl⟩ := digits
    obtain ⟨g, ds, rfl⟩ := List.exists_cons_of_ne_nil nonempty
    exact ⟨g, ds ++ t, rfl, each g List.mem_cons_self⟩

/-! ## Values are passed over -/

theorem skipValue_skipSpace (fuel : Nat) (s : Input) :
    skipValue fuel (skipSpace s) = skipValue fuel s := by
  cases fuel with
  | zero => simp only [skipValue]
  | succ fuel => simp only [skipValue, skipSpace_skipSpace]

theorem skipItems_skipSpace (fuel : Nat) (s : Input) :
    skipItems fuel (skipSpace s) = skipItems fuel s := by
  cases fuel with
  | zero => simp only [skipItems]
  | succ fuel => simp only [skipItems, skipValue_skipSpace]

theorem skipEntries_skipSpace (fuel : Nat) (s : Input) :
    skipEntries fuel (skipSpace s) = skipEntries fuel s := by
  cases fuel with
  | zero => simp only [skipEntries]
  | succ fuel => simp only [skipEntries, skipSpace_skipSpace]

/-- A digit is none of the characters with which other things begin. -/
theorem ne_of_isDigit {g : Glyph} (digit : isDigit g = true) {c : Char}
    (other : isDigit (.char c) = false) : g ≠ .char c := by
  rintro rfl
  exact nomatch digit.symm.trans other

theorem isSpace_of_isDigit {g : Glyph} (digit : isDigit g = true) : isSpace g = false := by
  refine Bool.eq_false_iff.mpr fun space => ?_
  unfold isSpace at space
  split at space
  · simp only [Bool.or_eq_true, beq_iff_eq] at space
    obtain ((rfl | rfl) | rfl) | rfl := space <;> exact nomatch digit
  · exact nomatch space

theorem skipValue_of_isDigit {g : Glyph} {s t : Input} (blank : Blank s (g :: t))
    (digit : isDigit g = true) (fuel : Nat) :
    skipValue (fuel + 1) s = skipNumber (g :: t) := by
  have front := blank.skipSpace.trans (skipSpace_cons (isSpace_of_isDigit digit) t)
  simp only [skipValue, front]
  split
  any_goals
    rename_i eq
    exact absurd (List.cons.inj eq).1 (ne_of_isDigit digit rfl)
  · rename_i eq
    exact nomatch eq
  · rename_i eq
    obtain ⟨rfl, rfl⟩ := List.cons.inj eq
    exact if_pos digit

theorem skipValue_minus {s t : Input} (minus : Blank s (.char '-' :: t)) (fuel : Nat) :
    skipValue (fuel + 1) s = skipNumber t := by
  have front := Token.skipSpace minus rfl
  simp only [skipValue, front]

/-- Whether something else than the end of a sequence or a comma comes next. -/
def Opens (s : Input) : Prop :=
  ∃ g rest, skipSpace s = g :: rest ∧ g ≠ .char ']' ∧ g ≠ .char ','

theorem Token.opens {c : Char} {s t : Input} (token : Token c s t)
    (other : isSpace (.char c) = false ∧ c ≠ ']' ∧ c ≠ ',' := by decide) : Opens s :=
  ⟨.char c, t, token.skipSpace other.1, fun eq => other.2.1 (Glyph.char.inj eq),
    fun eq => other.2.2 (Glyph.char.inj eq)⟩

theorem WellFormed.opens {s t : Input} (value : WellFormed .value s t) : Opens s := by
  cases value with
  | word w _ _ known letters =>
    simp only [List.mem_cons, List.not_mem_nil, or_false] at known
    obtain rfl | rfl | rfl := known
    · exact Token.opens (c := 'n') letters
    · exact Token.opens (c := 't') letters
    · exact Token.opens (c := 'f') letters
  | number _ u _ blank number =>
    obtain ⟨a, b, c, sign, integral, -⟩ := number
    obtain rfl | rfl := sign
    · obtain ⟨g, rest, rfl, digit⟩ := integral.exists_cons
      exact ⟨g, rest, blank.skipSpace.trans (skipSpace_cons (isSpace_of_isDigit digit) rest),
        ne_of_isDigit digit rfl, ne_of_isDigit digit rfl⟩
    · exact Token.opens (c := '-') blank
  | string _ _ _ quote _ => exact quote.opens
  | emptyArray _ _ _ bracket _ => exact bracket.opens
  | array _ _ _ bracket _ => exact bracket.opens
  | emptyObject _ _ _ brace _ => exact brace.opens
  | object _ _ _ brace _ => exact brace.opens

theorem WellFormed.elements_open {s t : Input} (elements : WellFormed .elements s t) : Opens s := by
  cases elements with
  | last _ _ _ value _ => exact value.opens
  | next _ _ _ _ value _ _ => exact value.opens

theorem WellFormed.exists_quote {s t : Input} (members : WellFormed .members s t) :
    ∃ u, Token '"' s u := by
  cases members with
  | lastMember _ u _ _ _ _ quote => exact ⟨u, quote⟩
  | nextMember _ u _ _ _ _ _ quote => exact ⟨u, quote⟩

/-- What passes over a part. -/
def Part.skip : Part → Nat → Input → Except Problem Input
  | value => skipValue
  | elements => skipItems
  | members => skipEntries

/-- The rounds that a part takes besides those for its glyphs. -/
def Part.rounds : Part → Nat
  | value => 0
  | elements | members => 1

theorem Integral.length_lt {s t : Input} (integral : Integral s t) : t.length < s.length := by
  cases integral with
  | zero => exact Nat.lt_succ_self _
  | digits _ _ digits _ =>
    obtain ⟨ds, nonempty, -, rfl⟩ := digits
    have := List.length_pos_iff.mpr nonempty
    rw [List.length_append]
    omega

theorem Fraction.length_le {s t : Input} (fraction : Fraction s t) : t.length ≤ s.length := by
  cases fraction with
  | none => exact Nat.le_refl _
  | point s _ digits =>
    obtain ⟨ds, -, -, rfl⟩ := digits
    simp only [List.length_cons, List.length_append]
    omega

theorem Scale.length_le {s t : Input} (scale : Scale s t) : t.length ≤ s.length := by
  cases scale with
  | none => exact Nat.le_refl _
  | exponent mark s u _ marks sign digits =>
    obtain ⟨ds, -, -, rfl⟩ := digits
    obtain rfl | rfl | rfl := sign <;> simp only [List.length_cons, List.length_append] <;> omega

theorem Number.length_lt {s t : Input} (number : Number s t) : t.length < s.length := by
  obtain ⟨a, b, c, sign, integral, fraction, scale, -⟩ := number
  have start : a.length ≤ s.length := by
    obtain rfl | rfl := sign
    · exact Nat.le_refl _
    · exact Nat.le_succ _
  have whole := integral.length_lt
  have middle := fraction.length_le
  have finish := scale.length_le
  omega

theorem WellFormed.length_lt {part : Part} {s t : Input} (formed : WellFormed part s t) :
    t.length < s.length := by
  induction formed with
  | word w _ t known letters =>
    have := Blank.length_le letters
    simp only [List.mem_cons, List.not_mem_nil, or_false] at known
    obtain rfl | rfl | rfl := known <;> simp at this <;> omega
  | number _ _ _ blank number => exact Nat.lt_of_lt_of_le number.length_lt blank.length_le
  | string _ _ _ quote rest => exact Nat.lt_trans rest.length_lt quote.length_lt
  | emptyArray _ _ _ opens closes | emptyObject _ _ _ opens closes =>
    exact Nat.lt_trans closes.length_lt opens.length_lt
  | array _ _ _ opens _ ih | object _ _ _ opens _ ih => exact Nat.lt_trans ih opens.length_lt
  | last _ _ _ _ closes ih => exact Nat.lt_trans closes.length_lt ih
  | next _ _ _ _ _ comma _ first rest =>
    exact Nat.lt_trans rest (Nat.lt_trans comma.length_lt first)
  | lastMember _ _ _ _ _ _ quote key colon _ closes ih =>
    exact Nat.lt_trans closes.length_lt (Nat.lt_trans ih (Nat.lt_trans colon.length_lt
      (Nat.lt_trans key.length_lt quote.length_lt)))
  | nextMember _ _ _ _ _ _ _ quote key colon _ comma _ first rest =>
    exact Nat.lt_trans rest (Nat.lt_trans comma.length_lt (Nat.lt_trans first
      (Nat.lt_trans colon.length_lt (Nat.lt_trans key.length_lt quote.length_lt))))

theorem skipValue_word {w : String} {s t : Input} (known : w ∈ ["null", "true", "false"])
    (letters : Blank s (w.toList.map .char ++ t)) (fuel : Nat) :
    skipValue (fuel + 1) s = .ok t := by
  simp only [List.mem_cons, List.not_mem_nil, or_false] at known
  obtain rfl | rfl | rfl := known
  · simp only [skipValue, Token.skipSpace (c := 'n') letters rfl]
    exact word_eq_ok_iff.mpr rfl
  · simp only [skipValue, Token.skipSpace (c := 't') letters rfl]
    exact word_eq_ok_iff.mpr rfl
  · simp only [skipValue, Token.skipSpace (c := 'f') letters rfl]
    exact word_eq_ok_iff.mpr rfl

theorem skipValue_number {s u t : Input} (blank : Blank s u) (number : Number u t) (fuel : Nat) :
    skipValue (fuel + 1) s = .ok t := by
  obtain ⟨a, b, c, sign, integral, fraction, scale, apart⟩ := number
  have passed := integral.skipNumber fraction scale apart
  obtain rfl | rfl := sign
  · obtain ⟨g, rest, rfl, digit⟩ := integral.exists_cons
    exact (skipValue_of_isDigit blank digit fuel).trans passed
  · exact (skipValue_minus blank fuel).trans passed

/-- The rest of an array of which the first element is there. -/
theorem skipValue_array {s u : Input} (bracket : Token '[' s u) (opens : Opens u) (fuel : Nat) :
    skipValue (fuel + 1) s = skipItems fuel u := by
  obtain ⟨g, rest, front, other, -⟩ := opens
  simp only [skipValue, bracket.skipSpace rfl]
  rw [← skipItems_skipSpace fuel u, front]
  split <;> simp_all

/-- The rest of an object of which the first key is there. -/
theorem skipValue_object {s u v : Input} (brace : Token '\x7b' s u) (quote : Token '"' u v)
    (fuel : Nat) : skipValue (fuel + 1) s = skipEntries fuel u := by
  simp only [skipValue, brace.skipSpace rfl, quote.skipSpace rfl]
  rw [← skipEntries_skipSpace fuel u, quote.skipSpace rfl]
  rfl

theorem skipItems_last {fuel : Nat} {s u t : Input} (value : skipValue fuel s = .ok u)
    (close : Token ']' u t) : skipItems (fuel + 1) s = .ok t := by
  simp only [skipItems, value, bind, Except.bind, close.skipSpace rfl]

theorem skipItems_next {fuel : Nat} {s u v : Input} (value : skipValue fuel s = .ok u)
    (comma : Token ',' u v) : skipItems (fuel + 1) s = skipItems fuel v := by
  simp only [skipItems, value, bind, Except.bind, comma.skipSpace rfl]

section

variable {fuel : Nat} {s u v w x y t : Input} (quote : Token '"' s u) (key : Strung u v)
  (colon : Token ':' v w) (value : skipValue fuel w = .ok x)

include quote key colon value

theorem skipEntries_last (close : Token '\x7d' x t) : skipEntries (fuel + 1) s = .ok t := by
  simp only [skipEntries, quote.skipSpace rfl, key.skipString (Nat.lt_succ_self _), colon.colon,
    value, bind, Except.bind, close.skipSpace rfl]

theorem skipEntries_next (comma : Token ',' x y) :
    skipEntries (fuel + 1) s = skipEntries fuel y := by
  simp only [skipEntries, quote.skipSpace rfl, key.skipString (Nat.lt_succ_self _), colon.colon,
    value, bind, Except.bind, comma.skipSpace rfl]

end

/-- **A well-formed part is passed over.** -/
theorem WellFormed.skipped {part : Part} {s t : Input} (formed : WellFormed part s t) {fuel : Nat}
    (enough : 2 * s.length + part.rounds < fuel) : part.skip fuel s = .ok t := by
  induction formed generalizing fuel
  all_goals
    obtain ⟨fuel, rfl⟩ := Nat.exists_eq_add_one_of_ne_zero (Nat.ne_zero_of_lt enough)
    simp only [Part.rounds] at *
  case word w _ _ known letters =>
    exact skipValue_word known letters fuel
  case number _ _ _ blank number =>
    exact skipValue_number blank number fuel
  case string _ _ _ quote rest =>
    simp only [Part.skip, skipValue, quote.skipSpace rfl]
    exact rest.skipString (Nat.lt_succ_self _)
  case emptyArray _ _ _ opens closes =>
    simp only [Part.skip, skipValue, opens.skipSpace rfl, closes.skipSpace rfl]
  case array _ _ _ bracket elements ih =>
    have shorter := bracket.length_lt
    exact (skipValue_array bracket elements.elements_open fuel).trans (ih (by omega))
  case emptyObject _ _ _ opens closes =>
    simp only [Part.skip, skipValue, opens.skipSpace rfl, closes.skipSpace rfl]
  case object _ _ _ brace members ih =>
    obtain ⟨v, quote⟩ := members.exists_quote
    have shorter := brace.length_lt
    exact (skipValue_object brace quote fuel).trans (ih (by omega))
  case last _ _ _ value closes ih =>
    exact skipItems_last (ih (by omega)) closes
  case next _ _ _ _ value comma elements first rest =>
    have shorter := Nat.lt_trans comma.length_lt value.length_lt
    refine (skipItems_next (first (by omega)) comma).trans ?_
    exact rest (by omega)
  case lastMember _ _ _ _ _ _ quote key colon value closes ih =>
    have shorter := Nat.lt_trans colon.length_lt (Nat.lt_trans key.length_lt quote.length_lt)
    exact skipEntries_last quote key colon (ih (by omega)) closes
  case nextMember _ _ _ _ _ _ _ quote key colon value comma members first rest =>
    have shorter := Nat.lt_trans colon.length_lt (Nat.lt_trans key.length_lt quote.length_lt)
    have behind := Nat.lt_trans comma.length_lt value.length_lt
    refine (skipEntries_next quote key colon (first (by omega)) comma).trans ?_
    exact rest (by omega)

/-- **A well-formed value is passed over, whatever follows it.** -/
theorem WellFormed.skip {s t : Input} (value : WellFormed .value s t) : skip s = .ok t :=
  value.skipped (by simp only [Part.rounds]; omega)

end Relaunch.Json
