import Relaunch.Proofs.Text.Order

/-!
# Proofs/Text/Lossy — the text of bytes that need not be one

Where bytes are no text, a replacement character stands for each part that is no character.  Which
parts those are is said here by the characters alone (`Lossy`): a **broken run** is the longest that
begins some character, or a byte that begins none (`Breaks`).

* `Lossy.unique` — bytes have one lossy text.
* `Glyph.begins_iff` — the runs that begin a longer character, by their first byte.
* `Glyph.lossy_iff` — the text that is read of bytes is the one they have.
* `Glyph.scan_append` — a text is cut alike in front of other bytes.
-/

namespace Relaunch

open String (utf8EncodeChar)

/-! ## Lossy texts -/

/-- **Bytes that begin a character**: some of its first, or all of them. -/
def Begins (run : List UInt8) : Prop := ∃ c : Char, run <+: utf8EncodeChar c

/-- **A broken run in front of other bytes.** -/
structure Breaks (run bytes : List UInt8) : Prop where
  ne_nil : run ≠ []
  no_char : ∀ c : Char, ¬ utf8EncodeChar c <+: run ++ bytes
  /-- It begins a character, but for a byte that begins none. -/
  part : Begins run ∨ run.length = 1
  /-- One byte more would begin none. -/
  longest : ∀ b ∈ bytes.head?, ¬ Begins (run ++ [b])

/-- **The characters of bytes that need not be a text.** -/
inductive Lossy : List UInt8 → List Char → Prop where
  | nil : Lossy [] []
  | char (c : Char) {bytes : List UInt8} {cs : List Char} (rest : Lossy bytes cs) :
    Lossy (utf8EncodeChar c ++ bytes) (c :: cs)
  | broken {run bytes : List UInt8} {cs : List Char} (breaks : Breaks run bytes)
    (rest : Lossy bytes cs) : Lossy (run ++ bytes) (Char.ofNat 0xFFFD :: cs)

theorem Begins.of_append {run more : List UInt8} (begins : Begins (run ++ more)) : Begins run := by
  obtain ⟨c, fits⟩ := begins
  exact ⟨c, (List.prefix_append run more).trans fits⟩

/-- **The bytes of one character never begin those of another.** -/
theorem eq_of_utf8EncodeChar_append_eq {c d : Char} {s t : List UInt8}
    (eq : utf8EncodeChar c ++ s = utf8EncodeChar d ++ t) : c = d := by
  rcases lt_trichotomy c d with lt | same | gt
  · exact absurd (eq ▸ Text.utf8EncodeChar_append_lt lt s t) (List.lt_irrefl _)
  · exact same
  · exact absurd (eq ▸ Text.utf8EncodeChar_append_lt gt t s) (List.lt_irrefl _)

/-- Of two broken runs none is the longer. -/
theorem Breaks.length_le {run other s t : List UInt8} (breaks : Breaks run s)
    (breaks' : Breaks other t) (eq : run ++ s = other ++ t) : other.length ≤ run.length := by
  by_contra longer
  obtain ⟨more, rfl⟩ : run <+: other :=
    List.prefix_of_prefix_length_le (List.prefix_append run s) (eq ▸ List.prefix_append other t)
      (by omega)
  rw [List.append_assoc] at eq
  obtain rfl := List.append_cancel_left eq
  cases more with
  | nil => simp at longer
  | cons b more =>
    have part : Begins (run ++ b :: more) := by
      refine breaks'.part.resolve_right fun one => ?_
      have some_byte := List.length_pos_of_ne_nil breaks.ne_nil
      simp at one longer
      omega
    rw [List.append_cons] at part
    exact breaks.longest b rfl part.of_append

/-- **Bytes have one lossy text.** -/
theorem Lossy.unique {bytes : List UInt8} {cs ds : List Char} (text : Lossy bytes cs)
    (other : Lossy bytes ds) : cs = ds := by
  induction text generalizing ds with
  | nil =>
    generalize none_left : ([] : List UInt8) = bytes at other
    cases other with
    | nil => rfl
    | char d rest =>
      exact absurd (List.append_eq_nil_iff.mp none_left.symm).1 String.utf8EncodeChar_ne_nil
    | broken breaks rest =>
      exact absurd (List.append_eq_nil_iff.mp none_left.symm).1 breaks.ne_nil
  | @char c s cs rest ih =>
    generalize same : utf8EncodeChar c ++ s = bytes at other
    cases other with
    | nil => exact absurd (List.append_eq_nil_iff.mp same).1 String.utf8EncodeChar_ne_nil
    | char d rest' =>
      obtain rfl := eq_of_utf8EncodeChar_append_eq same
      obtain rfl := List.append_cancel_left same
      rw [ih rest']
    | broken breaks rest' => exact absurd ⟨s, same⟩ (breaks.no_char c)
  | @broken run s cs breaks rest ih =>
    generalize same : run ++ s = bytes at other
    cases other with
    | nil => exact absurd (List.append_eq_nil_iff.mp same).1 breaks.ne_nil
    | @char d t ds rest' => exact absurd ⟨t, same.symm⟩ (breaks.no_char d)
    | @broken run' t ds breaks' rest' =>
      have length :=
        le_antisymm (breaks'.length_le breaks same.symm) (breaks.length_le breaks' same)
      obtain ⟨rfl, rfl⟩ := List.append_inj same length
      rw [ih rest']

/-! ## The bytes of a character -/

namespace Glyph

/-- **What may follow a first byte**, as far as it goes. -/
structure Lead.Fits (want : Lead) (tail : List UInt8) : Prop where
  length_le : tail.length ≤ want.following
  second : ∀ b ∈ tail.head?, want.low ≤ b.toNat ∧ b.toNat ≤ want.high
  later : ∀ b ∈ tail.tail, isContinuation b.toNat = true

theorem Lead.Fits.of_append {want : Lead} {part more : List UInt8}
    (fits : want.Fits (part ++ more)) : want.Fits part := by
  have length_le := fits.length_le
  rw [List.length_append] at length_le
  cases part with
  | nil => exact ⟨by simp, nofun, nofun⟩
  | cons a part =>
    exact ⟨by omega, fits.second, fun b mem => fits.later b (List.mem_append_left more mem)⟩

theorem Lead.Fits.nil (want : Lead) : want.Fits [] := ⟨Nat.zero_le _, nofun, nofun⟩

theorem Lead.Fits.single {want : Lead} {b : UInt8}
    (bounds : want.low ≤ b.toNat ∧ b.toNat ≤ want.high) (some_byte : 0 < want.following) :
    want.Fits [b] := by
  refine ⟨some_byte, ?_, nofun⟩
  rintro c ⟨rfl⟩
  exact bounds

theorem Lead.Fits.concat {want : Lead} {b c : UInt8} {tail : List UInt8}
    (fits : want.Fits (b :: tail)) (next : isContinuation c.toNat = true)
    (short : (b :: tail).length < want.following) : want.Fits (b :: tail ++ [c]) := by
  refine ⟨by rwa [List.length_append], fits.second, fun d mem => ?_⟩
  rcases List.mem_append.mp mem with there | added
  · exact fits.later d there
  · rwa [List.mem_singleton.mp added]

/-- What a first byte can ask for. -/
theorem lead?_range {a : Nat} {want : Lead} (lead : lead? a = some want) :
    0x80 ≤ a ∧ 0 < want.following ∧ want.following ≤ 3 ∧ want.low ≤ want.high ∧
      want.high < 256 := by
  unfold lead? at lead
  split_ifs at lead <;> cases lead <;> simp only <;> omega

theorem byte_eq {n : Nat} {a : UInt8} (eq : n = a.toNat) : UInt8.ofNat n = a := by
  rw [eq, UInt8.ofNat_toNat]

theorem toNat_ofNat_of_valid {n : Nat} (valid : n.isValidChar) : (Char.ofNat n).val.toNat = n := by
  rw [Char.ofNat, dif_pos valid]
  rfl

section

variable {a b c d : UInt8} {want : Lead}

theorem utf8EncodeChar_one (short : a.toNat < 0x80) :
    utf8EncodeChar (Char.ofNat a.toNat) = [a] := by
  have value := toNat_ofNat_of_valid (n := a.toNat) (.inl (by omega))
  unfold String.utf8EncodeChar
  simp only [value]
  rw [if_pos (by omega), UInt8.ofNat_toNat]

theorem utf8EncodeChar_two (lead : lead? a.toNat = some want) (two : want.following = 1)
    (bounds : want.low ≤ b.toNat ∧ b.toNat ≤ want.high) :
    utf8EncodeChar (Char.ofNat ((a.toNat - 0xC0) * 64 + (b.toNat - 0x80))) = [a, b] := by
  have range : 0xC2 ≤ a.toNat ∧ a.toNat ≤ 0xDF ∧ 0x80 ≤ b.toNat ∧ b.toNat ≤ 0xBF := by
    unfold lead? at lead
    split_ifs at lead <;> cases lead <;> simp only at two bounds <;> omega
  have value := toNat_ofNat_of_valid (n := (a.toNat - 0xC0) * 64 + (b.toNat - 0x80))
    (.inl (by omega))
  unfold String.utf8EncodeChar
  simp only [value]
  rw [if_neg (by omega), if_pos (by omega), byte_eq (a := a) (by omega),
    byte_eq (a := b) (by omega)]

theorem utf8EncodeChar_three (lead : lead? a.toNat = some want) (three : want.following = 2)
    (bounds : want.low ≤ b.toNat ∧ b.toNat ≤ want.high)
    (third : isContinuation c.toNat = true) :
    utf8EncodeChar (Char.ofNat
      (((a.toNat - 0xE0) * 64 + (b.toNat - 0x80)) * 64 + (c.toNat - 0x80))) = [a, b, c] := by
  simp only [isContinuation, Bool.and_eq_true, decide_eq_true_eq] at third
  generalize value_eq :
    ((a.toNat - 0xE0) * 64 + (b.toNat - 0x80)) * 64 + (c.toNat - 0x80) = n
  -- no overlong form, and no surrogate
  have range : 0xE0 ≤ a.toNat ∧ a.toNat ≤ 0xEF ∧ 0x80 ≤ b.toNat ∧ b.toNat ≤ 0xBF ∧ 0x800 ≤ n ∧
      (n < 0xD800 ∨ 0xDFFF < n) := by
    unfold lead? at lead
    split_ifs at lead <;> cases lead <;> simp only at three bounds <;> omega
  have value := toNat_ofNat_of_valid (n := n) (by simp only [Nat.isValidChar]; omega)
  unfold String.utf8EncodeChar
  simp only [value]
  rw [if_neg (by omega), if_neg (by omega), if_pos (by omega), byte_eq (a := a) (by omega),
    byte_eq (a := b) (by omega), byte_eq (a := c) (by omega)]

theorem utf8EncodeChar_four (lead : lead? a.toNat = some want) (four : want.following = 3)
    (bounds : want.low ≤ b.toNat ∧ b.toNat ≤ want.high)
    (third : isContinuation c.toNat = true) (fourth : isContinuation d.toNat = true) :
    utf8EncodeChar (Char.ofNat ((((a.toNat - 0xF0) * 64 + (b.toNat - 0x80)) * 64
      + (c.toNat - 0x80)) * 64 + (d.toNat - 0x80))) = [a, b, c, d] := by
  simp only [isContinuation, Bool.and_eq_true, decide_eq_true_eq] at third fourth
  generalize value_eq : (((a.toNat - 0xF0) * 64 + (b.toNat - 0x80)) * 64
      + (c.toNat - 0x80)) * 64 + (d.toNat - 0x80) = n
  -- no overlong form, and nothing past the last code point
  have range : 0xF0 ≤ a.toNat ∧ a.toNat ≤ 0xF4 ∧ 0x80 ≤ b.toNat ∧ b.toNat ≤ 0xBF ∧ 0x10000 ≤ n ∧
      n < 0x110000 := by
    unfold lead? at lead
    split_ifs at lead <;> cases lead <;> simp only at four bounds <;> omega
  have value := toNat_ofNat_of_valid (n := n) (by simp only [Nat.isValidChar]; omega)
  unfold String.utf8EncodeChar
  simp only [value]
  rw [if_neg (by omega), if_neg (by omega), if_neg (by omega), byte_eq (a := a) (by omega),
    byte_eq (a := b) (by omega), byte_eq (a := c) (by omega), byte_eq (a := d) (by omega)]

end

/-- **The shape of a character's bytes.** -/
theorem shape_of_utf8EncodeChar {c : Char} {a : UInt8} {tail : List UInt8}
    (eq : utf8EncodeChar c = a :: tail) :
    (a.toNat < 0x80 ∧ tail = []) ∨
      ∃ want, lead? a.toNat = some want ∧ want.Fits tail ∧ tail.length = want.following := by
  have valid : c.val.toNat < 0xD800 ∨ 0xDFFF < c.val.toNat ∧ c.val.toNat < 0x110000 := c.valid
  unfold String.utf8EncodeChar at eq
  generalize c.val.toNat = n at valid eq
  simp only at eq
  have follows (n : Nat) : isContinuation (UInt8.ofNat (n % 64 + 128)).toNat = true := by
    rw [ofNat_toNat_of_lt (by omega)]
    exact isContinuation_mod n
  split_ifs at eq with one two three
  · obtain ⟨rfl, rfl⟩ := List.cons.inj eq
    rw [ofNat_toNat_of_lt (by omega)]
    exact .inl ⟨by omega, rfl⟩
  · obtain ⟨rfl, rfl⟩ := List.cons.inj eq
    rw [ofNat_toNat_of_lt (by omega)]
    refine .inr ⟨_, lead?_two (n := n) (by omega) (by omega), ⟨le_rfl, ?_, nofun⟩, rfl⟩
    rintro b ⟨rfl⟩
    rw [ofNat_toNat_of_lt (by omega)]
    simp only
    omega
  · obtain ⟨rfl, rfl⟩ := List.cons.inj eq
    obtain ⟨want, lead, following, bounds⟩ := lead?_three (n := n) (by omega) (by omega) (by omega)
    rw [ofNat_toNat_of_lt (by omega)]
    refine .inr ⟨want, lead, ⟨following.ge, ?_, ?_⟩, following.symm⟩
    · rintro b ⟨rfl⟩
      rwa [ofNat_toNat_of_lt (by omega)]
    · simpa using follows n
  · obtain ⟨rfl, rfl⟩ := List.cons.inj eq
    obtain ⟨want, lead, following, bounds⟩ := lead?_four (n := n) (by omega) (by omega)
    rw [ofNat_toNat_of_lt (by omega)]
    refine .inr ⟨want, lead, ⟨following.ge, ?_, ?_⟩, following.symm⟩
    · rintro b ⟨rfl⟩
      rwa [ofNat_toNat_of_lt (by omega)]
    · simpa using ⟨follows (n / 64), follows n⟩

/-! ## The bytes that begin a character -/

section

variable {a : UInt8} {want : Lead} {tail bytes : List UInt8}

/-- A first byte, and all that it asks for, are a character. -/
theorem exists_char (lead : lead? a.toNat = some want) (fits : want.Fits tail)
    (full : tail.length = want.following) : ∃ c : Char, utf8EncodeChar c = a :: tail := by
  obtain ⟨-, pos, le, -⟩ := lead?_range lead
  match tail, fits, full with
  | [], _, full => exact absurd full pos.ne
  | [b], fits, full => exact ⟨_, utf8EncodeChar_two lead full.symm (fits.second b rfl)⟩
  | [b, c], fits, full =>
    exact ⟨_, utf8EncodeChar_three lead full.symm (fits.second b rfl)
      (fits.later c List.mem_cons_self)⟩
  | [b, c, d], fits, full =>
    exact ⟨_, utf8EncodeChar_four lead full.symm (fits.second b rfl)
      (fits.later c List.mem_cons_self) (fits.later d (List.mem_cons_of_mem c List.mem_cons_self))⟩
  | b :: c :: d :: e :: more, _, full =>
    simp only [List.length_cons] at full
    omega

/-- What follows a first byte can be filled up to its end. -/
theorem Lead.Fits.exists_fill {b : UInt8} (fits : want.Fits (b :: tail)) :
    ∃ more, want.Fits (b :: tail ++ more) ∧ (b :: tail ++ more).length = want.following := by
  have length_le := fits.length_le
  have full : (b :: tail ++ List.replicate (want.following - (b :: tail).length) 0x80).length
      = want.following := by
    rw [List.length_append, List.length_replicate]
    omega
  refine ⟨_, ⟨full.le, fits.second, fun d mem => ?_⟩, full⟩
  rcases List.mem_append.mp mem with there | added
  · exact fits.later d there
  · rw [List.eq_of_mem_replicate added]
    rfl

/-- So can a first byte, whatever follows it. -/
theorem Lead.Fits.exists_full (lead : lead? a.toNat = some want) (fits : want.Fits tail) :
    ∃ more, want.Fits (tail ++ more) ∧ (tail ++ more).length = want.following := by
  obtain ⟨-, pos, -, low_le, high_lt⟩ := lead?_range lead
  cases tail with
  | nil =>
    have low : (UInt8.ofNat want.low).toNat = want.low := ofNat_toNat_of_lt (by omega)
    have second : want.Fits [UInt8.ofNat want.low] := .single (by omega) pos
    obtain ⟨more, whole⟩ := second.exists_fill
    exact ⟨UInt8.ofNat want.low :: more, whole⟩
  | cons b tail => exact fits.exists_fill

/-- **The runs that begin a longer character**, by their first byte. -/
theorem begins_iff (lead : lead? a.toNat = some want) :
    Begins (a :: tail) ↔ want.Fits tail := by
  constructor
  · rintro ⟨c, more, eq⟩
    rcases shape_of_utf8EncodeChar eq.symm with ⟨short, -⟩ | ⟨want', lead', fits, -⟩
    · exact absurd short (lead?_range lead).1.not_gt
    · obtain rfl := Option.some.inj (lead'.symm.trans lead)
      exact fits.of_append
  · intro fits
    obtain ⟨more, fits, full⟩ := fits.exists_full lead
    obtain ⟨c, eq⟩ := exists_char lead fits full
    exact ⟨c, more, eq.symm⟩

/-- A byte that begins no character. -/
theorem breaks_of_lead?_none (long : ¬ a.toNat < 0x80) (lead : lead? a.toNat = none) :
    Breaks [a] bytes := by
  have none_begins (tail : List UInt8) : ¬ Begins (a :: tail) := by
    rintro ⟨c, more, eq⟩
    rcases shape_of_utf8EncodeChar eq.symm with ⟨short, -⟩ | ⟨want, lead', -⟩
    · exact long short
    · exact nomatch lead'.symm.trans lead
  refine ⟨List.cons_ne_nil a [], fun c fits => ?_, .inr rfl, fun b _ => none_begins [b]⟩
  obtain ⟨d, tail, eq⟩ := List.exists_cons_of_ne_nil (String.utf8EncodeChar_ne_nil (c := c))
  rw [eq, List.singleton_append, List.cons_prefix_cons] at fits
  obtain ⟨rfl, -⟩ := fits
  exact none_begins tail ⟨c, eq ▸ List.prefix_rfl⟩

/-- **A character cut short**: something else follows, or nothing. -/
theorem breaks_of_fits (lead : lead? a.toNat = some want) (fits : want.Fits tail)
    (short : tail.length < want.following)
    (stop : ∀ b ∈ bytes.head?, ¬ want.Fits (tail ++ [b])) : Breaks (a :: tail) bytes where
  ne_nil := List.cons_ne_nil a tail
  no_char c sub := by
    obtain ⟨d, whole, eq⟩ := List.exists_cons_of_ne_nil (String.utf8EncodeChar_ne_nil (c := c))
    rw [eq, List.cons_append, List.cons_prefix_cons] at sub
    obtain ⟨rfl, sub⟩ := sub
    rcases shape_of_utf8EncodeChar eq with ⟨ascii, -⟩ | ⟨want', lead', fits', full⟩
    · exact absurd ascii (lead?_range lead).1.not_gt
    · obtain rfl := Option.some.inj (lead'.symm.trans lead)
      -- the character is longer than the run, so it takes in the byte behind the run
      obtain ⟨more, rfl⟩ : tail <+: whole :=
        List.prefix_of_prefix_length_le (List.prefix_append tail bytes) sub (by omega)
      rw [List.prefix_append_right_inj] at sub
      cases more with
      | nil =>
        rw [List.append_nil] at full
        omega
      | cons b more =>
        obtain ⟨rest, rfl⟩ := sub
        rw [List.append_cons] at fits'
        exact stop b rfl fits'.of_append
  part := .inl ((begins_iff lead).mpr fits)
  longest b mem begins := stop b mem ((begins_iff lead).mp begins)

/-- A first byte behind which nothing of its character follows. -/
theorem breaks_one (lead : lead? a.toNat = some want)
    (stop : ∀ b ∈ bytes.head?, ¬ (want.low ≤ b.toNat ∧ b.toNat ≤ want.high)) :
    Breaks [a] bytes :=
  breaks_of_fits lead (.nil want) (lead?_range lead).2.1
    fun b mem fits => stop b mem (fits.second b rfl)

variable {b c : UInt8}

/-- Two bytes of a longer character, and no third. -/
theorem breaks_two (lead : lead? a.toNat = some want)
    (bounds : want.low ≤ b.toNat ∧ b.toNat ≤ want.high) (more : want.following ≠ 1)
    (stop : ∀ c ∈ bytes.head?, ¬ isContinuation c.toNat = true) : Breaks [a, b] bytes := by
  have pos := (lead?_range lead).2.1
  have short : [b].length < want.following := by rw [List.length_singleton]; omega
  exact breaks_of_fits lead (.single bounds pos) short
    fun c mem fits => stop c mem (fits.later c List.mem_cons_self)

/-- Three bytes of a longer character, and no fourth. -/
theorem breaks_three (lead : lead? a.toNat = some want)
    (bounds : want.low ≤ b.toNat ∧ b.toNat ≤ want.high) (third : isContinuation c.toNat = true)
    (more : want.following ≠ 1) (many : want.following ≠ 2)
    (stop : ∀ d ∈ bytes.head?, ¬ isContinuation d.toNat = true) : Breaks [a, b, c] bytes := by
  have pos := (lead?_range lead).2.1
  have fits : want.Fits ([b] ++ [c]) :=
    (Lead.Fits.single bounds pos).concat third (by rw [List.length_singleton]; omega)
  have short : ([b] ++ [c]).length < want.following := by
    rw [List.length_append, List.length_singleton, List.length_singleton]
    omega
  exact breaks_of_fits lead fits short
    fun d mem fits => stop d mem (fits.later d (List.mem_cons_of_mem c List.mem_cons_self))

end

/-! ## Glyphs -/

/-- **The characters of the glyphs are a lossy text of the bytes.** -/
theorem lossy_scan (bytes : List UInt8) : Lossy bytes ((scan bytes).map shown) := by
  -- a character by the bytes it is written in, a broken run by what follows it
  fun_induction scan bytes with
  | case1 => exact .nil
  | case2 a rest short ih =>
    change Lossy ([a] ++ rest) _
    rw [← utf8EncodeChar_one short]
    exact .char _ ih
  | case3 a rest long lead ih => exact .broken (breaks_of_lead?_none long lead) ih
  | case4 a long want lead =>
    have cut : Breaks [a] [] := breaks_one lead nofun
    exact .broken cut .nil
  | case5 a long want lead b rest outside ih =>
    refine .broken (breaks_one lead ?_) ih
    rintro c ⟨rfl⟩
    exact outside
  | case6 a long want lead b rest bounds two ih =>
    change Lossy ([a, b] ++ rest) _
    rw [← utf8EncodeChar_two lead two (not_not.mp bounds)]
    exact .char _ ih
  | case7 a long want lead b bounds more =>
    have cut : Breaks [a, b] [] := breaks_two lead (not_not.mp bounds) more nofun
    exact .broken cut .nil
  | case8 a long want lead b bounds more c rest other ih =>
    refine .broken (breaks_two lead (not_not.mp bounds) more ?_) ih
    rintro d ⟨rfl⟩
    exact other
  | case9 a long want lead b bounds more c rest third three ih =>
    change Lossy ([a, b, c] ++ rest) _
    rw [← utf8EncodeChar_three lead three (not_not.mp bounds) (not_not.mp third)]
    exact .char _ ih
  | case10 a long want lead b bounds more c third many =>
    have cut : Breaks [a, b, c] [] :=
      breaks_three lead (not_not.mp bounds) (not_not.mp third) more many nofun
    exact .broken cut .nil
  | case11 a long want lead b bounds more c third many d rest other ih =>
    refine .broken (breaks_three lead (not_not.mp bounds) (not_not.mp third) more many ?_) ih
    rintro e ⟨rfl⟩
    exact other
  | case12 a long want lead b bounds more c third many d rest fourth ih =>
    obtain ⟨-, pos, le, -⟩ := lead?_range lead
    have four : want.following = 3 := by omega
    change Lossy ([a, b, c, d] ++ rest) _
    rw [← utf8EncodeChar_four lead four (not_not.mp bounds) (not_not.mp third)
      (not_not.mp fourth)]
    exact .char _ ih

/-- **The lossy text of bytes is the only one they have.** -/
theorem lossy_iff {bytes : List UInt8} {s : String} : Lossy bytes s.toList ↔ s = lossy bytes := by
  rw [lossy]
  constructor
  · intro text
    rw [← text.unique (lossy_scan bytes), String.ofList_toList]
  · rintro rfl
    rw [String.toList_ofList]
    exact lossy_scan bytes

/-! ## Longer inputs -/

/-- Whether the last of some glyphs, if there is one, is a character. -/
def EndsWhole (glyphs : List Glyph) : Prop := ∀ g ∈ glyphs.getLast?, ∃ c, g = .char c

theorem EndsWhole.of_cons {g : Glyph} {glyphs : List Glyph} (whole : EndsWhole (g :: glyphs)) :
    EndsWhole glyphs := by
  intro last mem
  refine whole last ?_
  rw [List.getLast?_cons, Option.mem_def.mp mem]
  rfl

theorem not_endsWhole_broken (run : List UInt8) : ¬ EndsWhole [.broken run] := by
  intro whole
  obtain ⟨c, eq⟩ := whole _ rfl
  exact Glyph.noConfusion eq

/-- **Bytes that end with a character are cut alike in front of others.** -/
theorem scan_append {bytes : List UInt8} (whole : EndsWhole (scan bytes)) (more : List UInt8) :
    scan (bytes ++ more) = scan bytes ++ scan more := by
  -- where a run is cut off by the end of the input, the glyphs end with it
  fun_induction scan bytes with
  | case1 => rfl
  | case2 a rest short ih => rw [List.cons_append, scan_ascii a _ short, ih whole.of_cons]; rfl
  | case3 a rest long lead ih =>
    rw [List.cons_append, scan.eq_def]
    simp only [long, if_false, lead, ih whole.of_cons]
    rfl
  | case4 => exact absurd whole (not_endsWhole_broken _)
  | case5 a long want lead b rest outside ih =>
    have ih := ih whole.of_cons
    rw [List.cons_append] at ih ⊢
    rw [List.cons_append, scan.eq_def]
    simp only [long, if_false, lead, if_pos outside, ih]
    rfl
  | case6 a long want lead b rest bounds two ih =>
    simp only [List.cons_append]
    rw [scan_two long lead (not_not.mp bounds) two, ih whole.of_cons]
  | case7 => exact absurd whole (not_endsWhole_broken _)
  | case8 a long want lead b bounds many c rest other ih =>
    have ih := ih whole.of_cons
    rw [List.cons_append] at ih
    rw [List.cons_append, List.cons_append, List.cons_append, scan.eq_def]
    simp only [long, if_false, lead, bounds, many, if_pos other, ih]
    rfl
  | case9 a long want lead b bounds many c rest third three ih =>
    simp only [List.cons_append]
    rw [scan_three long lead (not_not.mp bounds) three (not_not.mp third), ih whole.of_cons]
  | case10 => exact absurd whole (not_endsWhole_broken _)
  | case11 a long want lead b bounds many c third others d rest other ih =>
    have ih := ih whole.of_cons
    rw [List.cons_append] at ih
    rw [List.cons_append, List.cons_append, List.cons_append, List.cons_append, scan.eq_def]
    simp only [long, if_false, lead, bounds, many, third, others, if_pos other, ih]
    rfl
  | case12 a long want lead b bounds many c third others d rest fourth ih =>
    obtain ⟨-, pos, le, -⟩ := lead?_range lead
    have four : want.following = 3 := by omega
    simp only [List.cons_append]
    rw [scan_four long lead (not_not.mp bounds) four (not_not.mp third) (not_not.mp fourth),
      ih whole.of_cons]

end Glyph

end Relaunch
