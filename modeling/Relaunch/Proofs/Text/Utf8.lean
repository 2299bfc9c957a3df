import Relaunch.Text.Utf8

/-!
# Proofs/Text/Utf8 — a text is read back from its bytes

The bytes of a text, cut into glyphs, are its characters: what a reader of texts proves of a text it
proves of the bytes in which the text travels.

* `Glyph.scan_utf8EncodeChar` — the bytes of one character are that character.
* `Glyph.scan_toUTF8` — the bytes of a text are its glyphs.
-/

namespace Relaunch.Glyph

theorem ofNat_toNat_of_lt {n : Nat} (lt : n < 256) : (UInt8.ofNat n).toNat = n := by
  rw [UInt8.toNat_ofNat', Nat.mod_eq_of_lt lt]

/-! ## Steps of the scan -/

section

variable {a b c d : UInt8} {want : Lead}

theorem scan_two (long : ¬ a.toNat < 0x80) (lead : lead? a.toNat = some want)
    (bounds : want.low ≤ b.toNat ∧ b.toNat ≤ want.high) (two : want.following = 1)
    (rest : List UInt8) :
    scan (a :: b :: rest)
      = .char (Char.ofNat ((a.toNat - 0xC0) * 64 + (b.toNat - 0x80))) :: scan rest := by
  rw [scan.eq_def]
  simp only [long, if_false, lead, bounds, and_self, not_true_eq_false, two, if_true]

theorem scan_three (long : ¬ a.toNat < 0x80) (lead : lead? a.toNat = some want)
    (bounds : want.low ≤ b.toNat ∧ b.toNat ≤ want.high) (three : want.following = 2)
    (second : isContinuation c.toNat = true) (rest : List UInt8) :
    scan (a :: b :: c :: rest)
      = .char (Char.ofNat (((a.toNat - 0xE0) * 64 + (b.toNat - 0x80)) * 64 + (c.toNat - 0x80)))
        :: scan rest := by
  have more : ¬ want.following = 1 := by omega
  rw [scan.eq_def]
  simp only [long, if_false, lead, bounds, and_self, not_true_eq_false, more, second]
  rw [if_pos three]

theorem scan_four (long : ¬ a.toNat < 0x80) (lead : lead? a.toNat = some want)
    (bounds : want.low ≤ b.toNat ∧ b.toNat ≤ want.high) (four : want.following = 3)
    (second : isContinuation c.toNat = true) (third : isContinuation d.toNat = true)
    (rest : List UInt8) :
    scan (a :: b :: c :: d :: rest)
      = .char (Char.ofNat ((((a.toNat - 0xF0) * 64 + (b.toNat - 0x80)) * 64 + (c.toNat - 0x80))
        * 64 + (d.toNat - 0x80))) :: scan rest := by
  have more : ¬ want.following = 1 ∧ ¬ want.following = 2 := by omega
  rw [scan.eq_def]
  simp only [long, if_false, lead, bounds, and_self, not_true_eq_false, more, second, third]

end

/-! ## One character -/

theorem isContinuation_mod (n : Nat) : isContinuation (n % 64 + 128) = true := by
  unfold isContinuation
  simp only [Bool.and_eq_true, decide_eq_true_eq]
  omega

/-- The lead byte of two. -/
theorem lead?_two {n : Nat} (low : 128 ≤ n) (high : n < 2048) :
    lead? (n / 64 % 32 + 192) = some ⟨0x80, 0xBF, 1⟩ := if_pos (by omega)

/-- The lead byte of three, and what it allows of the second. -/
theorem lead?_three {n : Nat} (low : 2048 ≤ n) (high : n < 65536)
    (whole : n < 0xD800 ∨ 0xDFFF < n) :
    ∃ want : Lead, lead? (n / 4096 % 16 + 224) = some want ∧ want.following = 2 ∧
      want.low ≤ n / 64 % 64 + 128 ∧ n / 64 % 64 + 128 ≤ want.high := by
  unfold lead?
  rw [if_neg (by omega)]
  split
  · exact ⟨_, rfl, rfl, by simp only; omega, by simp only; omega⟩
  · split
    · exact ⟨_, rfl, rfl, by simp only; omega, by simp only; omega⟩
    · rw [if_pos (by omega)]
      exact ⟨_, rfl, rfl, by simp only; omega, by simp only; omega⟩

/-- The lead byte of four, and what it allows of the second. -/
theorem lead?_four {n : Nat} (low : 65536 ≤ n) (high : n < 0x110000) :
    ∃ want : Lead, lead? (n / 262144 % 8 + 240) = some want ∧ want.following = 3 ∧
      want.low ≤ n / 4096 % 64 + 128 ∧ n / 4096 % 64 + 128 ≤ want.high := by
  unfold lead?
  rw [if_neg (by omega), if_neg (by omega), if_neg (by omega), if_neg (by omega)]
  split
  · exact ⟨_, rfl, rfl, by simp only; omega, by simp only; omega⟩
  · split
    · exact ⟨_, rfl, rfl, by simp only; omega, by simp only; omega⟩
    · rw [if_pos (by omega)]
      exact ⟨_, rfl, rfl, by simp only; omega, by simp only; omega⟩

section

variable {n : Nat} (rest : List UInt8)

theorem scan_encoded_two (low : 128 ≤ n) (high : n < 2048) :
    scan (UInt8.ofNat (n / 64 % 32 + 192) :: UInt8.ofNat (n % 64 + 128) :: rest)
      = .char (Char.ofNat n) :: scan rest := by
  have first := ofNat_toNat_of_lt (n := n / 64 % 32 + 192) (by omega)
  have last := ofNat_toNat_of_lt (n := n % 64 + 128) (by omega)
  have lead := lead?_two low high
  rw [← first] at lead
  refine (scan_two (by omega) lead (by simp only; omega) rfl rest).trans ?_
  have value : (n / 64 % 32 + 192 - 0xC0) * 64 + (n % 64 + 128 - 0x80) = n := by omega
  rw [first, last, value]

theorem scan_encoded_three (low : 2048 ≤ n) (high : n < 65536)
    (whole : n < 0xD800 ∨ 0xDFFF < n) :
    scan (UInt8.ofNat (n / 4096 % 16 + 224) :: UInt8.ofNat (n / 64 % 64 + 128) ::
        UInt8.ofNat (n % 64 + 128) :: rest)
      = .char (Char.ofNat n) :: scan rest := by
  have first := ofNat_toNat_of_lt (n := n / 4096 % 16 + 224) (by omega)
  have middle := ofNat_toNat_of_lt (n := n / 64 % 64 + 128) (by omega)
  have last := ofNat_toNat_of_lt (n := n % 64 + 128) (by omega)
  obtain ⟨want, lead, following, bounds⟩ := lead?_three low high whole
  rw [← first] at lead
  rw [← middle] at bounds
  have second := isContinuation_mod n
  rw [← last] at second
  refine (scan_three (by omega) lead bounds following second rest).trans ?_
  have value : ((n / 4096 % 16 + 224 - 0xE0) * 64 + (n / 64 % 64 + 128 - 0x80)) * 64
      + (n % 64 + 128 - 0x80) = n := by omega
  rw [first, middle, last, value]

theorem scan_encoded_four (low : 65536 ≤ n) (high : n < 0x110000) :
    scan (UInt8.ofNat (n / 262144 % 8 + 240) :: UInt8.ofNat (n / 4096 % 64 + 128) ::
        UInt8.ofNat (n / 64 % 64 + 128) :: UInt8.ofNat (n % 64 + 128) :: rest)
      = .char (Char.ofNat n) :: scan rest := by
  have first := ofNat_toNat_of_lt (n := n / 262144 % 8 + 240) (by omega)
  have next := ofNat_toNat_of_lt (n := n / 4096 % 64 + 128) (by omega)
  have middle := ofNat_toNat_of_lt (n := n / 64 % 64 + 128) (by omega)
  have last := ofNat_toNat_of_lt (n := n % 64 + 128) (by omega)
  obtain ⟨want, lead, following, bounds⟩ := lead?_four low high
  rw [← first] at lead
  rw [← next] at bounds
  have second := isContinuation_mod (n / 64)
  have third := isContinuation_mod n
  rw [← middle] at second
  rw [← last] at third
  refine (scan_four (by omega) lead bounds following second third rest).trans ?_
  have value : (((n / 262144 % 8 + 240 - 0xF0) * 64 + (n / 4096 % 64 + 128 - 0x80)) * 64
      + (n / 64 % 64 + 128 - 0x80)) * 64 + (n % 64 + 128 - 0x80) = n := by omega
  rw [first, next, middle, last, value]

end

/-- **The bytes of one character are that character.** -/
theorem scan_utf8EncodeChar (c : Char) (rest : List UInt8) :
    scan (String.utf8EncodeChar c ++ rest) = .char c :: scan rest := by
  have valid : c.val.toNat < 0xD800 ∨ 0xDFFF < c.val.toNat ∧ c.val.toNat < 0x110000 := c.valid
  have back : Char.ofNat c.val.toNat = c := Char.ofNat_toNat c
  rw [← congrArg Glyph.char back]
  unfold String.utf8EncodeChar
  generalize c.val.toNat = n at valid
  simp only
  split
  · have byte := ofNat_toNat_of_lt (n := n) (by omega)
    rw [List.singleton_append, scan_ascii _ rest (by omega), byte]
  · split
    · exact scan_encoded_two rest (by omega) (by omega)
    · split
      · exact scan_encoded_three rest (by omega) (by omega) (by omega)
      · exact scan_encoded_four rest (by omega) (by omega)

/-! ## Texts -/

theorem scan_flatMap (cs : List Char) : scan (cs.flatMap String.utf8EncodeChar) = cs.map .char := by
  induction cs with
  | nil => rfl
  | cons c cs ih => rw [List.flatMap_cons, scan_utf8EncodeChar, ih, List.map_cons]

/-- The bytes of a text are those of its characters. -/
theorem toList_toUTF8 (s : String) :
    s.toUTF8.data.toList = s.toList.flatMap String.utf8EncodeChar := by
  rw [String.toUTF8_eq_toByteArray, ← String.utf8Encode_toList, List.utf8Encode,
    List.data_toByteArray]

/-- **The bytes of a text are its glyphs.** -/
theorem scan_toUTF8 (s : String) : scan s.toUTF8.data.toList = ofText s := by
  rw [toList_toUTF8, scan_flatMap, ofText]

end Relaunch.Glyph
