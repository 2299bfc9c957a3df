import Mathlib.Data.String.Basic
import Relaunch.Proofs.Text.Utf8

/-!
# Proofs/Text/Order — texts are ordered as their bytes

The order of texts is that of their characters by code point, from the front.  UTF-8 keeps it: of
two characters the greater has the greater bytes, and the bytes of one never begin those of the
other.  (UTF-16 does not, past the basic plane.)

* `utf8EncodeChar_append_lt` — one character, whatever follows.
* `bytes_lt_iff` — whole texts.
-/

namespace Relaunch.Text

/-- The bytes of a text. -/
def bytes (s : String) : List UInt8 := s.toUTF8.data.toList

theorem bytes_eq (s : String) : bytes s = s.toList.flatMap String.utf8EncodeChar :=
  Glyph.toList_toUTF8 s

/-- **The bytes of the lesser character come first**, whatever follows. -/
theorem utf8EncodeChar_append_lt {c d : Char} (lt : c < d) (s t : List UInt8) :
    String.utf8EncodeChar c ++ s < String.utf8EncodeChar d ++ t := by
  have lt : c.val.toNat < d.val.toNat := lt
  have bound : d.val.toNat < 0x110000 := by
    rcases d.valid with low | ⟨-, high⟩
    · exact low.trans (by decide)
    · exact high
  unfold String.utf8EncodeChar
  generalize c.val.toNat = m at lt
  generalize d.val.toNat = n at lt bound
  -- a character is written in base 64, its first digit behind the mark of its length
  have second (k : Nat) : k / 4096 = k / 64 / 64 := by omega
  have third (k : Nat) : k / 262144 = k / 64 / 64 / 64 := by omega
  simp only [second, third]
  split_ifs <;>
    simp only [List.cons_append, List.nil_append, List.cons_lt_cons_iff, UInt8.lt_iff_toNat_lt,
      ← UInt8.toNat_inj, UInt8.toNat_ofNat'] <;>
    simp (disch := omega) only [Nat.mod_eq_of_lt (b := 2 ^ 8)] <;>
    omega

theorem flatMap_lt {cs ds : List Char} (lt : cs < ds) :
    cs.flatMap String.utf8EncodeChar < ds.flatMap String.utf8EncodeChar := by
  induction cs generalizing ds with
  | nil =>
    cases ds with
    | nil => exact absurd lt (List.lt_irrefl [])
    | cons d ds =>
      obtain ⟨b, bs, eq⟩ := List.exists_cons_of_ne_nil (String.utf8EncodeChar_ne_nil (c := d))
      rw [List.flatMap_nil, List.flatMap_cons, eq]
      exact List.nil_lt_cons b _
  | cons c cs ih =>
    cases ds with
    | nil => exact absurd lt (List.not_lt_nil _)
    | cons d ds =>
      rw [List.flatMap_cons, List.flatMap_cons]
      rcases List.cons_lt_cons_iff.mp lt with less | ⟨rfl, less⟩
      · exact utf8EncodeChar_append_lt less _ _
      · exact List.append_left_lt (ih less)

/-- **Texts are ordered as their bytes.** -/
theorem bytes_lt_iff {s t : String} : bytes s < bytes t ↔ s < t := by
  rw [bytes_eq, bytes_eq, String.lt_iff_toList_lt]
  constructor
  · intro less
    rcases lt_trichotomy s.toList t.toList with lt | same | gt
    · exact lt
    · exact absurd (same ▸ less) (List.lt_irrefl _)
    · exact absurd less (List.lt_asymm (flatMap_lt gt))
  · exact flatMap_lt

end Relaunch.Text
