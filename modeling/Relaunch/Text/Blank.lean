/-!
# Text/Blank — white space, trimming, and blank text

White space is the Unicode property `White_Space`, all 25 code points of it.  `trim` takes it off
both ends of a text; a text with nothing left is blank.

* `trim_trim` — trimming twice is trimming once.
-/

namespace Relaunch.Text

/-- **White space**: the code points with the Unicode property `White_Space`. -/
def isSpace (c : Char) : Bool :=
  let n := c.toNat
  (0x9 ≤ n && n ≤ 0xD) || n == 0x20 || n == 0x85 || n == 0xA0 || n == 0x1680 ||
    (0x2000 ≤ n && n ≤ 0x200A) || n == 0x2028 || n == 0x2029 || n == 0x202F || n == 0x205F ||
    n == 0x3000

/-- Characters without the white space at either end. -/
def trimChars (cs : List Char) : List Char :=
  ((cs.dropWhile isSpace).reverse.dropWhile isSpace).reverse

/-- A text without the white space at either end. -/
def trim (s : String) : String := String.ofList (trimChars s.toList)

/-- A text of white space alone, or of nothing. -/
def isBlank (s : String) : Bool := s.toList.all isSpace

/-- The characters left when `drop` is taken off the end. -/
def dropRight (drop : Char → Bool) (cs : List Char) : List Char :=
  (cs.reverse.dropWhile drop).reverse

/-- Whether a text begins with `start`. -/
def beginsWith (start s : String) : Bool := start.toList.isPrefixOf s.toList

/-! ## Trimmed text stays as it is -/

theorem dropWhile_eq_self {p : α → Bool} {l : List α} (h : ∀ a ∈ l.head?, p a = false) :
    l.dropWhile p = l := by
  cases l with
  | nil => rfl
  | cons a l => simp [h a (by simp)]

theorem head?_dropWhile {p : α → Bool} (l : List α) : ∀ a ∈ (l.dropWhile p).head?, p a = false := by
  induction l with
  | nil => simp
  | cons a l ih =>
    by_cases h : p a
    · simpa [h] using ih
    · intro b hb
      simp [h] at hb
      subst hb
      simpa using h

/-- Dropping from the right keeps the first character, if anything is left. -/
theorem head?_reverse_dropWhile_reverse {p : α → Bool} (l : List α) {a : α}
    (h : a ∈ ((l.reverse.dropWhile p).reverse).head?) : a ∈ l.head? := by
  have hs : (l.reverse.dropWhile p).reverse <+: l := by
    have := List.dropWhile_suffix (l := l.reverse) p
    simpa using List.reverse_prefix.mpr this
  obtain ⟨t, ht⟩ := hs
  cases hl : (l.reverse.dropWhile p).reverse with
  | nil => simp [hl] at h
  | cons b m =>
    rw [hl] at h ht
    subst ht
    simpa using h

/-- **Trimming twice is trimming once.** -/
theorem trimChars_trimChars (cs : List Char) : trimChars (trimChars cs) = trimChars cs := by
  have front : (trimChars cs).dropWhile isSpace = trimChars cs :=
    dropWhile_eq_self fun a ha =>
      head?_dropWhile cs a (head?_reverse_dropWhile_reverse _ ha)
  have back : (trimChars cs).reverse.dropWhile isSpace = (trimChars cs).reverse := by
    refine dropWhile_eq_self fun a ha => ?_
    simp only [trimChars, List.reverse_reverse] at ha
    exact head?_dropWhile _ a ha
  show (((trimChars cs).dropWhile isSpace).reverse.dropWhile isSpace).reverse = _
  rw [front, back, List.reverse_reverse]

@[simp] theorem trim_trim (s : String) : trim (trim s) = trim s := by
  simp [trim, trimChars_trimChars]

end Relaunch.Text
