import Mathlib.Data.List.DropRight
import Relaunch.Text.Blank

/-!
# Proofs/Text/Trim — what trimming leaves of a text

Trimming takes white space off the front and then off the back.  What it leaves has none at either
end, and a text that has none at either end is left as it is; so the trimmed texts are those that
trimming leaves as they are.

* `isTrimmed_trim`, `trim_eq_self_iff` — the trimmed texts.
* `isBlank_iff` — the blank texts are those of which nothing is left.
* `exists_trim`, `exists_dropRight` — what is left, and what was taken off.
-/

namespace Relaunch.Text

/-- **A text with no white space at either end.** -/
structure IsTrimmed (s : String) : Prop where
  front : ∀ c ∈ s.toList.head?, isSpace c = false
  back : ∀ c ∈ s.toList.getLast?, isSpace c = false

/-! ## The end of a text -/

variable {drop : Char → Bool} {cs : List Char}

theorem dropRight_eq (drop : Char → Bool) (cs : List Char) :
    dropRight drop cs = cs.rdropWhile drop := rfl

/-- The last of the characters left is none of those that are dropped. -/
theorem getLast?_dropRight {c : Char} (last : c ∈ (dropRight drop cs).getLast?) :
    drop c = false := by
  obtain ⟨some_left, rfl⟩ := List.mem_getLast?_eq_getLast last
  exact Bool.eq_false_iff.mpr (List.rdropWhile_last_not drop cs some_left)

/-- Characters that end in none of those that are dropped are left as they are. -/
theorem dropRight_eq_self (kept : ∀ c ∈ cs.getLast?, drop c = false) : dropRight drop cs = cs := by
  refine List.rdropWhile_eq_self_iff.mpr fun nonempty => ?_
  rw [kept _ (List.getLast?_eq_some_getLast nonempty)]
  exact Bool.false_ne_true

/-- **What is left and what was dropped** make up the characters. -/
theorem exists_dropRight (drop : Char → Bool) (cs : List Char) :
    ∃ dropped, cs = dropRight drop cs ++ dropped ∧ ∀ c ∈ dropped, drop c = true :=
  ⟨cs.rtakeWhile drop, List.rdropWhile_append_rtakeWhile.symm,
    fun _ mem => List.mem_rtakeWhile_imp mem⟩

/-- Characters to drop behind one that is kept. -/
theorem dropRight_append {kept dropped : List Char} (last : ∀ c ∈ kept.getLast?, drop c = false)
    (all : ∀ c ∈ dropped, drop c = true) : dropRight drop (kept ++ dropped) = kept := by
  induction dropped using List.reverseRecOn with
  | nil =>
    rw [List.append_nil]
    exact dropRight_eq_self last
  | append_singleton dropped c ih =>
    rw [← List.append_assoc, dropRight_eq,
      List.rdropWhile_concat_pos _ _ _ (all c (List.mem_append_right _ List.mem_cons_self))]
    exact ih fun c mem => all c (List.mem_append_left _ mem)

/-! ## Trimmed texts -/

theorem toList_trim (s : String) :
    (trim s).toList = dropRight isSpace (s.toList.dropWhile isSpace) := by
  rw [trim, String.toList_ofList]
  rfl

/-- **What is left lies between white space.** -/
theorem exists_trim (s : String) : ∃ front back,
    s.toList = front ++ ((trim s).toList ++ back) ∧
      (∀ c ∈ front, isSpace c = true) ∧ ∀ c ∈ back, isSpace c = true := by
  obtain ⟨back, parts, spaces⟩ := exists_dropRight isSpace (s.toList.dropWhile isSpace)
  refine ⟨s.toList.takeWhile isSpace, back, ?_, fun c mem => List.mem_takeWhile_imp mem, spaces⟩
  rw [toList_trim, ← parts, List.takeWhile_append_dropWhile]

/-- **Trimming leaves a trimmed text.** -/
theorem isTrimmed_trim (s : String) : IsTrimmed (trim s) where
  front c first := by
    rw [toList_trim] at first
    exact head?_dropWhile _ c (head?_reverse_dropWhile_reverse _ first)
  back c last := by
    rw [toList_trim] at last
    exact getLast?_dropRight last

/-- A trimmed text is left as it is. -/
theorem IsTrimmed.trim_eq {s : String} (trimmed : IsTrimmed s) : trim s = s := by
  have front : s.toList.dropWhile isSpace = s.toList := dropWhile_eq_self trimmed.front
  rw [trim, trimChars, front]
  exact (congrArg String.ofList (dropRight_eq_self trimmed.back)).trans (String.ofList_toList)

theorem trim_eq_self_iff {s : String} : trim s = s ↔ IsTrimmed s :=
  ⟨fun same => same ▸ isTrimmed_trim s, IsTrimmed.trim_eq⟩

/-- **Nothing is left of a blank text**, and of no other. -/
theorem isBlank_iff {s : String} : isBlank s = true ↔ trim s = "" := by
  have nothing : trim s = "" ↔ s.toList.dropWhile isSpace = [] := by
    rw [← String.toList_eq_nil_iff, toList_trim]
    refine ⟨fun none => ?_, fun none => by rw [none]; rfl⟩
    -- the first character kept would be no white space, so it would be kept at the end too
    by_contra some_left
    obtain ⟨c, rest, chars⟩ := List.exists_cons_of_ne_nil some_left
    have kept := head?_dropWhile (p := isSpace) s.toList c (by rw [chars]; rfl)
    rw [dropRight_eq, List.rdropWhile_eq_nil_iff] at none
    exact absurd (none c (chars ▸ List.mem_cons_self)) (Bool.eq_false_iff.mp kept)
  rw [nothing, isBlank, List.all_eq_true, List.dropWhile_eq_nil_iff]

end Relaunch.Text
