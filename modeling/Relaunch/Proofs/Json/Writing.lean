import Relaunch.Json.Writer
import Relaunch.Proofs.Json.Form
import Mathlib.Data.List.Forall2
import Mathlib.Data.List.Nodup
import Mathlib.Tactic.SplitIfs

/-!
# Proofs/Json/Writing — what is written is a text of the value

A writer writes a form if what it writes of a value is, in front of anything, a text of that value.
Nothing is said of readers here: a text that is written is read as every text of the value is.

* `spells_escape` — a string that is written spells itself.
* `texts_writeObject` — a record is written as an object with all its slots, in their order.
-/

namespace Relaunch.Json

/-- **A writer writes a form.** -/
def Form.Written (form : Form α) (write : α → List Char) : Prop :=
  ∀ a t, form.texts a ((write a).map .char ++ t) t

/-! ## Strings -/

theorem hexDigit?_hexDigit : ∀ n < 16, hexDigit? (hexDigit n) = some n := by decide

/-- The code of a control character. -/
theorem quad_control {n : Nat} (control : n < 0x20) (t : Input) :
    Quad n (['0', '0', hexDigit (n / 16), hexDigit (n % 16)].map .char ++ t) t :=
  ⟨'0', '0', hexDigit (n / 16), hexDigit (n % 16), 0, 0, n / 16, n % 16, rfl, rfl,
    hexDigit?_hexDigit _ (by omega), hexDigit?_hexDigit _ (by omega), rfl, by omega⟩

/-- **A character that is escaped where it has to be stands for itself.** -/
theorem spelled_escape (c : Char) (t : Input) : Spelled c ((escape c).map .char ++ t) t := by
  unfold escape
  split_ifs with quote backslash b tab newline f r control
  · exact quote ▸ .named '"' '"' t rfl
  · exact backslash ▸ .named '\\' '\\' t rfl
  · exact b ▸ .named 'b' '\x08' t rfl
  · exact tab ▸ .named 't' '\t' t rfl
  · exact newline ▸ .named 'n' '\n' t rfl
  · exact f ▸ .named 'f' '\x0c' t rfl
  · exact r ▸ .named 'r' '\r' t rfl
  · have coded := Spelled.coded c.toNat _ t (quad_control control t) (by omega)
    rwa [Char.ofNat_toNat] at coded
  · exact .plain c t quote backslash (Nat.le_of_not_lt control)

theorem spells_escape (cs : List Char) (t : Input) :
    Spells cs ((cs.flatMap escape ++ ['"']).map .char ++ t) t := by
  induction cs with
  | nil => exact .close t
  | cons c cs ih =>
    rw [List.flatMap_cons, List.append_assoc, List.map_append, List.append_assoc]
    exact .cons (spelled_escape c _) ih

theorem written_text : Form.text.Written writeText :=
  fun s t => ⟨_, .refl _, spells_escape s.toList t⟩

theorem written_optional : Form.optional.Written (writeOptional writeText)
  | none, _ => .refl _
  | some s, t => written_text s t

theorem written_named (name : α → String) :
    (Form.named name).Written fun a => writeText (name a) :=
  fun a t => written_text (name a) t

/-! ## Lists -/

/-- Parts with a comma between each two, from the second on. -/
theorem series_separated_tail {T : β → Input → Input → Prop} {b : β} {bs : List β}
    {part : List Char} {parts : List (List Char)} (one : ∀ t, T b (part.map .char ++ t) t)
    (others : List.Forall₂ (fun b part => ∀ t, T b (part.map .char ++ t) t) bs parts) {first : Bool}
    {s t : Input} (start : Start first s ((separated (part :: parts)).map .char ++ t)) :
    Series T first (b :: bs) s false t := by
  induction others generalizing b part first s with
  | nil => exact .cons start (one t) (.nil false t)
  | @cons b' part' bs parts next _ ih =>
    rw [separated, List.map_append, List.map_cons, List.append_assoc] at start
    · exact .cons start (one _) (ih next (.refl _))
    · nofun

/-- **Parts with a comma between each two are a series.** -/
theorem series_separated {T : β → Input → Input → Prop} {bs : List β} {parts : List (List Char)}
    (all : List.Forall₂ (fun b part => ∀ t, T b (part.map .char ++ t) t) bs parts) (t : Input) :
    ∃ last, Series T true bs ((separated parts).map .char ++ t) last t := by
  obtain - | ⟨one, others⟩ := all
  · exact ⟨true, .nil true t⟩
  · exact ⟨false, series_separated_tail one others rfl⟩

theorem written_list {form : Form α} {write : α → List Char} (written : form.Written write) :
    form.list.Written (writeList write) := by
  intro as t
  have all : List.Forall₂ (fun a part => ∀ t, form.texts a (part.map .char ++ t) t) as
      (as.map write) := by
    rw [List.forall₂_map_right_iff, List.forall₂_same]
    exact fun a _ => written a
  obtain ⟨last, series⟩ := series_separated all (.char ']' :: t)
  have opened : (writeList write as).map .char ++ t
      = .char '[' :: ((separated (as.map write)).map .char ++ .char ']' :: t) := by
    simp [writeList]
  rw [opened]
  exact ⟨_, last, _, .refl _, series, .refl _⟩

/-! ## Records -/

/-- **What is written with all its slots is an object of the record.** -/
theorem texts_writeObject {slots : List (Slot α)} {a : α} {entries : List (String × List Char)}
    (all : List.Forall₂ (fun slot (e : String × List Char) => e.1 = slot.name ∧
      ∀ t, slot.texts a (e.2.map .char ++ t) t) slots entries)
    (nodup : (slots.map Slot.name).Nodup) (t : Input) :
    (Form.record slots).texts a ((writeObject entries).map .char ++ t) t := by
  have parts : List.Forall₂ (fun k part => ∀ t, Member slots a k (part.map .char ++ t) t)
      (slots.map Slot.name) (entries.map fun e => writeText e.1 ++ ':' :: e.2) := by
    rw [List.forall₂_map_left_iff, List.forall₂_map_right_iff]
    refine ((List.forall₂_and_left slots entries).mpr ⟨fun _ mem => mem, all⟩).imp
      fun slot e ⟨mem, same, text⟩ t => ?_
    have key : Key slot.name ((writeText e.1).map .char ++ .char ':' :: (e.2.map .char ++ t))
        (e.2.map .char ++ t) := by
      obtain ⟨u, quote, spells⟩ := written_text e.1 (.char ':' :: (e.2.map .char ++ t))
      exact ⟨u, _, quote, same ▸ spells, .refl _⟩
    rw [List.map_append, List.append_assoc]
    exact .slot slot mem rfl _ key (text t)
  obtain ⟨last, series⟩ := series_separated parts (.char '\x7d' :: t)
  have opened : (writeObject entries).map .char ++ t = .char '\x7b' :: ((separated
      (entries.map fun e => writeText e.1 ++ ':' :: e.2)).map .char ++ .char '\x7d' :: t) := by
    simp [writeObject]
  rw [opened]
  refine .inl ⟨slots.map Slot.name, _, last, _, .refl _, series, ?_, ?_, .refl _⟩
  · exact fun slot _ => List.nodup_iff_count_le_one.mp nodup slot.name
  · exact fun slot mem absent => absurd (List.mem_map_of_mem mem) absent

end Relaunch.Json
