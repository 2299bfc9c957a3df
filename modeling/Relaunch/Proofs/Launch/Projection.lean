import Mathlib.Data.List.Induction
import Mathlib.Data.List.Nodup
import Relaunch.Launch.Input
import Relaunch.Proofs.Text.Order

/-!
# Proofs/Launch/Projection — what is left of a workload for its launch

The projection of a workload drops its owner and its status and keeps the rest.  Its labels become a
map, one insertion a label: the map stays in order, and an insertion changes the entry of its key
and no other, so that what is left of the labels with a key is the last of them.

* `LabelMap.mem_insert_iff`, `LabelMap.Ordered.insert` — one insertion.
* `LabelMap.mem_ofLabels_iff`, `LabelMap.ordered_ofLabels` — all of them.
* `LabelMap.Ordered.ext` — a map is known by its entries.
* `projection_keeps` — the whole projection.
-/

namespace Relaunch

namespace Label

/-- **The last label with a key.** -/
def last? (key : String) (labels : List Label) : Option Label :=
  (labels.filter (·.key == key)).getLast?

/-- **Labels in another order**, in which those with the same key come as they came before. -/
def Rearranged (labels others : List Label) : Prop :=
  ∀ key, labels.filter (·.key == key) = others.filter (·.key == key)

theorem last?_concat (key : String) (labels : List Label) (l : Label) :
    last? key (labels ++ [l]) = if l.key = key then some l else last? key labels := by
  rw [last?, List.filter_append, List.filter_singleton]
  by_cases same : l.key = key
  · rw [if_pos same, beq_iff_eq.mpr same, cond_true, List.getLast?_concat]
  · rw [if_neg same, beq_eq_false_iff_ne.mpr same, cond_false, List.append_nil, last?]

theorem key_of_last? {key : String} {labels : List Label} {l : Label}
    (last : last? key labels = some l) : l.key = key := by
  have mem := List.mem_of_getLast? last
  exact beq_iff_eq.mp (List.mem_filter.mp mem).2

/-- There is one if and only if any label has the key. -/
theorem exists_last?_iff {key : String} {labels : List Label} :
    (∃ value, last? key labels = some ⟨key, value⟩) ↔ ∃ l ∈ labels, l.key = key := by
  constructor
  · rintro ⟨value, last⟩
    exact ⟨_, (List.mem_filter.mp (List.mem_of_getLast? last)).1, rfl⟩
  · rintro ⟨l, mem, has⟩
    have some_left : labels.filter (·.key == key) ≠ [] :=
      List.ne_nil_of_mem (List.mem_filter.mpr ⟨mem, beq_iff_eq.mpr has⟩)
    obtain ⟨⟨k, v⟩, last⟩ := Option.isSome_iff_exists.mp (List.getLast?_isSome.mpr some_left)
    obtain rfl : k = key := key_of_last? last
    exact ⟨v, last⟩

end Label

namespace LabelMap

/-- **Each key once, in increasing order.** -/
def Ordered (m : LabelMap) : Prop := m.Pairwise fun a b => a.1 < b.1

variable {m : LabelMap} {key value k v : String}

/-! ## One insertion -/

/-- What is in a map after an insertion was inserted, or was there before. -/
theorem mem_of_mem_insert {e : String × String} (mem : e ∈ insert key value m) :
    e = (key, value) ∨ e ∈ m := by
  induction m with
  | nil => exact .inl (List.mem_singleton.mp mem)
  | cons head rest ih =>
    rw [insert] at mem
    split at mem
    · exact List.mem_cons.mp mem
    · split at mem
      · rcases List.mem_cons.mp mem with new | old
        · exact .inl new
        · exact .inr (List.mem_cons_of_mem head old)
      · rcases List.mem_cons.mp mem with rfl | later
        · exact .inr List.mem_cons_self
        · exact (ih later).imp_right (List.mem_cons_of_mem head)

/-- **An insertion keeps the order.** -/
theorem Ordered.insert (ordered : m.Ordered) (key value : String) :
    (LabelMap.insert key value m).Ordered := by
  induction m with
  | nil => exact List.pairwise_singleton _ _
  | cons head rest ih =>
    obtain ⟨before, later⟩ := List.pairwise_cons.mp ordered
    rw [LabelMap.insert]
    split
    · rename_i first
      refine List.pairwise_cons.mpr ⟨fun e mem => ?_, ordered⟩
      rcases List.mem_cons.mp mem with rfl | mem
      · exact first
      · exact first.trans (before e mem)
    · rename_i notFirst
      split
      · rename_i same
        exact List.pairwise_cons.mpr ⟨fun e mem => same ▸ before e mem, later⟩
      · rename_i other
        refine List.pairwise_cons.mpr ⟨fun e mem => ?_, ih later⟩
        rcases mem_of_mem_insert mem with rfl | mem
        · exact lt_of_le_of_ne (not_lt.mp notFirst) (Ne.symm other)
        · exact before e mem

theorem mem_insert_self (m : LabelMap) (key value : String) :
    (key, value) ∈ insert key value m := by
  induction m with
  | nil => exact List.mem_singleton_self _
  | cons head rest ih =>
    rw [insert]
    split
    · exact List.mem_cons_self
    · split
      · exact List.mem_cons_self
      · exact List.mem_cons_of_mem head ih

theorem mem_insert_of_ne (other : key ≠ k) :
    (k, v) ∈ insert key value m ↔ (k, v) ∈ m := by
  have apart (rest : LabelMap) : (k, v) ∈ (key, value) :: rest ↔ (k, v) ∈ rest := by
    rw [List.mem_cons, or_iff_right fun same => other (congrArg Prod.fst same).symm]
  induction m with
  | nil => exact apart []
  | cons head rest ih =>
    rw [insert]
    split
    · exact apart _
    · split
      · rename_i same
        rw [apart, List.mem_cons, or_iff_right]
        rintro rfl
        exact other same
      · rw [List.mem_cons, List.mem_cons]
        exact or_congr_right ih

/-- A map has each key once. -/
theorem Ordered.nodup (ordered : m.Ordered) : (m.map Prod.fst).Nodup :=
  List.pairwise_map.mpr (ordered.imp ne_of_lt)

/-- **An insertion changes the entry of its key, and no other.** -/
theorem mem_insert_iff (ordered : m.Ordered) :
    (k, v) ∈ insert key value m ↔ if key = k then v = value else (k, v) ∈ m := by
  split
  · rename_i same
    subst same
    constructor
    · intro mem
      have there := mem_insert_self m key value
      exact congrArg Prod.snd
        (List.inj_on_of_nodup_map (ordered.insert key value).nodup mem there rfl)
    · rintro rfl
      exact mem_insert_self m key v
  · rename_i other
    exact mem_insert_of_ne other

/-- **A map is known by its entries.** -/
theorem Ordered.ext {m₁ m₂ : LabelMap} (left : m₁.Ordered) (right : m₂.Ordered)
    (same : ∀ k v, (k, v) ∈ m₁ ↔ (k, v) ∈ m₂) : m₁ = m₂ := by
  have perm : m₁.Perm m₂ :=
    (List.perm_ext_iff_of_nodup (List.Nodup.of_map _ left.nodup)
      (List.Nodup.of_map _ right.nodup)).mpr
      fun e => same e.1 e.2
  exact perm.eq_of_pairwise (fun a b _ _ less more => absurd more (lt_asymm less)) left right

/-! ## The labels of a workload -/

theorem ofLabels_concat (labels : List Label) (l : Label) :
    ofLabels (labels ++ [l]) = (ofLabels labels).insert l.key l.value := by
  rw [ofLabels, List.foldl_concat, ← ofLabels]

theorem ordered_ofLabels (labels : List Label) : (ofLabels labels).Ordered := by
  induction labels using List.reverseRecOn with
  | nil => exact .nil
  | append_singleton labels l ih =>
    rw [ofLabels_concat]
    exact ih.insert l.key l.value

/-- **Of the labels with a key the map holds the last.** -/
theorem mem_ofLabels_iff {labels : List Label} :
    (k, v) ∈ ofLabels labels ↔ Label.last? k labels = some ⟨k, v⟩ := by
  induction labels using List.reverseRecOn with
  | nil => exact ⟨nofun, nofun⟩
  | append_singleton labels l ih =>
    rw [ofLabels_concat, mem_insert_iff (ordered_ofLabels labels), Label.last?_concat]
    by_cases same : l.key = k
    · subst same
      rw [if_pos rfl, if_pos rfl, Option.some.injEq, Label.mk.injEq]
      exact ⟨fun eq => ⟨rfl, eq.symm⟩, fun eq => eq.2.symm⟩
    · rw [if_neg same, if_neg same, ih]

/-- Labels make the same map in any order that keeps those with the same key in theirs. -/
theorem ofLabels_rearranged {labels others : List Label}
    (rearranged : Label.Rearranged labels others) : ofLabels labels = ofLabels others := by
  refine (ordered_ofLabels labels).ext (ordered_ofLabels others) fun k v => ?_
  rw [mem_ofLabels_iff, mem_ofLabels_iff, Label.last?, rearranged k, Label.last?]

end LabelMap

/-! ## The projection -/

open LabelMap

/-- **The projection keeps everything but the owner and the status.**

* The id, the kind, the input, the log path and the mutex key are those of the workload.
* A key is in the map if and only if a label has it, with the value of the last such label.
* The map has each key once, and the keys stand in increasing order of their bytes.
* The owner and the status make no difference, nor does the order of labels with different keys.
* One more label sets the entry of its key, and changes no other and nothing else. -/
theorem projection_keeps (w : Workload) :
    let input := LaunchInput.ofWorkload w
    (input.id = w.id ∧ input.kind = w.kind ∧ input.input = w.input ∧
      input.logPath = w.logPath ∧ input.mutexKey = w.mutexKey) ∧
    (∀ k, (∃ v, (k, v) ∈ input.labels) ↔ ∃ l ∈ w.labels, l.key = k) ∧
    (∀ k v, (k, v) ∈ input.labels ↔ (w.labels.filter (·.key == k)).getLast? = some ⟨k, v⟩) ∧
    (input.labels.map Prod.fst).Nodup ∧
    input.labels.Pairwise (fun a b => Text.bytes a.1 < Text.bytes b.1) ∧
    (∀ owner status, LaunchInput.ofWorkload { w with owner, status } = input) ∧
    (∀ labels, Label.Rearranged w.labels labels →
      LaunchInput.ofWorkload { w with labels } = input) ∧
    ∀ k v, let more := LaunchInput.ofWorkload { w with labels := w.labels ++ [⟨k, v⟩] }
      more = { input with labels := more.labels } ∧
      ∀ k' v', (k', v') ∈ more.labels ↔ if k = k' then v' = v else (k', v') ∈ input.labels := by
  intro input
  have entries (k v : String) :
      (k, v) ∈ input.labels ↔ Label.last? k w.labels = some ⟨k, v⟩ := mem_ofLabels_iff
  have ordered : LabelMap.Ordered input.labels := ordered_ofLabels w.labels
  refine ⟨⟨rfl, rfl, rfl, rfl, rfl⟩, fun k => ?_, entries, ordered.nodup, ?_, fun _ _ => rfl,
    fun labels rearranged => ?_, fun k v => ⟨rfl, fun k' v' => ?_⟩⟩
  · rw [← Label.exists_last?_iff]
    exact exists_congr fun v => entries k v
  · exact ordered.imp Text.bytes_lt_iff.mpr
  · exact congrArg (fun map => { input with labels := map }) (ofLabels_rearranged rearranged).symm
  · have more := ofLabels_concat w.labels ⟨k, v⟩
    exact (iff_of_eq (congrArg ((k', v') ∈ ·) more)).trans (mem_insert_iff ordered)

/-- Two labels with one key, and a key past the basic plane, whose bytes are the greatest though
its UTF-16 units would not be. -/
theorem projection_keeps_of_repeated :
    let w : Workload := {
      id := "w", owner := some "dp", status := .claimed, kind := .sync, input := "{}"
      logPath := "/l", mutexKey := none
      labels := [⟨"😀", "1"⟩, ⟨"～", "2"⟩, ⟨"a", "3"⟩, ⟨"～", "4"⟩] }
    let labels : List Label := [⟨"～", "2"⟩, ⟨"～", "4"⟩, ⟨"a", "3"⟩, ⟨"😀", "1"⟩]
    Label.Rearranged w.labels labels ∧
      LaunchInput.ofWorkload { w with labels } = LaunchInput.ofWorkload w ∧
      (LaunchInput.ofWorkload w).labels = [("a", "3"), ("～", "4"), ("😀", "1")] ∧
      ("～", "4") ∈ (LaunchInput.ofWorkload w).labels := by
  intro w labels
  have rearranged : Label.Rearranged w.labels labels := by
    intro key
    by_cases face : "😀" = key
    · subst face
      decide
    · by_cases tilde : "～" = key
      · subst tilde
        decide
      · simp [w, labels, List.filter_cons, face, tilde]
  obtain ⟨-, -, entries, -, -, -, order, -⟩ := projection_keeps w
  exact ⟨rearranged, order labels rearranged, by decide, (entries "～" "4").mpr (by decide)⟩

end Relaunch
