import Relaunch.Proofs.Workload.RoundTrip

/-!
# Proofs/Workload/Tolerant — an answer is read from any of its texts

The registry need not write an answer as the launcher would.  An answer has many texts: entries may
come in another order, with white space and with entries nobody knows among them; defaults may be
left out; and any record may be an array of its fields.  They are all read as that answer.

A record that lacks a key it needs, or has one twice, is never read, wherever in the answer it
stands and whatever comes after it.

* `decode_of_form` — both, for all texts of all answers.
-/

namespace Relaunch

open Json

/-- **An answer is read from any of its texts, and from no text with a mishap.**

* What is written of an answer is one of its texts.
* Every text of an answer is read as that answer, and so are the bytes of the text.
* A text that begins like one of an answer, up to a mishap of a record in it, is not read.  Where
  the mishap is a key that is missing, or a second key behind a value that fits, it is this that is
  told. -/
theorem decode_of_form :
    (∀ r : ListResponse, ListResponse.form.Whole r (Glyph.ofText (String.ofList r.encode))) ∧
    (∀ r s, ListResponse.form.Whole r (Glyph.ofText s) →
      decodeText ListResponse.read s = .ok r ∧
      decodeBytes ListResponse.read s.toUTF8.data.toList = .ok r) ∧
    ∀ o s, ListResponse.form.flaws o (Glyph.ofText s) → ∃ problem,
      decodeText ListResponse.read s = .error problem ∧
      decodeBytes ListResponse.read s.toUTF8.data.toList = .error problem ∧
      ∀ q ∈ o, problem = q := by
  refine ⟨ListResponse.written.whole, fun r s whole => ?_, fun o s flaw => ?_⟩
  · rw [decodeBytes_toUTF8]
    exact ⟨ListResponse.reads.whole whole, ListResponse.reads.whole whole⟩
  · obtain ⟨problem, failed, named⟩ := ListResponse.reads.flawed flaw
    rw [decodeBytes_toUTF8]
    exact ⟨problem, failed, failed, named⟩

/-- An answer with an unknown entry, white space, entries out of order and without defaults, and a
label as an array; an answer with an id twice; and one in arrays, of which a row lacks its type. -/
theorem decode_of_form_of_permuted :
    decodeText ListResponse.read
        (" \x7b\"x\":[\x7b\"y\":null\x7d],\"workloads\":[" ++
          "\x7b\"type\":\"sync\", \"id\":\"a\",\"labels\":[[\"k\",\"v\"]]," ++
          "\"status\" :\"claimed\"\x7d]\x7d\n")
      = .ok ⟨[⟨"a", none, .claimed, .sync, "", "", none, [⟨"k", "v"⟩]⟩]⟩ ∧
    decodeText ListResponse.read "\x7b\"workloads\":[\x7b\"id\":\"a\",\"id\":7\x7d]\x7d"
      = .error (.data (.duplicateField "id")) ∧
    decodeText ListResponse.read "[[\x7b\"status\":\"claimed\",\"id\":\"a\"\x7d]]"
      = .error (.data (.missingField "type")) := by
  have key {k : String} {s t u v : Input} (quote : skipSpace s = .char '"' :: t)
      (body : stringBody t = .ok (k, u)) (colon : skipSpace u = .char ':' :: v) : Key k s v :=
    ⟨t, u, token_of_skipSpace quote, stringBody_eq_ok_iff.mp body, token_of_skipSpace colon⟩
  have id {s t u : Input} (there : Key "id" s t) (text : text t = .ok ("a", u)) :
      Member Workload.slots ⟨"a", none, .claimed, .sync, "", "", none, [⟨"k", "v"⟩]⟩ "id" s u :=
    .slot _ List.mem_cons_self rfl t there (text_eq_ok_iff.mp text)
  have status {s t u : Input} (there : Key "status" s t) (text : text t = .ok ("claimed", u)) :
      Member Workload.slots ⟨"a", none, .claimed, .sync, "", "", none, [⟨"k", "v"⟩]⟩ "status" s u :=
    .slot _ (List.mem_of_getElem? (i := 2) rfl) rfl t there (text_eq_ok_iff.mp text)
  refine ⟨?_, ?_, ?_⟩
  · have unknown (s : Input) : WellFormed .value (Glyph.ofText "[\x7b\"y\":null\x7d]" ++ s) s := by
      refine .array _ _ _ (token_of_skipSpace rfl) (.last _ _ _ (.object _ _ _
        (token_of_skipSpace rfl) (.lastMember _ _ _ _ _ _ (token_of_skipSpace rfl)
          (spells_escape ['y'] _).strung (token_of_skipSpace rfl)
          (.word "null" _ _ (by decide) (.refl _)) (token_of_skipSpace rfl)))
        (token_of_skipSpace rfl))
    have label (s : Input) : Label.form.texts ⟨"k", "v"⟩ (Glyph.ofText "[\"k\",\"v\"]" ++ s) s :=
      .inr ⟨Label.slots, [], _, _, _, rfl, token_of_skipSpace rfl,
        .cons rfl (text_eq_ok_iff.mp rfl) (.cons (token_of_skipSpace rfl) (text_eq_ok_iff.mp rfl)
          (.nil _ _)), nofun, token_of_skipSpace rfl⟩
    have row (s : Input) : Workload.form.texts
        ⟨"a", none, .claimed, .sync, "", "", none, [⟨"k", "v"⟩]⟩ (Glyph.ofText
          ("\x7b\"type\":\"sync\", \"id\":\"a\",\"labels\":[[\"k\",\"v\"]]," ++
            "\"status\" :\"claimed\"\x7d") ++ s) s := by
      refine .inl ⟨["type", "id", "labels", "status"], _, _, _, token_of_skipSpace rfl,
        .cons rfl (.slot _ (List.mem_of_getElem? (i := 3) rfl) rfl _ (key rfl rfl rfl)
          (text_eq_ok_iff.mp rfl))
        (.cons (token_of_skipSpace rfl) (id (key rfl rfl rfl) rfl)
        (.cons (token_of_skipSpace rfl) (.slot _ (List.mem_of_getElem? (i := 7) rfl) rfl _
          (key rfl rfl rfl) ⟨_, _, _, token_of_skipSpace rfl, .cons rfl (label _) (.nil _ _),
            token_of_skipSpace rfl⟩)
        (.cons (token_of_skipSpace rfl) (status (key rfl rfl rfl) rfl) (.nil _ _)))),
        by unfold Once; decide, ?_, token_of_skipSpace rfl⟩
      simp [Workload.slots, Slot.needed, Slot.spared]
    refine (decode_of_form.2.1 _ _ ⟨Glyph.ofText "\n", .inl ⟨["x", "workloads"], _, _, _,
      token_of_skipSpace rfl, .cons rfl (.other (by decide) _ (key rfl rfl rfl) (unknown _))
      (.cons (token_of_skipSpace rfl) (.slot _ List.mem_cons_self rfl _ (key rfl rfl rfl)
        ⟨_, _, _, token_of_skipSpace rfl, .cons rfl (row _) (.nil _ _), token_of_skipSpace rfl⟩)
      (.nil _ _)), by unfold Once; decide, ?_, token_of_skipSpace rfl⟩, ?_⟩).1
    · simp [ListResponse.slots, Slot.spared]
    · exact ⟨Glyph.ofText "\n", by decide, rfl⟩
  · have twice (s : Input) : Workload.form.flaws (some (.data (.duplicateField "id")))
        (Glyph.ofText "\x7b\"id\":\"a\",\"id\":" ++ s) :=
      .repeated ⟨"a", none, .claimed, .sync, "", "", none, [⟨"k", "v"⟩]⟩ ["id"] _ _ _ _ _ _ _
        (token_of_skipSpace rfl) (.cons rfl (id (key rfl rfl rfl) rfl) (.nil _ _))
        (by unfold Once; decide) List.mem_cons_self List.mem_cons_self (token_of_skipSpace rfl)
        (key rfl rfl rfl)
    have flawed : ListResponse.form.flaws (some (.data (.duplicateField "id")))
        (Glyph.ofText "\x7b\"workloads\":[\x7b\"id\":\"a\",\"id\":7\x7d]\x7d") :=
      .inObject _ ⟨[]⟩ [] _ _ _ _ _ _ _ (token_of_skipSpace rfl) (.nil _ _)
        (by unfold Once; decide) List.mem_cons_self nofun rfl (key rfl rfl rfl)
        ⟨[], _, _, _, _, token_of_skipSpace rfl, .nil _ _, rfl, twice _⟩
    obtain ⟨problem, failed, -, named⟩ := decode_of_form.2.2 _ _ flawed
    exact named _ rfl ▸ failed
  · have lacking (s : Input) : Workload.form.flaws (some (.data (.missingField "type")))
        (Glyph.ofText "\x7b\"status\":\"claimed\",\"id\":\"a\"\x7d" ++ s) :=
      .missing ⟨"a", none, .claimed, .sync, "", "", none, [⟨"k", "v"⟩]⟩ ["status", "id"]
        (.needed "type" Kind.form Workload.kind) _ _ _ _ _ (token_of_skipSpace rfl)
        (.cons rfl (status (key rfl rfl rfl) rfl)
          (.cons (token_of_skipSpace rfl) (id (key rfl rfl rfl) rfl) (.nil _ _)))
        (by unfold Once; decide) rfl (token_of_skipSpace rfl)
    have flawed : ListResponse.form.flaws (some (.data (.missingField "type")))
        (Glyph.ofText "[[\x7b\"status\":\"claimed\",\"id\":\"a\"\x7d]]") :=
      .inArray _ ⟨[]⟩ [] _ [] _ _ _ _ _ rfl (token_of_skipSpace rfl) (.nil _ _) rfl
        ⟨[], _, _, _, _, token_of_skipSpace rfl, .nil _ _, rfl, lacking _⟩
    obtain ⟨problem, failed, -, named⟩ := decode_of_form.2.2 _ _ flawed
    exact named _ rfl ▸ failed

end Relaunch
