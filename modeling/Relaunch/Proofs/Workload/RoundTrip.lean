import Relaunch.Proofs.Json.Writing
import Relaunch.Proofs.Text.Utf8
import Relaunch.Proofs.Workload.Form

/-!
# Proofs/Workload/RoundTrip — what is written of a record is read as that record

Each of the registry's records is written in its form, and its reader reads that form.  So a record
comes back from the text that is written of it, whatever characters its strings are made of, and
also from the bytes in which that text travels.

* `Form.Reads.roundTrips` — a writer and a reader of one form.
* `records_round_trip` — the records of the registry.
-/

namespace Relaunch

open Json

/-- **A value comes back from what is written of it**, so that no two values are written alike, and
a value that was read stays the same when it is written and read again. -/
structure RoundTrips (encode : α → List Char) (read : Reader α) : Prop where
  text : ∀ a, decodeText read (String.ofList (encode a)) = .ok a
  bytes : ∀ a, decodeBytes read (String.ofList (encode a)).toUTF8.data.toList = .ok a
  injective : ∀ a b, encode a = encode b → a = b
  again : ∀ s a, decodeText read s = .ok a → decodeText read (String.ofList (encode a)) = .ok a

/-- The bytes of a text are read as the text is. -/
theorem decodeBytes_toUTF8 (read : Reader α) (s : String) :
    decodeBytes read s.toUTF8.data.toList = decodeText read s := by
  rw [decodeBytes, decodeText, Glyph.scan_toUTF8]

/-- What is written of a value is a text of it, with nothing behind it. -/
theorem Json.Form.Written.whole {form : Form α} {encode : α → List Char}
    (written : form.Written encode) (a : α) :
    form.Whole a (Glyph.ofText (String.ofList (encode a))) := by
  have there := written a []
  rw [List.append_nil] at there
  rw [Glyph.ofText, String.toList_ofList]
  exact ⟨[], there, .refl []⟩

/-- **A writer and a reader of one form undo each other.** -/
theorem Json.Form.Reads.roundTrips {form : Form α} {encode : α → List Char} {read : Reader α}
    (reads : form.Reads read) (written : form.Written encode) : RoundTrips encode read := by
  have text (a : α) : decodeText read (String.ofList (encode a)) = .ok a :=
    reads.whole (written.whole a)
  refine ⟨text, fun a => (decodeBytes_toUTF8 read _).trans (text a), fun a b same => ?_,
    fun _ a _ => text a⟩
  have alike := congrArg (decodeText read ∘ String.ofList) same
  exact Except.ok.inj ((text a).symm.trans (alike.trans (text b)))

/-! ## Writers -/

theorem Status.written : form.Written encode := written_named name

theorem Kind.written : form.Written encode := written_named name

theorem Label.written : form.Written encode := fun l t =>
  texts_writeObject
    (.cons ⟨rfl, written_text l.key⟩ (.cons ⟨rfl, written_text l.value⟩ .nil)) record.nodup t

theorem Workload.written : form.Written encode := fun w t =>
  texts_writeObject
    (.cons ⟨rfl, written_text w.id⟩
    (.cons ⟨rfl, written_optional w.owner⟩
    (.cons ⟨rfl, Status.written w.status⟩
    (.cons ⟨rfl, Kind.written w.kind⟩
    (.cons ⟨rfl, written_text w.input⟩
    (.cons ⟨rfl, written_text w.logPath⟩
    (.cons ⟨rfl, written_optional w.mutexKey⟩
    (.cons ⟨rfl, written_list Label.written w.labels⟩ .nil)))))))) record.nodup t

theorem ListRequest.written : form.Written encode := fun r t =>
  texts_writeObject
    (.cons ⟨rfl, written_list written_text r.owners⟩
    (.cons ⟨rfl, written_list Status.written r.statuses⟩ .nil)) record.nodup t

theorem ListResponse.written : form.Written encode := fun r t =>
  texts_writeObject
    (.cons ⟨rfl, written_list Workload.written r.workloads⟩ .nil) record.nodup t

theorem FailureReport.written : form.Written encode := fun r t =>
  texts_writeObject
    (.cons ⟨rfl, written_text r.workload⟩
    (.cons ⟨rfl, written_text r.source⟩
    (.cons ⟨rfl, written_text r.reason⟩ .nil))) record.nodup t

/-! ## The records of the registry -/

/-- **Every record that is exchanged with the registry comes back from its text.** -/
theorem records_round_trip :
    RoundTrips Workload.encode Workload.read ∧ RoundTrips Label.encode Label.read ∧
    RoundTrips ListRequest.encode ListRequest.read ∧
    RoundTrips ListResponse.encode ListResponse.read ∧
    RoundTrips FailureReport.encode FailureReport.read :=
  ⟨Workload.reads.roundTrips Workload.written, Label.reads.roundTrips Label.written,
    ListRequest.reads.roundTrips ListRequest.written,
    ListResponse.reads.roundTrips ListResponse.written,
    FailureReport.reads.roundTrips FailureReport.written⟩

/-- A quote, a control character, and a character past the basic plane. -/
example :
    let l : Label := ⟨"a\"\x01", "😀"⟩
    decodeText Label.read (String.ofList l.encode) = .ok l := rfl

end Relaunch
