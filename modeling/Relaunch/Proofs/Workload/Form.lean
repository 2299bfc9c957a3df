import Relaunch.Proofs.Json.Record
import Relaunch.Workload.Wire

/-!
# Proofs/Workload/Form — how the registry's records are written

Each record has its slots, with the names they go by on the wire, and the defaults of those that may
be left out.  The form of the record follows, and the shape by which it is read reads that form.

* `Workload.form`, `ListResponse.form`, … — the texts of each record.
* `Workload.reads`, `ListResponse.reads`, … — each is read as it is written.
-/

namespace Relaunch

open Json

/-! ## Names -/

namespace Status

def form : Form Status := .named name

theorem reads : form.Reads read := reads_choice fun s => by cases s <;> rfl

end Status

namespace Kind

def form : Form Kind := .named name

theorem reads : form.Reads read := reads_choice fun k => by cases k <;> rfl

end Kind

/-! ## Labels -/

namespace Label

def slots : List (Slot Label) := [.needed "key" .text key, .needed "value" .text value]

def form : Form Label := .record slots

/-- The draft of a label. -/
def given (l : Label) (ks : List String) : Draft where
  key := pick ks "key" l.key
  value := pick ks "value" l.value

/-- **How a label is read.** -/
def record : Record Draft Label where
  shape := shape
  slots := slots
  given := given
  fits := by
    refine .cons (fits_needed reads_text (fun l s => { l with key := s }) (fun _ => rfl) ?_ ?_ ?_)
      (.cons (fits_needed reads_text (fun l s => { l with value := s }) (fun _ => rfl) ?_ ?_ ?_)
      .nil)
    all_goals simp [slots, given, Slot.needed, pick_cons]
  nodup := by decide
  blank _ := rfl
  unknown a ks k unknown := by
    simp only [slots, Slot.needed, List.forall_mem_cons] at unknown
    simp [given, pick_cons, unknown]
  finish a ks spare := by
    simp only [slots, Slot.needed, List.forall_mem_cons, imp_false, not_not] at spare
    exact (require_of_mem spare.1 _ _).trans (require_of_mem spare.2.1 _ _)
  missing _ _ _ lacks :=
    require_of_missing? lacks fun lacks => require_of_missing? lacks nofun

theorem reads : form.Reads read := record.reads

end Label

/-! ## Workloads -/

namespace Workload

def slots : List (Slot Workload) := [
  .needed "id" .text id,
  .spared "dataplaneId" .optional owner none,
  .needed "status" Status.form status,
  .needed "type" Kind.form kind,
  .spared "workloadInput" .text input "",
  .spared "logPath" .text logPath "",
  .spared "mutexKey" .optional mutexKey none,
  .spared "labels" Label.form.list labels []]

def form : Form Workload := .record slots

/-- The draft of a workload. -/
def given (w : Workload) (ks : List String) : Draft where
  id := pick ks "id" w.id
  owner := pick ks "dataplaneId" w.owner
  status := pick ks "status" w.status
  kind := pick ks "type" w.kind
  input := pick ks "workloadInput" w.input
  logPath := pick ks "logPath" w.logPath
  mutexKey := pick ks "mutexKey" w.mutexKey
  labels := pick ks "labels" w.labels

/-- **How a workload is read.** -/
def record : Record Draft Workload where
  shape := shape
  slots := slots
  given := given
  fits := by
    refine .cons (fits_needed reads_text (fun w s => { w with id := s }) (fun _ => rfl) ?_ ?_ ?_)
      (.cons (fits_spared reads_optional (fun w s => { w with owner := s }) (fun _ => rfl) ?_ ?_ ?_)
      (.cons (fits_needed Status.reads (fun w s => { w with status := s }) (fun _ => rfl) ?_ ?_ ?_)
      (.cons (fits_needed Kind.reads (fun w k => { w with kind := k }) (fun _ => rfl) ?_ ?_ ?_)
      (.cons (fits_spared reads_text (fun w s => { w with input := s }) (fun _ => rfl) ?_ ?_ ?_)
      (.cons (fits_spared reads_text (fun w s => { w with logPath := s }) (fun _ => rfl) ?_ ?_ ?_)
      (.cons (fits_spared reads_optional (fun w s => { w with mutexKey := s }) (fun _ => rfl)
        ?_ ?_ ?_)
      (.cons (fits_spared (reads_list Label.reads) (fun w ls => { w with labels := ls })
        (fun _ => rfl) ?_ ?_ ?_)
      .nil)))))))
    all_goals simp [slots, given, Slot.needed, Slot.spared, pick_cons]
  nodup := by decide
  blank _ := rfl
  unknown a ks k unknown := by
    simp only [slots, Slot.needed, Slot.spared, List.forall_mem_cons] at unknown
    simp [given, pick_cons, unknown]
  finish a ks spare := by
    simp only [slots, Slot.needed, Slot.spared, List.forall_mem_cons, imp_false, not_not] at spare
    obtain ⟨id, owner, status, kind, input, logPath, mutexKey, labels, -⟩ := spare
    refine (require_of_mem id _ _).trans ((require_of_mem status _ _).trans
      ((require_of_mem kind _ _).trans ?_))
    simp only [given, getD_pick owner, getD_pick input, getD_pick logPath, getD_pick mutexKey,
      getD_pick labels]
  missing _ _ _ lacks :=
    require_of_missing? lacks fun lacks => require_of_missing? lacks fun lacks =>
      require_of_missing? lacks nofun

theorem reads : form.Reads read := record.reads

end Workload

/-! ## Questions and answers -/

namespace ListRequest

def slots : List (Slot ListRequest) := [
  .needed "dataplane" Form.text.list owners,
  .needed "status" Status.form.list statuses]

def form : Form ListRequest := .record slots

/-- The draft of a question. -/
def given (r : ListRequest) (ks : List String) : Draft where
  owners := pick ks "dataplane" r.owners
  statuses := pick ks "status" r.statuses

/-- **How a question is read.** -/
def record : Record Draft ListRequest where
  shape := shape
  slots := slots
  given := given
  fits := by
    refine .cons (fits_needed (reads_list reads_text) (fun r v => { r with owners := v })
        (fun _ => rfl) ?_ ?_ ?_)
      (.cons (fits_needed (reads_list Status.reads) (fun r v => { r with statuses := v })
        (fun _ => rfl) ?_ ?_ ?_)
      .nil)
    all_goals simp [slots, given, Slot.needed, pick_cons]
  nodup := by decide
  blank _ := rfl
  unknown a ks k unknown := by
    simp only [slots, Slot.needed, List.forall_mem_cons] at unknown
    simp [given, pick_cons, unknown]
  finish a ks spare := by
    simp only [slots, Slot.needed, List.forall_mem_cons, imp_false, not_not] at spare
    exact (require_of_mem spare.1 _ _).trans (require_of_mem spare.2.1 _ _)
  missing _ _ _ lacks :=
    require_of_missing? lacks fun lacks => require_of_missing? lacks nofun

theorem reads : form.Reads read := record.reads

end ListRequest

namespace ListResponse

def slots : List (Slot ListResponse) := [.spared "workloads" Workload.form.list workloads []]

def form : Form ListResponse := .record slots

/-- The draft of an answer. -/
def given (r : ListResponse) (ks : List String) : Draft where
  workloads := pick ks "workloads" r.workloads

/-- **How an answer is read.** -/
def record : Record Draft ListResponse where
  shape := shape
  slots := slots
  given := given
  fits := by
    refine .cons (fits_spared (reads_list Workload.reads) (fun r v => { r with workloads := v })
      (fun _ => rfl) ?_ ?_ ?_) .nil
    all_goals simp [slots, given, Slot.spared, pick_cons]
  nodup := by decide
  blank _ := rfl
  unknown a ks k unknown := by
    simp only [slots, Slot.spared, List.forall_mem_cons] at unknown
    simp [given, pick_cons, unknown]
  finish a ks spare := by
    simp only [slots, Slot.spared, List.forall_mem_cons] at spare
    simp only [shape, given, getD_pick spare.1]
  missing _ _ _ := nofun

theorem reads : form.Reads read := record.reads

end ListResponse

namespace FailureReport

def slots : List (Slot FailureReport) := [
  .needed "workloadId" .text workload,
  .needed "source" .text source,
  .needed "reason" .text reason]

def form : Form FailureReport := .record slots

/-- The draft of a report. -/
def given (r : FailureReport) (ks : List String) : Draft where
  workload := pick ks "workloadId" r.workload
  source := pick ks "source" r.source
  reason := pick ks "reason" r.reason

/-- **How a report is read.** -/
def record : Record Draft FailureReport where
  shape := shape
  slots := slots
  given := given
  fits := by
    refine .cons (fits_needed reads_text (fun r s => { r with workload := s }) (fun _ => rfl)
        ?_ ?_ ?_)
      (.cons (fits_needed reads_text (fun r s => { r with source := s }) (fun _ => rfl) ?_ ?_ ?_)
      (.cons (fits_needed reads_text (fun r s => { r with reason := s }) (fun _ => rfl) ?_ ?_ ?_)
      .nil))
    all_goals simp [slots, given, Slot.needed, pick_cons]
  nodup := by decide
  blank _ := rfl
  unknown a ks k unknown := by
    simp only [slots, Slot.needed, List.forall_mem_cons] at unknown
    simp [given, pick_cons, unknown]
  finish a ks spare := by
    simp only [slots, Slot.needed, List.forall_mem_cons, imp_false, not_not] at spare
    exact (require_of_mem spare.1 _ _).trans ((require_of_mem spare.2.1 _ _).trans
      (require_of_mem spare.2.2.1 _ _))
  missing _ _ _ lacks :=
    require_of_missing? lacks fun lacks => require_of_missing? lacks fun lacks =>
      require_of_missing? lacks nofun

theorem reads : form.Reads read := record.reads

end FailureReport

end Relaunch
