import Relaunch.Json.Record
import Relaunch.Json.Writer
import Relaunch.Workload.Basic

/-!
# Workload/Wire — the registry's records as JSON text

Each record has a writer (`encode`) that puts its fields in declared order, and a `Shape` by which
it is read.  The names of the fields on the wire are those the writer uses; the reader also fills in
the defaults of fields that are left out.
-/

namespace Relaunch

open Json

/-! ## Names -/

namespace Status

def table : List (String × Status) := all.map fun s => (s.name, s)

def encode (s : Status) : List Char := writeText s.name

def read : Reader Status := choice table

end Status

namespace Kind

def table : List (String × Kind) := all.map fun k => (k.name, k)

def encode (k : Kind) : List Char := writeText k.name

def read : Reader Kind := choice table

end Kind

/-! ## Labels -/

namespace Label

def encode (l : Label) : List Char :=
  writeObject [("key", writeText l.key), ("value", writeText l.value)]

structure Draft where
  key : Option String := none
  value : Option String := none

def shape : Shape Draft Label where
  title := "WorkloadLabel"
  fields := [
    .of "key" true text (·.key) fun d s => { d with key := some s },
    .of "value" true text (·.value) fun d s => { d with value := some s }]
  blank := {}
  finish d := do
    let key ← require "key" d.key
    let value ← require "value" d.value
    .ok ⟨key, value⟩

def read : Reader Label := shape.read

end Label

/-! ## Workloads -/

namespace Workload

def encode (w : Workload) : List Char :=
  writeObject [
    ("id", writeText w.id),
    ("dataplaneId", writeOptional writeText w.owner),
    ("status", w.status.encode),
    ("type", w.kind.encode),
    ("workloadInput", writeText w.input),
    ("logPath", writeText w.logPath),
    ("mutexKey", writeOptional writeText w.mutexKey),
    ("labels", writeList Label.encode w.labels)]

structure Draft where
  id : Option String := none
  owner : Option (Option String) := none
  status : Option Status := none
  kind : Option Kind := none
  input : Option String := none
  logPath : Option String := none
  mutexKey : Option (Option String) := none
  labels : Option (List Label) := none

/-- Id, status and kind are required; the rest may be left out. -/
def shape : Shape Draft Workload where
  title := "Workload"
  fields := [
    .of "id" true text (·.id) fun d s => { d with id := some s },
    .of "dataplaneId" false optionalText (·.owner) fun d s => { d with owner := some s },
    .of "status" true Status.read (·.status) fun d s => { d with status := some s },
    .of "type" true Kind.read (·.kind) fun d k => { d with kind := some k },
    .of "workloadInput" false text (·.input) fun d s => { d with input := some s },
    .of "logPath" false text (·.logPath) fun d s => { d with logPath := some s },
    .of "mutexKey" false optionalText (·.mutexKey) fun d s => { d with mutexKey := some s },
    .of "labels" false (list Label.read) (·.labels) fun d ls => { d with labels := some ls }]
  blank := {}
  finish d := do
    let id ← require "id" d.id
    let status ← require "status" d.status
    let kind ← require "type" d.kind
    .ok {
      id, status, kind
      owner := d.owner.getD none
      input := d.input.getD ""
      logPath := d.logPath.getD ""
      mutexKey := d.mutexKey.getD none
      labels := d.labels.getD [] }

def read : Reader Workload := shape.read

end Workload

/-! ## Questions and answers -/

namespace ListRequest

def encode (r : ListRequest) : List Char :=
  writeObject [
    ("dataplane", writeList writeText r.owners),
    ("status", writeList Status.encode r.statuses)]

structure Draft where
  owners : Option (List String) := none
  statuses : Option (List Status) := none

def shape : Shape Draft ListRequest where
  title := "WorkloadListRequest"
  fields := [
    .of "dataplane" true (list text) (·.owners) fun d v => { d with owners := some v },
    .of "status" true (list Status.read) (·.statuses) fun d v => { d with statuses := some v }]
  blank := {}
  finish d := do
    let owners ← require "dataplane" d.owners
    let statuses ← require "status" d.statuses
    .ok ⟨owners, statuses⟩

def read : Reader ListRequest := shape.read

end ListRequest

namespace ListResponse

def encode (r : ListResponse) : List Char :=
  writeObject [("workloads", writeList Workload.encode r.workloads)]

structure Draft where
  workloads : Option (List Workload) := none

def shape : Shape Draft ListResponse where
  title := "WorkloadListResponse"
  fields := [
    .of "workloads" false (list Workload.read) (·.workloads) fun d v =>
      { d with workloads := some v }]
  blank := {}
  finish d := .ok ⟨d.workloads.getD []⟩

def read : Reader ListResponse := shape.read

end ListResponse

namespace FailureReport

def encode (r : FailureReport) : List Char :=
  writeObject [
    ("workloadId", writeText r.workload),
    ("source", writeText r.source),
    ("reason", writeText r.reason)]

structure Draft where
  workload : Option String := none
  source : Option String := none
  reason : Option String := none

def shape : Shape Draft FailureReport where
  title := "WorkloadFailureRequest"
  fields := [
    .of "workloadId" true text (·.workload) fun d s => { d with workload := some s },
    .of "source" true text (·.source) fun d s => { d with source := some s },
    .of "reason" true text (·.reason) fun d s => { d with reason := some s }]
  blank := {}
  finish d := do
    let workload ← require "workloadId" d.workload
    let source ← require "source" d.source
    let reason ← require "reason" d.reason
    .ok ⟨workload, source, reason⟩

def read : Reader FailureReport := shape.read

end FailureReport

/-! ## Whole texts -/

/-- The record a text holds. -/
def decodeText (reader : Reader α) (s : String) : Except Problem α :=
  whole? reader (Glyph.ofText s)

/-- The record a byte string holds. -/
def decodeBytes (reader : Reader α) (bytes : List UInt8) : Except Problem α :=
  whole? reader (Glyph.scan bytes)

end Relaunch
