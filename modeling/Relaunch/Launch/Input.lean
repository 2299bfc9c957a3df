import Relaunch.Workload.Basic

/-!
# Launch/Input — what the launch stages need of a workload

The projection `LaunchInput.ofWorkload` leaves out the owner and the status and turns the labels
into a map: each key once, in increasing order, with the value of its last label.

The order of keys is that of their UTF-8 bytes, which is the order of their code points
(`String.lt`).
-/

namespace Relaunch

/-- Labels with each key once, in increasing order. -/
abbrev LabelMap := List (String × String)

/-- **The map with the key set to the value**, the other keys as they were. -/
def LabelMap.insert (key value : String) : LabelMap → LabelMap
  | [] => [(key, value)]
  | (k, v) :: rest =>
    if key < k then (key, value) :: (k, v) :: rest
    else if key = k then (key, value) :: rest
    else (k, v) :: insert key value rest

/-- The labels as a map: of two with the same key the later one counts. -/
def LabelMap.ofLabels (labels : List Label) : LabelMap :=
  labels.foldl (fun map label => map.insert label.key label.value) []

/-- **A workload as the launch stages see it.** -/
structure LaunchInput where
  id : String
  kind : Kind
  input : String
  labels : LabelMap
  logPath : String
  mutexKey : Option String
deriving DecidableEq, Repr

/-- The projection of a workload. -/
def LaunchInput.ofWorkload (w : Workload) : LaunchInput where
  id := w.id
  kind := w.kind
  input := w.input
  labels := LabelMap.ofLabels w.labels
  logPath := w.logPath
  mutexKey := w.mutexKey

end Relaunch
