import Relaunch.Json.Skip

/-!
# Json/Record — records read from objects or from arrays

A record is written as an object, whose keys come in any order and may include keys the record does
not know, or as the array of its fields in their declared order, where fields with a default may be
left off at the end.

A `Shape` describes a record: its fields act on a **draft**, in which any field may still be open,
and `finish` closes the draft.  A field met twice is a complaint at its second key; a field that is
missing is one at the end of the object.
-/

namespace Relaunch.Json

/-- A field of a record under construction. -/
structure Field (σ : Type) where
  name : String
  required : Bool
  /-- Whether the draft holds a value for it. -/
  isSet : σ → Bool
  /-- Reads its value into the draft. -/
  read : σ → Reader σ

/-- The field that a reader fills, by what a draft holds for it and how it is put there. -/
def Field.of (name : String) (required : Bool) (reader : Reader β) (get : σ → Option β)
    (set : σ → β → σ) : Field σ where
  name := name
  required := required
  isSet draft := (get draft).isSome
  read draft input := do
    let (b, rest) ← reader input
    .ok (set draft b, rest)

/-- **A record**: its fields in declared order, the empty draft, and how a draft becomes the record
or what is missing from it. -/
structure Shape (σ α : Type) where
  title : String
  fields : List (Field σ)
  blank : σ
  finish : σ → Except Complaint α

/-- What a draft must have been given. -/
def require (name : String) : Option α → Except Complaint α
  | some a => .ok a
  | none => .error (.missingField name)

/-- What the next key of an object is: `none` at its end, else the key. -/
def nextKey (first : Bool) (input : Input) : Except Problem (Option String × Input) :=
  match skipSpace input with
  | [] => .error .ended
  | .char '\x7d' :: rest => .ok (none, rest)
  | .char '"' :: rest =>
    if first then do
      let (key, rest) ← stringBody rest
      .ok (some key, rest)
    else .error .malformed
  | .char ',' :: rest =>
    if first then .error .malformed
    else match skipSpace rest with
      | [] => .error .ended
      | .char '"' :: rest => do
        let (key, rest) ← stringBody rest
        .ok (some key, rest)
      | _ => .error .malformed
  | _ => .error .malformed

/-- The entry of a key: read into its field, or passed over. -/
def entry (fields : List (Field σ)) (draft : σ) (key : String) : Reader σ := fun input =>
  match fields.find? fun field => field.name == key with
  | some field =>
    if field.isSet draft then .error (.data (.duplicateField field.name))
    else do
      let rest ← colon input
      field.read draft rest
  | none => do
    let rest ← colon input
    let rest ← skip rest
    .ok (draft, rest)

/-- The entries of an object up to its end. -/
def entries (fields : List (Field σ)) : Nat → Bool → σ → Reader σ
  | 0, _, _, _ => .error .malformed
  | fuel + 1, first, draft, input => do
    match ← nextKey first input with
    | (none, rest) => .ok (draft, rest)
    | (some key, rest) =>
      let (draft, rest) ← entry fields draft key rest
      entries fields fuel false draft rest

/-- The fields of an array in their order; `index` is the number of the next one. -/
def positions (title : String) (count : Nat) : List (Field σ) → Nat → σ → Reader σ
  | [], _, draft, input => .ok (draft, input)
  | field :: fields, index, draft, input => do
    match ← nextItem (index == 0) input with
    | none =>
      if field.required then .error (.data (.invalidLength index title count))
      else positions title count fields (index + 1) draft input
    | some input =>
      let (draft, rest) ← field.read draft input
      positions title count fields (index + 1) draft rest

/-- The record of a draft. -/
def Shape.close (shape : Shape σ α) (draft : σ) : Except Problem α :=
  match shape.finish draft with
  | .ok a => .ok a
  | .error complaint => .error (.data complaint)

/-- **A record**, from an object or an array. -/
def Shape.read (shape : Shape σ α) : Reader α := fun input =>
  match skipSpace input with
  | [] => .error .ended
  | .char '\x7b' :: rest => do
    let (draft, rest) ← entries shape.fields (rest.length + 1) true shape.blank rest
    let a ← shape.close draft
    .ok (a, rest)
  | .char '[' :: rest => do
    let (draft, rest) ← positions shape.title shape.fields.length shape.fields 0 shape.blank rest
    let a ← shape.close draft
    let rest ← endItems rest
    .ok (a, rest)
  | other => .error (refuse ("struct " ++ shape.title) other)

end Relaunch.Json
