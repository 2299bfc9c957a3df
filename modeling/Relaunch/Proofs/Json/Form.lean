import Relaunch.Json.Record
import Relaunch.Proofs.Json.WellFormed

/-!
# Proofs/Json/Form — the texts of a value, and the texts that go wrong

A `Form` says how the values of a type are written, and in which ways a text that begins like one
goes wrong.  It knows nothing of a reader.

A record is written as an object or as an array.  The object has an entry for each slot, in any
order, and among them entries with other keys and any well-formed values; entries whose values are
the defaults may be left out.  The array has the slots in their order, and may stop before values
that are all defaults.

* `Form.record` — the texts of a record whose slots have forms.
* `Mishap` — an object with a key twice or without a key it needs, or a slot that goes wrong.
-/

namespace Relaunch.Json

/-- **How the values of a type are written.** -/
structure Form (α : Type) where
  /-- `texts a s t`: a text of `a` is at the front of `s`, with `t` behind it. -/
  texts : α → Input → Input → Prop
  /-- `flaws o s`: at the front of `s` is a beginning of a text with a flaw, and anything behind it.
  The flaw has to be named as `o` says, if `o` says anything. -/
  flaws : Option Problem → Input → Prop

/-! ## Series -/

/-- What stands before the next part of a series: a comma, unless the part is the first. -/
def Start (first : Bool) (s t : Input) : Prop := if first then s = t else Token ',' s t

/-- **Some parts of a series**, each of its kind, from before `first` on; `last` tells whether
the next part is still the first. -/
inductive Series (T : β → Input → Input → Prop) :
    Bool → List β → Input → Bool → Input → Prop
  | nil (first : Bool) (s : Input) : Series T first [] s first s
  | cons {first last : Bool} {b : β} {bs : List β} {s u v t : Input} (start : Start first s u)
      (part : T b u v) (rest : Series T false bs v last t) : Series T first (b :: bs) s last t

/-! ## Simple forms -/

namespace Form

/-- Strings, however they are spelled. -/
def text : Form String where
  texts x s t := ∃ u, Token '"' s u ∧ Spells x.toList u t
  flaws _ _ := False

/-- Strings or `null`. -/
def optional : Form (Option String) where
  texts
    | none, s, t => Blank s ("null".toList.map .char ++ t)
    | some x, s, t => text.texts x s t
  flaws _ _ := False

/-- Values that go by a name. -/
def named (name : α → String) : Form α where
  texts a s t := text.texts (name a) s t
  flaws _ _ := False

/-- **Arrays** of values of a form. -/
def list (form : Form α) : Form (List α) where
  texts as s t := ∃ u last v, Token '[' s u ∧ Series form.texts true as u last v ∧ Token ']' v t
  flaws o s := ∃ as u last v w, Token '[' s u ∧ Series form.texts true as u last v ∧
    Start last v w ∧ form.flaws o w

end Form

/-! ## Records -/

/-- **A part of a record**: its key, the texts of its value, and whether it may be left out. -/
structure Slot (α : Type) where
  name : String
  required : Bool
  texts : α → Input → Input → Prop
  flaws : Option Problem → Input → Prop
  /-- Whether a record may do without it, as its value is the default. -/
  spare : α → Prop

/-- A slot that must be there. -/
def Slot.needed (name : String) (form : Form β) (get : α → β) : Slot α where
  name := name
  required := true
  texts a := form.texts (get a)
  flaws := form.flaws
  spare _ := False

/-- A slot with a default. -/
def Slot.spared (name : String) (form : Form β) (get : α → β) (default : β) : Slot α where
  name := name
  required := false
  texts a := form.texts (get a)
  flaws := form.flaws
  spare a := get a = default

section

variable (slots : List (Slot α))

/-- The key of an entry, with its colon. -/
def Key (k : String) (s t : Input) : Prop :=
  ∃ u v, Token '"' s u ∧ Spells k.toList u v ∧ Token ':' v t

/-- **An entry of an object**: of a slot, or of no slot and with any well-formed value. -/
inductive Member (a : α) (k : String) (s t : Input) : Prop
  | slot (slot : Slot α) (mem : slot ∈ slots) (name : slot.name = k) (u : Input) (key : Key k s u)
      (value : slot.texts a u t)
  | other (unknown : ∀ slot ∈ slots, slot.name ≠ k) (u : Input) (key : Key k s u)
      (value : WellFormed .value u t)

/-- Whether no slot has two of some keys. -/
def Once (ks : List String) : Prop := ∀ slot ∈ slots, ks.count slot.name ≤ 1

/-- **A record as an object.** -/
def ObjectText (a : α) (s t : Input) : Prop :=
  ∃ ks u last v, Token '\x7b' s u ∧ Series (Member slots a) true ks u last v ∧ Once slots ks ∧
    (∀ slot ∈ slots, slot.name ∉ ks → slot.spare a) ∧ Token '\x7d' v t

/-- **A record as an array.** -/
def ArrayText (a : α) (s t : Input) : Prop :=
  ∃ before after u last v, slots = before ++ after ∧ Token '[' s u ∧
    Series (fun slot => slot.texts a) true before u last v ∧ (∀ slot ∈ after, slot.spare a) ∧
    Token ']' v t

/-- The first slot that must be there and is not among some keys. -/
def missing? (ks : List String) : Option (Slot α) :=
  slots.find? fun slot => slot.required && !ks.contains slot.name

/-- **What goes wrong in a record**, with the part before it as it should be. -/
inductive Mishap : Option Problem → Input → Prop
  /-- An object lacks a slot. -/
  | missing (a : α) (ks : List String) (slot : Slot α) (s u : Input) (last : Bool) (v t : Input)
      (brace : Token '\x7b' s u) (entries : Series (Member slots a) true ks u last v)
      (once : Once slots ks) (lacks : missing? slots ks = some slot) (close : Token '\x7d' v t) :
      Mishap (some (.data (.missingField slot.name))) s
  /-- An object has a second key of a slot, with anything behind it. -/
  | repeated (a : α) (ks : List String) (slot : Slot α) (s u : Input) (last : Bool) (v w x : Input)
      (brace : Token '\x7b' s u) (entries : Series (Member slots a) true ks u last v)
      (once : Once slots ks) (mem : slot ∈ slots) (met : slot.name ∈ ks) (start : Start last v w)
      (key : Key slot.name w x) : Mishap (some (.data (.duplicateField slot.name))) s
  /-- An object has two keys of a slot, and the value of the first need not be one for it. -/
  | ousted (a : α) (ks ks' : List String) (slot : Slot α) (s u : Input) (last : Bool)
      (v w x y : Input) (last' : Bool) (v' w' x' : Input) (brace : Token '\x7b' s u)
      (entries : Series (Member slots a) true ks u last v) (once : Once slots (ks ++ ks'))
      (mem : slot ∈ slots) (first : slot.name ∉ ks ++ ks') (start : Start last v w)
      (key : Key slot.name w x) (value : WellFormed .value x y)
      (entries' : Series (Member slots a) false ks' y last' v') (start' : Start last' v' w')
      (key' : Key slot.name w' x') : Mishap none s
  /-- The value of a slot goes wrong in an object. -/
  | inObject (o : Option Problem) (a : α) (ks : List String) (slot : Slot α) (s u : Input)
      (last : Bool) (v w x : Input) (brace : Token '\x7b' s u)
      (entries : Series (Member slots a) true ks u last v) (once : Once slots ks)
      (mem : slot ∈ slots) (first : slot.name ∉ ks) (start : Start last v w)
      (key : Key slot.name w x) (flaw : slot.flaws o x) : Mishap o s
  /-- The value of a slot goes wrong in an array. -/
  | inArray (o : Option Problem) (a : α) (before : List (Slot α)) (slot : Slot α)
      (after : List (Slot α)) (s u : Input) (last : Bool) (v w : Input)
      (split : slots = before ++ slot :: after) (bracket : Token '[' s u)
      (series : Series (fun slot => slot.texts a) true before u last v) (start : Start last v w)
      (flaw : slot.flaws o w) : Mishap o s

/-- **Records** with some slots. -/
def Form.record : Form α where
  texts a s t := ObjectText slots a s t ∨ ArrayText slots a s t
  flaws := Mishap slots

end

/-! ## Whole texts -/

namespace Form

variable (form : Form α)

/-- A text of a value with nothing but white space behind it. -/
def Whole (a : α) (s : Input) : Prop := ∃ t, form.texts a s t ∧ Blank t []

end Form

end Relaunch.Json
