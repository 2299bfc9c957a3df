import Relaunch.Json.Reader

/-!
# Json/Skip — passing over a value nobody asked for

A skipped value has to be well formed and nothing more: numbers may be of any size, strings may hold
lone surrogates and bytes of no character, nesting may go as deep as it likes.
-/

namespace Relaunch.Json

/-- The rest of a string, after its opening quote. -/
def skipString : Nat → Input → Except Problem Input
  | 0, _ => .error .malformed
  | fuel + 1, input =>
    match input with
    | [] => .error .ended
    | .broken _ :: rest => skipString fuel rest
    | .char '"' :: rest => .ok rest
    | .char '\\' :: [] => .error .ended
    | .char '\\' :: .char 'u' :: rest => do
      let (_, rest) ← fourHex rest
      skipString fuel rest
    | .char '\\' :: .char c :: rest =>
      if (named? c).isSome then skipString fuel rest else .error .malformed
    | .char '\\' :: .broken _ :: _ => .error .malformed
    | .char c :: rest => if c.toNat < 0x20 then .error .malformed else skipString fuel rest

def isDigit (g : Glyph) : Bool := (digit? g).isSome

/-- The rest after an exponent, whose mark is gone. -/
def skipExponent (input : Input) : Except Problem Input :=
  let input :=
    match input with
    | .char '+' :: rest => rest
    | .char '-' :: rest => rest
    | _ => input
  match input with
  | g :: rest => if isDigit g then .ok (rest.dropWhile isDigit) else .error .malformed
  | [] => .error .malformed

/-- The rest after an exponent, if there is one. -/
def skipScale (input : Input) : Except Problem Input :=
  match input with
  | .char 'e' :: rest => skipExponent rest
  | .char 'E' :: rest => skipExponent rest
  | _ => .ok input

/-- **The rest after a number**, whose minus sign is gone.  An end of the text inside it counts as
malformed. -/
def skipNumber (input : Input) : Except Problem Input :=
  let fraction (rest : Input) : Except Problem Input :=
    match rest with
    | .char '.' :: g :: rest =>
      if isDigit g then skipScale (rest.dropWhile isDigit) else .error .malformed
    | .char '.' :: [] => .error .malformed
    | _ => skipScale rest
  match input with
  | .char '0' :: rest =>
    match rest with
    | g :: _ => if isDigit g then .error .malformed else fraction rest
    | [] => .ok []
  | g :: rest => if isDigit g then fraction (rest.dropWhile isDigit) else .error .malformed
  | [] => .error .malformed

mutual

/-- **The rest after a value of any kind.** -/
def skipValue : Nat → Input → Except Problem Input
  | 0, _ => .error .malformed
  | fuel + 1, input =>
    match skipSpace input with
    | [] => .error .ended
    | .char 'n' :: rest => word ['u', 'l', 'l'] rest
    | .char 't' :: rest => word ['r', 'u', 'e'] rest
    | .char 'f' :: rest => word ['a', 'l', 's', 'e'] rest
    | .char '-' :: rest => skipNumber rest
    | .char '"' :: rest => skipString (rest.length + 1) rest
    | .char '[' :: rest =>
      match skipSpace rest with
      | [] => .error .ended
      | .char ']' :: rest => .ok rest
      | other => skipItems fuel other
    | .char '\x7b' :: rest =>
      match skipSpace rest with
      | [] => .error .ended
      | .char '\x7d' :: rest => .ok rest
      | other => skipEntries fuel other
    | g :: rest => if isDigit g then skipNumber (g :: rest) else .error .malformed

/-- The rest after the elements of a sequence and its end. -/
def skipItems : Nat → Input → Except Problem Input
  | 0, _ => .error .malformed
  | fuel + 1, input => do
    let rest ← skipValue fuel input
    match skipSpace rest with
    | [] => .error .ended
    | .char ',' :: rest => skipItems fuel rest
    | .char ']' :: rest => .ok rest
    | _ => .error .malformed

/-- The rest after the entries of an object and its end. -/
def skipEntries : Nat → Input → Except Problem Input
  | 0, _ => .error .malformed
  | fuel + 1, input =>
    match skipSpace input with
    | [] => .error .ended
    | .char '"' :: rest => do
      let rest ← skipString (rest.length + 1) rest
      let rest ← colon rest
      let rest ← skipValue fuel rest
      match skipSpace rest with
      | [] => .error .ended
      | .char ',' :: rest => skipEntries fuel rest
      | .char '\x7d' :: rest => .ok rest
      | _ => .error .malformed
    | _ => .error .malformed

end

/-- **The rest after the value at the front**, whatever it is.  Every glyph that is taken costs two
rounds at most. -/
def skip (input : Input) : Except Problem Input := skipValue (2 * input.length + 2) input

end Relaunch.Json
