import Relaunch.Json.Problem

/-!
# Json/Reader — reading JSON from left to right

A `Reader` takes a value off the front of the glyphs that are left, or names the first problem.  The
end of the text is a problem of its own (`Problem.ended`); whatever stands where the grammar wants
something else is `Problem.malformed`.

Strings are read for their text, and then need every escape to name a character and every byte to
belong to one; or they are skipped (`Relaunch.Json.Skip`), and then only need well-formed escapes.

A loop counts down from the number of glyphs left when it starts, and each round takes one or more.
-/

namespace Relaunch.Json

abbrev Input := List Glyph

/-- Takes a value off the front, or names the first problem. -/
abbrev Reader (α : Type) := Input → Except Problem (α × Input)

/-! ## Blanks and words -/

def isSpace : Glyph → Bool
  | .char c => c == ' ' || c == '\n' || c == '\t' || c == '\r'
  | .broken _ => false

def skipSpace (input : Input) : Input := input.dropWhile isSpace

/-- The rest after the letters of a word. -/
def word : List Char → Input → Except Problem Input
  | [], input => .ok input
  | _ :: _, [] => .error .ended
  | c :: cs, g :: rest => if g = .char c then word cs rest else .error .malformed

/-- The rest after a colon. -/
def colon (input : Input) : Except Problem Input :=
  match skipSpace input with
  | [] => .error .ended
  | .char ':' :: rest => .ok rest
  | _ => .error .malformed

/-! ## Strings -/

/-- The value of a hexadecimal digit. -/
def hexDigit? (c : Char) : Option Nat :=
  if '0' ≤ c ∧ c ≤ '9' then some (c.toNat - 48)
  else if 'a' ≤ c ∧ c ≤ 'f' then some (c.toNat - 87)
  else if 'A' ≤ c ∧ c ≤ 'F' then some (c.toNat - 55)
  else none

/-- **Four hexadecimal digits.**  The text has ended if fewer than four bytes are left, whatever
they are. -/
def fourHex (input : Input) : Except Problem (Nat × Input) :=
  if Glyph.bytesOf (input.take 4) < 4 then .error .ended
  else match input with
    | .char a :: .char b :: .char c :: .char d :: rest =>
      match hexDigit? a, hexDigit? b, hexDigit? c, hexDigit? d with
      | some a, some b, some c, some d => .ok (((a * 16 + b) * 16 + c) * 16 + d, rest)
      | _, _, _, _ => .error .malformed
    | _ => .error .malformed

/-- The character a letter names after a backslash. -/
def named? (c : Char) : Option Char :=
  if c = '"' ∨ c = '\\' ∨ c = '/' then some c
  else if c = 'b' then some '\x08'
  else if c = 't' then some '\t'
  else if c = 'n' then some '\n'
  else if c = 'f' then some '\x0c'
  else if c = 'r' then some '\r'
  else none

/-- **A character by its code**: four digits, or two groups of four for a pair of surrogates; a
surrogate without its partner is malformed. -/
def codePoint (input : Input) : Except Problem (Char × Input) := do
  let (n, rest) ← fourHex input
  if 0xDC00 ≤ n ∧ n ≤ 0xDFFF then .error .malformed
  else if 0xD800 ≤ n ∧ n ≤ 0xDBFF then
    match rest with
    | [] => .error .ended
    | .char '\\' :: [] => .error .ended
    | .char '\\' :: .char 'u' :: rest =>
      let (m, rest) ← fourHex rest
      if 0xDC00 ≤ m ∧ m ≤ 0xDFFF then
        .ok (Char.ofNat ((n - 0xD800) * 0x400 + (m - 0xDC00) + 0x10000), rest)
      else .error .malformed
    | _ => .error .malformed
  else .ok (Char.ofNat n, rest)

/-- A part of a string: its end, a character, or bytes that are none. -/
inductive Piece where
  | close
  | char (c : Char)
  | stray

/-- **The next part of a string**, an escape resolved. -/
def piece : Reader Piece
  | [] => .error .ended
  | .broken _ :: rest => .ok (.stray, rest)
  | .char '"' :: rest => .ok (.close, rest)
  | .char '\\' :: rest =>
    match rest with
    | [] => .error .ended
    | .char 'u' :: rest => do
      let (c, rest) ← codePoint rest
      .ok (.char c, rest)
    | .char c :: rest =>
      match named? c with
      | some c => .ok (.char c, rest)
      | none => .error .malformed
    | .broken _ :: _ => .error .malformed
  | .char c :: rest => if c.toNat < 0x20 then .error .malformed else .ok (.char c, rest)

/-- The parts of a string up to its closing quote, behind those already read (last first). -/
def pieces : Nat → List (Option Char) → Reader (List (Option Char))
  | 0, _, _ => .error .malformed
  | fuel + 1, done, input => do
    let (p, rest) ← piece input
    match p with
    | .close => .ok (done.reverse, rest)
    | .char c => pieces fuel (some c :: done) rest
    | .stray => pieces fuel (none :: done) rest

/-- The text of a string whose parts are all characters. -/
def joined? (parts : List (Option Char)) : Option String :=
  (parts.mapM id).map String.ofList

/-- **The text of a string**, after its opening quote. -/
def stringBody : Reader String := fun input => do
  let (parts, rest) ← pieces (input.length + 1) [] input
  match joined? parts with
  | some s => .ok (s, rest)
  | none => .error .malformed

/-! ## Numbers -/

def digit? : Glyph → Option Nat
  | .char c => if '0' ≤ c ∧ c ≤ '9' then some (c.toNat - 48) else none
  | .broken _ => none

/-- The digits at the front, and what follows them. -/
def digits : Input → List Nat × Input
  | [] => ([], [])
  | g :: rest =>
    match digit? g with
    | some d => let (ds, rest) := digits rest; (d :: ds, rest)
    | none => ([], g :: rest)

/-- The ceiling of a significand: 64 bits. -/
def significandLimit : Nat := 18446744073709551615

/-- **Digits put behind a significand as long as they fit**: the significand, how many were put, and
how many were left over. -/
def extend : Nat → List Nat → Nat × Nat × Nat
  | n, [] => (n, 0, 0)
  | n, d :: ds =>
    if n * 10 + d > significandLimit then (n, 0, ds.length + 1)
    else let (n, put, left) := extend (n * 10 + d) ds; (n, put + 1, left)

/-- **The double of a significand times a power of ten**: one rounded multiplication or division, by
`10 ^ 308` as often as the exponent is out of reach; malformed when it is too large. -/
def assemble : Nat → Double → Int → Except Problem Double
  | 0, x, _ => .ok x
  | fuel + 1, x, e =>
    if e.natAbs ≤ 308 then
      match Double.powTen e.natAbs with
      | none => .error .malformed
      | some p =>
        if e ≥ 0 then
          match x.mul p with
          | some y => .ok y
          | none => .error .malformed
        else .ok ((x.div p).getD x)
    else if x.isZero then .ok x
    else if e ≥ 0 then .error .malformed
    else
      match Double.powTen 308 with
      | none => .error .malformed
      | some p => assemble fuel ((x.div p).getD x) (e + 308)

/-- A significand of at most 64 bits times a power of ten, with a sign. -/
def real (negative : Bool) (significand : Nat) (e : Int) : Except Problem Found := do
  match Double.round false significand 1 with
  | none => .error .malformed
  | some x =>
    -- three divisions by `10 ^ 308` leave nothing of a 64-bit significand
    let y ← assemble 4 x e
    .ok (.real (if negative then y.neg else y))

/-- The number after an exponent mark. -/
def exponentPart (negative : Bool) (significand : Nat) (start : Int) (input : Input) :
    Except Problem (Found × Input) :=
  let (down, input) :=
    match input with
    | .char '+' :: rest => (false, rest)
    | .char '-' :: rest => (true, rest)
    | _ => (false, input)
  match digits input with
  | ([], []) => .error .ended
  | ([], _ :: _) => .error .malformed
  | (ds, rest) =>
    let e : Nat := ds.foldl (fun n d => n * 10 + d) 0
    if e > 2147483647 then
      if significand ≠ 0 ∧ ¬ down then .error .malformed
      else .ok (.real ⟨negative, 0, -1074⟩, rest)
    else do
      let x ← real negative significand (if down then start - (e : Int) else start + (e : Int))
      .ok (x, rest)

/-- The number when what is left may begin with an exponent mark. -/
def scaled (negative : Bool) (significand : Nat) (e : Int) (input : Input) :
    Except Problem (Found × Input) :=
  match input with
  | .char 'e' :: rest => exponentPart negative significand e rest
  | .char 'E' :: rest => exponentPart negative significand e rest
  | _ => do
    let x ← real negative significand e
    .ok (x, input)

/-- The number after a decimal point.  Digits past the room of the significand are dropped. -/
def fractionPart (negative : Bool) (significand : Nat) (e : Int) (input : Input) :
    Except Problem (Found × Input) :=
  match digits input with
  | ([], []) => .error .ended
  | ([], _ :: _) => .error .malformed
  | (ds, rest) =>
    let (significand, put, _) := extend significand ds
    scaled negative significand (e - (put : Int)) rest

/-- A whole number: an integer where it fits 64 bits, else the nearest double; minus zero is a
double. -/
def whole (negative : Bool) (significand : Nat) : Except Problem Found :=
  if ¬ negative then .ok (.integer significand)
  else if significand = 0 ∨ significand > 9223372036854775808 then real true significand 0
  else .ok (.integer (-(significand : Int)))

/-- **A number**, after its minus sign if it has one. -/
def number (negative : Bool) : Reader Found := fun input =>
  match digits input with
  | ([], []) => .error .ended
  | ([], _ :: _) => .error .malformed
  | (0 :: _ :: _, _) => .error .malformed
  | (ds, rest) =>
    let (significand, _, left) := extend 0 ds
    match rest with
    | .char '.' :: rest => fractionPart negative significand left rest
    | _ =>
      if left = 0 then
        match rest with
        | .char 'e' :: _ | .char 'E' :: _ => scaled negative significand 0 rest
        | _ => do
          let found ← whole negative significand
          .ok (found, rest)
      else scaled negative significand left rest

/-! ## Values of the wrong shape -/

/-- What the value at the front is, read only as far as that takes. -/
def found (input : Input) : Except Problem Found :=
  match input with
  | .char 'n' :: rest => do
    let _ ← word ['u', 'l', 'l'] rest
    .ok .null
  | .char 't' :: rest => do
    let _ ← word ['r', 'u', 'e'] rest
    .ok (.boolean true)
  | .char 'f' :: rest => do
    let _ ← word ['a', 'l', 's', 'e'] rest
    .ok (.boolean false)
  | .char '-' :: rest => do
    let (n, _) ← number true rest
    .ok n
  | .char '"' :: rest => do
    let (s, _) ← stringBody rest
    .ok (.text s)
  | .char '[' :: _ => .ok .sequence
  | .char '\x7b' :: _ => .ok .map
  | g :: _ =>
    if (digit? g).isSome then do
      let (n, _) ← number false input
      .ok n
    else .error .malformed
  | [] => .error .malformed

/-- **The problem of a value at the front that is not what was expected.** -/
def refuse (expected : String) (input : Input) : Problem :=
  match found input with
  | .ok value => .data (.invalidType value expected)
  | .error problem => problem

/-! ## Typed values -/

/-- A string. -/
def text : Reader String := fun input =>
  match skipSpace input with
  | [] => .error .ended
  | .char '"' :: rest => stringBody rest
  | other => .error (refuse "a string" other)

/-- A string or `null`. -/
def optionalText : Reader (Option String) := fun input =>
  match skipSpace input with
  | .char 'n' :: rest => do
    let rest ← word ['u', 'l', 'l'] rest
    .ok (none, rest)
  | other => do
    let (s, rest) ← text other
    .ok (some s, rest)

/-- `null`. -/
def unit : Reader Unit := fun input =>
  match skipSpace input with
  | [] => .error .ended
  | .char 'n' :: rest => do
    let rest ← word ['u', 'l', 'l'] rest
    .ok ((), rest)
  | other => .error (refuse "unit" other)

/-- The value that goes by a name. -/
def variant (table : List (String × α)) (name : String) : Except Problem α :=
  match table.lookup name with
  | some a => .ok a
  | none => .error (.data (.unknownVariant name (table.map Prod.fst)))

/-- **One of a table's values**: its name as a string, or an object whose only key is the name and
whose value is `null`.  A key that is no string is malformed, whatever it is. -/
def choice (table : List (String × α)) : Reader α := fun input =>
  match skipSpace input with
  | [] => .error .ended
  | .char '"' :: rest => do
    let (name, rest) ← stringBody rest
    let a ← variant table name
    .ok (a, rest)
  | .char '\x7b' :: rest =>
    match skipSpace rest with
    | [] => .error .ended
    | .char '"' :: rest => do
      let (name, rest) ← stringBody rest
      let a ← variant table name
      let rest ← colon rest
      let (_, rest) ← unit rest
      match skipSpace rest with
      | [] => .error .ended
      | .char '\x7d' :: rest => .ok (a, rest)
      | _ => .error .malformed
    | _ => .error .malformed
  | _ => .error .malformed

/-- Whether another element of a sequence follows: `none` at its end, else the input at that
element. -/
def nextItem (first : Bool) (input : Input) : Except Problem (Option Input) :=
  match skipSpace input with
  | [] => .error .ended
  | .char ']' :: _ => .ok none
  | .char ',' :: rest =>
    if first then .ok (some (.char ',' :: rest))
    else match skipSpace rest with
      | [] => .error .ended
      | .char ']' :: _ => .error .malformed
      | other => .ok (some other)
  | other => if first then .ok (some other) else .error .malformed

/-- The end of a sequence. -/
def endItems (input : Input) : Except Problem Input :=
  match skipSpace input with
  | [] => .error .ended
  | .char ']' :: rest => .ok rest
  | _ => .error .malformed

/-- The elements of a sequence up to its end, behind those already read (last first). -/
def items (item : Reader α) : Nat → Bool → List α → Reader (List α)
  | 0, _, _, _ => .error .malformed
  | fuel + 1, first, done, input => do
    match ← nextItem first input with
    | none =>
      let rest ← endItems input
      .ok (done.reverse, rest)
    | some input =>
      let (a, rest) ← item input
      items item fuel false (a :: done) rest

/-- **A sequence.** -/
def list (item : Reader α) : Reader (List α) := fun input =>
  match skipSpace input with
  | [] => .error .ended
  | .char '[' :: rest => items item (rest.length + 1) true [] rest
  | other => .error (refuse "a sequence" other)

/-- **The value of a whole text**: nothing but blanks may follow it. -/
def whole? (reader : Reader α) (input : Input) : Except Problem α := do
  let (a, rest) ← reader input
  match skipSpace rest with
  | [] => .ok a
  | _ => .error .malformed

end Relaunch.Json
