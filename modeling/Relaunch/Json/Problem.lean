import Relaunch.Number.Double
import Relaunch.Text.Quoted

/-!
# Json/Problem — what can be wrong with a JSON text that should hold a record

A text can end too early, break the grammar, or hold well-formed JSON of the wrong shape.  Only the
last carries a `Complaint`; `Complaint.message` is its wording.
-/

namespace Relaunch.Json

/-- What stands where something else was wanted. -/
inductive Found where
  | null
  | boolean (b : Bool)
  | integer (n : Int)
  | real (x : Double)
  | text (s : String)
  | sequence
  | map
deriving DecidableEq, Repr

/-- A value of the wrong shape. -/
inductive Complaint where
  | invalidType (found : Found) (expected : String)
  | unknownVariant (name : String) (known : List String)
  | missingField (name : String)
  | duplicateField (name : String)
  | invalidLength (found : Nat) (title : String) (fields : Nat)
deriving DecidableEq, Repr

/-- **The first problem of a text, from left to right.** -/
inductive Problem where
  | ended
  | malformed
  | data (complaint : Complaint)
deriving DecidableEq, Repr

/-- How numbers with a fraction are shown: by position while the leading digit stands for a power of
ten between the two bounds, by exponent outside them. -/
structure RealFormat where
  lowest : Int
  highest : Int

/-- Positional from `10 ^ -5` to below `10 ^ 16`. -/
def realFormat : RealFormat := ⟨-5, 15⟩

/-- The digits of a decimal number with a point, or with an exponent that carries its sign. -/
def renderDecimal (format : RealFormat) (d : Decimal) : List Char :=
  let digits := Nat.toDigits 10 d.digits
  let count := digits.length
  let top : Int := d.exponent + count - 1
  if d.digits = 0 then ['0', '.', '0']
  else if top < format.lowest ∨ format.highest < top then
    let rest := digits.drop 1
    digits.take 1 ++ (if rest.isEmpty then [] else '.' :: rest)
      ++ ['e', if top < 0 then '-' else '+']
      ++ Nat.toDigits 10 top.natAbs
  else if d.exponent ≥ 0 then
    digits ++ List.replicate d.exponent.toNat '0' ++ ['.', '0']
  else if top ≥ 0 then
    let whole := (top + 1).toNat
    digits.take whole ++ '.' :: digits.drop whole
  else
    ['0', '.'] ++ List.replicate (-top - 1).toNat '0' ++ digits

/-- The shortest text of a double, always with a point or an exponent. -/
def renderDouble (x : Double) : String :=
  String.ofList ((if x.negative then ['-'] else []) ++ renderDecimal realFormat x.shortest)

def Found.describe : Found → String
  | .null => "null"
  | .boolean b => "boolean `" ++ (if b then "true" else "false") ++ "`"
  | .integer n => "integer `" ++ toString n ++ "`"
  | .real x => "floating point `" ++ renderDouble x ++ "`"
  | .text s => "string " ++ Quoted.text s
  | .sequence => "sequence"
  | .map => "map"

/-- `a`, `b`, … with each name between backquotes. -/
def listing (names : List String) : String :=
  String.intercalate ", " (names.map fun name => "`" ++ name ++ "`")

def Complaint.message : Complaint → String
  | .invalidType found expected => "invalid type: " ++ found.describe ++ ", expected " ++ expected
  | .unknownVariant name known =>
      "unknown variant `" ++ name ++ "`, expected one of " ++ listing known
  | .missingField name => "missing field `" ++ name ++ "`"
  | .duplicateField name => "duplicate field `" ++ name ++ "`"
  | .invalidLength found title fields =>
      "invalid length " ++ toString found ++ ", expected struct " ++ title ++ " with "
        ++ toString fields ++ (if fields = 1 then " element" else " elements")

/-- The wording of a problem. -/
def Problem.message : Problem → String
  | ended => "the text ends too early"
  | malformed => "the text is malformed"
  | data complaint => complaint.message

end Relaunch.Json
