/-!
# Number/Double — double-precision values, exactly

A double is `mantissa * 2 ^ exponent` with a sign; a mantissa has at most 53 bits and an exponent
lies between −1074 and 971.  Everything here is arithmetic of natural numbers.

* `Double.round` — the double nearest to a quotient, a tie going to the even mantissa; nothing if
  the quotient is too large.
* `Double.shortest` — the fewest decimal digits that read back as the same double, the nearest of
  those where several are as short.
-/

namespace Relaunch

/-- A finite double-precision value. -/
structure Double where
  negative : Bool
  mantissa : Nat
  exponent : Int
deriving DecidableEq, Repr

/-- A decimal number `digits * 10 ^ exponent`. -/
structure Decimal where
  digits : Nat
  exponent : Int
deriving DecidableEq, Repr

namespace Double

/-- The highest of the 53 bits of a mantissa. -/
def topBit : Nat := Nat.pow 2 52

/-- `2 ^ e` times `num / den`, as a quotient. -/
def scaleTwo (num den : Nat) (e : Int) : Nat × Nat :=
  if e ≥ 0 then (num * Nat.pow 2 e.toNat, den) else (num, den * Nat.pow 2 (-e).toNat)

/-- `10 ^ e` times `num / den`, as a quotient. -/
def scaleTen (num den : Nat) (e : Int) : Nat × Nat :=
  if e ≥ 0 then (num * Nat.pow 10 e.toNat, den) else (num, den * Nat.pow 10 (-e).toNat)

/-- The whole number nearest to `num / den`, a tie going to the even one. -/
def roundDiv (num den : Nat) : Nat :=
  let low := num / den
  let rest := 2 * (num % den)
  if rest < den then low
  else if rest = den then low + low % 2
  else low + 1

/-- The largest `e` with `2 ^ e ≤ num / den`, for a quotient that is not zero. -/
def floorLogTwo (num den : Nat) : Int :=
  let guess : Int := (Nat.log2 num : Int) - (Nat.log2 den : Int)
  let (n, d) := scaleTwo num den (-guess)
  if n < d then guess - 1 else guess

/-- **The double nearest to `num / den`**, with the given sign; nothing above the largest double. -/
def round (negative : Bool) (num den : Nat) : Option Double :=
  if num = 0 then some ⟨negative, 0, -1074⟩
  else
    let e := max (floorLogTwo num den - 52) (-1074)
    let (n, d) := scaleTwo num den (-e)
    let m := roundDiv n d
    let (m, e) := if m = 2 * topBit then (topBit, e + 1) else (m, e)
    if e > 971 then none else some ⟨negative, m, e⟩

/-- The absolute value as a quotient. -/
def quotient (x : Double) : Nat × Nat := scaleTwo x.mantissa 1 x.exponent

/-- The double nearest to `10 ^ n`. -/
def powTen (n : Nat) : Option Double := round false (Nat.pow 10 n) 1

/-- The double nearest to the product; nothing above the largest double. -/
def mul (x y : Double) : Option Double :=
  let (a, b) := x.quotient
  let (c, d) := y.quotient
  round (x.negative != y.negative) (a * c) (b * d)

/-- The double nearest to the quotient by a double that is not zero. -/
def div (x y : Double) : Option Double :=
  let (a, b) := x.quotient
  let (c, d) := y.quotient
  round (x.negative != y.negative) (a * d) (b * c)

def isZero (x : Double) : Bool := x.mantissa == 0

def neg (x : Double) : Double := { x with negative := !x.negative }

/-! ## Shortest digits -/

/-- The largest `e` with `10 ^ e ≤ num / den`, for a quotient below 1, if it is at most `-k`; there
is fuel for so many tries. -/
def floorLogTenFrom (num den : Nat) : Nat → Nat → Int
  | 0, k => -(k : Int)
  | fuel + 1, k =>
    if den ≤ num * Nat.pow 10 k then -(k : Int) else floorLogTenFrom num den fuel (k + 1)

/-- The largest `e` with `10 ^ e ≤ num / den`, for a quotient that is not zero: from the count of
digits of the whole part, or by trying ever larger multiples. -/
def floorLogTen (num den : Nat) : Int :=
  if den ≤ num then ((Nat.toDigits 10 (num / den)).length : Int) - 1
  else floorLogTenFrom num den 330 1

/-- **The numbers that round to `x`** lie between `low` and `high`, in quarters of the last bit;
both ends belong to them when `closed`. -/
structure Neighbourhood where
  low : Nat
  value : Nat
  high : Nat
  unit : Int
  closed : Bool

def neighbourhood (x : Double) : Neighbourhood where
  low := if x.mantissa = topBit ∧ x.exponent > -1074 then 4 * x.mantissa - 1 else 4 * x.mantissa - 2
  value := 4 * x.mantissa
  high := 4 * x.mantissa + 2
  unit := x.exponent - 2
  closed := x.mantissa % 2 == 0

/-- Whether `digits * 10 ^ e` rounds to the double in the middle. -/
def Neighbourhood.holds (r : Neighbourhood) (digits : Nat) (e : Int) : Bool :=
  let (n, d) := scaleTen digits 1 e
  let (n, d) := scaleTwo n d (-r.unit)
  if r.closed then r.low * d ≤ n && n ≤ r.high * d else r.low * d < n && n < r.high * d

/-- The two multiples of `10 ^ e` beside the value that round to it, the nearer first. -/
def Neighbourhood.candidates (r : Neighbourhood) (e : Int) : List Nat :=
  let (n, d) := scaleTwo r.value 1 r.unit
  let (n, d) := scaleTen n d (-e)
  let low := n / d
  let rest := 2 * (n % d)
  let nearFirst := if rest < d ∨ (rest = d ∧ low % 2 = 0) then [low, low + 1] else [low + 1, low]
  nearFirst.filter fun digits => r.holds digits e

/-- A decimal number without the zeros at its end. -/
def stripZeros : Nat → Nat → Int → Decimal
  | 0, digits, e => ⟨digits, e⟩
  | fuel + 1, digits, e =>
    if digits ≠ 0 ∧ digits % 10 = 0 then stripZeros fuel (digits / 10) (e + 1) else ⟨digits, e⟩

/-- **The shortest decimal number that rounds to `x`**: the first count of digits for which a
neighbour of `x` on that grid does. -/
def shortest (x : Double) : Decimal :=
  if x.mantissa = 0 then ⟨0, 0⟩
  else
    let r := x.neighbourhood
    let (n, d) := x.quotient
    let top := floorLogTen n d
    let rec go : Nat → Nat → Decimal
      | 0, _ => ⟨x.mantissa, 0⟩
      | fuel + 1, count =>
        let e := top - (count : Int) + 1
        match r.candidates e with
        | digits :: _ => stripZeros 20 digits e
        | [] => go fuel (count + 1)
    go 17 1

end Double

end Relaunch
