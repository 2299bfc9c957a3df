import Relaunch.Config.Basic
import Relaunch.Text.Quoted

/-!
# Config/Environment — settings read from variables

A variable is unset, holds a text, or holds bytes that are none.  A blank text counts as unset.
Numbers are decimal, with blanks around them and at most one plus sign before them; durations are
in milliseconds.

Variables are read in a fixed order and the first that cannot be read, or is needed and unset, or
holds no number where one is wanted, is the error; only then are the settings checked.
-/

namespace Relaunch

/-- What a variable holds. -/
inductive Held where
  | unset
  | text (s : String)
  | bytes (raw : List UInt8)
deriving DecidableEq

/-- What a byte string held by a variable is. -/
def Held.ofBytes (raw : List UInt8) : Held :=
  match Glyph.text? raw with
  | some s => .text s
  | none => .bytes raw

abbrev Environment := Variable → Held

/-! ## Numbers -/

/-- One more digit behind a number below `2 ^ 64`: what is no digit is told before what is too
large. -/
def pushDigit (n : Nat) (c : Char) : Except NumberFault Nat :=
  if '0' ≤ c ∧ c ≤ '9' then
    let m := n * 10 + (c.toNat - 48)
    if m < 18446744073709551616 then .ok m else .error .tooLarge
  else .error .invalidDigit

/-- **The number below `2 ^ 64` that a text spells.** -/
def parseNumber (s : String) : Except NumberFault Nat :=
  match s.toList with
  | [] => .error .empty
  | '+' :: c :: cs => (c :: cs).foldlM pushDigit 0
  | cs => cs.foldlM pushDigit 0

namespace Environment

/-- What a variable holds, if it is neither unset nor blank. -/
def optional (env : Environment) (v : Variable) : Except ConfigError (Option String) :=
  match env v with
  | .unset => .ok none
  | .text s => .ok (if Text.isBlank s then none else some s)
  | .bytes raw => .error (.unreadable v (Quoted.bytes raw))

def required (env : Environment) (v : Variable) : Except ConfigError String := do
  match ← env.optional v with
  | some s => .ok s
  | none => .error (.unset v)

/-- The number a variable's text spells; the error quotes the text as it is. -/
def numberOf (v : Variable) (s : String) : Except ConfigError Nat :=
  match parseNumber (Text.trim s) with
  | .ok n => .ok n
  | .error fault => .error (.unparsable v s fault)

def number (env : Environment) (v : Variable) (default : Nat) : Except ConfigError Nat := do
  match ← env.optional v with
  | some s => numberOf v s
  | none => .ok default

/-- A number of milliseconds, with a default that is given as a duration. -/
def millis (env : Environment) (v : Variable) (default : Duration) :
    Except ConfigError Duration := do
  let n ← env.number v default.millis
  .ok (.ofMillis n)

/-- **The configuration of an environment.** -/
def config (env : Environment) : Except ConfigError Config := do
  let registryUrl ← env.required .registryUrl
  let dataPlane ← env.required .dataPlane
  let authToken ← env.optional .authToken
  let parallelism ← env.number .parallelism Config.defaultParallelism
  let initialBackoff ← env.millis .initialBackoff Config.defaultInitialBackoff
  let maxBackoff ← env.millis .maxBackoff Config.defaultMaxBackoff
  let requestTimeout ← env.millis .requestTimeout Config.defaultRequestTimeout
  let recoveryInterval ← env.optional .recoveryInterval
  let recoveryInterval ←
    match recoveryInterval with
    | none => .ok none
    | some s => do
      let n ← numberOf .recoveryInterval s
      .ok (some (Duration.ofMillis n))
  Config.new {
    registryUrl, authToken, dataPlane, parallelism, initialBackoff, maxBackoff, requestTimeout
    recoveryInterval }

end Environment

end Relaunch
