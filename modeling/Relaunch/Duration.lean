import Relaunch.Timer

/-!
# Duration — spans of time in whole nanoseconds, up to a fixed ceiling

A duration is a number of nanoseconds: 64 bits of whole seconds and a part of a second.  Arithmetic
that would leave the range stops at the longest duration.

* `Duration.ofNanos_nanos` — building a duration from its own nanoseconds gives it back.
* `Duration.sleeps_iff` — how long a timer set to a duration runs, by the clock of the machine.
* `Duration.render` — the text of a duration, in the largest of `s`, `ms`, `µs`, `ns` that leaves a
  nonzero whole part, without trailing zeros.
-/

namespace Relaunch

/-- A span of time: nanoseconds, fewer than `2 ^ 64` seconds of them. -/
structure Duration where
  nanos : Nat
  nanos_lt : nanos < 18446744073709551616000000000 := by decide
deriving DecidableEq

namespace Duration

/-- **The duration of so many nanoseconds**, or the longest one if there are too many. -/
def ofNanos (n : Nat) : Duration :=
  if h : n < 18446744073709551616000000000 then ⟨n, h⟩
  else ⟨18446744073709551615999999999, by decide⟩

def ofParts (seconds nanos : Nat) : Duration := ofNanos (seconds * 1000000000 + nanos)

def ofMillis (n : Nat) : Duration := ofNanos (n * 1000000)

def ofSecs (n : Nat) : Duration := ofNanos (n * 1000000000)

def zero : Duration := ⟨0, by decide⟩

instance : Inhabited Duration := ⟨zero⟩

@[ext] theorem ext {a b : Duration} (h : a.nanos = b.nanos) : a = b := by
  cases a; cases b; cases h; rfl

/-- A duration is what its own nanoseconds build. -/
@[simp] theorem ofNanos_nanos (d : Duration) : ofNanos d.nanos = d := by
  simp [ofNanos, d.nanos_lt]

theorem nanos_ofNanos (n : Nat) :
    (ofNanos n).nanos = min n 18446744073709551615999999999 := by
  unfold ofNanos
  split
  · simp only; omega
  · simp only; omega

/-! ## Order -/

instance : LE Duration := ⟨fun a b => a.nanos ≤ b.nanos⟩

instance : LT Duration := ⟨fun a b => a.nanos < b.nanos⟩

instance (a b : Duration) : Decidable (a ≤ b) := inferInstanceAs (Decidable (a.nanos ≤ b.nanos))

instance (a b : Duration) : Decidable (a < b) := inferInstanceAs (Decidable (a.nanos < b.nanos))

instance : Min Duration := ⟨fun a b => if a ≤ b then a else b⟩

instance : Max Duration := ⟨fun a b => if a ≤ b then b else a⟩

theorem le_def {a b : Duration} : a ≤ b ↔ a.nanos ≤ b.nanos := Iff.rfl

theorem lt_def {a b : Duration} : a < b ↔ a.nanos < b.nanos := Iff.rfl

theorem nanos_min (a b : Duration) : (min a b).nanos = min a.nanos b.nanos := by
  show (if a ≤ b then a else b).nanos = _
  split <;> rename_i h <;> rw [le_def] at h <;> omega

theorem nanos_max (a b : Duration) : (max a b).nanos = max a.nanos b.nanos := by
  show (if a ≤ b then b else a).nanos = _
  split <;> rename_i h <;> rw [le_def] at h <;> omega

/-! ## Arithmetic -/

def isZero (d : Duration) : Bool := d.nanos == 0

/-- Twice the duration, or the longest one. -/
def double (d : Duration) : Duration := ofNanos (2 * d.nanos)

/-- Whole seconds. -/
def secs (d : Duration) : Nat := d.nanos / 1000000000

/-- The nanoseconds beside the whole seconds. -/
def subsecNanos (d : Duration) : Nat := d.nanos % 1000000000

/-- Whole milliseconds, rounded down. -/
def millis (d : Duration) : Nat := d.nanos / 1000000

/-- **How long a timer set to this duration runs** from a time on, in milliseconds. -/
def ticks [Clock] (d : Duration) (now : Nat) : Nat := Timer.run d.nanos now

/-- **A sleep of this length from one time to another**: to the first millisecond in which it is
over, if the clock can show that time, and for thirty years of 365 days if not. -/
structure Sleeps [Clock] (d : Duration) (now wakes : Nat) : Prop where
  shown : Clock.shows now d.nanos = true →
    now * 1000000 + d.nanos ≤ wakes * 1000000 ∧ wakes * 1000000 < now * 1000000 + d.nanos + 1000000
  beyond : Clock.shows now d.nanos = false → wakes = now + 30 * 365 * 24 * 60 * 60 * 1000

/-- **This is how long timers run.** -/
theorem sleeps_iff [Clock] {d : Duration} {now wakes : Nat} :
    d.Sleeps now wakes ↔ wakes = now + d.ticks now := by
  rw [ticks]
  cases shows : Clock.shows now d.nanos with
  | true =>
    rw [Timer.run_of_shows shows]
    refine ⟨fun sleeps => ?_, fun eq => ⟨fun _ => ?_, fun beyond => ?_⟩⟩
    · have := sleeps.shown shows
      omega
    · omega
    · exact absurd (shows.symm.trans beyond) nofun
  | false =>
    rw [Timer.run_of_not_shows shows]
    refine ⟨fun sleeps => sleeps.beyond shows, fun eq => ⟨fun shown => ?_, fun _ => eq⟩⟩
    exact absurd (shows.symm.trans shown) nofun

theorem sleeps_ticks [Clock] (d : Duration) (now : Nat) : d.Sleeps now (now + d.ticks now) :=
  sleeps_iff.mpr rfl

/-- Up to thirty years are slept in full, by any clock. -/
theorem Sleeps.of_le [Clock] {d : Duration} {now wakes : Nat} (sleeps : d.Sleeps now wakes)
    (near : d.nanos ≤ Timer.thirtyYears * 1000000) :
    now * 1000000 + d.nanos ≤ wakes * 1000000 ∧
      wakes * 1000000 < now * 1000000 + d.nanos + 1000000 :=
  sleeps.shown (Clock.shows_of_le now near)

/-! ## Text -/

/-- The digits after a decimal point for `part` of `10 ^ width`, trailing zeros dropped; no point
where nothing is left. -/
def fraction (part width : Nat) : List Char :=
  let digits := Nat.toDigits 10 part
  let padded := List.replicate (width - digits.length) '0' ++ digits
  match (padded.reverse.dropWhile (· == '0')).reverse with
  | [] => []
  | kept => '.' :: kept

/-- **The text of a duration**, in the largest unit whose whole part is not zero. -/
def render (d : Duration) : String :=
  if d.nanos ≥ 1000000000 then
    toString d.secs ++ String.ofList (fraction d.subsecNanos 9) ++ "s"
  else if d.nanos ≥ 1000000 then
    toString (d.nanos / 1000000) ++ String.ofList (fraction (d.nanos % 1000000) 6) ++ "ms"
  else if d.nanos ≥ 1000 then
    toString (d.nanos / 1000) ++ String.ofList (fraction (d.nanos % 1000) 3) ++ "µs"
  else
    toString d.nanos ++ "ns"

end Duration

end Relaunch
