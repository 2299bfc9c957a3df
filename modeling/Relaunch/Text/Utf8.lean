/-!
# Text/Utf8 — bytes read as characters, with what is broken kept apart

`Glyph.scan` cuts a byte string into **glyphs**: characters, and runs of bytes that are no
character.  A broken run is as long as a prefix of some well-formed character can be, so that one
replacement character stands for each run (`Glyph.lossy`) and no byte is lost (`Glyph.bytes`).

* `scan_ascii` — a byte below 128 is always a character of its own, wherever it stands.
-/

namespace Relaunch

/-- A character, or a run of bytes that is none. -/
inductive Glyph where
  | char (c : Char)
  | broken (bytes : List UInt8)
deriving DecidableEq, Repr

namespace Glyph

/-- What a first byte asks of the second, and how many bytes follow it. -/
structure Lead where
  low : Nat
  high : Nat
  following : Nat

/-- **The first byte of a longer character**: the range of the byte after it, which shuts out
overlong forms, surrogates and values past the last code point. -/
def lead? (b : Nat) : Option Lead :=
  if 0xC2 ≤ b ∧ b ≤ 0xDF then some ⟨0x80, 0xBF, 1⟩
  else if b = 0xE0 then some ⟨0xA0, 0xBF, 2⟩
  else if b = 0xED then some ⟨0x80, 0x9F, 2⟩
  else if 0xE1 ≤ b ∧ b ≤ 0xEF then some ⟨0x80, 0xBF, 2⟩
  else if b = 0xF0 then some ⟨0x90, 0xBF, 3⟩
  else if 0xF1 ≤ b ∧ b ≤ 0xF3 then some ⟨0x80, 0xBF, 3⟩
  else if b = 0xF4 then some ⟨0x80, 0x8F, 3⟩
  else none

def isContinuation (b : Nat) : Bool := 0x80 ≤ b && b ≤ 0xBF

/-- **Bytes as glyphs**, from left to right. -/
def scan : List UInt8 → List Glyph
  | [] => []
  | a :: rest =>
    if a.toNat < 0x80 then .char (Char.ofNat a.toNat) :: scan rest
    else match lead? a.toNat with
      | none => .broken [a] :: scan rest
      | some want =>
        match rest with
        | [] => [.broken [a]]
        | b :: rest₁ =>
          if ¬ (want.low ≤ b.toNat ∧ b.toNat ≤ want.high) then .broken [a] :: scan (b :: rest₁)
          else if want.following = 1 then
            .char (Char.ofNat ((a.toNat - 0xC0) * 64 + (b.toNat - 0x80))) :: scan rest₁
          else match rest₁ with
            | [] => [.broken [a, b]]
            | c :: rest₂ =>
              if ¬ isContinuation c.toNat then .broken [a, b] :: scan (c :: rest₂)
              else if want.following = 2 then
                .char (Char.ofNat
                  (((a.toNat - 0xE0) * 64 + (b.toNat - 0x80)) * 64 + (c.toNat - 0x80)))
                  :: scan rest₂
              else match rest₂ with
                | [] => [.broken [a, b, c]]
                | d :: rest₃ =>
                  if ¬ isContinuation d.toNat then .broken [a, b, c] :: scan (d :: rest₃)
                  else
                    .char (Char.ofNat ((((a.toNat - 0xF0) * 64 + (b.toNat - 0x80)) * 64
                      + (c.toNat - 0x80)) * 64 + (d.toNat - 0x80))) :: scan rest₃

/-- The glyphs of a text: its characters. -/
def ofText (s : String) : List Glyph := s.toList.map .char

/-- A byte below 128 is a character of its own. -/
theorem scan_ascii (a : UInt8) (rest : List UInt8) (h : a.toNat < 0x80) :
    scan (a :: rest) = .char (Char.ofNat a.toNat) :: scan rest := by
  rw [scan.eq_def]
  simp [h]

/-- How many bytes a glyph takes. -/
def size : Glyph → Nat
  | .char c => c.utf8Size
  | .broken bytes => bytes.length

/-- How many bytes some glyphs take. -/
def bytesOf : List Glyph → Nat
  | [] => 0
  | g :: rest => g.size + bytesOf rest

/-- **The characters of glyphs that are all whole**; nothing if one is broken. -/
def chars? : List Glyph → Option (List Char)
  | [] => some []
  | .char c :: rest => (chars? rest).map (c :: ·)
  | .broken _ :: _ => none

/-- The text of a byte string, if every part of it is a character. -/
def text? (bytes : List UInt8) : Option String := (chars? (scan bytes)).map String.ofList

/-- A character stands for itself, a broken run for one replacement character. -/
def shown : Glyph → Char
  | .char c => c
  | .broken _ => Char.ofNat 0xFFFD

/-- **The text of a byte string, whatever it holds**, with a replacement character for each run
that is none. -/
def lossy (bytes : List UInt8) : String := String.ofList ((scan bytes).map shown)

@[simp] theorem chars?_map_char (cs : List Char) : chars? (cs.map .char) = some cs := by
  induction cs with
  | nil => rfl
  | cons c cs ih => simp [chars?, ih]

end Glyph

end Relaunch
