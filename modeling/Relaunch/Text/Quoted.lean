import Relaunch.Text.Printable
import Relaunch.Text.Utf8

/-!
# Text/Quoted — a text between double quotes, for a reader's eyes

Quoted text names the control characters that have a letter, puts a backslash before a backslash or
a double quote, and writes every other character that is not shown as itself by its code point in
braces.  `Quoted.text` quotes
characters; `Quoted.bytes` quotes a byte string, where a byte of no character is written in two
hexadecimal digits.
-/

namespace Relaunch.Quoted

/-- The hexadecimal digits of a number, lower case, no leading zero. -/
def hex (n : Nat) : List Char := Nat.toDigits 16 n

/-- A character by its code point, in braces. -/
def byCode (c : Char) : List Char := ['\\', 'u', '\x7b'] ++ hex c.toNat ++ ['\x7d']

/-- **One character of quoted text.** -/
def char (c : Char) : List Char :=
  if c = '\x00' then ['\\', '0']
  else if c = '\t' then ['\\', 't']
  else if c = '\n' then ['\\', 'n']
  else if c = '\r' then ['\\', 'r']
  else if c = '\\' ∨ c = '"' then ['\\', c]
  else if Printable.isPlain c then [c]
  else byCode c

/-- A text between double quotes. -/
def text (s : String) : String :=
  String.ofList ('"' :: s.toList.flatMap char ++ ['"'])

/-- A byte of no character: two hexadecimal digits, upper case. -/
def byte (b : UInt8) : List Char :=
  let digit (n : Nat) : Char := if n < 10 then Char.ofNat (48 + n) else Char.ofNat (55 + n)
  ['\\', 'x', digit (b.toNat / 16), digit (b.toNat % 16)]

def glyph : Glyph → List Char
  | .char c => char c
  | .broken stray => stray.flatMap byte

/-- A byte string between double quotes. -/
def bytes (raw : List UInt8) : String :=
  String.ofList ('"' :: (Glyph.scan raw).flatMap glyph ++ ['"'])

end Relaunch.Quoted
