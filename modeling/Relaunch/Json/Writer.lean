/-!
# Json/Writer — compact JSON text

Text is written without blanks.  A string escapes the double quote, the backslash and the control
characters, those with a letter by their letter and the others by four hexadecimal digits in lower
case; every other character stands for itself.
-/

namespace Relaunch.Json

/-- A hexadecimal digit, lower case. -/
def hexDigit (n : Nat) : Char := if n < 10 then Char.ofNat (48 + n) else Char.ofNat (87 + n)

/-- **One character of a string.** -/
def escape (c : Char) : List Char :=
  if c = '"' then ['\\', '"']
  else if c = '\\' then ['\\', '\\']
  else if c = '\x08' then ['\\', 'b']
  else if c = '\t' then ['\\', 't']
  else if c = '\n' then ['\\', 'n']
  else if c = '\x0c' then ['\\', 'f']
  else if c = '\r' then ['\\', 'r']
  else if c.toNat < 0x20 then
    ['\\', 'u', '0', '0', hexDigit (c.toNat / 16), hexDigit (c.toNat % 16)]
  else [c]

def writeText (s : String) : List Char := '"' :: s.toList.flatMap escape ++ ['"']

def writeNull : List Char := ['n', 'u', 'l', 'l']

def writeOptional (write : α → List Char) : Option α → List Char
  | none => writeNull
  | some a => write a

/-- The parts with a comma between each two. -/
def separated : List (List Char) → List Char
  | [] => []
  | [part] => part
  | part :: parts => part ++ ',' :: separated parts

def writeList (write : α → List Char) (as : List α) : List Char :=
  '[' :: separated (as.map write) ++ [']']

/-- An object whose values are already written. -/
def writeObject (entries : List (String × List Char)) : List Char :=
  '\x7b' :: separated (entries.map fun e => writeText e.1 ++ ':' :: e.2) ++ ['\x7d']

end Relaunch.Json
