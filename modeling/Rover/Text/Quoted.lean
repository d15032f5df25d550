import Rover.Text.Printable

/-!
# Quoted text

Texts and single characters as log lines and error messages show them: between quotes, with the
quote itself, the backslash and everything unprintable escaped.
-/

namespace Rover.Text
set_option autoImplicit false

def hexDigits (n : Nat) : List Char := Nat.toDigits 16 n

def escape (quote c : Char) : List Char :=
  if c == '\n' then ['\\', 'n']
  else if c == '\r' then ['\\', 'r']
  else if c == '\t' then ['\\', 't']
  else if c == '\x00' then ['\\', '0']
  else if c == '\\' || c == quote then ['\\', c]
  else if isPrintable c then [c]
  else '\\' :: 'u' :: '\x7b' :: hexDigits c.toNat ++ ['\x7d']

def quoteChar (c : Char) : String :=
  String.ofList ('\'' :: escape '\'' c ++ ['\''])

def quoteString (s : String) : String :=
  String.ofList ('"' :: s.toList.flatMap (escape '"') ++ ['"'])

/-- A byte shown as the character of the same number. -/
def quoteByte (b : UInt8) : String :=
  quoteChar (Char.ofUInt8 b)

def hexByte (b : UInt8) : String :=
  let digits := (Nat.toDigits 16 b.toNat).map Char.toUpper
  String.ofList ('0' :: 'x' :: List.replicate (2 - digits.length) '0' ++ digits)

end Rover.Text
