import Rover.Json.Taken

/-!
# Strings

A string is scanned into pieces: characters, and the UTF-16 units of its `\u` escapes. Scanning
accepts any units; only `text?`, which makes text of the pieces, wants surrogates in pairs.
-/

namespace Rover.Json
set_option autoImplicit false

inductive Piece where
  | char (c : Char)
  | unit (n : Nat)
  deriving DecidableEq, Repr

namespace Piece

def isLead (n : Nat) : Bool := 0xd800 ≤ n && n < 0xdc00

def isTrail (n : Nat) : Bool := 0xdc00 ≤ n && n < 0xe000

/-- The character of a surrogate pair. -/
def paired (lead trail : Nat) : Char := Char.ofNat (0x10000 + (lead - 0xd800) * 0x400 + (trail - 0xdc00))

/-- The text of the pieces, if every surrogate has its partner. -/
def text? : List Piece → Option (List Char)
  | [] => some []
  | char c :: pieces => (text? pieces).map (c :: ·)
  | unit n :: unit m :: pieces =>
    if isTrail n then none
    else if isLead n then
      if isTrail m then (text? pieces).map (paired n m :: ·) else none
    else (text? (unit m :: pieces)).map (Char.ofNat n :: ·)
  | unit n :: pieces =>
    if isTrail n || isLead n then none else (text? pieces).map (Char.ofNat n :: ·)

def escaped? : Char → Option Char
  | '"' => some '"'
  | '\\' => some '\\'
  | '/' => some '/'
  | 'b' => some '\x08'
  | 'f' => some '\x0c'
  | 'n' => some '\n'
  | 'r' => some '\r'
  | 't' => some '\t'
  | _ => none

def hexDigit? (c : Char) : Option Nat :=
  if '0' ≤ c && c ≤ '9' then some (c.toNat - '0'.toNat)
  else if 'a' ≤ c && c ≤ 'f' then some (c.toNat - 'a'.toNat + 10)
  else if 'A' ≤ c && c ≤ 'F' then some (c.toNat - 'A'.toNat + 10)
  else none

def unit? (digits : List Char) : Option Piece := do
  guard (digits.length == 4)
  let values ← digits.mapM hexDigit?
  return unit (values.foldl (fun n digit => 16 * n + digit) 0)

/-- The pieces up to the closing quote. Control characters must be escaped. -/
def takeString? : (cs : List Char) → Option (Taken (List Piece) cs)
  | [] => none
  | '"' :: _ => some (.first [])
  | '\\' :: 'u' :: a :: b :: c :: d :: rest => do
    let piece ← unit? [a, b, c, d]
    let taken ← takeString? rest
    return ((((((taken.map (piece :: ·)).behind d).behind c).behind b).behind a).behind 'u').behind '\\'
  | '\\' :: letter :: rest => do
    let c ← escaped? letter
    let taken ← takeString? rest
    return ((taken.map (char c :: ·)).behind letter).behind '\\'
  | c :: rest =>
    if c < ' ' then none
    else (takeString? rest).map fun taken => (taken.map (char c :: ·)).behind c

end Piece

end Rover.Json
