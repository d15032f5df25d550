import Rover.Json.Taken

/-!
# Numbers

A numeral is a number as written: digits before and after the point, and a decimal exponent. Its
value is a whole number where it is written as one and fits 64 bits, and a double otherwise. The
double is made of a significand below `2 ^ 64` and one power of ten, so beyond nineteen digits it
need not be the nearest one; a double out of range is no value at all.
-/

namespace Rover.Json
set_option autoImplicit false

structure Numeral where
  negative : Bool
  whole : List Char
  fraction : List Char
  exponent : Option Int
  deriving DecidableEq, Repr

inductive Number where
  | whole (n : Int)
  | real (x : Float)
  deriving DecidableEq, Repr

def joinDigit (n : Nat) (digit : Char) : Nat := 10 * n + (digit.toNat - '0'.toNat)

def ofDigits (digits : List Char) : Nat := digits.foldl joinDigit 0

namespace Numeral

/-- Joins digits for as long as the result fits 64 bits, and gives the digits left over. -/
def gather (n : Nat) : List Char → Nat × List Char
  | [] => (n, [])
  | digit :: digits =>
    if joinDigit n digit < UInt64.size then gather (joinDigit n digit) digits else (n, digit :: digits)

def maxPower : Nat := 308

def powerOfTen (n : Nat) : Float := Float.ofScientific 1 false n

/-- Divides by `10 ^ n`, in steps of at most the greatest power. -/
def divideByPower (x : Float) (n : Nat) : Float :=
  if x == 0 then x
  else if n ≤ maxPower then x / powerOfTen n
  else divideByPower (x / powerOfTen maxPower) (n - maxPower)
termination_by n
decreasing_by simp only [maxPower] at *; omega

def scaled? (significand : Nat) (scale : Int) : Option Float :=
  let x := (UInt64.ofNat significand).toFloat
  if scale < 0 then some (divideByPower x (-scale).toNat)
  else if significand = 0 then some x
  else if scale ≤ maxPower then
    let product := x * powerOfTen scale.toNat
    if product.isInf then none else some product
  else none

/-- Whole numbers range from `-2 ^ 63` to `2 ^ 64 - 1`; a negative zero is a double. -/
def value? (numeral : Numeral) : Option Number :=
  let (lead, excess) := gather 0 numeral.whole
  if numeral.fraction.isEmpty && numeral.exponent.isNone && excess.isEmpty
      && (!numeral.negative || (0 < lead && lead ≤ UInt64.size / 2)) then
    some (.whole (if numeral.negative then -lead else lead))
  else
    let (significand, unused) := gather lead numeral.fraction
    let places : Int := numeral.fraction.length - unused.length
    let scale : Int := excess.length - places + numeral.exponent.getD 0
    (scaled? significand scale).map fun x => .real (if numeral.negative then -x else x)

theorem length_dropDigits (cs : List Char) :
    (cs.takeWhile Char.isDigit).length + (cs.dropWhile Char.isDigit).length = cs.length := by
  rw [← List.length_append, List.takeWhile_append_dropWhile]

def takeDigits? (cs : List Char) : Option (Taken (List Char) cs) :=
  match h : cs.takeWhile Char.isDigit with
  | [] => none
  | digit :: digits => some ⟨digit :: digits, cs.dropWhile Char.isDigit, by
      have whole := length_dropDigits cs
      rw [h, List.length_cons] at whole
      omega⟩

def takeFraction? (cs : List Char) : Option (List Char × Rest cs) :=
  match cs with
  | '.' :: cs => (takeDigits? cs).map fun taken => (taken.value, .ofTaken '.' taken)
  | cs => some ([], .all cs)

def takeSign (cs : List Char) : Bool × Rest cs :=
  match cs with
  | '-' :: cs => (true, .afterFirst '-' cs)
  | '+' :: cs => (false, .afterFirst '+' cs)
  | cs => (false, .all cs)

def takeExponent? (cs : List Char) : Option (Option Int × Rest cs) :=
  match cs with
  | [] => some (none, .all [])
  | mark :: cs =>
    if mark == 'e' || mark == 'E' then
      let (negative, unsigned) := takeSign cs
      (takeDigits? unsigned.items).map fun taken =>
        let n : Int := ofDigits taken.value
        (some (if negative then -n else n), .ofTaken mark (taken.weaken unsigned.length_le))
    else some (none, .all (mark :: cs))

/-- A numeral without its sign. A zero stands before no other digit. -/
def takeUnsigned? (negative : Bool) (cs : List Char) : Option (Taken Numeral cs) := do
  let whole ← takeDigits? cs
  guard (whole.value.head? != some '0' || whole.value.length == 1)
  let (fraction, afterFraction) ← takeFraction? whole.rest
  let (exponent, rest) ← takeExponent? afterFraction.items
  return ⟨⟨negative, whole.value, fraction, exponent⟩, rest.items,
    Nat.lt_of_le_of_lt (afterFraction.trans rest).length_le whole.shorter⟩

end Numeral

end Rover.Json
