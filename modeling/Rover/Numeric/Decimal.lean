/-!
# Decimal text of binary numbers

A binary number is read from its bits as `mantissa * 2 ^ exponent`. `shortest` finds the fewest
decimal digits that read back to the same number, `fixed` rounds to a given count of places. All
comparisons are exact, between natural numbers.
-/

namespace Rover.Decimal
set_option autoImplicit false

/-- Powers are spelled out once, so that they are the same ones in every context. -/
def twoPow (n : Nat) : Nat := Nat.pow 2 n

def tenPow (n : Nat) : Nat := Nat.pow 10 n

/-- A non-negative number `mantissa * 2 ^ exponent`. At a power of two the next number below is
half as far away as the next one above: `narrowBelow`. -/
structure Magnitude where
  mantissa : Nat
  exponent : Int
  narrowBelow : Bool

inductive Value where
  | notANumber
  | infinite
  | finite (magnitude : Magnitude)

inductive Tie where
  | upper
  | even

/-- Field widths of an interchange format, and how its numbers are written: the digits that always
suffice to tell two of them apart, and the choice between equally near ones. -/
structure Layout where
  fractionBits : Nat
  exponentBits : Nat
  maxDigits : Nat
  tie : Tie

def single : Layout := ⟨23, 8, 9, .upper⟩

def double : Layout := ⟨52, 11, 17, .even⟩

def Layout.isNegative (layout : Layout) (bits : Nat) : Bool :=
  bits / twoPow (layout.fractionBits + layout.exponentBits) % 2 == 1

def Layout.value (layout : Layout) (bits : Nat) : Value :=
  let hidden := twoPow layout.fractionBits
  let fraction := bits % hidden
  let field := bits / hidden % twoPow layout.exponentBits
  let least : Int := 2 - twoPow (layout.exponentBits - 1) - layout.fractionBits
  if field == twoPow layout.exponentBits - 1 then
    if fraction == 0 then .infinite else .notANumber
  else if field == 0 then .finite ⟨fraction, least, false⟩
  else .finite ⟨hidden + fraction, least + field - 1, fraction == 0 && field > 1⟩

def compareScaled (d : Nat) (p : Int) (c : Nat) (r : Int) : Ordering :=
  compare (d * tenPow p.toNat * twoPow (-r).toNat) (c * twoPow r.toNat * tenPow (-p).toNat)

/-- Does `d * 10 ^ p` round to this number? The ends of the interval do when the mantissa is
even. -/
def Magnitude.holds (m : Magnitude) (d : Nat) (p : Int) : Bool :=
  let low := 4 * m.mantissa - (if m.narrowBelow then 1 else 2)
  let high := 4 * m.mantissa + 2
  match compareScaled d p low (m.exponent - 2), compareScaled d p high (m.exponent - 2) with
  | .gt, .lt => true
  | .eq, _ | _, .eq => m.mantissa % 2 == 0
  | _, _ => false

def Magnitude.over (m : Magnitude) (p : Int) : Nat × Nat :=
  (m.mantissa * twoPow m.exponent.toNat * tenPow (-p).toNat, twoPow (-m.exponent).toNat * tenPow p.toNat)

def digits (n : Nat) : List Char := (Nat.repr n).toList

def Magnitude.decade (m : Magnitude) : Int :=
  let (num, den) := m.over 0
  if den ≤ num then (digits (num / den)).length - 1
  else
    let width := (digits (den / num)).length
    if den ≤ num * tenPow (width - 1) then 1 - width else -width

def nearest (tie : Tie) (num den : Nat) : Nat :=
  let down := num / den
  match compare (2 * (num % den)) den, tie with
  | .lt, _ => down
  | .gt, _ | .eq, .upper => down + 1
  | .eq, .even => down + down % 2

/-- Of the two neighbours on the grid `10 ^ p`, the one that reads back; of two, the nearer. -/
def Magnitude.onGrid? (m : Magnitude) (tie : Tie) (p : Int) : Option Nat :=
  let (num, den) := m.over p
  let down := num / den
  match m.holds down p, m.holds (down + 1) p with
  | true, true => some (nearest tie num den)
  | true, false => some down
  | false, true => some (down + 1)
  | false, false => none

/-- Fewest digits `d` and their scale `p`, the number being read back from `d * 10 ^ p`. -/
def Layout.shortest (layout : Layout) (m : Magnitude) : Nat × Int :=
  let top := m.decade
  let grids : List Int := (List.range layout.maxDigits).map fun (n : Nat) => top - (n : Int)
  (grids.findSome? fun p => (m.onGrid? layout.tie p).map (·, p)).getD (0, 0)

def Layout.significand (layout : Layout) (m : Magnitude) : List Char × Int :=
  let (d, p) := layout.shortest m
  let all := digits d
  ((all.reverse.dropWhile (· == '0')).reverse, all.length + p)

def positional (digits : List Char) (point : Int) : List Char :=
  if digits.length ≤ point then digits ++ List.replicate (point - digits.length).toNat '0'
  else if 0 < point then digits.take point.toNat ++ '.' :: digits.drop point.toNat
  else '0' :: '.' :: List.replicate (-point).toNat '0' ++ digits

def signed (negative : Bool) (text : String) : String :=
  if negative then "-" ++ text else text

/-- The nearest multiple of `10 ^ -places`, a half going to the even one. -/
def Magnitude.rounded (m : Magnitude) (places : Nat) : Nat :=
  let (num, den) := m.over (-(places : Int))
  nearest .even num den

def Magnitude.fixed (m : Magnitude) (places : Nat) : String :=
  let unit := tenPow places
  let n := m.rounded places
  let fraction := digits (n % unit)
  String.ofList (digits (n / unit) ++ '.' :: List.replicate (places - fraction.length) '0' ++ fraction)

def ofSingle (x : Float32) : String :=
  let bits := x.toBits.toNat
  match single.value bits with
  | .notANumber => "NaN"
  | .infinite => signed (single.isNegative bits) "inf"
  | .finite m =>
    signed (single.isNegative bits) <|
      if m.mantissa == 0 then "0"
      else
        let (digits, point) := single.significand m
        String.ofList (positional digits point)

def ofSingleFixed (places : Nat) (x : Float32) : String :=
  let bits := x.toBits.toNat
  match single.value bits with
  | .notANumber => "NaN"
  | .infinite => signed (single.isNegative bits) "inf"
  | .finite m => signed (single.isNegative bits) (m.fixed places)

def exponentText (e : Int) : String := (if e < 0 then "e" else "e+") ++ toString e

def ofDouble (x : Float) : String :=
  let bits := x.toBits.toNat
  match double.value bits with
  | .notANumber => "NaN"
  | .infinite => signed (double.isNegative bits) "inf"
  | .finite m =>
    signed (double.isNegative bits) <|
      if m.mantissa == 0 then "0.0"
      else
        let (digits, point) := double.significand m
        if -5 < point ∧ point ≤ 16 then
          let text := String.ofList (positional digits point)
          if digits.length ≤ point then text ++ ".0" else text
        else
          let lead := if digits.length == 1 then digits else digits.take 1 ++ '.' :: digits.drop 1
          String.ofList lead ++ exponentText (point - 1)

end Rover.Decimal
