/-!
# Whole numbers and single precision

Conversions between integers and `Float32`. Going down, the fraction is dropped toward zero and a
number out of range goes to the nearest end; a NaN counts as zero. Going up, the nearest single is
taken. Everything is built from conversions that core defines on its float model.
-/

namespace Rover.Single
set_option autoImplicit false

/-- The sign bit, which also tells `-0.0` from `0.0`. -/
def isNegative (x : Float32) : Bool :=
  x.toBits ≥ 0x80000000

/-- The fraction dropped toward zero; magnitudes stop at `2 ^ 32 - 1` and a NaN gives zero. -/
def truncate (x : Float32) : Int :=
  let magnitude : Int := x.abs.toUInt32.toNat
  if x < 0 then -magnitude else magnitude

def toInt16 (x : Float32) : Int16 :=
  Int16.ofIntClamp (truncate x)

def toInt32 (x : Float32) : Int32 :=
  Int32.ofIntClamp (truncate x)

def wholePart (x : Float32) : Float32 :=
  if x.abs < 16777216 then
    let whole := x.abs.toUInt32.toFloat32
    if isNegative x then -whole else whole
  else x

def ofInt16 (n : Int16) : Float32 := Float32.ofInt n.toInt

def ofInt32 (n : Int32) : Float32 := Float32.ofInt n.toInt

end Rover.Single
