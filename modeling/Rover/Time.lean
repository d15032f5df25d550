import Rover.Numeric.Single

/-!
# Time stamps

A time is a wrapping count of milliseconds with microseconds below one thousand. The same type
serves for spans: `since` subtracts with borrow, `after` adds with carry, both modulo the wrap of
the millisecond count. `toMicros` is the one number that a time stands for.
-/

namespace Rover
set_option autoImplicit false

structure Time where
  millis : UInt32
  micros : Nat
  micros_lt : micros < 1000
  deriving DecidableEq, Repr

namespace Time

def zero : Time := ⟨0, 0, by decide⟩

/-- Whole milliseconds among the microseconds are carried. -/
def ofParts (millis : UInt32) (micros : UInt16) : Time :=
  ⟨millis + UInt32.ofNat (micros.toNat / 1000), micros.toNat % 1000, Nat.mod_lt _ (by decide)⟩

def ofMillis (millis : UInt32) : Time := ⟨millis, 0, by decide⟩

def toMicros (t : Time) : Nat := 1000 * t.millis.toNat + t.micros

def since (t earlier : Time) : Time :=
  if h : earlier.micros ≤ t.micros then
    ⟨t.millis - earlier.millis, t.micros - earlier.micros, by have := t.micros_lt; omega⟩
  else
    ⟨t.millis - earlier.millis - 1, t.micros + 1000 - earlier.micros, by omega⟩

def after (t : Time) (micros : Nat) : Time :=
  ⟨t.millis + UInt32.ofNat ((t.micros + micros) / 1000), (t.micros + micros) % 1000,
    Nat.mod_lt _ (by decide)⟩

def microsSingle (t : Time) : Float32 := (UInt32.ofNat t.micros).toFloat32

def toSeconds (t : Time) : Float32 :=
  t.millis.toFloat32 / 1000 + t.microsSingle / 1000000

def toMillis (t : Time) : Float32 :=
  t.millis.toFloat32 + t.microsSingle / 1000

end Time

end Rover
