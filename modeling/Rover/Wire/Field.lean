/-!
# Fields of a packed payload

Numbers travel as fixed counts of bytes, the lowest byte first. A reader takes one field off the
front of the bytes and fails when they run out; `read_write` says that it gives back what was
written. A float travels as its bits, all of which are kept: there is more than one way to spell that
something is no number.
-/

namespace Rover.Wire
set_option autoImplicit false

abbrev Bytes := List UInt8

/-- The lowest `width` base-256 digits of `n`, lowest first. -/
def littleEndian : Nat → Nat → Bytes
  | 0, _ => []
  | width + 1, n => UInt8.ofNat (n % 256) :: littleEndian width (n / 256)

def ofLittleEndian : Bytes → Nat
  | [] => 0
  | b :: rest => b.toNat + 256 * ofLittleEndian rest

def span : Nat → Nat
  | 0 => 1
  | width + 1 => 256 * span width

@[simp] theorem length_littleEndian (width n : Nat) : (littleEndian width n).length = width := by
  induction width generalizing n with
  | zero => rfl
  | succ width ih => simp [littleEndian, ih]

theorem ofLittleEndian_littleEndian (width n : Nat) :
    ofLittleEndian (littleEndian width n) = n % span width := by
  induction width generalizing n with
  | zero => simp [littleEndian, ofLittleEndian, span, Nat.mod_one]
  | succ width ih =>
    have low : (UInt8.ofNat (n % 256)).toNat = n % 256 := by simp
    rw [littleEndian, ofLittleEndian, ih, low, span, Nat.mod_mul]

theorem ofLittleEndian_lt (bytes : Bytes) : ofLittleEndian bytes < span bytes.length := by
  induction bytes with
  | nil => simp [ofLittleEndian, span]
  | cons b rest ih =>
    have := b.toNat_lt
    simp only [ofLittleEndian, List.length_cons, span]
    omega

theorem littleEndian_ofLittleEndian (bytes : Bytes) :
    littleEndian bytes.length (ofLittleEndian bytes) = bytes := by
  induction bytes with
  | nil => rfl
  | cons b rest ih =>
    have := b.toNat_lt
    have low : (b.toNat + 256 * ofLittleEndian rest) % 256 = b.toNat := by omega
    have high : (b.toNat + 256 * ofLittleEndian rest) / 256 = ofLittleEndian rest := by omega
    simp [littleEndian, ofLittleEndian, low, high, ih]

structure Field (α : Type) where
  width : Nat
  toNat : α → Nat
  ofNat : Nat → α

namespace Field

variable {α : Type}

def write (field : Field α) (value : α) : Bytes :=
  littleEndian field.width (field.toNat value)

def read (field : Field α) (bytes : Bytes) : Option (α × Bytes) :=
  if field.width ≤ bytes.length then
    some (field.ofNat (ofLittleEndian (bytes.take field.width)), bytes.drop field.width)
  else none

@[simp] theorem length_write (field : Field α) (value : α) :
    (field.write value).length = field.width :=
  length_littleEndian _ _

/-- Values that survive the field's digits survive the wire, whatever follows them. -/
theorem read_write (field : Field α) (value : α) (rest : Bytes)
    (h : field.ofNat (field.toNat value % span field.width) = value) :
    field.read (field.write value ++ rest) = some (value, rest) := by
  have taken : (field.write value ++ rest).take field.width = field.write value := by
    simp [List.take_left']
  have left : (field.write value ++ rest).drop field.width = rest := by
    simp [List.drop_left']
  rw [read, taken, left, if_pos (by simp), write, ofLittleEndian_littleEndian, h]

end Field

def byteField : Field UInt8 := ⟨1, UInt8.toNat, UInt8.ofNat⟩

def shortField : Field Int16 := ⟨2, fun n => n.toUInt16.toNat, fun n => (UInt16.ofNat n).toInt16⟩

/-- The bits of a float on the wire. -/
structure FloatWord where
  bits : UInt32
  deriving DecidableEq, Repr

namespace FloatWord

def value (word : FloatWord) : Float32 := Float32.ofBits word.bits

def ofSingle (x : Float32) : FloatWord := ⟨x.toBits⟩

instance : Coe Float32 FloatWord := ⟨ofSingle⟩

def normal (word : FloatWord) : FloatWord := ofSingle word.value

end FloatWord

def floatField : Field FloatWord := ⟨4, fun word => word.bits.toNat, fun n => ⟨UInt32.ofNat n⟩⟩

theorem byteField_write (b : UInt8) : byteField.write b = [b] := by
  simp [Field.write, littleEndian, byteField]

theorem byteField_read_write (b : UInt8) (rest : Bytes) :
    byteField.read (byteField.write b ++ rest) = some (b, rest) :=
  Field.read_write _ _ _ (by
    have := b.toNat_lt
    simp [byteField, span])

theorem shortField_read_write (n : Int16) (rest : Bytes) :
    shortField.read (shortField.write n ++ rest) = some (n, rest) :=
  Field.read_write _ _ _ (by
    have := n.toUInt16.toNat_lt
    have small : n.toUInt16.toNat % span 2 = n.toUInt16.toNat := Nat.mod_eq_of_lt (by simpa [span])
    simp only [shortField, small, UInt16.ofNat_toNat]
    rfl)

theorem floatField_read_write (word : FloatWord) (rest : Bytes) :
    floatField.read (floatField.write word ++ rest) = some (word, rest) :=
  Field.read_write _ _ _ (by
    have := word.bits.toNat_lt
    simp [floatField, span])

end Rover.Wire
