import Rover.Proofs.Framing

/-!
# What a payload holds

A message holds certain values if its format announces just them and its payload spells just them. Each
field that is added to a message adds its value to what the payload spells; whether the format goes with
them has to be seen for every message anew. A message that holds values is as long as its format says,
can be framed unless it is very long, and its payload reads back as just those values. Each of them is
shown as a text of its kind.
-/

namespace Rover.Wire
set_option autoImplicit false

namespace Value

def announced : Char → Nat
  | 'c' => 1
  | 'h' => 2
  | 'f' => 4
  | _ => 0

def announcedAll : List Char → Nat
  | [] => 0
  | letter :: letters => announced letter + announcedAll letters

theorem length_write (value : Value) : value.write.length = announced value.letter := by
  cases value <;> exact Field.length_write ..

theorem announced_le (letter : Char) : announced letter ≤ 4 := by
  unfold announced
  split <;> decide

theorem length_payload (values : List Value) :
    (values.flatMap write).length = announcedAll (values.map letter) := by
  induction values with
  | nil => rfl
  | cons value values ih =>
    rw [List.flatMap_cons, List.length_append, length_write, ih, List.map_cons, announcedAll]

theorem read?_write (value : Value) (rest : Bytes) :
    read? value.letter (value.write ++ rest) = some (value, rest) := by
  cases value with
  | byte b => simp [read?, letter, write, byteField_read_write]
  | short n => simp [read?, letter, write, shortField_read_write]
  | float word => simp [read?, letter, write, floatField_read_write]

theorem readAll_payload (values : List Value) :
    readAll (values.map letter) (values.flatMap write) = (values, []) := by
  induction values with
  | nil => rfl
  | cons value values ih =>
    rw [List.map_cons, List.flatMap_cons, readAll, read?_write]
    dsimp only
    rw [ih]

theorem length_payload_le (values : List Value) : (values.flatMap write).length ≤ 4 * values.length := by
  induction values with
  | nil => exact Nat.le_refl 0
  | cons value values ih =>
    have := announced_le value.letter
    rw [List.flatMap_cons, List.length_append, List.length_cons, length_write]
    omega

theorem flatMap_write_bytes (data : Bytes) : (data.map byte).flatMap write = data := by
  induction data with
  | nil => rfl
  | cons b data ih =>
    rw [List.map_cons, List.flatMap_cons, ih, write, byteField_write]
    rfl

def digit (n : Nat) : Char := "0123456789ABCDEF".toList.getD n '0'

/-- How a value is shown: a byte as the character it is or else by its two digits, a short and a float in decimal. -/
inductive Shown : Value → String → Prop where
  | character {b : UInt8} : 0x20 ≤ b → b ≤ 0x7e → Shown (.byte b) (String.ofList [Char.ofUInt8 b])
  | digits {b : UInt8} : ¬ (0x20 ≤ b ∧ b ≤ 0x7e) →
      Shown (.byte b) (String.ofList ['0', 'x', digit (b.toNat / 16), digit (b.toNat % 16)])
  | whole (n : Int16) : Shown (.short n) (toString n.toInt)
  | decimal (word : FloatWord) : Shown (.float word) (Decimal.ofSingle word.value)

theorem hexByte_eq (b : UInt8) :
    Text.hexByte b = String.ofList ['0', 'x', digit (b.toNat / 16), digit (b.toNat % 16)] := by
  have all : ∀ n : Fin 256, Text.hexByte (UInt8.ofNat n) =
      String.ofList ['0', 'x', digit (n / 16), digit (n % 16)] := by decide +kernel
  have same := all ⟨b.toNat, b.toNat_lt⟩
  rwa [UInt8.ofNat_toNat] at same

theorem shown_text (value : Value) : Shown value value.text := by
  cases value with
  | byte b =>
    rw [text]
    split
    · next printable =>
      rw [Bool.and_eq_true, decide_eq_true_eq, decide_eq_true_eq] at printable
      exact .character printable.1 printable.2
    · next other =>
      rw [Bool.and_eq_true, decide_eq_true_eq, decide_eq_true_eq] at other
      rw [hexByte_eq]
      exact .digits other
  | short n => exact .whole n
  | float word => exact .decimal word

end Value

namespace Message

/-- Bytes of payload that the format announces, from its second letter on. -/
def announced (m : Message) : Nat := Value.announcedAll (m.format.toList.drop 1)

def Spells (m : Message) (values : List Value) : Prop := m.payload = values.flatMap Value.write

/-- The format announces just the values that the payload spells. -/
structure Holds (m : Message) (values : List Value) : Prop where
  format : m.format.toList = 'c' :: values.map Value.letter
  spells : m.Spells values

section Fields

variable {m : Message} {values : List Value}

theorem spells_blank (format : String) (tag : UInt8) : (blank format tag).Spells [] := rfl

theorem Spells.append {more : List Value} (h : m.Spells values) {data : Bytes}
    (spelled : data = more.flatMap Value.write) :
    Spells { m with payload := m.payload ++ data } (values ++ more) := by
  unfold Spells at h ⊢
  rw [List.flatMap_append, ← h, spelled]

theorem Spells.withByte (h : m.Spells values) (b : UInt8) : (m.withByte b).Spells (values ++ [.byte b]) :=
  h.append (List.append_nil _).symm

theorem Spells.withShort (h : m.Spells values) (n : Int16) : (m.withShort n).Spells (values ++ [.short n]) :=
  h.append (List.append_nil _).symm

theorem Spells.withFloat (h : m.Spells values) (word : FloatWord) :
    (m.withFloat word).Spells (values ++ [.float word]) :=
  h.append (List.append_nil _).symm

theorem Spells.withBytes (h : m.Spells values) (data : Bytes) :
    (m.withBytes data).Spells (values ++ data.map .byte) :=
  h.append (Value.flatMap_write_bytes data).symm

end Fields

namespace Holds

variable {m : Message} {values : List Value} (h : m.Holds values)
include h

theorem letters : m.format.toList.drop 1 = values.map Value.letter := by
  rw [h.format, List.drop_succ_cons, List.drop_zero]

theorem length_payload : m.payload.length = m.announced := by
  rw [announced, h.letters, h.spells]
  exact Value.length_payload values

theorem readAll : Value.readAll (m.format.toList.drop 1) m.payload = (values, []) := by
  rw [h.letters, h.spells]
  exact Value.readAll_payload values

theorem fields : m.fields = values.map Value.text := by
  rw [Message.fields, h.readAll]

theorem bytes_format : bytes m.format = 'c'.toUInt8 :: values.map (·.letter.toUInt8) := by
  have ascii (value : Value) : String.utf8EncodeChar value.letter = [value.letter.toUInt8] := by
    cases value <;> rfl
  have spelled : bytes m.format = m.format.toList.flatMap String.utf8EncodeChar := by
    rw [← bytes_ofList, String.ofList_toList]
  rw [spelled, h.format, List.flatMap_cons, List.flatMap_map]
  simp only [ascii, ← List.map_eq_flatMap]
  rfl

theorem zero_not_mem_format : 0 ∉ bytes m.format := by
  rw [h.bytes_format]
  intro zero
  rcases List.mem_cons.mp zero with first | later
  · revert first
    decide
  · obtain ⟨value, _, letter⟩ := List.mem_map.mp later
    cases value with
    | byte b => exact absurd letter (show 'c'.toUInt8 ≠ 0 by decide)
    | short n => exact absurd letter (show 'h'.toUInt8 ≠ 0 by decide)
    | float word => exact absurd letter (show 'f'.toUInt8 ≠ 0 by decide)

/-- Four bytes of frame around the values, and at most five for each of them. -/
theorem encodedLength_le : m.encodedLength ≤ 4 + 5 * values.length := by
  have payload : m.payload.length ≤ 4 * values.length := by
    rw [h.spells]
    exact Value.length_payload_le values
  have format : (bytes m.format).length = 1 + values.length := by
    rw [h.bytes_format, List.length_cons, List.length_map]
    omega
  rw [encodedLength]
  omega

theorem framed (short : values.length ≤ 50) : m.Framed where
  noZero := h.zero_not_mem_format
  fits := by
    have := h.encodedLength_le
    omega

end Holds

end Message

end Rover.Wire
