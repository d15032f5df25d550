import Rover.Numeric.Decimal
import Rover.Text.Quoted
import Rover.Wire.Field

/-!
# Messages to the host

A message names its fields in a terse format, one letter each: `c` a byte, `h` a short, `f` a
float. The first letter stands for the tag. On the wire a frame is

    length | format | 0 | tag | payload

where the length counts what follows it. A message is made from its format and its tag, and then its
fields are added one by one; nothing compares them with the format. `Message.decode` takes one frame
off the front and `Message.fields` renders its payload as the format directs.
-/

namespace Rover.Wire
set_option autoImplicit false

inductive Value where
  | byte (b : UInt8)
  | short (n : Int16)
  | float (word : FloatWord)
  deriving DecidableEq, Repr

namespace Value

def letter : Value → Char
  | .byte _ => 'c'
  | .short _ => 'h'
  | .float _ => 'f'

def write : Value → Bytes
  | .byte b => byteField.write b
  | .short n => shortField.write n
  | .float word => floatField.write word

def read? (letter : Char) (bytes : Bytes) : Option (Value × Bytes) :=
  match letter with
  | 'c' => (byteField.read bytes).map fun (b, rest) => (.byte b, rest)
  | 'h' => (shortField.read bytes).map fun (n, rest) => (.short n, rest)
  | 'f' => (floatField.read bytes).map fun (word, rest) => (.float word, rest)
  | _ => none

/-- Reads as many values as the letters and the bytes allow, and gives the bytes left over. -/
def readAll : List Char → Bytes → List Value × Bytes
  | [], bytes => ([], bytes)
  | letter :: letters, bytes =>
    match read? letter bytes with
    | none => ([], bytes)
    | some (value, rest) =>
      let (values, left) := readAll letters rest
      (value :: values, left)

def text : Value → String
  | .byte b => if 0x20 ≤ b && b ≤ 0x7e then (Char.ofUInt8 b).toString else Text.hexByte b
  | .short n => toString n.toInt
  | .float word => Decimal.ofSingle word.value

end Value

structure Message where
  format : String
  tag : UInt8
  payload : Bytes
  deriving DecidableEq

namespace Message

def warningTag : UInt8 := '!'.toUInt8

def bytes (text : String) : Bytes := text.toUTF8.data.toList

def blank (format : String) (tag : UInt8) : Message := ⟨format, tag, []⟩

def withByte (m : Message) (b : UInt8) : Message := { m with payload := m.payload ++ byteField.write b }

def withShort (m : Message) (n : Int16) : Message := { m with payload := m.payload ++ shortField.write n }

def withFloat (m : Message) (word : FloatWord) : Message :=
  { m with payload := m.payload ++ floatField.write word }

def withBytes (m : Message) (data : Bytes) : Message := { m with payload := m.payload ++ data }

def badInput (command : UInt8) : Message := (blank "cc" command).withByte '?'.toUInt8

def float (tag : UInt8) (word : FloatWord) : Message := (blank "cf" tag).withFloat word

def time (tag action : UInt8) (seconds : FloatWord) : Message :=
  ((blank "ccf" tag).withByte action).withFloat seconds

def batteryLow (volts : FloatWord) : Message :=
  ((blank "ccccccccf" warningTag).withBytes (bytes "BAT LOW")).withFloat volts

def powerOff (volts : FloatWord) : Message :=
  ((blank "ccccccccccf" warningTag).withBytes (bytes "POWER OFF")).withFloat volts

def byteFormat : String := "cccccccccccccccc"

/-- At most fifteen bytes of text. -/
def text (tag : UInt8) (text : String) : Message :=
  let length := min ((bytes text).length + 1) byteFormat.length
  (blank (String.ofList (byteFormat.toList.take length)) tag).withBytes ((bytes text).take (length - 1))

def counts (tag : UInt8) (left right : FloatWord) : Message :=
  ((blank "cff" tag).withFloat left).withFloat right

def status (tag : UInt8) (seconds : FloatWord) (dutyLeft dutyRight countLeft countRight : Int16) : Message :=
  (((((blank "cfhhhh" tag).withFloat seconds).withShort dutyLeft).withShort dutyRight).withShort
    countLeft).withShort countRight

def reflections (tag left right : UInt8) : Message := ((blank "ccc" tag).withByte left).withByte right

def travel (left right : FloatWord) (dutyLeft dutyRight : Int16) : Message :=
  ((((blank "cffhh" warningTag).withFloat left).withFloat right).withShort dutyLeft).withShort dutyRight

def duties (left right : Int16) : Message := ((blank "chh" warningTag).withShort left).withShort right

def encodedLength (m : Message) : Nat := 1 + (bytes m.format).length + 1 + 1 + m.payload.length

/-- The length byte keeps only the low eight bits. -/
def encode (m : Message) : Bytes :=
  UInt8.ofNat (m.encodedLength - 1) :: bytes m.format ++ 0 :: m.tag :: m.payload

def ofBody? (body : Bytes) : Option Message :=
  match body.dropWhile (· != 0) with
  | _ :: tag :: payload =>
    (String.fromUTF8? (body.takeWhile (· != 0)).toByteArray).map fun format => ⟨format, tag, payload⟩
  | _ => none

def decode : Bytes → Option (Message × Nat)
  | [] => none
  | length :: rest =>
    if length.toNat ≤ rest.length then
      (ofBody? (rest.take length.toNat)).map (·, length.toNat + 1)
    else none

theorem length_drop_lt_of_decode {input : Bytes} {m : Message} {used : Nat}
    (h : decode input = some (m, used)) : (input.drop used).length < input.length := by
  match input with
  | [] => simp [decode] at h
  | length :: rest =>
    simp only [decode] at h
    split at h
    · obtain ⟨_, _, hm⟩ := Option.map_eq_some_iff.mp h
      cases hm
      simp only [List.drop_succ_cons, List.length_drop, List.length_cons]
      omega
    · cases h

def decodeAll (input : Bytes) : List (Message × Nat) × Bytes :=
  match _h : decode input with
  | none => ([], input)
  | some (m, used) =>
    let (more, left) := decodeAll (input.drop used)
    ((m, used) :: more, left)
termination_by input.length
decreasing_by exact length_drop_lt_of_decode _h

/-- The payload read as the format directs, as text; it ends at the first field that cannot be
read. -/
def fields (m : Message) : List String :=
  (Value.readAll (m.format.toList.drop 1) m.payload).1.map Value.text

end Message

end Rover.Wire
