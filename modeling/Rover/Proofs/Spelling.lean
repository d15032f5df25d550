import Rover.Wire.Command

/-!
# Commands and the frames that spell them

A frame is as long as its letter says, and reading it gives back the command that it was written
for, whatever comes behind it. Whatever begins with a known letter and is long enough is read, and
it begins with the frame of the command read, but that the stop command is written in lower case.
-/

namespace Rover.Wire
set_option autoImplicit false

theorem Head.frameLength_toByte (head : Head) : frameLength head.toByte = head.payloadWidth + 1 := by
  rw [frameLength, ofByte?_toByte]
  exact Nat.add_comm ..

namespace Command

theorem length_writeTail (tail : Option FloatWord) :
    (writeTail tail).length = Head.tailWidth tail.isSome := by
  cases tail with
  | none => rfl
  | some seconds => exact floatField.length_write seconds

theorem length_payload (command : Command) : command.payload.length = command.head.payloadWidth := by
  cases command with
  | restart | stop => rfl
  | arithmetic op lhs rhs => simp [payload, head, Head.payloadWidth, Nat.two_mul]
  | time action period => simp [payload, head, Head.payloadWidth, length_writeTail]
  | report stream period => exact length_writeTail period
  | duty left right limit =>
    simp only [payload, head, Head.payloadWidth, List.length_append, Field.length_write, length_writeTail]
    omega
  | drive mode linear angular limit =>
    simp only [payload, head, Head.payloadWidth, List.length_append, Field.length_write, length_writeTail]
    omega
  | avoid limit => exact length_writeTail limit

theorem length_encode (command : Command) : command.encode.length = frameLength command.head.toByte := by
  rw [encode, List.length_cons, length_payload, Head.frameLength_toByte]

theorem readTail_writeTail (tail : Option FloatWord) (rest : Bytes) :
    readTail tail.isSome (writeTail tail ++ rest) = some tail := by
  cases tail with
  | none => rfl
  | some seconds => simp [readTail, writeTail, floatField_read_write]

theorem readPayload_payload (command : Command) (rest : Bytes) :
    readPayload (command.payload ++ rest) command.head = some command := by
  cases command with
  | restart | stop => rfl
  | arithmetic op lhs rhs => simp [payload, head, readPayload, floatField_read_write]
  | time action period =>
    simp [payload, head, readPayload, byteField_read_write, readTail_writeTail]
  | report stream period => simp [payload, head, readPayload, readTail_writeTail]
  | duty left right limit =>
    simp [payload, head, readPayload, shortField_read_write, readTail_writeTail]
  | drive mode linear angular limit =>
    simp [payload, head, readPayload, floatField_read_write, readTail_writeTail]
  | avoid limit => simp [payload, head, readPayload, readTail_writeTail]

theorem decode_encode_append (command : Command) (rest : Bytes) :
    decode (command.encode ++ rest) = some command := by
  rw [encode, List.cons_append, decode, Head.ofByte?_toByte, Option.bind_some, readPayload_payload]

end Command

theorem Field.read_of_le {α : Type} (field : Field α) {bytes : Bytes} (h : field.width ≤ bytes.length) :
    ∃ value, field.read bytes = some (value, bytes.drop field.width) :=
  ⟨_, if_pos h⟩

namespace Command

theorem readTail_of_le {timed : Bool} {bytes : Bytes} (h : Head.tailWidth timed ≤ bytes.length) :
    ∃ tail, readTail timed bytes = some tail := by
  cases timed with
  | false => exact ⟨none, rfl⟩
  | true =>
    obtain ⟨seconds, hSeconds⟩ := floatField.read_of_le h
    exact ⟨some seconds, by simp [readTail, hSeconds]⟩

theorem readPayload_of_le {head : Head} {bytes : Bytes} (h : head.payloadWidth ≤ bytes.length) :
    ∃ command, readPayload bytes head = some command := by
  have after {width n : Nat} (h : width + n ≤ bytes.length) : n ≤ (bytes.drop width).length := by
    rw [List.length_drop]
    omega
  cases head with
  | restart => exact ⟨.restart, rfl⟩
  | stop => exact ⟨.stop, rfl⟩
  | arithmetic op =>
    have h : floatField.width + floatField.width ≤ bytes.length := h
    obtain ⟨lhs, hLhs⟩ := floatField.read_of_le (Nat.le_of_add_right_le h)
    obtain ⟨rhs, hRhs⟩ := floatField.read_of_le (after h)
    exact ⟨.arithmetic op lhs rhs, by simp [readPayload, hLhs, hRhs]⟩
  | time timed =>
    obtain ⟨action, hAction⟩ := byteField.read_of_le (Nat.le_of_add_right_le h)
    obtain ⟨period, hPeriod⟩ := readTail_of_le (after h)
    exact ⟨.time action period, by simp [readPayload, hAction, hPeriod]⟩
  | report stream timed =>
    obtain ⟨period, hPeriod⟩ := readTail_of_le h
    exact ⟨.report stream period, by simp [readPayload, hPeriod]⟩
  | duty timed =>
    have h : shortField.width + (shortField.width + Head.tailWidth timed) ≤ bytes.length := by
      simp only [Head.payloadWidth, shortField] at h ⊢
      omega
    obtain ⟨left, hLeft⟩ := shortField.read_of_le (Nat.le_of_add_right_le h)
    obtain ⟨right, hRight⟩ := shortField.read_of_le (Nat.le_of_add_right_le (after h))
    have h : (shortField.width + shortField.width) + Head.tailWidth timed ≤ bytes.length := by omega
    obtain ⟨limit, hLimit⟩ := readTail_of_le (after h)
    exact ⟨.duty left right limit, by simp [readPayload, hLeft, hRight, hLimit]⟩
  | drive mode timed =>
    have h : floatField.width + (floatField.width + Head.tailWidth timed) ≤ bytes.length := by
      simp only [Head.payloadWidth, floatField] at h ⊢
      omega
    obtain ⟨linear, hLinear⟩ := floatField.read_of_le (Nat.le_of_add_right_le h)
    obtain ⟨angular, hAngular⟩ := floatField.read_of_le (Nat.le_of_add_right_le (after h))
    have h : (floatField.width + floatField.width) + Head.tailWidth timed ≤ bytes.length := by omega
    obtain ⟨limit, hLimit⟩ := readTail_of_le (after h)
    exact ⟨.drive mode linear angular limit, by simp [readPayload, hLinear, hAngular, hLimit]⟩
  | avoid timed =>
    obtain ⟨limit, hLimit⟩ := readTail_of_le h
    exact ⟨.avoid limit, by simp [readPayload, hLimit]⟩

theorem decode_of_le {letter : UInt8} {rest : Bytes} (known : frameLength letter ≠ 0)
    (whole : frameLength letter ≤ rest.length + 1) : ∃ command, decode (letter :: rest) = some command := by
  unfold frameLength at known whole
  split at known
  · exact absurd rfl known
  · next head hHead =>
    rw [hHead] at whole
    have room : head.payloadWidth ≤ rest.length := by
      dsimp only at whole
      omega
    obtain ⟨command, hCommand⟩ := readPayload_of_le room
    exact ⟨command, by rw [decode, hHead, Option.bind_some, hCommand]⟩

end Command

/-- The digits of a field's values are those of numbers below its span, each once. -/
def Field.Exact {α : Type} (field : Field α) : Prop :=
  ∀ n < span field.width, field.toNat (field.ofNat n) = n

theorem Field.Exact.eq_of_read {α : Type} {field : Field α} (exact : field.Exact) {bytes rest : Bytes}
    {value : α} (h : field.read bytes = some (value, rest)) : bytes = field.write value ++ rest := by
  rw [Field.read] at h
  split at h
  · next whole =>
    cases h
    have length : (bytes.take field.width).length = field.width := List.length_take_of_le whole
    have below := ofLittleEndian_lt (bytes.take field.width)
    have written := littleEndian_ofLittleEndian (bytes.take field.width)
    rw [length] at below written
    rw [Field.write, exact _ below, written, List.take_append_drop]
  · cases h

theorem byteField_exact : byteField.Exact := fun _ h => UInt8.toNat_ofNat_of_lt' h

theorem shortField_exact : shortField.Exact := by
  intro n h
  have wide : (UInt16.ofNat n).toInt16.toUInt16 = UInt16.ofNat n := rfl
  exact (congrArg UInt16.toNat wide).trans (UInt16.toNat_ofNat_of_lt' h)

theorem floatField_exact : floatField.Exact := fun _ h => UInt32.toNat_ofNat_of_lt' h

namespace Head

/-- A stop is read in either case and written in lower case. -/
def written (letter : UInt8) : UInt8 := if letter = 'S'.toUInt8 then 's'.toUInt8 else letter

theorem toByte_of_ofByte? {letter : UInt8} {head : Head} (h : ofByte? letter = some head) :
    head.toByte = written letter := by
  have back : (Char.ofUInt8 letter).toUInt8 = letter := UInt8.toUInt8_toUInt32 letter
  rw [← back]
  unfold ofByte? ofChar? at h
  split at h <;> cases h
  all_goals next hChar =>
    rw [hChar]
    rfl

end Head

namespace Command

theorem eq_of_readTail {timed : Bool} {bytes : Bytes} {tail : Option FloatWord}
    (h : readTail timed bytes = some tail) : tail.isSome = timed ∧ ∃ rest, bytes = writeTail tail ++ rest := by
  cases timed with
  | false =>
    cases h
    exact ⟨rfl, bytes, rfl⟩
  | true =>
    obtain ⟨⟨seconds, rest⟩, hSeconds, hTail⟩ := Option.map_eq_some_iff.mp h
    cases hTail
    exact ⟨rfl, rest, floatField_exact.eq_of_read hSeconds⟩

theorem eq_of_readPayload {head : Head} {bytes : Bytes} {command : Command}
    (h : readPayload bytes head = some command) :
    command.head = head ∧ ∃ rest, bytes = command.payload ++ rest := by
  cases head with
  | restart | stop =>
    cases h
    exact ⟨rfl, bytes, rfl⟩
  | arithmetic op =>
    obtain ⟨⟨lhs, more⟩, hLhs, h⟩ := Option.bind_eq_some_iff.mp h
    obtain ⟨⟨rhs, rest⟩, hRhs, h⟩ := Option.bind_eq_some_iff.mp h
    cases h
    refine ⟨rfl, rest, ?_⟩
    rw [floatField_exact.eq_of_read hLhs, floatField_exact.eq_of_read hRhs, payload, List.append_assoc]
  | time timed =>
    obtain ⟨⟨action, more⟩, hAction, h⟩ := Option.bind_eq_some_iff.mp h
    obtain ⟨period, hPeriod, h⟩ := Option.bind_eq_some_iff.mp h
    cases h
    obtain ⟨same, rest, hRest⟩ := eq_of_readTail hPeriod
    refine ⟨congrArg Head.time same, rest, ?_⟩
    rw [byteField_exact.eq_of_read hAction, hRest, payload, List.append_assoc]
  | report stream timed =>
    obtain ⟨period, hPeriod, h⟩ := Option.map_eq_some_iff.mp h
    cases h
    obtain ⟨same, rest, hRest⟩ := eq_of_readTail hPeriod
    exact ⟨congrArg (Head.report stream) same, rest, hRest⟩
  | duty timed =>
    obtain ⟨⟨left, more⟩, hLeft, h⟩ := Option.bind_eq_some_iff.mp h
    obtain ⟨⟨right, more⟩, hRight, h⟩ := Option.bind_eq_some_iff.mp h
    obtain ⟨limit, hLimit, h⟩ := Option.bind_eq_some_iff.mp h
    cases h
    obtain ⟨same, rest, hRest⟩ := eq_of_readTail hLimit
    refine ⟨congrArg Head.duty same, rest, ?_⟩
    rw [shortField_exact.eq_of_read hLeft, shortField_exact.eq_of_read hRight, hRest, payload,
      List.append_assoc, List.append_assoc]
  | drive mode timed =>
    obtain ⟨⟨linear, more⟩, hLinear, h⟩ := Option.bind_eq_some_iff.mp h
    obtain ⟨⟨angular, more⟩, hAngular, h⟩ := Option.bind_eq_some_iff.mp h
    obtain ⟨limit, hLimit, h⟩ := Option.bind_eq_some_iff.mp h
    cases h
    obtain ⟨same, rest, hRest⟩ := eq_of_readTail hLimit
    refine ⟨congrArg (Head.drive mode) same, rest, ?_⟩
    rw [floatField_exact.eq_of_read hLinear, floatField_exact.eq_of_read hAngular, hRest, payload,
      List.append_assoc, List.append_assoc]
  | avoid timed =>
    obtain ⟨limit, hLimit, h⟩ := Option.map_eq_some_iff.mp h
    cases h
    obtain ⟨same, rest, hRest⟩ := eq_of_readTail hLimit
    exact ⟨congrArg Head.avoid same, rest, hRest⟩

theorem eq_of_decode {letter : UInt8} {rest : Bytes} {command : Command}
    (h : decode (letter :: rest) = some command) :
    Head.ofByte? letter = some command.head ∧ ∃ behind, rest = command.payload ++ behind := by
  obtain ⟨head, hHead, hPayload⟩ := Option.bind_eq_some_iff.mp h
  obtain ⟨same, behind⟩ := eq_of_readPayload hPayload
  exact ⟨same ▸ hHead, behind⟩

theorem frameLength_of_decode {letter : UInt8} {rest : Bytes} {command : Command}
    (h : decode (letter :: rest) = some command) : frameLength letter = command.payload.length + 1 := by
  rw [frameLength, (eq_of_decode h).1, length_payload]
  exact Nat.add_comm ..

theorem exists_decode_iff {input : Bytes} :
    (∃ command, decode input = some command) ↔
      ∃ letter, input.head? = some letter ∧ frameLength letter ≠ 0 ∧ frameLength letter ≤ input.length := by
  cases input with
  | nil => exact iff_of_false nofun nofun
  | cons letter rest =>
    constructor
    · rintro ⟨command, h⟩
      obtain ⟨_, behind, hRest⟩ := eq_of_decode h
      refine ⟨letter, rfl, ?_, ?_⟩
      · rw [frameLength_of_decode h]
        omega
      · rw [frameLength_of_decode h, hRest, List.length_cons, List.length_append]
        omega
    · rintro ⟨_, first, known, whole⟩
      cases first
      exact decode_of_le known whole

theorem encode_of_decode {letter : UInt8} {rest : Bytes} {command : Command}
    (h : decode (letter :: rest) = some command) :
    command.encode = Head.written letter :: rest.take (frameLength letter - 1) := by
  obtain ⟨hHead, behind, hRest⟩ := eq_of_decode h
  rw [frameLength_of_decode h, Nat.add_sub_cancel, hRest, List.take_left, encode, Head.toByte_of_ofByte? hHead]

/-- Every command is written with just the bytes that its letter announces, and is read back with
all bits of its floats, whatever comes behind. Exactly those bytes are read that begin with a known
letter and do not end before the frame does; and what was read is written with the bytes of that
frame again, but for the stop command that came in upper case. -/
theorem encode_inverts_decode :
    (∀ (command : Command) (rest : Bytes),
      (∃ letter, command.encode.head? = some letter ∧ command.encode.length = frameLength letter) ∧
        decode (command.encode ++ rest) = some command) ∧
    (∀ input : Bytes, (∃ command, decode input = some command) ↔
      ∃ letter, input.head? = some letter ∧ frameLength letter ≠ 0 ∧ frameLength letter ≤ input.length) ∧
    ∀ (letter : UInt8) (rest : Bytes) (command : Command), decode (letter :: rest) = some command →
      command.encode =
        if letter = 'S'.toUInt8 then ['s'.toUInt8] else (letter :: rest).take (frameLength letter) := by
  refine ⟨?_, fun _ => exists_decode_iff, ?_⟩
  · intro command rest
    exact ⟨⟨command.head.toByte, rfl, command.length_encode⟩, command.decode_encode_append rest⟩
  · intro letter rest command h
    rw [encode_of_decode h]
    split
    · next upper =>
      subst upper
      rfl
    · next other =>
      rw [Head.written, if_neg other, frameLength_of_decode h]
      rfl

/-- A drive with a limit that is no number, and another frame behind it; a frame that lacks a byte;
and a stop in upper case. -/
theorem encode_inverts_decode_drive :
    let drive : Command := .drive .velocity ⟨0x3dcccccd⟩ ⟨0x80000000⟩ (some ⟨0x7fc00001⟩)
    let frame : Bytes := [0x56, 0xcd, 0xcc, 0xcc, 0x3d, 0, 0, 0, 0x80, 1, 0, 0xc0, 0x7f]
    drive.encode = frame ∧ decode (frame ++ [0x62]) = some drive ∧ decode frame.dropLast = none ∧
      Command.stop.encode = [0x73] := by
  intro drive frame
  obtain ⟨_, readable, again⟩ := encode_inverts_decode
  have read : decode (frame ++ [0x62]) = some drive := by decide
  refine ⟨again 0x56 _ drive read, read, ?_, again 0x53 [] .stop (by decide)⟩
  rw [Option.eq_none_iff_forall_ne_some]
  intro command h
  obtain ⟨letter, first, _, whole⟩ := (readable frame.dropLast).mp ⟨command, h⟩
  cases first
  revert whole
  decide

end Command

end Rover.Wire
