import Rover.Wire.Message

/-!
# Framing of messages

A frame can be told from whatever follows it as long as its format holds no zero and its length fits
the length byte; so messages that all do so come back from the concatenation of their frames. Nothing
less than the frame is read, and whatever is read is a frame, so that decoding over and over takes
frames off the front until none is left there.
-/

namespace Rover.Wire
set_option autoImplicit false

namespace Message

theorem bytes_eq (text : String) : (bytes text).toByteArray = text.toByteArray := by
  apply ByteArray.ext
  apply Array.toList_inj.mp
  exact List.toList_data_toByteArray

theorem fromUTF8?_bytes (text : String) : String.fromUTF8? (bytes text).toByteArray = some text := by
  rw [bytes_eq, String.fromUTF8?, dif_pos text.isValidUTF8]
  rfl

theorem bytes_ofList (letters : List Char) :
    bytes (String.ofList letters) = letters.flatMap String.utf8EncodeChar :=
  List.toList_data_toByteArray

/-- A message that a frame can hold. -/
structure Framed (m : Message) : Prop where
  noZero : 0 ∉ bytes m.format
  fits : m.encodedLength ≤ 256

def body (m : Message) : Bytes := bytes m.format ++ 0 :: m.tag :: m.payload

theorem encode_eq (m : Message) : m.encode = UInt8.ofNat (m.encodedLength - 1) :: m.body := rfl

theorem length_body (m : Message) : m.body.length + 1 = m.encodedLength := by
  simp only [body, encodedLength, List.length_append, List.length_cons]
  omega

theorem length_encode (m : Message) : m.encode.length = m.encodedLength := m.length_body

theorem toNat_lengthByte {m : Message} (fits : m.encodedLength ≤ 256) :
    (UInt8.ofNat (m.encodedLength - 1)).toNat = m.body.length := by
  have := m.length_body
  rw [UInt8.toNat_ofNat']
  omega

theorem ofBody?_body {m : Message} (noZero : 0 ∉ bytes m.format) : ofBody? m.body = some m := by
  have whole : ∀ b ∈ bytes m.format, (b != 0) = true := by
    intro b hb
    simp only [bne_iff_ne, ne_eq]
    rintro rfl
    exact noZero hb
  have dropped : m.body.dropWhile (· != 0) = 0 :: m.tag :: m.payload := by
    rw [body, List.dropWhile_append_of_pos whole]
    rfl
  have taken : m.body.takeWhile (· != 0) = bytes m.format := by
    rw [body, List.takeWhile_append_of_pos whole]
    exact List.append_nil _
  simp only [ofBody?, dropped, taken, fromUTF8?_bytes, Option.map_some]

theorem decode_encode_append {m : Message} (h : m.Framed) (rest : Bytes) :
    decode (m.encode ++ rest) = some (m, m.encodedLength) := by
  have room : m.body.length ≤ (m.body ++ rest).length := by
    rw [List.length_append]
    omega
  rw [encode_eq, List.cons_append, decode, toNat_lengthByte h.fits, if_pos room, List.take_left,
    ofBody?_body h.noZero, Option.map_some, length_body]

theorem decodeAll_nil : decodeAll [] = ([], []) := by
  rw [decodeAll]
  rfl

theorem decodeAll_encode_append {m : Message} (h : m.Framed) (rest : Bytes) :
    decodeAll (m.encode ++ rest) = ((m, m.encodedLength) :: (decodeAll rest).1, (decodeAll rest).2) := by
  rw [decodeAll]
  split
  · next none =>
    rw [decode_encode_append h] at none
    cases none
  · next found =>
    rw [decode_encode_append h] at found
    cases found
    rw [List.drop_left' m.length_encode]

theorem decodeAll_encodings {messages : List Message} (h : ∀ m ∈ messages, m.Framed) :
    decodeAll (messages.flatMap encode) = (messages.map fun m => (m, m.encodedLength), []) := by
  induction messages with
  | nil => exact decodeAll_nil
  | cons m messages ih =>
    obtain ⟨first, more⟩ := List.forall_mem_cons.mp h
    rw [List.flatMap_cons, decodeAll_encode_append first, ih more]
    rfl

theorem decode_part {m : Message} (fits : m.encodedLength ≤ 256) {part : Bytes} (before : part <+: m.encode)
    (proper : part ≠ m.encode) : decode part = none := by
  cases part with
  | nil => rfl
  | cons length rest =>
    rw [encode_eq] at before proper
    obtain ⟨rfl, hRest⟩ := List.cons_prefix_cons.mp before
    have short : rest.length ≠ m.body.length := fun same => proper (congrArg _ (hRest.eq_of_length same))
    have below := hRest.length_le
    rw [decode, toNat_lengthByte fits, if_neg (by omega)]

theorem bytes_of_fromUTF8? {letters : Bytes} {text : String}
    (h : String.fromUTF8? letters.toByteArray = some text) : bytes text = letters := by
  unfold String.fromUTF8? at h
  split at h
  · cases h
    exact List.toList_data_toByteArray
  · cases h

theorem eq_of_ofBody? {letters : Bytes} {m : Message} (h : ofBody? letters = some m) :
    letters = m.body ∧ 0 ∉ bytes m.format := by
  unfold ofBody? at h
  split at h
  · next zero tag payload dropped =>
    obtain ⟨format, hFormat, hm⟩ := Option.map_eq_some_iff.mp h
    cases hm
    have ends : zero = 0 := by
      have first := List.head?_dropWhile_not (· != 0) letters
      rw [dropped] at first
      simpa using first
    rw [body, bytes_of_fromUTF8? hFormat]
    constructor
    · calc
        letters = letters.takeWhile (· != 0) ++ letters.dropWhile (· != 0) :=
          List.takeWhile_append_dropWhile.symm
        _ = letters.takeWhile (· != 0) ++ 0 :: tag :: payload := by rw [dropped, ends]
    · intro zero
      simpa using List.all_eq_true.mp List.all_takeWhile 0 zero
  · cases h

theorem eq_of_decode {length : UInt8} {rest : Bytes} {m : Message} {used : Nat}
    (h : decode (length :: rest) = some (m, used)) :
    used = length.toNat + 1 ∧ used = m.encodedLength ∧ used ≤ rest.length + 1 ∧
      rest.take length.toNat = m.body ∧ 0 ∉ bytes m.format := by
  rw [decode] at h
  split at h
  · next room =>
    obtain ⟨_, hBody, hm⟩ := Option.map_eq_some_iff.mp h
    cases hm
    obtain ⟨hLetters, noZero⟩ := eq_of_ofBody? hBody
    have whole := congrArg List.length hLetters
    rw [List.length_take_of_le room] at whole
    exact ⟨rfl, whole ▸ m.length_body, Nat.succ_le_succ room, hLetters, noZero⟩
  · cases h

theorem framed_of_decode {input : Bytes} {m : Message} {used : Nat} (h : decode input = some (m, used)) :
    m.Framed ∧ used = m.encodedLength ∧ used ≤ input.length := by
  cases input with
  | nil => cases h
  | cons length rest =>
    obtain ⟨hUsed, hLength, room, _, noZero⟩ := eq_of_decode h
    have := length.toNat_lt
    exact ⟨⟨noZero, by omega⟩, hLength, room⟩

theorem encode_of_decode {input : Bytes} {m : Message} {used : Nat} (h : decode input = some (m, used)) :
    m.encode = input.take used := by
  cases input with
  | nil => cases h
  | cons length rest =>
    obtain ⟨hUsed, hLength, _, hBody, _⟩ := eq_of_decode h
    rw [encode_eq, ← hLength, hUsed, Nat.add_sub_cancel, UInt8.ofNat_toNat, List.take_succ_cons, hBody]

theorem three_le_encodedLength (m : Message) : 3 ≤ m.encodedLength := by
  simp only [encodedLength]
  omega

def usedBy : List (Message × Nat) → Nat
  | [] => 0
  | (_, used) :: more => used + usedBy more

/-- Messages are decoded from the front, each with its length, until none can be. -/
inductive Unframes : Bytes → List (Message × Nat) → Bytes → Prop where
  | done {input : Bytes} : decode input = none → Unframes input [] input
  | frame {input left : Bytes} {m : Message} {used : Nat} {more : List (Message × Nat)} :
      decode input = some (m, used) → Unframes (input.drop used) more left →
        Unframes input ((m, used) :: more) left

theorem unframes_decodeAll (input : Bytes) : Unframes input (decodeAll input).1 (decodeAll input).2 := by
  induction input using decodeAll.induct with
  | case1 input none =>
    rw [decodeAll, none]
    exact .done none
  | case2 input m used found more left all ih =>
    rw [decodeAll, found]
    exact .frame found ih

theorem Unframes.eq_encodings {input left : Bytes} {frames : List (Message × Nat)}
    (h : Unframes input frames left) :
    input = frames.flatMap (fun frame => frame.1.encode) ++ left ∧
      usedBy frames = (frames.flatMap fun frame => frame.1.encode).length := by
  induction h with
  | done _ => exact ⟨rfl, rfl⟩
  | @frame input left m used more found _ ih =>
    obtain ⟨_, hLength, _⟩ := framed_of_decode found
    rw [List.flatMap_cons, List.append_assoc, ← ih.1, usedBy, ih.2, List.length_append, length_encode,
      ← hLength, encode_of_decode found, List.take_append_drop]
    exact ⟨rfl, rfl⟩

theorem Unframes.three_mul_length_le {input left : Bytes} {frames : List (Message × Nat)}
    (h : Unframes input frames left) : 3 * frames.length ≤ input.length := by
  induction h with
  | done _ => exact Nat.zero_le _
  | @frame input left m used more found _ ih =>
    obtain ⟨_, hLength, room⟩ := framed_of_decode found
    have := m.three_le_encodedLength
    rw [List.length_drop] at ih
    rw [List.length_cons]
    omega

/-- A message that a frame can hold is read back from its frame, whatever follows, and from no less
than its frame. Whatever is read is a message with its frame, of three bytes at least. So decoding
again and again from the front comes to an end, and it has then used the frames of just the
messages that it gave. -/
theorem frames_round_trip :
    (∀ m : Message, 0 ∉ bytes m.format → m.encodedLength ≤ 256 →
      (∀ rest, decode (m.encode ++ rest) = some (m, m.encodedLength)) ∧
        ∀ part, part <+: m.encode → part ≠ m.encode → decode part = none) ∧
    (∀ (input : Bytes) (m : Message) (used : Nat), decode input = some (m, used) →
      3 ≤ used ∧ used ≤ input.length ∧ m.encode = input.take used) ∧
    ∀ input : Bytes, ∃ frames left, Unframes input frames left ∧ decodeAll input = (frames, left) ∧
      3 * frames.length ≤ input.length ∧
      input.take (usedBy frames) = frames.flatMap (fun frame => frame.1.encode) ∧
      left = input.drop (usedBy frames) := by
  refine ⟨?_, ?_, ?_⟩
  · intro m noZero fits
    exact ⟨decode_encode_append ⟨noZero, fits⟩, fun part => decode_part fits⟩
  · intro input m used h
    obtain ⟨_, hLength, room⟩ := framed_of_decode h
    exact ⟨hLength ▸ m.three_le_encodedLength, room, encode_of_decode h⟩
  · intro input
    have unframes := unframes_decodeAll input
    obtain ⟨all, used⟩ := unframes.eq_encodings
    refine ⟨_, _, unframes, rfl, unframes.three_mul_length_le, ?_, ?_⟩
    · rw [used]
      exact (congrArg (List.take _) all).trans List.take_left
    · rw [used]
      exact List.drop_left.symm.trans (congrArg (List.drop _) all.symm)

/-- A sum with zeros in its payload, a frame that lacks a byte, and a frame with a stray byte behind. -/
theorem frames_round_trip_sum :
    let sum : Message := ⟨"cf", '+'.toUInt8, [0, 0, 0x80, 0x3f]⟩
    let frame : Bytes := [8, 0x63, 0x66, 0, 0x2b, 0, 0, 0x80, 0x3f]
    0 ∉ bytes sum.format ∧ sum.encodedLength = 9 ∧ decode (frame ++ [5]) = some (sum, 9) ∧
      decode (frame.take 8) = none ∧ Unframes (frame ++ [5]) [(sum, 9)] [5] := by
  intro sum frame
  have noZero : 0 ∉ bytes sum.format := by decide
  obtain ⟨written, _, ends⟩ := frames_round_trip
  obtain ⟨back, part⟩ := written sum noZero (by decide)
  have encoded : sum.encode = frame := by decide
  rw [encoded] at back part
  obtain ⟨frames, left, unframes, all, _⟩ := ends (frame ++ [5])
  have found : decodeAll (frame ++ [5]) = ([(sum, 9)], [5]) := by decide +kernel
  obtain ⟨rfl, rfl⟩ := Prod.mk.inj (found.symm.trans all)
  exact ⟨noZero, by decide, back [5], part _ (List.take_prefix ..) (by decide), unframes⟩

end Message

end Rover.Wire
