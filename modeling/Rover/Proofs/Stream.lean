import Rover.Proofs.Payload
import Rover.Proofs.Transmission

/-!
# The stream of messages

The robot's messages are few, and each is put together where it is sent, its format written out beside
the fields that are added. In all of them the one goes with the other, and all are short. So the host can
tell every frame from the next and read all that is in it.
-/

namespace Rover
open Motion Wire
set_option autoImplicit false

namespace Wire.Message

/-- The formats of the messages that the robot sends, tag first. -/
def formats : List String :=
  ["cc", "cf", "ccf", "ccccccccf", "ccccccccccf", "cff", "ccc", "cfhhhh", "cffhh", "chh", "ccccccc", "ccccc"]

structure Standard (m : Message) : Prop where
  known : m.format ∈ formats
  holds : ∃ values, m.Holds values

/-- The payload is as long as the format says, the frame as long as its length byte says, and the fields are
those of the format, each shown, with nothing of the payload left over. -/
structure Legible (m : Message) : Prop where
  known : m.format ∈ formats
  length : m.payload.length = m.announced
  fits : m.encodedLength ≤ 256
  fields : ∃ values : List Value, values.map Value.letter = m.format.toList.drop 1 ∧
    values.flatMap Value.write = m.payload ∧
    Value.readAll (m.format.toList.drop 1) m.payload = (values, []) ∧ List.Forall₂ Value.Shown values m.fields

theorem Standard.framed {m : Message} (h : m.Standard) : m.Framed := by
  obtain ⟨known, values, holds⟩ := h
  have short : ∀ format ∈ formats, format.toList.length ≤ 11 := by decide
  have length : m.format.toList.length = 1 + values.length := by
    rw [holds.format, List.length_cons, List.length_map]
    omega
  have := short m.format known
  exact holds.framed (by omega)

theorem Standard.legible {m : Message} (h : m.Standard) : m.Legible := by
  have fits := h.framed.fits
  obtain ⟨known, values, holds⟩ := h
  refine ⟨known, holds.length_payload, fits, values, holds.letters.symm, holds.spells.symm, holds.readAll, ?_⟩
  rw [holds.fields, List.forall₂_map_right_iff, List.forall₂_same]
  exact fun value _ => value.shown_text

/-- A format of the robot, with these letters behind that of the tag. -/
def Announces (format : String) (letters : List Char) : Prop := format ∈ formats ∧ format.toList = 'c' :: letters

instance (format : String) (letters : List Char) : Decidable (Announces format letters) :=
  inferInstanceAs (Decidable (_ ∧ _))

theorem Spells.standard {m : Message} {values : List Value} (h : m.Spells values) (letters : List Char)
    (announced : Announces m.format letters) (same : values.map Value.letter = letters) : m.Standard :=
  ⟨announced.1, values, same ▸ announced.2, h⟩

section Shapes

variable (tag : UInt8)

theorem standard_badInput : (badInput tag).Standard :=
  ((spells_blank _ _).withByte _).standard ['c'] (show Announces "cc" _ by decide) rfl

theorem standard_float (word : FloatWord) : (float tag word).Standard :=
  ((spells_blank _ _).withFloat _).standard ['f'] (show Announces "cf" _ by decide) rfl

theorem standard_time (action : UInt8) (seconds : FloatWord) : (time tag action seconds).Standard :=
  (((spells_blank _ _).withByte _).withFloat _).standard ['c', 'f'] (show Announces "ccf" _ by decide) rfl

theorem standard_batteryLow (volts : FloatWord) : (batteryLow volts).Standard :=
  (((spells_blank _ _).withBytes _).withFloat _).standard (List.replicate 7 'c' ++ ['f'])
    (show Announces "ccccccccf" _ by decide) rfl

theorem standard_powerOff (volts : FloatWord) : (powerOff volts).Standard :=
  (((spells_blank _ _).withBytes _).withFloat _).standard (List.replicate 9 'c' ++ ['f'])
    (show Announces "ccccccccccf" _ by decide) rfl

theorem standard_counts (left right : FloatWord) : (counts tag left right).Standard :=
  (((spells_blank _ _).withFloat _).withFloat _).standard ['f', 'f'] (show Announces "cff" _ by decide) rfl

theorem standard_status (seconds : FloatWord) (dutyLeft dutyRight countLeft countRight : Int16) :
    (status tag seconds dutyLeft dutyRight countLeft countRight).Standard :=
  ((((((spells_blank _ _).withFloat _).withShort _).withShort _).withShort _).withShort _).standard
    ['f', 'h', 'h', 'h', 'h'] (show Announces "cfhhhh" _ by decide) rfl

theorem standard_reflections (left right : UInt8) : (reflections tag left right).Standard :=
  (((spells_blank _ _).withByte _).withByte _).standard ['c', 'c'] (show Announces "ccc" _ by decide) rfl

theorem standard_travel (left right : FloatWord) (dutyLeft dutyRight : Int16) :
    (travel left right dutyLeft dutyRight).Standard :=
  (((((spells_blank _ _).withFloat _).withFloat _).withShort _).withShort _).standard
    ['f', 'f', 'h', 'h'] (show Announces "cffhh" _ by decide) rfl

theorem standard_duties (left right : Int16) : (duties left right).Standard :=
  (((spells_blank _ _).withShort _).withShort _).standard ['h', 'h'] (show Announces "chh" _ by decide) rfl

theorem length_byteFormat : byteFormat.length = 16 := by decide

/-- As many letters as there are bytes of text, however long the text is. -/
theorem holds_text (text : String) : (Message.text tag text).Holds (((bytes text).take 15).map .byte) where
  format := by
    have letters : byteFormat.toList = List.replicate 16 'c' := by decide
    have same : (((bytes text).take 15).map Value.byte).map Value.letter =
        List.replicate (min 15 (bytes text).length) 'c' := by
      have letter : Value.letter ∘ Value.byte = fun _ => 'c' := rfl
      rw [List.map_map, letter, List.map_const', List.length_take]
    rw [same, Message.text, blank, withBytes, letters, length_byteFormat]
    dsimp only
    rw [String.toList_ofList, List.take_replicate, ← List.replicate_succ]
    congr 1
    omega
  spells := by
    have cut : (bytes text).take (min ((bytes text).length + 1) byteFormat.length - 1) = (bytes text).take 15 := by
      rw [length_byteFormat, List.take_eq_take_iff]
      omega
    rw [Message.text, cut]
    exact (spells_blank _ _).withBytes _

theorem standard_maneuver (maneuver : Maneuver) : (text tag (Robot.maneuverText maneuver)).Standard where
  known := by cases maneuver <;> (show String.ofList _ ∈ formats; decide)
  holds := ⟨_, holds_text tag _⟩

theorem standard_response (refusal : Refusal) : (refusal.response tag).Standard := by
  cases refusal with
  | badInput | divideByZero => exact standard_badInput tag
  | batteryLow volts => exact standard_batteryLow volts
  | powerOff volts => exact standard_powerOff volts

end Shapes

end Wire.Message

namespace Robot

variable (r : Robot)

theorem standard_diagnosis {shape : Message} (h : shape.Standard) : ∀ m ∈ r.diagnosis shape, m.Standard := by
  unfold diagnosis
  split
  · exact List.forall_mem_singleton.mpr h
  · exact nofun

theorem standard_sends (now : Time) (task : Task) : ∀ m ∈ r.sends now task, m.Standard := by
  have single {m : Message} (h : m.Standard) : ∀ x ∈ [m], x.Standard := List.forall_mem_singleton.mpr h
  cases task with
  | clockReport => exact single (Message.standard_time ..)
  | floatTrip =>
    unfold sends
    cases r.control.tripStart with
    | none => exact single (Message.standard_float ..)
    | some start =>
      dsimp only
      split
      · exact single (Message.standard_time ..)
      · exact nofun
  | loopTimer =>
    unfold sends
    cases r.control.loopStart with
    | none => exact nofun
    | some start => exact single (Message.standard_time ..)
  | encoderReport => exact single (Message.standard_counts ..)
  | batteryReport => exact single (Message.standard_float ..)
  | lowBattery => exact single (Message.standard_batteryLow ..)
  | statusReport => exact single (Message.standard_status ..)
  | distanceControl =>
    unfold sends
    dsimp only
    split
    · exact r.standard_diagnosis (Message.standard_travel ..)
    · exact nofun
  | velocityControl =>
    unfold sends
    dsimp only
    split
    · exact r.standard_diagnosis (Message.standard_duties ..)
    · exact nofun
  | proximityReport => exact single (Message.standard_reflections ..)
  | restart | batteryTask | timedDuty | stopTimer | avoidance => exact nofun

theorem standard_answers (letter : UInt8) (command : Command) :
    ∀ m ∈ r.answers letter command, m.Standard := by
  cases command with
  | arithmetic op lhs rhs => exact List.forall_mem_singleton.mpr (Message.standard_float ..)
  | drive mode linear angular limit =>
    unfold answers
    dsimp only
    split
    · exact List.forall_mem_singleton.mpr (Message.standard_maneuver ..)
    · exact nofun
  | _ => exact nofun

theorem Answered.standard {r : Robot} {more : List Message} (h : r.Answered more) :
    ∀ m ∈ more, m.Standard := by
  cases h with
  | nothing => exact nofun
  | complied _ => exact standard_answers _ _ _
  | refused letter refusal => exact List.forall_mem_singleton.mpr (Message.standard_response letter refusal)

def Whole (r : Robot) : Prop := ∀ m ∈ r.journal.messages, m.Standard

/-- Each message that has been sent can be read, and the frames of what has been sent at any time give back
just these messages. -/
structure Decodable (r : Robot) : Prop where
  legible : ∀ m ∈ r.journal.messages, m.Legible
  apart : ∀ sent, sent <+: r.journal.messages →
    Message.decodeAll (sent.flatMap Message.encode) = (sent.map fun m => (m, m.encodedLength), [])

variable {r}

theorem Whole.of_messages {t : Robot} (same : t.journal.messages = r.journal.messages) (h : r.Whole) :
    t.Whole := by
  unfold Whole
  rwa [same]

theorem Whole.append {t : Robot} {more : List Message} (h : r.Whole)
    (messages : t.journal.messages = r.journal.messages ++ more) (standard : ∀ m ∈ more, m.Standard) :
    t.Whole := by
  unfold Whole
  rw [messages]
  intro m hm
  rcases List.mem_append.mp hm with before | after
  · exact h m before
  · exact standard m after

theorem whole_poll (h : r.Whole) : r.poll.Whole := by
  obtain ⟨more, answered, messages⟩ := r.poll_answered
  exact h.append messages answered.standard

theorem whole_sweep (h : r.Whole) : r.sweep.Whole :=
  sweep_induct (fun r task now h _ => h.append (r.perform_messages task now) (r.standard_sends now task)) h

theorem whole_tick (h : r.Whole) : r.tick.2.Whole := by
  unfold tick
  dsimp only
  split
  · exact fun m hm => h m hm
  · next link _ =>
    have served : Whole { r with board := r.board.service, link } := h
    dsimp only
    exact whole_sweep (whole_poll served)

theorem whole_run (h : r.Whole) (loopMicros stepMicros : Nat) (interruptAfter : Option Nat) :
    (r.run loopMicros stepMicros interruptAfter).2.Whole :=
  run_induct (P := Whole) (fun r n => Whole.of_messages (r.note_messages n))
    (fun r => Whole.of_messages r.stop_messages) (fun _ => whole_tick) (fun _ _ => id)
    loopMicros stepMicros interruptAfter h

theorem Reachable.whole {settings : Settings} (h : Reachable settings r) : r.Whole := by
  induction h with
  | @start _ _ r off hStart =>
    unfold Robot.start at hStart
    cases hControl : Control.ofSettings settings with
    | error fault =>
      rw [hControl] at hStart
      cases hStart
    | ok control =>
      rw [hControl] at hStart
      cases hStart
      exact nofun
  | @pass r s _ ih => exact whole_tick (r := r.meet s) ih

theorem Whole.decodable (h : r.Whole) : r.Decodable where
  legible m hm := (h m hm).legible
  apart _ before := Message.decodeAll_encodings fun m hm => (h m (before.subset hm)).framed

/-- The messages in the journal, which are those sent so far, can be decoded frame by frame and field by
field: between passes, within one and when a run ends. As to the bytes on the line, a pass adds to
them the frames of what it sends, as far as the line takes them. -/
theorem outbound_decodable {settings : Settings} (h : Reachable settings r) :
    r.Decodable ∧
      (∀ loopMicros stepMicros interruptAfter, (r.run loopMicros stepMicros interruptAfter).2.Decodable) ∧
      ∀ s, (r.meet s).Transmits (r.pass s) :=
  ⟨h.whole.decodable, fun loopMicros stepMicros interruptAfter =>
    (whole_run h.whole loopMicros stepMicros interruptAfter).decodable, r.transmits_pass⟩

def slowDevice : Link.Devices := fun name _ => .ok { device := name, writeChunk := some 3 }

def overSlowDevice : Robot :=
  (Robot.start .standard {} (.overLine { device := "line", writeChunk := some 3 })).toOption.get (by decide +kernel)

/-- The answer to a letter that nobody knows, a quotient, and a status report. -/
theorem outbound_decodable_slow :
    let after := overSlowDevice.passAll
      [{ clock := .ofMillis 10, arriving := [0x7a] },
        { clock := .ofMillis 20, arriving := [0x2f, 0, 0, 0x80, 0x3f, 0, 0, 0, 0x40] },
        { clock := .ofMillis 30, arriving := [0x71] }]
    let stream := after.journal.messages.flatMap Message.encode
    Link.openLine "line" 9600 slowDevice = .ok overSlowDevice.link ∧
      after.journal.messages.map (·.format) = ["cc", "cf", "cfhhhh"] ∧
      after.journal.messages.map (·.fields) = [["?"], ["0.5"], ["0.03", "0", "0", "0", "0"]] ∧
      Message.decodeAll stream = (after.journal.messages.map fun m => (m, m.encodedLength), []) ∧
      after.link.output.toList = stream ∧ stream.length = 36 := by
  intro after stream
  have started : Reachable .standard overSlowDevice := .start Board.atRest_new (ok_get _)
  have reachable : Reachable .standard after := started.passAll _
  have opened : Link.openLine "line" 9600 slowDevice = .ok overSlowDevice.link :=
    Link.openLine_eq_ok_iff.mpr ⟨_, rfl, by decide +kernel⟩
  have writes : overSlowDevice.link.Writes := by
    refine Link.writes_of_openLine opened ?_
    rintro _ ⟨⟩
    exact ⟨by decide, nofun⟩
  obtain ⟨sent, messages, wrote⟩ : overSlowDevice.Transmits after := by
    apply transmits_passAll
    simp only [List.forall_mem_cons]
    exact ⟨fun _ => ⟨rfl, rfl, rfl⟩, fun _ => ⟨rfl, rfl, rfl⟩, fun _ => ⟨rfl, rfl, rfl⟩, nofun⟩
  have first : overSlowDevice.journal.messages = [] := by decide +kernel
  have silent : overSlowDevice.link.output.toList = [] := by decide +kernel
  have written := (wrote.whole writes).2
  rw [first, List.nil_append] at messages
  rw [silent, List.nil_append, ← messages] at written
  refine ⟨opened, by decide +kernel, by decide +kernel, ?_, written, by decide +kernel⟩
  exact (outbound_decodable reachable).1.apart _ (List.prefix_refl _)

end Robot

end Rover
