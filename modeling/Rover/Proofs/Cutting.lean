import Rover.Proofs.Spelling
import Rover.Proofs.Transmission

/-!
# Commands and the cutting of their bytes

Bytes come in by chunks, at any moment between two turns of the dispatcher. While the inbox has room
for them, what has come in is the frames of the commands taken out so far, followed by the inbox; so
the chunks have no say in which commands are taken out, nor in their order.
-/

namespace Rover
open Wire
set_option autoImplicit false

namespace Wire

def written (commands : List Command) : Bytes := commands.flatMap Command.encode

theorem written_append (commands later : List Command) :
    written (commands ++ later) = written commands ++ written later := List.flatMap_append

def Inbox.next? (inbox : Inbox) : Option Command :=
  inbox.peek?.bind fun letter =>
    if frameLength letter ≠ 0 ∧ frameLength letter ≤ inbox.size then
      Command.decode (inbox.bytes.take (frameLength letter))
    else none

theorem Inbox.next?_eq_some_iff {inbox : Inbox} {command : Command} :
    inbox.next? = some command ↔ ∃ letter, inbox.Offers letter command := by
  rw [Inbox.next?, Option.bind_eq_some_iff]
  constructor
  · rintro ⟨letter, first, h⟩
    split at h
    · next whole => exact ⟨letter, first, whole.2, h⟩
    · cases h
  · rintro ⟨letter, offers⟩
    refine ⟨letter, offers.first, ?_⟩
    rw [if_pos ⟨offers.known, offers.whole⟩]
    exact offers.decoded

theorem Inbox.next?_eq_none {inbox : Inbox}
    (h : inbox.peek? = none ∨ ∃ letter, inbox.peek? = some letter ∧ inbox.size < frameLength letter) :
    inbox.next? = none := by
  rw [Option.eq_none_iff_forall_ne_some]
  intro command hCommand
  obtain ⟨letter, offers⟩ := Inbox.next?_eq_some_iff.mp hCommand
  obtain empty | ⟨other, first, part⟩ := h
  · cases offers.first.symm.trans empty
  · cases offers.first.symm.trans first
    exact Nat.not_lt.mpr offers.whole part

theorem Inbox.offers_of_encode {inbox : Inbox} {command : Command} {rest : Bytes}
    (h : inbox.bytes = command.encode ++ rest) : inbox.Offers command.head.toByte command where
  first := by rw [Inbox.peek?, h]; rfl
  whole := by rw [Inbox.size, h, List.length_append, command.length_encode]; omega
  decoded := by
    have whole := command.decode_encode_append []
    rw [List.append_nil] at whole
    rw [h, ← command.length_encode, List.take_left, whole]

/-- What stands in an inbox that the beginning of a sequence of frames has come into. -/
theorem Inbox.front_cases {inbox : Inbox} {commands : List Command} (h : inbox.bytes <+: written commands) :
    inbox.peek? = none ∨
    (∃ letter, inbox.peek? = some letter ∧ frameLength letter ≠ 0 ∧ inbox.size < frameLength letter) ∨
    ∃ command later rest, commands = command :: later ∧ inbox.bytes = command.encode ++ rest := by
  cases commands with
  | nil =>
    have empty : inbox.bytes = [] := List.prefix_nil.mp h
    exact .inl (by rw [Inbox.peek?, empty]; rfl)
  | cons command later =>
    have front : command.encode <+: written (command :: later) := List.prefix_append ..
    by_cases whole : command.encode.length ≤ inbox.bytes.length
    · obtain ⟨rest, hRest⟩ := List.prefix_of_prefix_length_le front h whole
      exact .inr (.inr ⟨command, later, rest, rfl, hRest.symm⟩)
    · -- a proper part of a frame still begins with its letter, unless it is empty
      have part := List.prefix_of_prefix_length_le h front (by omega)
      cases hBytes : inbox.bytes with
      | nil => exact .inl (by rw [Inbox.peek?, hBytes]; rfl)
      | cons letter more =>
        rw [hBytes, Command.encode, List.cons_prefix_cons] at part
        refine .inr (.inl ⟨letter, by rw [Inbox.peek?, hBytes]; rfl, ?_, ?_⟩)
        · rw [part.1, Head.frameLength_toByte]
          omega
        · rw [part.1, ← command.length_encode]
          exact Nat.not_le.mp whole

end Wire

namespace Robot

def attempt (r : Robot) (letter : UInt8) (command : Command) : Robot :=
  match r.carryOut letter command with
  | .ok s => s
  | .error refusal => r.refuse letter refusal

theorem poll_eq_attempt {r : Robot} {letter : UInt8} {command : Command}
    (h : r.link.inbox.Offers letter command) :
    r.poll = { (r.received letter).attempt letter command with dispatch := .processed letter } :=
  poll_of_offers h

theorem attempt_inbox (r : Robot) (letter : UInt8) (command : Command) :
    (r.attempt letter command).link.inbox = r.link.inbox := by
  rw [attempt, carryOut_eq]
  cases command.refusal? r.control.battery.volts with
  | none => exact (sameInput_comply ..).inbox
  | some refusal => exact send_inbox ..

theorem poll_inbox_of_offers {r : Robot} {letter : UInt8} {command : Command}
    (h : r.link.inbox.Offers letter command) : r.poll.link.inbox = r.link.inbox.drop (frameLength letter) := by
  rw [poll_eq_attempt h]
  exact attempt_inbox ..

/-- On its turn the dispatcher takes a command out of the inbox, with its frame and nothing else, and
carries it out or refuses it. -/
structure TakesOut (r : Robot) (letter : UInt8) (command : Command) : Prop where
  whole : (r.link.take (frameLength letter)).1.length = frameLength letter
  decoded : Command.decode (r.link.take (frameLength letter)).1 = some command
  removed : r.poll.link.inbox.bytes = r.link.inbox.bytes.drop (frameLength letter)
  attempted : r.poll = { (r.received letter).attempt letter command with dispatch := .processed letter }

theorem takesOut_of_offers {r : Robot} {letter : UInt8} {command : Command}
    (h : r.link.inbox.Offers letter command) : r.TakesOut letter command where
  whole := (List.length_take ..).trans (Nat.min_eq_left h.whole)
  decoded := h.decoded
  removed := by rw [poll_inbox_of_offers h, Inbox.bytes_drop]
  attempted := poll_eq_attempt h

/-- The dispatcher finds nothing to take out, and its turn leaves everything else as it is. -/
def StandsBy (r : Robot) : Prop :=
  r.poll = { r with dispatch := .idle } ∨
    ∃ letter needed, r.poll = { r with dispatch := .waiting letter needed }

theorem standsBy_of_front {r : Robot} {commands : List Command}
    (front : r.link.inbox.bytes <+: written commands) (none : r.link.inbox.next? = none) : r.StandsBy := by
  obtain empty | ⟨letter, first, known, part⟩ | ⟨command, later, rest, _, whole⟩ := Inbox.front_cases front
  · exact .inl (poll_of_empty empty)
  · exact .inr ⟨letter, _, poll_of_part first known part⟩
  · have offers := Inbox.offers_of_encode whole
    cases none.symm.trans (Inbox.next?_eq_some_iff.mpr ⟨_, offers⟩)

end Robot

inductive Occasion where
  | arrival (chunk : Bytes)
  | turn

def Occasion.bytes : Occasion → Bytes
  | .arrival chunk => chunk
  | .turn => []

def arrived (course : List Occasion) : Bytes := course.flatMap Occasion.bytes

namespace Robot

def attend (r : Robot) : Occasion → Robot
  | .arrival chunk => { r with link.inbox := r.link.inbox.feed chunk }
  | .turn => r.poll

def attendAll (r : Robot) (course : List Occasion) : Robot := course.foldl attend r

def taken? (r : Robot) : Occasion → Option Command
  | .arrival _ => none
  | .turn => r.link.inbox.next?

/-- The commands taken out in a course of occasions, first to last. -/
def takenAlong : Robot → List Occasion → List Command
  | _, [] => []
  | r, occasion :: course => (r.taken? occasion).toList ++ takenAlong (r.attend occasion) course

/-- Whatever comes in finds room in the inbox. -/
def Fits : Robot → List Occasion → Prop
  | _, [] => True
  | r, occasion :: course =>
    r.link.inbox.size + occasion.bytes.length ≤ Inbox.capacity ∧ Fits (r.attend occasion) course

theorem takenAlong_append (r : Robot) (course rest : List Occasion) :
    r.takenAlong (course ++ rest) = r.takenAlong course ++ (r.attendAll course).takenAlong rest := by
  induction course generalizing r with
  | nil => rfl
  | cons occasion course ih =>
    rw [List.cons_append, takenAlong, takenAlong, ih, List.append_assoc]
    rfl

section Steps

variable {r : Robot} {commands : List Command}

theorem arrival_bytes {chunk : Bytes} (fits : r.link.inbox.size + chunk.length ≤ Inbox.capacity) :
    (r.attend (.arrival chunk)).link.inbox.bytes = r.link.inbox.bytes ++ chunk := by
  apply Inbox.bytes_feed
  rw [Inbox.room]
  omega

theorem turn_bytes {command : Command} {rest : Bytes} (front : r.link.inbox.bytes = command.encode ++ rest) :
    r.poll.link.inbox.bytes = rest := by
  rw [poll_inbox_of_offers (Inbox.offers_of_encode front), ← command.length_encode, Inbox.bytes_drop, front,
    List.drop_left]

theorem attend_step {occasion : Occasion}
    (fits : r.link.inbox.size + occasion.bytes.length ≤ Inbox.capacity)
    (cut : r.link.inbox.bytes ++ occasion.bytes <+: written commands) :
    (∃ later, commands = (r.taken? occasion).toList ++ later) ∧
      r.link.inbox.bytes ++ occasion.bytes =
        written (r.taken? occasion).toList ++ (r.attend occasion).link.inbox.bytes := by
  cases occasion with
  | arrival chunk =>
    rw [Occasion.bytes] at fits ⊢
    rw [arrival_bytes fits]
    exact ⟨⟨commands, rfl⟩, rfl⟩
  | turn =>
    rw [Occasion.bytes, List.append_nil] at cut ⊢
    obtain empty | ⟨letter, first, known, part⟩ | ⟨command, later, rest, rfl, front⟩ := Inbox.front_cases cut
    · rw [taken?, Inbox.next?_eq_none (.inl empty), attend, poll_of_empty empty]
      exact ⟨⟨commands, rfl⟩, rfl⟩
    · rw [taken?, Inbox.next?_eq_none (.inr ⟨letter, first, part⟩), attend, poll_of_part first known part]
      exact ⟨⟨commands, rfl⟩, rfl⟩
    · rw [taken?, Inbox.next?_eq_some_iff.mpr ⟨_, Inbox.offers_of_encode front⟩, attend, turn_bytes front]
      refine ⟨⟨later, rfl⟩, ?_⟩
      rw [front, Option.toList_some, written, List.flatMap_singleton]

/-- What has come in is the frames taken out, and then the inbox. -/
theorem arrived_eq {course : List Occasion} (fits : r.Fits course)
    (cut : r.link.inbox.bytes ++ arrived course <+: written commands) :
    r.takenAlong course <+: commands ∧
      r.link.inbox.bytes ++ arrived course =
        written (r.takenAlong course) ++ (r.attendAll course).link.inbox.bytes := by
  induction course generalizing r commands with
  | nil => exact ⟨List.nil_prefix, List.append_nil _⟩
  | cons occasion course ih =>
    obtain ⟨fitsNow, fitsLater⟩ := fits
    have split : r.link.inbox.bytes ++ arrived (occasion :: course) =
        (r.link.inbox.bytes ++ occasion.bytes) ++ arrived course := by
      rw [arrived, List.flatMap_cons, List.append_assoc]
      rfl
    rw [split] at cut ⊢
    obtain ⟨⟨later, rfl⟩, now⟩ := attend_step fitsNow ((List.prefix_append ..).trans cut)
    rw [now, List.append_assoc, written_append, List.prefix_append_right_inj] at cut
    obtain ⟨among, all⟩ := ih fitsLater cut
    constructor
    · exact (List.prefix_append_right_inj _).mpr among
    · rw [now, List.append_assoc, all, ← List.append_assoc, ← written_append]
      rfl

theorem takenAlong_turns (h : r.link.inbox.bytes = written commands) :
    r.takenAlong (List.replicate commands.length .turn) = commands ∧
      (r.attendAll (List.replicate commands.length .turn)).link.inbox.bytes = [] := by
  induction commands generalizing r with
  | nil => exact ⟨rfl, h⟩
  | cons command later ih =>
    obtain ⟨taken, empty⟩ := ih (turn_bytes h)
    rw [List.length_cons, List.replicate_succ]
    refine ⟨?_, empty⟩
    rw [takenAlong, taken?, Inbox.next?_eq_some_iff.mpr ⟨_, Inbox.offers_of_encode h⟩]
    exact congrArg (command :: ·) taken

end Steps

/-- However the frames of commands are cut and whenever the dispatcher gets its turns, it takes the
commands out one by one and in their order, each with its frame; in between it stands by; and once all
frames have come in, as many turns as commands are left take out the rest. -/
theorem commands_taken_in_order (r : Robot) (commands : List Command) (course : List Occasion)
    (silent : r.link.inbox.bytes = []) (cut : arrived course <+: written commands) (fits : r.Fits course) :
    r.takenAlong course <+: commands ∧
    arrived course = written (r.takenAlong course) ++ (r.attendAll course).link.inbox.bytes ∧
    ((r.attendAll course).link.inbox.next? = none → (r.attendAll course).StandsBy) ∧
    (∀ command, (r.attendAll course).link.inbox.next? = some command →
      ∃ letter, (r.attendAll course).TakesOut letter command) ∧
    (∀ (s : Robot) (letter : UInt8), s.link.inbox.peek? = some letter → frameLength letter ≠ 0 →
      frameLength letter ≤ s.link.inbox.size → ∃ command, s.TakesOut letter command) ∧
    (arrived course = written commands →
      let turns := List.replicate (commands.length - (r.takenAlong course).length) Occasion.turn
      r.takenAlong (course ++ turns) = commands ∧
        (r.attendAll (course ++ turns)).link.inbox.bytes = []) := by
  have come : r.link.inbox.bytes ++ arrived course = arrived course := by rw [silent, List.nil_append]
  obtain ⟨among, all⟩ := arrived_eq fits (come ▸ cut)
  rw [come] at all
  obtain ⟨left, rfl⟩ := among
  have front : (r.attendAll course).link.inbox.bytes <+: written left := by
    rw [all, written_append, List.prefix_append_right_inj] at cut
    exact cut
  refine ⟨List.prefix_append .., all, standsBy_of_front front, ?_, ?_, ?_⟩
  · intro command hNext
    obtain ⟨letter, offers⟩ := Inbox.next?_eq_some_iff.mp hNext
    exact ⟨letter, takesOut_of_offers offers⟩
  · intro s letter first known whole
    obtain ⟨command, offers⟩ := Inbox.exists_offers first known whole
    exact ⟨command, takesOut_of_offers offers⟩
  · intro complete turns
    rw [all, written_append] at complete
    obtain ⟨taken, empty⟩ := takenAlong_turns (List.append_cancel_left complete)
    have count : turns = List.replicate left.length .turn := by simp [turns]
    rw [count, takenAlong_append, taken, attendAll, List.foldl_append]
    exact ⟨rfl, empty⟩

/-- Two commands in three chunks, each of which ends within a frame, but for the last. -/
theorem commands_taken_in_order_powerOn :
    let commands : List Command := [.duty 50 50 none, .report .battery (some ⟨0x3f800000⟩)]
    let course : List Occasion :=
      [.arrival [0x70, 50, 0], .turn, .arrival [50, 0, 0x42, 0], .turn, .turn, .arrival [0, 0x80, 0x3f]]
    powerOn.takenAlong course = [.duty 50 50 none] ∧ (powerOn.attendAll course).link.inbox.bytes.length = 5 ∧
      powerOn.takenAlong (course ++ [.turn]) = commands ∧
        (powerOn.attendAll (course ++ [.turn])).link.inbox.bytes = [] := by
  intro commands course
  have silent : powerOn.link.inbox.bytes = [] := by decide +kernel
  have complete : arrived course = written commands := by decide +kernel
  have fits : powerOn.Fits course := by
    refine ⟨?_, ?_, ?_, ?_, ?_, ?_, trivial⟩
    all_goals decide +kernel
  obtain ⟨_, all, _, _, _, ends⟩ :=
    commands_taken_in_order powerOn commands course silent (complete ▸ List.prefix_refl _) fits
  have taken : powerOn.takenAlong course = [.duty 50 50 none] := by decide +kernel
  have rest := congrArg List.length (complete.symm.trans all)
  rw [taken, List.length_append] at rest
  have lengths : (written commands).length = 10 ∧ (written [Command.duty 50 50 none]).length = 5 := by decide
  obtain ⟨finished, empty⟩ := ends complete
  rw [taken] at finished empty
  exact ⟨taken, by omega, finished, empty⟩

end Robot

end Rover
