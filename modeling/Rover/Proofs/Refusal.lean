import Rover.Proofs.Orders
import Rover.Proofs.Single

/-!
# Commands that are refused

`Unfit` lists the reasons for which a command is refused, each with its answer. A refusal sends that
answer and takes what was refused out of the inbox; nothing else becomes of it.
-/

namespace Rover
open Motion Wire
set_option autoImplicit false

namespace Wire.Command

end Wire.Command

namespace Journal

theorem messages_push_sent (journal : Journal) (message : Message) :
    messages (journal.push (.sent message)) = messages journal ++ [message] := by
  simp [messages]

theorem messages_push_noted (journal : Journal) (note : Note) :
    messages (journal.push (.noted note)) = messages journal := by
  simp [messages]

end Journal

namespace Robot

variable (r : Robot)

@[simp] theorem note_messages (n : Note) : (r.note n).journal.messages = r.journal.messages :=
  Journal.messages_push_noted ..

@[simp] theorem notes_messages (ns : List Note) : (r.notes ns).journal.messages = r.journal.messages := by
  induction ns generalizing r with
  | nil => rfl
  | cons n ns ih => exact (ih (r.note n)).trans (r.note_messages n)

@[simp] theorem send_messages (m : Message) :
    (r.send m).journal.messages = r.journal.messages ++ [m] := by
  rw [send]
  exact (notes_messages _ _).trans (Journal.messages_push_sent ..)

@[simp] theorem flushInput_messages : r.flushInput.journal.messages = r.journal.messages := by
  rw [flushInput]
  exact notes_messages _ _

theorem flushInput_inbox : r.flushInput.link.inbox = .empty := by
  rw [flushInput, notes_link]
  unfold Link.flushInput
  cases r.link.transport <;> rfl

variable {r : Robot} {letter : UInt8} {refusal : Refusal}

theorem poll_of_refuses (h : r.Refuses letter refusal) :
    r.poll.control = r.control ∧ r.poll.board = r.board ∧
      r.poll.journal.messages = r.journal.messages ++ [refusal.response letter] ∧
      r.poll.link.inbox.bytes =
        if frameLength letter = 0 then [] else r.link.inbox.bytes.drop (frameLength letter) := by
  cases h with
  | unknown first unknown =>
    rw [poll_of_unknown first unknown, if_pos unknown]
    refine ⟨by simp, by simp, by simp [Refusal.response], ?_⟩
    simp [flushInput_inbox]
  | command offers refused =>
    rw [poll_of_offers offers, refused, if_neg offers.known]
    refine ⟨by simp, by simp, ?_, ?_⟩
    · simp [refuse, received]
    · simp [refuse, received]

end Robot

end Rover
