import Rover.Wire.Field

/-!
# Inbound bytes

A first-in first-out buffer of bounded size. Bytes that arrive when it is full push out the oldest
ones.
-/

namespace Rover.Wire
set_option autoImplicit false

structure Inbox where
  bytes : Bytes
  length_le : bytes.length ≤ 256
  deriving DecidableEq

namespace Inbox

def capacity : Nat := 256

def empty : Inbox := ⟨[], by decide⟩

def size (inbox : Inbox) : Nat := inbox.bytes.length

def room (inbox : Inbox) : Nat := capacity - inbox.size

/-- Adds bytes at the back, keeping the newest ones. -/
def feed (inbox : Inbox) (arriving : Bytes) : Inbox where
  bytes := (inbox.bytes ++ arriving).drop ((inbox.bytes ++ arriving).length - capacity)
  length_le := by simp only [List.length_drop, capacity]; omega

def drop (inbox : Inbox) (n : Nat) : Inbox where
  bytes := inbox.bytes.drop n
  length_le := by have := inbox.length_le; simp only [List.length_drop]; omega

def peek? (inbox : Inbox) : Option UInt8 := inbox.bytes.head?

@[simp] theorem bytes_drop (inbox : Inbox) (n : Nat) : (inbox.drop n).bytes = inbox.bytes.drop n := rfl

@[simp] theorem bytes_empty : empty.bytes = [] := rfl

theorem bytes_feed (inbox : Inbox) (arriving : Bytes) (h : arriving.length ≤ inbox.room) :
    (inbox.feed arriving).bytes = inbox.bytes ++ arriving := by
  have := inbox.length_le
  have none_lost : (inbox.bytes ++ arriving).length - capacity = 0 := by
    simp only [room, size, capacity, List.length_append] at *
    omega
  simp only [feed, none_lost, List.drop_zero]

end Inbox

end Rover.Wire
