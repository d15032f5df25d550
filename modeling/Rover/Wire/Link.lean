import Rover.Wire.Inbox
import Rover.Wire.Message
import Rover.Wire.Line

/-!
# The link to the host

Inbound bytes wait in the inbox, whatever carries them. A loopback link has nothing behind the
inbox; a link over a serial line pulls in what the line has received, never more than there is room
for, and writes each message straight through as one frame. Which line a name opens is up to the
machine.
-/

namespace Rover.Wire
set_option autoImplicit false

inductive LinkError where
  | serial (description : String)
  | io (description : String)
  deriving DecidableEq, Repr

def LinkError.message : LinkError → String
  | .serial description => "Serial port error: " ++ description
  | .io description => "IO error: " ++ description

inductive Transport where
  | loopback
  | line (line : Line)
  deriving DecidableEq

structure Link where
  inbox : Inbox := .empty
  transport : Transport
  deriving DecidableEq

namespace Link

def loopback : Link := { transport := .loopback }

def overLine (line : Line) : Link := { transport := .line line }

def maxRead : Nat := 64

/-- Serial devices by their names, opened at a rate, or why they cannot be. -/
abbrev Devices := String → Nat → Except String Line

/-- A machine without serial devices. -/
def Devices.absent : Devices := fun _ _ => .error "No such file or directory"

def openLine (name : String) (baud : Nat) (devices : Devices := .absent) : Except LinkError Link :=
  ((devices name baud).mapError LinkError.serial).map overLine

theorem openLine_eq_ok_iff {name : String} {baud : Nat} {devices : Devices} {link : Link} :
    openLine name baud devices = .ok link ↔ ∃ line, devices name baud = .ok line ∧ link = overLine line := by
  rw [openLine]
  cases devices name baud with
  | error description => exact ⟨nofun, nofun⟩
  | ok line =>
    constructor
    · rintro ⟨⟩
      exact ⟨line, rfl, rfl⟩
    · rintro ⟨_, ⟨⟩, rfl⟩
      rfl

def feed (link : Link) (bytes : Bytes) : Link :=
  match link.transport with
  | .loopback => { link with inbox := link.inbox.feed bytes }
  | .line line => { link with transport := .line { line with arriving := line.arriving ++ bytes } }

/-- Moves received bytes into the inbox. A read that times out has received nothing. -/
def upkeep (link : Link) : Option LinkError × Link :=
  match link.transport with
  | .loopback => (none, link)
  | .line line =>
    match line.countWaiting with
    | (.error fault, line) => (some (.serial fault.description), { link with transport := .line line })
    | (.ok waiting, line) =>
      let wanted := min (min waiting link.inbox.room) maxRead
      if wanted = 0 then (none, { link with transport := .line line })
      else
        match line.read wanted with
        | (.ok bytes, line) => (none, { inbox := link.inbox.feed bytes, transport := .line line })
        | (.error fault, line) =>
          (if fault.kind = .timedOut then none else some (.io fault.description),
            { link with transport := .line line })

def take (link : Link) (n : Nat) : Bytes × Link :=
  (link.inbox.bytes.take n, { link with inbox := link.inbox.drop n })

def flushInput (link : Link) : Outcome × Link :=
  match link.transport with
  | .loopback => (none, { link with inbox := .empty })
  | .line line =>
    let (outcome, line) := line.clearInput
    (outcome, { inbox := .empty, transport := .line line })

/-- Writes a message; a fault is reported, but the message is not kept. -/
def send (link : Link) (message : Message) : Outcome × Link :=
  match link.transport with
  | .loopback => (none, link)
  | .line line =>
    match line.writeAll message.encode with
    | (some fault, line) => (some fault, { link with transport := .line line })
    | (none, line) =>
      let (outcome, line) := line.flush
      (outcome, { link with transport := .line line })

/-- Bytes not yet handed to the host; a line that cannot tell counts as drained. -/
def pendingOutput (link : Link) : Nat × Link :=
  match link.transport with
  | .loopback => (0, link)
  | .line line =>
    let (count, line) := line.countPending
    (count.toOption.getD 0, { link with transport := .line line })

end Link

end Rover.Wire
