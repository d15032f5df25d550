import Rover.Robot.Cycle

/-!
# Running

The loop over and over, each pass taking the same time on the board's clock, until the link fails
or somebody interrupts it. The robot stops on the way out.
-/

namespace Rover
open Wire
set_option autoImplicit false

inductive Ending where
  | linkFailed (error : LinkError)
  | interrupted
  | endless
  deriving DecidableEq, Repr

/-- Passes after which the link fails no more, unless it has failed by then: by that time every
scripted outcome has been met and everything received has been read. -/
def Wire.Link.horizon (link : Link) : Nat :=
  match link.transport with
  | .loopback => 0
  | .line line =>
    line.script.countWaiting.length + 2 * (line.script.read.length + line.arriving.length + 1)

namespace Robot

def passes (stepMicros : Nat) : Nat → Robot → Option LinkError × Robot
  | 0, r => (none, r)
  | n + 1, r =>
    match ({ r with board := r.board.advance stepMicros }).tickOrHalt with
    | (some error, r) => (some error, r)
    | (none, r) => passes stepMicros n r

/-- `loopMicros` is the intended length of a pass, `stepMicros` the one it takes on the clock; an
interrupt comes after so many passes. -/
def run (r : Robot) (loopMicros stepMicros : Nat) (interruptAfter : Option Nat) : Ending × Robot :=
  let r := r.note (.running loopMicros r.control.setup.strategy r.control.period)
  match passes stepMicros (interruptAfter.getD r.link.horizon) r with
  | (some error, r) => (.linkFailed error, r)
  | (none, r) =>
    if interruptAfter.isSome then (.interrupted, (r.note .shuttingDown).stop) else (.endless, r)

end Robot

end Rover
