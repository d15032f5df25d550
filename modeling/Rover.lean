import Rover.Numeric.Decimal
import Rover.Numeric.Single
import Rover.Text.Printable
import Rover.Text.Quoted
import Rover.Time
import Rover.Wheels
import Rover.Signal.Filter
import Rover.Motion.Speed
import Rover.Motion.Plan
import Rover.Motion.Regulator
import Rover.Motion.Odometer
import Rover.Wire.Field
import Rover.Wire.Command
import Rover.Wire.Message
import Rover.Wire.Inbox
import Rover.Wire.Line
import Rover.Wire.Link
import Rover.Json.Taken
import Rover.Json.Numeral
import Rover.Json.Escape
import Rover.Json.Token
import Rover.Json.Skip
import Rover.Settings.Misfit
import Rover.Settings.Basic
import Rover.Settings.Record
import Rover.Settings.Load
import Rover.Agenda
import Rover.Battery
import Rover.Board
import Rover.Avoidance
import Rover.Control
import Rover.Journal
import Rover.Robot.Basic
import Rover.Robot.Dispatch
import Rover.Robot.Cycle
import Rover.Robot.Run
import Rover.Proofs.Frame
import Rover.Proofs.Pass
import Rover.Proofs.Orders
import Rover.Proofs.Movement
import Rover.Proofs.Stopped
import Rover.Proofs.Deadline
import Rover.Proofs.Refusal
import Rover.Proofs.Setup
import Rover.Proofs.Steering
import Rover.Proofs.Spelling
import Rover.Proofs.Cutting
import Rover.Proofs.Settled
import Rover.Proofs.Past
import Rover.Proofs.Restart
import Rover.Proofs.Motors
import Rover.Proofs.Telemetry
import Rover.Proofs.Framing
import Rover.Proofs.Payload
import Rover.Proofs.Outbound
import Rover.Proofs.Transmission
import Rover.Proofs.Stream
import Rover.Proofs.Marks
import Rover.Proofs.Pace
import Rover.Proofs.Requests
import Rover.Proofs.Magnitude
import Rover.Proofs.Planning
import Rover.Proofs.Targets
import Rover.Proofs.Warning
import Rover.Proofs.Reception
import Rover.Proofs.Failure
import Rover.Proofs.Travel
import Rover.Proofs.Difference
import Rover.Proofs.Elapsed
import Rover.Proofs.Heading
import Rover.Proofs.Reverse
import Rover.Proofs.Measurements
import Rover.Proofs.Clock
import Rover.Proofs.Decisions
import Rover.Proofs.Sequencer
import Rover.Proofs.Recurrence
import Rover.Proofs.Turns
import Rover.Proofs.Nearest
import Rover.Proofs.Expiry
import Rover.Proofs.Validation
