/-
# The engine's published state

While a run is going on, the engine publishes what it is doing.  A run begins with
`validateChannels` and ends with `idle` or `aborted`.
-/
import LabControl.Quantity
import LabControl.Sweep.Direction

namespace LabControl.Sweep

/-- What the engine is doing. -/
inductive State (ν : Type) where
  /-- Not running. -/
  | idle
  /-- Checking that the channels have known values. -/
  | validateChannels
  /-- Setting panel flags and clearing the buffer. -/
  | clearBuffer
  /-- Ramping the step channel to `target`, step `index` of `total`. -/
  | stepping (index total : Nat) (target : ν)
  /-- Sweeping down. -/
  | sweepDown (index : Nat)
  /-- Sweeping up. -/
  | sweepUp (index : Nat)
  /-- Saving the buffer. -/
  | saveData (index : Nat)
  /-- Ramping back, returning to zero, stopping the recording. -/
  | restore
  /-- The last run was refused, failed or was cancelled. -/
  | aborted
  deriving DecidableEq, Repr

namespace State

variable {ν : Type}

/-- The text of a state.  A step target has four decimal places. -/
def text [Quantity ν] : State ν → String
  | idle => "idle"
  | validateChannels => "validating channels"
  | clearBuffer => "clearing buffer"
  | stepping index total target =>
    "i: " ++ Decimal.natText index ++ "/" ++ Decimal.natText total ++ ", V = " ++
      Quantity.fixed 4 target
  | sweepDown index => "i: " ++ Decimal.natText index ++ ", sweep down"
  | sweepUp index => "i: " ++ Decimal.natText index ++ ", sweep up"
  | saveData index => "i: " ++ Decimal.natText index ++ ", saved data"
  | restore => "restoring"
  | aborted => "aborted"

/-- The state of a leg in a direction. -/
def ofLeg : Direction → Nat → State ν
  | .up, index => sweepUp index
  | .down, index => sweepDown index

end State

end LabControl.Sweep
