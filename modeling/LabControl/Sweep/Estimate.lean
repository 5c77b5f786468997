/-
# How long a sweep takes

The rates, the span and the hold times of a sweep tool are panel variables.  An estimate reads
them and calculates; it sends nothing else, and without all six numbers there is no estimate.
-/
import LabControl.Sweep.Engine

namespace LabControl.Sweep

/-- Rates, span and hold times of one sweep tool. -/
structure Timing (ν : Type) where
  /-- The upward rate, in units per second. -/
  rateUp : ν
  /-- The downward rate, in units per second. -/
  rateDown : ν
  /-- The distance between the endpoints. -/
  span : ν
  /-- The hold time at the upper endpoint, in seconds. -/
  holdUp : ν
  /-- The hold time at the lower endpoint, in seconds. -/
  holdDown : ν
  deriving DecidableEq, Repr

namespace Timing

variable {ν : Type} [Quantity ν]

/-- The seconds of one pair of legs with their hold times. -/
def pairSeconds (t : Timing ν) : ν :=
  t.span / t.rateUp + t.span / t.rateDown + (t.holdUp + t.holdDown)

/-- The hours of a number of pairs. -/
def hours (t : Timing ν) (steps : Nat) : ν :=
  t.pairSeconds * Scale.count steps / Scale.count 3600

end Timing

namespace Engine

variable {ν : Type} [Quantity ν]

/-- The panel variables that an estimate needs, in the order they are read. -/
def timingVariables : List String :=
  ["rate_up", "rate_down", "scaled_up", "scaled_down", "hold_up", "hold_down"]

/-- Read panel variables as numbers, up to the first that is none. -/
def readNumbers (tag : String) : List String → Action ν (Option (List ν))
  | [] => pure (some [])
  | name :: rest => do
    let text ← Client.getVar (tag ++ name)
    match Quantity.read? (Text.trimChars text.toList) with
    | none => pure none
    | some value => do
      let later ← readNumbers tag rest
      pure (later.map (value :: ·))

/-- The timing that six numbers give, in the order of `timingVariables`. -/
def timingOf : List ν → Option (Timing ν)
  | [rateUp, rateDown, scaledUp, scaledDown, holdUp, holdDown] =>
    some { rateUp, rateDown, span := scaledUp - scaledDown, holdUp, holdDown }
  | _ => none

/-- The timing of the sweep tool that drives a channel, if all its variables are numbers. -/
def sweepTiming (e : Engine) (channel : Nat) : Action ν (Option (Timing ν)) := do
  let tag ← Client.sweepPrefix e.panelTool channel
  let numbers ← readNumbers tag timingVariables
  pure (numbers.bind timingOf)

/-- The hours that a number of pairs on a channel will take. -/
def estimate (e : Engine) (channel steps : Nat) : Action ν (Option ν) := do
  let timing ← sweepTiming e channel
  pure (timing.map fun t => t.hours steps)

end Engine

end LabControl.Sweep
