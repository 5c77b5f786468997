/-
# Waiting for a sweep, and returning to zero

A wait for a sweep event that is cancelled stops the sweep before the cancellation goes on.  A
channel returns to zero on a sweep of its own, with the zero stop of the needed direction forced
on; the flag gets its former value back however that sweep ended.
-/
import LabControl.Client

namespace LabControl.Sweep

variable {ν : Type} [Quantity ν]

/-- Wait for a sweep event; when the wait is cancelled, stop the sweep first. -/
def awaitEvent (event : Event) (channel : Nat) (token : Token) : Action ν Bool := do
  match ← Action.attempt (Client.wait token (.catchSweep event channel)) with
  | .error (.cancelled operation) =>
    let _ ← Client.check .remote (.sweepStop channel)
    throw (.cancelled operation)
  | .error error => throw error
  | .ok answered => pure answered

/-- Sweep toward zero and wait for the zero stop; false when the sweep was rejected. -/
def zeroSweep (channel : Nat) (direction : Direction) (token : Token) : Action ν Bool := do
  if ← Client.check .remote (.startSweep direction channel) then
    awaitEvent .zeroStop channel token
  else
    pure false

/-- The direction that leads from a value to zero. -/
def towardZero (x : ν) : Direction := if Scale.lt x (Scale.count 0) then .up else .down

/-- Return a channel to zero, waiting on a token.  Nothing is done when the value is unknown or
already zero.  The first error is the one that counts: the sweep's before the flag's. -/
def zeroReturn (tool : String) (channel : Nat) (token : Token) : Action ν Bool := do
  let reading ← Client.readChannel channel
  if !reading.known || isZero reading.value then
    pure false
  else do
    let direction := towardZero reading.value
    let tag ← Client.sweepPrefix tool channel
    let flag := tag ++ "zerostop_" ++ direction.text
    let previous ← Client.getVar flag
    let restored := if previous == "" then "0" else previous
    let _ ← Client.setVar (flag ++ "=1")
    let swept ← Action.attempt (zeroSweep channel direction token)
    let reset ← Action.attempt (Client.setVar (flag ++ "=" ++ restored))
    let answered ← Action.settle swept
    let _ ← Action.settle reset
    pure answered

end LabControl.Sweep
