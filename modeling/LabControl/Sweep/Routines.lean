/-
# Canned routines

The recording of a linked sweep of two channels, which stops recording however it ends, and a
benchmark that times writes to an output channel by the backend's clock.
-/
import LabControl.Sweep.Engine

namespace LabControl.Sweep.Engine

variable {ν : Type} [Quantity ν]

/-! ## 1. A linked sweep -/

/-- The steps of a linked sweep up to the zero stop of the first channel.  Yields whether that
was acknowledged. -/
def linkedSweep (e : Engine) (first second : Nat) : Action ν Bool := do
  let half : ν := Scale.count 1 / Scale.count 2
  let _ ← Client.check .remote (.setDac first (Scale.count 0))
  let _ ← Client.check .remote (.setDac second (Scale.count 1 / Scale.count 10))
  let _ ← Client.check .remote (.linkSweeps first second)
  let _ ← Client.clearBuffer false false
  let _ ← Client.check .remote .zeroTime
  let _ ← Client.check .remote (.setRecording true)
  let _ ← Action.sleep .remote half
  let _ ← Client.check .remote (.sweepUp first)
  let _ ← Action.sleep .remote (Scale.count 1)
  let _ ← Client.check .remote (.sweepDown second)
  let caught ← awaitEvent .zeroStop first e.token
  let _ ← Action.sleep .remote half
  pure caught

/-- Record a linked sweep of two channels.  Recording is stopped in any case. -/
def sweepLinkage (e : Engine) (first second : Nat) : Action ν Bool := do
  let linked ← Action.attempt (linkedSweep e first second)
  let stopped ← Action.attempt (Client.check .remote (.setRecording false))
  let caught ← Action.settle linked
  let _ ← Action.settle stopped
  pure caught

/-! ## 2. A benchmark -/

/-- The values of one sine period around a centre, in `n` equal parts, both ends included. -/
def sineWave (center : ν) (n : Nat) : List ν :=
  (List.range (n + 1)).map fun part => center + turnSine part (max n 1)

/-- Time a sine wave of writes to a channel: the backend's seconds, divided by the number of
parts. -/
def benchmark (channel n : Nat) : Action ν ν := do
  let before ← Client.getTime
  let center ← Client.channelValue channel
  writeAll channel (sineWave center n)
  let after ← Client.getTime
  pure ((after - before) / Scale.count (max n 1))

end LabControl.Sweep.Engine
