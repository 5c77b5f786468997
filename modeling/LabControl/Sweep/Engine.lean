/-
# The sweep engine

A run checks that its channels have known values, prepares the panel and the buffer, and then,
for each entry of the schedule, ramps the step channel and runs a pair of legs, of which the
second is saved.  Whatever ends the run after the check, the cleanup follows: ramp the step
channel back, return the swept channel to zero, stop recording.  Each of the three is done even
if the one before it failed, and the first error of the whole run is the one reported.

The cleanup waits on a token of its own, so that a cancelled run still returns to zero.
-/
import LabControl.Sweep.Plan
import LabControl.Sweep.ZeroReturn

namespace LabControl.Sweep

variable {ν : Type}

/-- How an engine is set up. -/
structure Engine where
  /-- The number of intervals of a ramp. -/
  rampPoints : Nat := defaultRampPoints
  /-- The panel tool whose variables configure the sweep. -/
  panelTool : String := defaultPanelTool
  /-- The token that cancels runs. -/
  token : Token := .run
  deriving DecidableEq, Repr

namespace Engine

/-- The engine with another number of intervals in a ramp, at least one. -/
def withRampPoints (e : Engine) (n : Nat) : Engine := { e with rampPoints := max n 1 }

/-- The engine with another panel tool. -/
def withPanelTool (e : Engine) (tool : String) : Engine := { e with panelTool := tool }

/-- The engine with another token. -/
def withToken (e : Engine) (token : Token) : Engine := { e with token := token }

variable [Quantity ν]

/-! ## 1. The parts of a run -/

/-- Write a list of values to an output channel, one after the other. -/
def writeAll (channel : Nat) : List ν → Action ν Unit
  | [] => pure ()
  | value :: rest => do
    let _ ← Client.check .remote (.setDac channel value)
    writeAll channel rest

/-- Move a channel evenly from one value to another. -/
def ramp (e : Engine) (channel : Nat) (start finish : ν) : Action ν Unit :=
  writeAll channel (evenlySpaced start finish e.rampPoints)

/-- The panel flags that a run relies on. -/
def runFlags : List String := ["zerostop_down=0", "zerostop_up=0", "endstop_down=1", "endstop_up=1"]

/-- Assign panel variables whose names begin alike.  A rejected assignment does not stop the
others. -/
def assignAll (tag : String) : List String → Action ν Unit
  | [] => pure ()
  | line :: rest => do
    let _ ← Client.setVar (tag ++ line)
    assignAll tag rest

/-- Set the panel flags, clear the buffer and start recording. -/
def prepare (e : Engine) (channel : Nat) : Action ν Unit := do
  Action.publish .clearBuffer
  let tag ← Client.sweepPrefix e.panelTool channel
  assignAll tag runFlags
  let _ ← Client.clearBuffer true false
  let _ ← Client.check .remote (.setRecording true)

/-- One leg of a pair.  A leg that the backend rejects is not waited for. -/
def leg (e : Engine) (channel : Nat) (direction : Direction) (index : Nat) : Action ν Unit := do
  Action.publish (.ofLeg direction index)
  if ← Client.check .remote (.startSweep direction channel) then
    let _ ← awaitEvent direction.posthold channel e.token

/-- One pair: a leg that is discarded, and the opposite leg, which is saved. -/
def pair (e : Engine) (plan : Plan ν) (index : Nat) : Action ν Unit := do
  leg e plan.channel plan.firstLeg index
  let _ ← Client.clearBuffer false false
  leg e plan.channel plan.firstLeg.opposite index
  Action.publish (.saveData index)
  let _ ← Client.check .remote (.saveData plan.filename)
  let _ ← Client.clearBuffer false false

/-- Move the step channel to the target of a pair, if there is one, and yield the value that it
holds from then on. -/
def moveStep (e : Engine) (steps : Schedule ν) (index total : Nat) (held target : Option ν) :
    Action ν (Option ν) :=
  match target, steps.stepChannel?, held with
  | some target, some channel, some value => do
    Action.publish (.stepping index total target)
    ramp e channel value target
    pure (some target)
  | _, _, _ => pure held

/-! ## 2. The body and the cleanup -/

/-- Run the pairs from an index on.  Yields the value that the step channel was last moved to
completely, also when a pair fails. -/
def pairs (e : Engine) (plan : Plan ν) (total : Nat) :
    Nat → List (Option ν) → Option ν → Program ν (Option ν × Except ControlError Unit)
  | _, [], held => .done (held, .ok ())
  | index, target :: rest, held => do
    match ← (moveStep e plan.steps index total held target).run with
    | .error error => .done (held, .error error)
    | .ok held =>
      match ← (pair e plan index).run with
      | .error error => .done (held, .error error)
      | .ok () => pairs e plan total (index + 1) rest held

/-- The body of a run: prepare, then run every pair.  Yields the value that the step channel was
last moved to, and the number of pairs. -/
def body (e : Engine) (plan : Plan ν) (held : Option ν) :
    Program ν (Option ν × Except ControlError Nat) := do
  let iterations := plan.steps.iterations
  match ← (prepare e plan.channel).run with
  | .error error => .done (held, .error error)
  | .ok () => do
    let (held, result) ← pairs e plan iterations.length 0 iterations held
    .done (held, result.map fun () => iterations.length)

/-- Ramp the step channel back from the value it holds to the value it had at the start. -/
def rampBack (e : Engine) (steps : Schedule ν) (start held : Option ν) : Action ν Unit :=
  match steps.stepChannel?, start, held with
  | some channel, some start, some held => ramp e channel held start
  | _, _, _ => pure ()

/-- The first error of three results, if there is one. -/
def firstError (first second third : Except ControlError Unit) : Except ControlError Unit :=
  match first, second with
  | .error error, _ => .error error
  | .ok (), .error error => .error error
  | .ok (), .ok () => third

/-- The cleanup: ramp back, return to zero, stop recording, each in any case. -/
def restore (e : Engine) (plan : Plan ν) (start held : Option ν) : Action ν Unit := do
  Action.publish .restore
  let ramped ← Action.attempt (rampBack e plan.steps start held)
  let returned ← Action.attempt (zeroReturn e.panelTool plan.channel .cleanup)
  let stopped ← Action.attempt (Client.check .remote (.setRecording false))
  Action.settle (firstError ramped (returned.map fun _ => ()) (stopped.map fun _ => ()))

/-- The end of a run after its body and its cleanup: an error of the body wins over one of the
cleanup. -/
def conclude (body : Except ControlError Nat) (cleanup : Except ControlError Unit) :
    Action ν Outcome :=
  match body, cleanup with
  | .ok sweeps, .ok () => do
    Action.publish .idle
    pure (.completed sweeps)
  | .error error, _ => do
    Action.publish .aborted
    throw error
  | .ok _, .error error => do
    Action.publish .aborted
    throw error

/-- The run after the check: body, cleanup and end. -/
def sweepAll (e : Engine) (plan : Plan ν) (start : Option ν) : Action ν Outcome := do
  let (held, result) ← ExceptT.lift (body e plan start)
  let cleanup ← Action.attempt (restore e plan start held)
  conclude result cleanup

/-! ## 3. The check and the run -/

/-- Why a run on a channel of unknown value is refused. -/
def refusal (role : String) (channel : Nat) : String :=
  role ++ " channel " ++ Decimal.natText channel ++
    " initial value unknown, unable to start autosweep"

/-- Refuse to start. -/
def refuse (role : String) (channel : Nat) : Action ν Outcome := do
  Action.publish .aborted
  pure (.refused (refusal role channel))

/-- **A run of a plan.**  An engine that was cancelled sends nothing; a channel whose value is
unknown refuses the run before anything but the reads is sent. -/
def autosweep (e : Engine) (plan : Plan ν) : Action ν Outcome := do
  if ← Action.fired e.token then
    Action.publish .aborted
    throw (.cancelled "autosweep")
  else do
    Action.publish .validateChannels
    let swept ← Client.readChannel plan.channel
    if !swept.known then
      refuse "sweep" plan.channel
    else
      match plan.steps.stepChannel? with
      | none => sweepAll e plan none
      | some channel => do
        let stepped ← Client.readChannel channel
        if !stepped.known then
          refuse "step" channel
        else
          sweepAll e plan (some stepped.value)

/-- Repeat a pair on one channel, without stepping. -/
def minisweep (e : Engine) (firstLeg : Direction) (channel sweeps : Nat) (filename : String) :
    Action ν Outcome :=
  autosweep e { channel, firstLeg, steps := .repeating sweeps, filename }

/-- Step a channel through `n + 1` evenly spaced values, with one pair at each. -/
def megasweep (e : Engine) (firstLeg : Direction) (channel stepChannel : Nat)
    (start finish : ν) (n : Nat) (filename : String) : Action ν Outcome :=
  autosweep e
    { channel, firstLeg, steps := .stepping stepChannel (evenlySpaced start finish n), filename }

/-- Return a channel to zero, waiting on the engine's own token. -/
def returnToZero (e : Engine) (channel : Nat) : Action ν Bool :=
  zeroReturn e.panelTool channel e.token

end Engine

end LabControl.Sweep
