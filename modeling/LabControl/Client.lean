/-
# The client

The calls of a client, as actions.  A call sends one instruction and takes its answer from the
reply; the few that send more, or nothing, stand in section 3.  A call answers false where the
backend replied under another name; it ends with an error only when the link fails or a wait is
cancelled.
-/
import LabControl.Program
import LabControl.Instruction.Answer

namespace LabControl.Client

variable {ν : Type} [Quantity ν]

/-! ## 1. One instruction -/

/-- Give an instruction on a link and yield the reply. -/
def ask (link : Link) (i : Instruction ν) : Action ν Reply := Action.send link (.instruct i)

/-- Give an instruction and yield whether the backend acknowledged it. -/
def check (link : Link) (i : Instruction ν) : Action ν Bool := do
  let reply ← ask link i
  pure (reply.acknowledges i.command)

/-- Give a waiting instruction, to be cancelled through a token, and yield whether the backend
acknowledged it. -/
def wait (token : Token) (i : Instruction ν) : Action ν Bool := do
  let reply ← Action.await token i
  pure (reply.acknowledges i.command)

/-- The call of a client that gives an instruction.  An instruction that waits does so on the
client's own token, and configuration is never sent to a place it cannot be saved to. -/
def perform (link : Link) (i : Instruction ν) : Action ν (Answer ν) :=
  match i with
  | .saveConfig target =>
    if target.isSavable then do
      let reply ← ask link i
      pure (i.answer reply)
    else pure (.flag false)
  | _ =>
    if i.isWait then do
      let reply ← Action.await .waiter i
      pure (i.answer reply)
    else do
      let reply ← ask link i
      pure (i.answer reply)

/-! ## 2. Calls of the automation engine -/

/-- The value of a channel and whether it is known. -/
def readChannel (channel : Nat) : Action ν (ChannelReading ν) := do
  let reply ← ask .remote (.readChannel channel)
  pure reply.channelReading

/-- The value of a channel alone. -/
def channelValue (channel : Nat) : Action ν ν := do
  let reading ← readChannel channel
  pure reading.value

/-- Whether the value of a channel is known. -/
def channelKnown (channel : Nat) : Action ν Bool := do
  let reading ← readChannel channel
  pure reading.known

/-- The time of the backend. -/
def getTime : Action ν ν := do
  let reply ← ask .remote .getTime
  pure reply.time

/-- Assign a panel variable from a line with a name, an equals sign and a value. -/
def setVar (line : String) : Action ν Bool := do
  let reply ← ask .remote (.setVar line)
  pure reply.assigned

/-- The text of a panel variable, empty when it could not be read. -/
def getVar (name : String) : Action ν String := do
  let reply ← ask .remote (.getVar name)
  pure reply.variableText

/-- Clear the acquisition buffer and yield the raw reply. -/
def clearBuffer (confirm resetTime : Bool) : Action ν Reply :=
  ask .remote (.clearBuffer confirm resetTime)

/-! ## 3. Calls of several requests -/

/-- The beginning of the names of a tool's variables on a panel. -/
def panelPrefix (panel : Int) (tool : String) (id : Int) : String :=
  "panel" ++ Decimal.intText panel ++ "_" ++ tool ++ Decimal.intText id ++ "_"

/-- The beginning of the variable names of the sweep tool that drives a channel on the active
panel. -/
def sweepPrefix (tool : String) (channel : Nat) : Action ν String := do
  let panel ← ask .remote .getPanel
  let sweep ← ask .remote (.getSweepId channel)
  pure (panelPrefix (panel.idOf "get_panel") tool (sweep.idOf "get_sweep_id"))

/-- Request a pulse, and fire the scope only if the request was accepted. -/
def fireScopePulse (link : Link) (channel : Nat) (target : ν) : Action ν Bool := do
  if ← check link (.requestPulse channel target) then
    check link (.setScanning true)
  else
    pure false

/-- Send a text as it stands and yield the raw reply. -/
def sendText (link : Link) (text : String) : Action ν Reply :=
  Action.send link (.verbatim text)

/-- Send a command and yield whether the backend acknowledged it. -/
def sendCheck (link : Link) (command : Command) : Action ν Bool := do
  let reply ← sendText link command.text
  pure (reply.acknowledges command)

end LabControl.Client
