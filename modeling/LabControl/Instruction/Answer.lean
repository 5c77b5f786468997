/-
# What an instruction answers

The value that a client takes from the reply to an instruction.  Most instructions answer
whether the backend acknowledged them; the others read a value off the reply, with a fixed value
where the reply has another name.
-/
import LabControl.Instruction

namespace LabControl

/-- The id that stands for a query the backend rejected. -/
def unknownId : Int := -2

/-- The value of a channel, and whether the backend knows it. -/
structure ChannelReading (ν : Type) where
  value : ν
  known : Bool
  deriving DecidableEq, Repr

/-- The reading that stands for a rejected query. -/
def ChannelReading.unknown {ν : Type} [Scale ν] : ChannelReading ν :=
  { value := Scale.count 0, known := false }

namespace Reply

variable {ν : Type} [Quantity ν]

/-- The reading of a channel. -/
def channelReading (r : Reply) : ChannelReading ν :=
  if r.answers "read_channel" then
    { value := (r.quantity? 0).getD (Scale.count 0)
      known := (r.int? 1).any (· != 0) }
  else ChannelReading.unknown

/-- The time of the backend, zero when the query was rejected. -/
def time (r : Reply) : ν :=
  if r.answers "get_time" then (r.quantity? 0).getD (Scale.count 0) else Scale.count 0

/-- The id in the reply to a query of the given name. -/
def idOf (r : Reply) (query : String) : Int :=
  if r.answers query then (r.int? 0).getD unknownId else unknownId

/-- The text of a panel variable, empty when it could not be read. -/
def variableText (r : Reply) : String :=
  if r.answers "get_var" && r.flag 0 then r.arg 1 else ""

/-- Whether a panel variable was assigned. -/
def assigned (r : Reply) : Bool := r.answers "set_var" && r.flag 0

/-- The instrument's reply on the bus, or a fixed text when the request was rejected. -/
def busText (r : Reply) : String := if r.answers "gpib_send_recv" then r.arg 0 else "Error"

end Reply

/-- The value that a client returns for an instruction. -/
inductive Answer (ν : Type) where
  | flag (value : Bool)
  | number (value : ν)
  | id (value : Int)
  | text (value : String)
  | reading (value : ChannelReading ν)
  | reply (value : Reply)
  | nothing
  deriving DecidableEq, Repr

/-- The answer that a client takes from the reply to an instruction. -/
def Instruction.answer {ν : Type} [Quantity ν] (i : Instruction ν) (r : Reply) : Answer ν :=
  match i with
  | .hello message => .flag (r.answers "hello" && r.arg 0 == message)
  | .busExchange _ _ _ _ expectReply => if expectReply then .text r.busText else .nothing
  | .getTime => .number r.time
  | .readChannel _ => .reading r.channelReading
  | .loadConfig _ | .saveConfig _ => .flag (r.flag 0)
  | .getPanel => .id (r.idOf "get_panel")
  | .setVar _ => .flag r.assigned
  | .getVar _ => .text r.variableText
  | .getSweepId _ => .id (r.idOf "get_sweep_id")
  | .clearBuffer .. => .reply r
  | _ => .flag (r.acknowledges i.command)

end LabControl
