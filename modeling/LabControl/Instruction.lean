/-
# Instructions

The typed instructions of the control language, one constructor for each thing a client can ask
with a single request, and the command that carries each of them.  Three groups differ in where
they may be given: on both links, only inside a trigger action, and only on the remote link.
-/
import LabControl.Message
import LabControl.Sweep.Direction

namespace LabControl

/-- The two links to the backend. -/
inductive Link where
  /-- The interactive link.  A request on it may wait for a hardware event. -/
  | remote
  /-- The link used inside a trigger action, where the remote link would wait for itself. -/
  | trigger
  deriving DecidableEq, Repr

/-- The name of a link. -/
def Link.text : Link → String
  | .remote => "remote"
  | .trigger => "local"

/-- Where panel configuration is loaded from or saved to. -/
inductive ConfigSource where
  | userDefault
  | systemDefault
  | internalDefault
  | last
  | file (filename : String)
  deriving DecidableEq, Repr

namespace ConfigSource

/-- The fields that name a source. -/
def fields : ConfigSource → List (String × String)
  | userDefault => [("mode", "user_default")]
  | systemDefault => [("mode", "sys_default")]
  | internalDefault => [("mode", "internal_default")]
  | last => [("mode", "last")]
  | file filename => [("mode", "file"), ("filename", filename)]

/-- Whether configuration can be saved to a source: only to the user's default and to a
file. -/
def isSavable : ConfigSource → Bool
  | userDefault | file _ => true
  | systemDefault | internalDefault | last => false

end ConfigSource

/-- What a client can ask of the backend with one request. -/
inductive Instruction (ν : Type) where
  -- On both links.
  | setRecording (on : Bool)
  | setDac (channel : Nat) (target : ν)
  | sweepStop (channel : Nat)
  | sweepDown (channel : Nat)
  | sweepUp (channel : Nat)
  | requestPulse (channel : Nat) (target : ν)
  | cancelPulse
  | setScanning (on : Bool)
  | armTrigger (id : Int)
  | disarmTrigger (id : Int)
  | forceTrigger (id : Int)
  | cancelTrigger (id : Int)
  | newSet
  | zeroTime
  | saveData (filename : String)
  -- Inside a trigger action.
  | setLine (channel : Nat) (target : ν)
  | emitSignal (signal : String)
  -- On the remote link.
  | hello (message : String)
  | busExchange (bus pad : Nat) (message : String) (eos : Nat) (expectReply : Bool)
  | pauseBus (paused : Bool)
  | getTime
  | readChannel (channel : Nat)
  | loadConfig (source : ConfigSource)
  | saveConfig (target : ConfigSource)
  | setPanel (panel : Int)
  | getPanel
  | setVar (line : String)
  | getVar (name : String)
  | getSweepId (channel : Nat)
  | linkSweeps (first second : Nat)
  | unlinkSweeps
  | setFollower (leader follower : Nat) (expression : String)
  | removeFollower (leader : Nat)
  | showFollowers
  | clearBuffer (confirm resetTime : Bool)
  -- Waiting on the remote link.
  | catchSweep (event : Sweep.Event) (channel : Nat)
  | catchScanStart
  | catchScanFinish
  | catchSignal (signal : String)
  deriving DecidableEq, Repr

namespace Instruction

variable {ν : Type}

/-- A command about one channel. -/
def channelCommand (name : String) (channel : Nat) : Command :=
  Command.int { name := name } "channel" channel

/-- The command that carries an instruction. -/
def command [Quantity ν] : Instruction ν → Command
  | setRecording on => Command.flag { name := "set_recording" } "on" on
  | setDac channel target | setLine channel target =>
    (channelCommand "set_dac" channel).quantity "target" target
  | sweepStop channel => channelCommand "sweep_stop" channel
  | sweepDown channel => channelCommand "sweep_down" channel
  | sweepUp channel => channelCommand "sweep_up" channel
  | requestPulse channel target =>
    (channelCommand "request_pulse" channel).quantity "target" target
  | cancelPulse => Command.int { name := "request_pulse" } "channel" (-1)
  | setScanning on => Command.flag { name := "set_scanning" } "on" on
  | armTrigger id => Command.int { name := "arm_trigger" } "id" id
  | disarmTrigger id => Command.int { name := "disarm_trigger" } "id" id
  | forceTrigger id => Command.int { name := "force_trigger" } "id" id
  | cancelTrigger id => Command.int { name := "cancel_trigger" } "id" id
  | newSet => { name := "new_set" }
  | zeroTime => { name := "tzero" }
  | saveData filename => Command.arg { name := "save" } "filename" filename
  | emitSignal signal => Command.arg { name := "emit_signal" } "name" signal
  | hello message => Command.arg { name := "hello" } "msg_out" message
  | busExchange bus pad message eos expectReply =>
    ((((Command.int { name := "gpib_send_recv" } "id" bus).int "pad" pad).int "eos" eos).arg
      "msg" message).flag "expect_reply" expectReply
  | pauseBus paused => Command.flag { name := "gpib_pause" } "paused" paused
  | getTime => { name := "get_time" }
  | readChannel channel => channelCommand "read_channel" channel
  | loadConfig source => { name := "load_config", fields := source.fields }
  | saveConfig target => { name := "save_config", fields := target.fields }
  | setPanel panel => Command.int { name := "set_panel" } "pid" panel
  | getPanel => { name := "get_panel" }
  | setVar line => Command.arg { name := "set_var" } "line" line
  | getVar name => Command.arg { name := "get_var" } "line" name
  | getSweepId channel => channelCommand "get_sweep_id" channel
  | linkSweeps first second => (channelCommand "sweep_link_setup" first).int "channel" second
  | unlinkSweeps => { name := "sweep_link_clear" }
  | setFollower leader follower expression =>
    ((Command.int { name := "set_follower" } "leader" leader).int "follower" follower).arg
      "expr" expression
  | removeFollower leader =>
    (Command.int { name := "set_follower" } "leader" leader).int "follower" (-1)
  | showFollowers => { name := "show_followers" }
  | clearBuffer confirm resetTime =>
    (Command.flag { name := "clear_buffer" } "confirm" confirm).flag "tzero" resetTime
  | catchSweep event channel => channelCommand ("catch_sweep_" ++ event.text) channel
  | catchScanStart => { name := "catch_scan_start" }
  | catchScanFinish => { name := "catch_scan_finish" }
  | catchSignal signal => Command.arg { name := "catch_signal" } "name" signal

/-- The name of the command that carries an instruction. -/
def name [Quantity ν] (i : Instruction ν) : String := i.command.name

/-- The wire text of an instruction. -/
def text [Quantity ν] (i : Instruction ν) : String := i.command.text

/-- Whether an instruction waits for an event, and so may be cancelled through a token. -/
def isWait : Instruction ν → Bool
  | catchSweep .. | catchScanStart | catchScanFinish | catchSignal _ => true
  | _ => false

/-- The instruction that starts a sweep in a direction. -/
def startSweep (direction : Sweep.Direction) (channel : Nat) : Instruction ν :=
  match direction with
  | .up => sweepUp channel
  | .down => sweepDown channel

end Instruction

end LabControl
