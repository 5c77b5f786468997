/-
# The echo of control traffic

While its switch is on, an echo writes one line before each request is sent and one line after
each reply arrives, and flushes the stream after each line.  A stream that fails ends the
exchange that was being echoed.
-/
import LabControl.Error

namespace LabControl

/-- How the stream behind an echo fails. -/
inductive StreamFault where
  /-- Nothing can be written. -/
  | write
  /-- What is written cannot be flushed. -/
  | flush
  /-- A reply line cannot be flushed. -/
  | replyFlush
  deriving DecidableEq, Repr

/-- A switch and the stream that is written to while it is on. -/
structure Echo where
  enabled : Bool := false
  fault : Option StreamFault := none
  written : String := ""
  deriving DecidableEq, Repr

namespace Echo

/-- What a line of an echo shows. -/
inductive Side where
  /-- A request. -/
  | command
  /-- A reply. -/
  | reply
  deriving DecidableEq, Repr

/-- What stands before the text of a line. -/
def Side.label : Side → String
  | command => "   Command: "
  | reply => "   Reply:   "

/-- The line that shows a text, with its line break.  A text with line breaks of its own is still
written as one line. -/
def line (side : Side) (text : String) : String := side.label ++ text ++ "\n"

/-- Write and flush one line, unless the switch is off. -/
def writeLine (e : Echo) (side : Side) (text : String) : Except ControlError Unit × Echo :=
  if !e.enabled then (.ok (), e) else
  let written := { e with written := e.written ++ line side text }
  match e.fault, side with
  | some .write, _ => (.error (.io "pipe closed"), e)
  | some .flush, _ => (.error (.io "flush failed"), written)
  | some .replyFlush, .reply => (.error (.io "reply flush failed"), written)
  | some .replyFlush, .command | none, _ => (.ok (), written)

/-- Echo a request. -/
def command (e : Echo) (text : String) : Except ControlError Unit × Echo :=
  e.writeLine .command text

/-- Echo a reply. -/
def reply (e : Echo) (text : String) : Except ControlError Unit × Echo :=
  e.writeLine .reply text

/-- The switch as it is shown. -/
def describe (e : Echo) : String :=
  "EchoMode \x7b enabled: " ++ (if e.enabled then "true" else "false") ++ ", .. \x7d"

end Echo

end LabControl
