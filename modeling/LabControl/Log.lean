/-
# Log levels and options

A level has two spellings: its name, in lower case, which is the only one that settings may
give, and its label, in upper case.  `Level.parse?` is more lenient than settings and takes the
name in any case.
-/
import LabControl.Text.Blank

namespace LabControl.Log

/-- How important an event must be to be logged. -/
inductive Level where
  | trace
  | debug
  | info
  | warn
  | error
  deriving DecidableEq, Repr

namespace Level

/-- The name of a level. -/
def name : Level → String
  | trace => "trace"
  | debug => "debug"
  | info => "info"
  | warn => "warn"
  | error => "error"

/-- The label of a level. -/
def label : Level → String
  | trace => "TRACE"
  | debug => "DEBUG"
  | info => "INFO"
  | warn => "WARN"
  | error => "ERROR"

/-- The levels, the most talkative first. -/
def all : List Level := [trace, debug, info, warn, error]

/-- The names of the levels, for the text of a refusal. -/
def choices : String := ", ".intercalate (all.map name)

/-- The level of a name in any case.  No letter outside the Latin alphabet has a lower case
that occurs in a name, so other letters need no lower case here. -/
def parse? (text : String) : Option Level := all.find? fun l => l.name == Text.lowerAscii text

/-- Why a text names no level. -/
def refusal (text : String) : String :=
  "Invalid log level '" ++ text ++ "'. Must be one of: " ++ choices

end Level

/-- How events are written. -/
inductive Format where
  /-- On several lines, in colour. -/
  | pretty
  /-- On one line. -/
  | compact
  /-- As one object for each event. -/
  | json
  deriving DecidableEq, Repr

/-- The label of a format. -/
def Format.label : Format → String
  | .pretty => "Pretty"
  | .compact => "Compact"
  | .json => "Json"

/-- What is logged, and how. -/
structure Options where
  level : Level := .info
  format : Format := .pretty
  /-- Whether the opening and closing of spans are events. -/
  spanEvents : Bool := false
  /-- Whether events tell the place in the program that they come from. -/
  places : Bool := false
  /-- Whether events tell the name of their thread. -/
  threadNames : Bool := false
  /-- Whether the pretty format has colours. -/
  colours : Bool := true
  deriving DecidableEq, Repr

namespace Options

/-- The default options at a level, given by its name. -/
def ofLevelName (text : String) : Except String Options :=
  match Level.parse? text with
  | some level => .ok { level }
  | none => .error (Level.refusal text)

/-- The options with another format. -/
def withFormat (o : Options) (format : Format) : Options := { o with format }

/-- The options with events for spans, or without. -/
def withSpanEvents (o : Options) (on : Bool) : Options := { o with spanEvents := on }

/-- The options with colours, or without. -/
def withColours (o : Options) (on : Bool) : Options := { o with colours := on }

end Options

/-- The logger of a process: none yet, or the options it was installed with. -/
structure Logger where
  installed : Option Options := none
  deriving DecidableEq, Repr

/-- Install a logger.  One that is installed already stays, and this is no failure. -/
def Logger.install (l : Logger) (o : Options) : Except String Unit × Logger :=
  (.ok (), { installed := l.installed.or o })

end LabControl.Log
