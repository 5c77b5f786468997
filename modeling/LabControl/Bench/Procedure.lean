/-
# Procedures

A procedure is a list of steps on a session.  A step runs a program or does something to the
bench itself.  A step that waits lets its `meanwhile` steps run, one after the other, and tries
to go on after each; when none is left and it still waits, it is given up.
-/
import LabControl.Bench.Rig
import LabControl.Client
import LabControl.Sweep.Estimate
import LabControl.Sweep.Routines

namespace LabControl.Bench

/-- The state of the echo switches. -/
structure EchoReport where
  remote : Bool
  trigger : Bool
  given : Bool
  givenToTrigger : Bool
  description : String
  deriving DecidableEq, Repr

/-- What a step yields. -/
inductive Value where
  | nothing
  | answer (value : Answer Float)
  | outcome (value : Sweep.Outcome)
  | timing (value : Sweep.Timing Float)
  | numbers (values : List Float)
  | texts (values : List String)
  | exchanges (values : List Exchange)
  | echo (report : EchoReport)

/-- What can be done to the bench itself. -/
inductive Control where
  | lastReply (link : Link)
  | setEcho (link : Link) (on : Bool)
  | echoReport
  | echoText
  | hold (name : String)
  | fail (name : String)
  | clear
  | sleeps
  | commands
  | commandsOn (link : Link)
  | exchanges
  | cancelRun
  | abortCleanup
  | cancelWaiter
  | stateText
  deriving DecidableEq, Repr

/-- What a step does. -/
inductive Task where
  | program (action : Action Float Value)
  | control (control : Control)

/-- A step, and the steps that run while it waits. -/
inductive Step where
  | step (task : Task) (meanwhile : List Step)

/-- How a step ended. -/
inductive Ending where
  | finished (result : Except ControlError Value)
  /-- It was still waiting when it was given up. -/
  | blocked

/-- What is reported of a step: how it ended, the engine's state after it, the requests that
arrived during it, and the reports of the steps that ran while it waited. -/
inductive Report where
  | report (ending : Ending) (state : String) (log : List Arrival) (meanwhile : List Report)

namespace Session

/-- The echo switches as they stand.  A trigger channel without the given echo was made with one
that stays off. -/
def echoReport (s : Session) : EchoReport :=
  { remote := (s.echo .remote).enabled
    trigger := (s.echo .trigger).enabled
    given := s.given.enabled
    givenToTrigger := s.wiring != .remoteOnly && s.given.enabled
    description := (s.echo .remote).describe }

/-- Change the rig of a session. -/
def onRig (s : Session) (change : Rig → Rig) : Session := { s with far := change s.far }

/-- Change the scripted backend of a session. -/
def onScript (s : Session) (change : Script → Script) : Session :=
  onRig s fun r => { r with script := change r.script }

/-- Do something to the bench. -/
def control (s : Session) : Control → Value × Session
  | .lastReply link => (.answer (.text (s.channel link).lastReply.text), s)
  | .setEcho link on => (.nothing, s.setEcho link on)
  | .echoReport => (.echo (echoReport s), s)
  | .echoText => (.answer (.text s.given.written), s)
  | .hold name => (.nothing, onScript s fun b => b.hold name)
  | .fail name => (.nothing, onScript s fun b => b.fail name)
  | .clear => (.nothing, onScript s Script.clear)
  | .sleeps => (.numbers s.far.script.sleeps.toList, s)
  | .commands => (.texts s.far.script.commands, s)
  | .commandsOn link => (.texts (s.far.script.commandsOn link), s)
  | .exchanges => (.exchanges s.far.script.exchanges.toList, s)
  | .cancelRun => (.nothing, onRig s fun r => r.fire r.engine.token)
  | .abortCleanup => (.nothing, onRig s fun r => r.fire .cleanup)
  | .cancelWaiter => (.nothing, onRig s fun r => r.fire .waiter)
  | .stateText => (.answer (.text s.far.state.text), s)

/-- What a task comes to, and what is left of it if it waits. -/
abbrev Outlook : Type := Connection.Progress Float (Except ControlError Value)

/-- Begin a task. -/
def start (s : Session) : Task → Outlook × Session
  | .program action => Connection.run Rig.world (ExceptT.run action) s
  | .control c =>
    let (value, s) := control s c
    (.finished (.ok value), s)

mutual

/-- Perform a step. -/
def perform : Step → Session → Report × Session
  | .step task meanwhile, s =>
    let before := s.far.log.size
    let (ending, reports, s) : Ending × List Report × Session :=
      match start s task with
      | (.finished result, s) => (.finished result, [], s)
      | (.blocked rest, s) => performMeanwhile meanwhile rest s
    (.report ending s.far.state.text (s.far.log.toList.drop before) reports, s)

/-- Perform the steps of a waiting program until it ends, and give it up when none is left. -/
def performMeanwhile : List Step → Connection.Waiting Float (Except ControlError Value) →
    Session → Ending × List Report × Session
  | [], rest, s => (.blocked, [], Connection.abandon rest s)
  | step :: steps, rest, s =>
    let (report, s) := perform step s
    match Connection.resume Rig.world rest s with
    | (.finished result, s) => (.finished result, [report], s)
    | (.blocked rest, s) =>
      let (ending, reports, s) := performMeanwhile steps rest s
      (ending, report :: reports, s)

end

/-- Perform the steps of a procedure one after the other. -/
def performAll : List Step → Session → List Report × Session
  | [], s => ([], s)
  | step :: steps, s =>
    let (report, s) := perform step s
    let (reports, s) := performAll steps s
    (report :: reports, s)

end Session

end LabControl.Bench
