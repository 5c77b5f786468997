/-
# Rigs

A rig is a world to run programs in: a scripted backend, the tokens that have fired, and the
state that the engine published last.  Beforehand it can be told what is to happen when a certain
request arrives.  It keeps a log of the requests that arrived.
-/
import LabControl.Bench.Script
import LabControl.Sweep.Engine

namespace LabControl.Bench

/-- What happens when a certain request arrives. -/
inductive Incident where
  /-- The engine is cancelled. -/
  | cancelRun
  /-- The engine's cleanup is aborted. -/
  | abortCleanup
  /-- The waiting client is cancelled. -/
  | cancelWaiter
  /-- Commands of a name fail from now on. -/
  | fail (name : String)
  /-- Commands of a name are never answered from now on. -/
  | hold (name : String)
  /-- The link drops the request before it reaches the backend. -/
  | drop (detail : String)
  deriving DecidableEq, Repr

/-- An incident and the request that brings it about: the `nth` of a name, counted from one. -/
structure Hook where
  name : String
  nth : Nat
  incident : Incident
  deriving DecidableEq, Repr

/-- A request as it arrived: its link, its text, the reply if there was one, and the engine's
state at that moment. -/
structure Arrival where
  link : Link
  command : String
  reply : Option String
  state : String
  deriving DecidableEq, Repr

/-- A world made of a scripted backend. -/
structure Rig where
  script : Script := {}
  hooks : List Hook := []
  engine : Sweep.Engine := {}
  /-- The names of the requests that arrived, the latest first. -/
  arrived : List String := []
  /-- The tokens that have fired. -/
  fired : List Token := []
  /-- The state that the engine published last. -/
  state : Sweep.State Float := .idle
  log : Array Arrival := #[]

namespace Rig

/-- Whether a token has fired. -/
def hasFired (r : Rig) (token : Token) : Bool := r.fired.contains token

/-- Fire a token. -/
def fire (r : Rig) (token : Token) : Rig := { r with fired := token :: r.fired }

/-- The incidents that a request brings about, in their order, up to a drop. -/
def meet (r : Rig) : List Incident → Option ControlError × Rig
  | [] => (none, r)
  | .cancelRun :: rest => (r.fire r.engine.token).meet rest
  | .abortCleanup :: rest => (r.fire .cleanup).meet rest
  | .cancelWaiter :: rest => (r.fire .waiter).meet rest
  | .fail name :: rest => { r with script := r.script.fail name }.meet rest
  | .hold name :: rest => { r with script := r.script.hold name }.meet rest
  | .drop detail :: _ => (some (.transport detail), r)

/-- Add a request to the log. -/
def note (r : Rig) (arrival : Arrival) : Rig := { r with log := r.log.push arrival }

/-- A request arrives: it is counted, its incidents happen, and unless one of them drops it, it
reaches the backend. -/
def receive (r : Rig) (link : Link) (text : String) : Reception × Rig :=
  let name := decodeName text
  let arrived := name :: r.arrived
  let due := r.hooks.filter fun h => h.name == name && h.nth == arrived.count name
  let arrival (reply : Option String) : Arrival :=
    { link, command := text, reply, state := r.state.text }
  match meet { r with arrived } (due.map Hook.incident) with
  | (some error, r) => (.answered (.error error), r.note (arrival none))
  | (none, r) =>
    let (reception, script) := r.script.receive link text
    let reply := match reception with
      | .answered (.ok reply) => some reply
      | _ => none
    (reception, { r with script }.note (arrival reply))

/-- Sleep on the scripted backend. -/
def sleep (r : Rig) (seconds : Float) : Except ControlError Bool × Rig :=
  let (slept, script) := r.script.sleep seconds
  (.ok slept, { r with script })

/-- A rig as a world. -/
def world : World Float Rig where
  receive link text r := r.receive link text
  sleep _ seconds r := r.sleep seconds
  publish state r := { r with state }
  hasFired token r := r.hasFired token

end Rig

/-- A connection to a rig. -/
abbrev Session : Type := Connection Rig

end LabControl.Bench
