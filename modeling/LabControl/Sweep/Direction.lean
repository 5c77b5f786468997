/-
# Sweep directions and events

A sweep runs up or down between its two endpoints.  The backend reports five events of a sweep;
the event that ends a leg is the end of the hold time at the endpoint the leg runs to.
-/

namespace LabControl.Sweep

/-- What the backend reports about a running sweep. -/
inductive Event where
  /-- The sweep crossed zero with a zero stop enabled. -/
  | zeroStop
  /-- The sweep reached its lower endpoint. -/
  | min
  /-- The sweep reached its upper endpoint. -/
  | max
  /-- The hold time at the lower endpoint is over. -/
  | minPosthold
  /-- The hold time at the upper endpoint is over. -/
  | maxPosthold
  deriving DecidableEq, Repr

/-- The name of an event on the wire. -/
def Event.text : Event → String
  | .zeroStop => "zerostop"
  | .min => "min"
  | .max => "max"
  | .minPosthold => "min_posthold"
  | .maxPosthold => "max_posthold"

/-- The direction of a leg. -/
inductive Direction where
  /-- Toward the upper endpoint. -/
  | up
  /-- Toward the lower endpoint. -/
  | down
  deriving DecidableEq, Repr

namespace Direction

/-- The other direction. -/
def opposite : Direction → Direction
  | up => down
  | down => up

/-- The event that ends a leg, its hold time included. -/
def posthold : Direction → Event
  | up => .maxPosthold
  | down => .minPosthold

/-- The name of a direction in panel variables. -/
def text : Direction → String
  | up => "up"
  | down => "down"

end Direction

end LabControl.Sweep
