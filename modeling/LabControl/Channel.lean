/-
# Channels

A channel has one request slot, so at most one request is in flight on it.  It remembers the
reply that arrived last; a request that is pending, fails or is given up leaves that reply as it
was.
-/
import LabControl.Message

namespace LabControl

/-- One end of a link: whether its request slot is taken, and the last reply. -/
structure Channel where
  busy : Bool := false
  lastReply : Reply := {}
  deriving DecidableEq, Repr

namespace Channel

/-- Take the request slot, if it is free. -/
def claim? (c : Channel) : Option Channel :=
  if c.busy then none else some { c with busy := true }

/-- Give the slot back without a reply. -/
def release (c : Channel) : Channel := { c with busy := false }

/-- Give the slot back with the reply that arrived. -/
def complete (_c : Channel) (reply : Reply) : Channel := { busy := false, lastReply := reply }

end Channel

end LabControl
