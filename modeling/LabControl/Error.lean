/-
# What can abort a control operation

A rejected request is no error: the backend answers it under another name, and the client
reports that as a value.  What remains are the seven causes below.
-/

namespace LabControl

/-- The causes that abort a control operation, each with what was reported about it. -/
inductive ControlError where
  /-- The link to the backend failed to deliver a request or its reply. -/
  | transport (detail : String)
  /-- Something outside the link failed, such as the echo stream. -/
  | io (detail : String)
  /-- The configuration could not be loaded. -/
  | load (detail : String)
  /-- The configuration was loaded but contradicts itself. -/
  | configuration (detail : String)
  /-- A wait was cancelled through its token. -/
  | cancelled (operation : String)
  /-- No live device has this id. -/
  | unknownDevice (id : String)
  /-- The device backend refused to open or read a slot. -/
  | backend (detail : String)
  deriving DecidableEq, Repr

namespace ControlError

/-- The text shown for an error. -/
def message : ControlError → String
  | transport detail => "Transport error: " ++ detail
  | io detail => "I/O error: " ++ detail
  | load detail => "Configuration error: " ++ detail
  | configuration detail => "Configuration validation error: " ++ detail
  | cancelled operation => "Operation cancelled: " ++ operation
  | unknownDevice id => "Unknown device: " ++ id
  | backend detail => "Device backend error: " ++ detail

/-- Whether the error came from an explicit cancellation. -/
def isCancelled : ControlError → Bool
  | cancelled _ => true
  | _ => false

/-- Whether the caller may retry or go on.  A failed link, a failed stream and a configuration
that cannot be loaded end the operation for good. -/
def canRecover : ControlError → Bool
  | transport _ | io _ | load _ => false
  | configuration _ | cancelled _ | unknownDevice _ | backend _ => true

end ControlError

end LabControl
