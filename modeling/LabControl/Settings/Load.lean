/-
# Loading settings

Settings come from a document and from overrides, which are laid over it.  A document that does
not exist is empty.
-/
import LabControl.Settings.Override
import LabControl.Settings.Schema
import LabControl.Settings.Wrapping
import LabControl.Toml.Document

namespace LabControl.Settings

/-- Why settings cannot be loaded. -/
inductive LoadFault where
  /-- The document is not well formed, or marks a value. -/
  | malformed
  /-- A field is missing or has a value of the wrong kind. -/
  | mismatch
  deriving DecidableEq, Repr

/-- The text shown for settings that cannot be loaded. -/
def LoadFault.message : LoadFault → String
  | malformed => "the document is not well formed"
  | mismatch => "a setting is missing or has a value of the wrong kind"

/-- The tree of a document, which may not exist, with its wrapped values unwrapped. -/
def documentTree : Option String → Except LoadFault Tree
  | none => .ok (.table [])
  | some document =>
    match (Toml.read? document).bind Tree.unwrapDocument? with
    | some tree => .ok tree
    | none => .error .malformed

/-- The settings of a document and overrides. -/
def load (document : Option String) (overrides : List (String × String)) :
    Except LoadFault Settings := do
  let tree ← documentTree document
  match (tree.overlay (overrideTree overrides)).settings? .ignored with
  | some settings => pure settings
  | none => throw .mismatch

/-- The settings of a document and overrides, which must not contradict themselves. -/
def loadValidated (document : Option String) (overrides : List (String × String)) :
    Except ControlError Settings := do
  let settings ← (load document overrides).mapError fun fault => .load fault.message
  settings.validate.mapError fun fault => .configuration fault.message
  pure settings

end LabControl.Settings
