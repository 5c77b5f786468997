/-
# Settings in trees

How a tree stands for settings.  Nothing is converted from one kind of value to another, except
that an integer may stand for a number.  A field with a default may be missing, but not be null;
keys that name no field are ignored.

A list may stand for a record, with the fields in their order.  Sources differ in what becomes
of items beyond the last field, hence `Surplus`.
-/
import LabControl.Settings
import LabControl.Settings.Tree

namespace LabControl.Settings

/-! ## 1. Records -/

/-- What becomes of the items beyond the last field when a list stands for a record. -/
inductive Surplus where
  | refused
  | ignored
  deriving DecidableEq, Repr

/-- The entries of a tree that stands for a record of named fields. -/
def Tree.record? (surplus : Surplus) (fields : List String) : Tree → Option Entries
  | .table entries => some entries
  | .list items =>
    if surplus = .refused ∧ fields.length < items.length then none else some (fields.zip items)
  | _ => none

namespace Entries

/-- A field that must be there. -/
def required {α : Type} (entries : Entries) (field : String) (read : Tree → Option α) : Option α :=
  (entries.lookup field).bind read

/-- A field that has a value when it is missing. -/
def optional {α : Type} (entries : Entries) (field : String) (missing : α)
    (read : Tree → Option α) : Option α :=
  match entries.lookup field with
  | none => some missing
  | some value => read value

end Entries

/-! ## 2. Calibrations -/

/-- The kinds of calibration: their names, in an order by which they can be numbered. -/
def calibrationKinds : List String := ["identity", "table", "dbm_to_volts"]

/-- The kind of calibration that a tree names. -/
def Tree.calibrationKind? : Tree → Option String
  | .text name => if calibrationKinds.contains name then some name else none
  | .natural index => calibrationKinds[index]?
  | _ => none

/-- The breakpoints of a calibration of the table kind. -/
def Tree.breakpoints? (t : Tree) : Option (List Float) := t.list? Tree.number?

/-- The calibration that a tree describes: a table with a kind and what belongs to it, or a list
that begins with the kind and has exactly what belongs to it. -/
def Tree.calibration? : Tree → Option CalibrationKind
  | .table entries => do
    match ← Entries.required entries "kind" Tree.calibrationKind? with
    | "table" => (Entries.required entries "table" Tree.breakpoints?).map CalibrationKind.table
    | "identity" => some .identity
    | _ => some .dbmToVolts
  | .list (kind :: items) => do
    match ← kind.calibrationKind?, items with
    | "table", [breakpoints] => breakpoints.breakpoints?.map CalibrationKind.table
    | "identity", [] => some .identity
    | "dbm_to_volts", [] => some .dbmToVolts
    | _, _ => none
  | _ => none

/-! ## 3. Settings -/

/-- The fields of a device, in their order. -/
def deviceFields : List String :=
  ["id", "command", "period", "dummy_value", "reply_format", "write_format", "eos", "intro",
    "calibration"]

/-- The device that a tree describes. -/
def Tree.device? (surplus : Surplus) (t : Tree) : Option DeviceDefinition := do
  let entries ← t.record? surplus deviceFields
  pure
    { id := ← entries.required "id" Tree.text?
      command := ← entries.required "command" Tree.text?
      period := ← entries.required "period" Tree.number?
      dummyValue := ← entries.required "dummy_value" Tree.number?
      replyFormat := ← entries.required "reply_format" Tree.text?
      writeFormat := ← entries.optional "write_format" "" Tree.text?
      eos := ← entries.optional "eos" Device.defaultEos (Tree.natural? UInt32.size)
      intro := ← entries.optional "intro" Device.defaultIntro Tree.text?
      calibration := ← entries.optional "calibration" .identity Tree.calibration? }

/-- The settings of the application that a tree describes. -/
def Tree.application? (surplus : Surplus) (t : Tree) : Option Application := do
  let default : Application := {}
  let entries ← t.record? surplus ["name", "log_level", "echo"]
  pure
    { name := ← entries.optional "name" default.name Tree.text?
      logLevel := ← entries.optional "log_level" default.logLevel Tree.text?
      echo := ← entries.optional "echo" default.echo Tree.flag? }

/-- The settings of the automation that a tree describes. -/
def Tree.automation? (surplus : Surplus) (t : Tree) : Option Automation := do
  let default : Automation := {}
  let entries ← t.record? surplus ["ramp_points", "panel_tool"]
  pure
    { rampPoints := ← entries.optional "ramp_points" default.rampPoints (Tree.natural? UInt64.size)
      panelTool := ← entries.optional "panel_tool" default.panelTool Tree.text? }

/-- The settings that a tree describes. -/
def Tree.settings? (surplus : Surplus) (t : Tree) : Option Settings := do
  let entries ← t.record? surplus ["application", "automation", "devices"]
  pure
    { application := ← entries.optional "application" {} (Tree.application? surplus)
      automation := ← entries.optional "automation" {} (Tree.automation? surplus)
      devices := ← entries.optional "devices" [] (Tree.list? (Tree.device? surplus)) }

end LabControl.Settings
