/-
# Settings

The settings of a control client: the application, the sweep automation and the devices.  Their
types do not keep settings from contradicting themselves; `Settings.validate` says whether they
do, and which contradiction comes first.  `Settings.registerAll` registers the devices, either
all of them or none.
-/
import LabControl.Device.Registry
import LabControl.Echo
import LabControl.Log
import LabControl.Sweep.Engine

namespace LabControl

open Calibration (LookupTable)

/-! ## 1. What can be set -/

/-- A calibration as it is written in settings. -/
inductive CalibrationKind where
  /-- Values pass unchanged. -/
  | identity
  /-- The raw number is a position among breakpoints. -/
  | table (breakpoints : List Float)
  /-- Raw power in dBm, reported in volts. -/
  | dbmToVolts
  deriving Repr

namespace CalibrationKind

/-- The table that a kind of calibration looks values up in, or why it is none. -/
def table? : CalibrationKind → Except LookupTable.Fault (Option (LookupTable Float))
  | table breakpoints => (LookupTable.check breakpoints).map some
  | identity | dbmToVolts => .ok none

/-- The calibration of a kind. -/
def build : CalibrationKind → Except ControlError (Calibration Float)
  | identity => .ok .identity
  | table breakpoints => (LookupTable.ofList? breakpoints).map Calibration.ofTable
  | dbmToVolts => .ok .dbmToVolts

end CalibrationKind

/-- A device as it is written in settings. -/
structure DeviceDefinition where
  id : String
  /-- The query that reads the current value. -/
  command : String
  /-- The polling period in seconds. -/
  period : Float
  /-- The value reported while the instrument cannot be reached. -/
  dummyValue : Float
  /-- How the instrument's reply is read. -/
  replyFormat : String
  /-- How a new value is written; empty for an instrument that is only read. -/
  writeFormat : String := ""
  /-- The end-of-string code. -/
  eos : Nat := Device.defaultEos
  /-- What is sent when a slot is opened. -/
  intro : String := Device.defaultIntro
  calibration : CalibrationKind := .identity
  deriving Repr

/-- The descriptor of a device, unless its calibration cannot be built. -/
def DeviceDefinition.descriptor (d : DeviceDefinition) : Except ControlError Device.Descriptor :=
  d.calibration.build.map fun calibration =>
    { command := d.command, period := d.period, dummyValue := d.dummyValue
      replyFormat := d.replyFormat, writeFormat := d.writeFormat
      eos := d.eos, intro := d.intro, calibration }

namespace Settings

/-- The settings of the application. -/
structure Application where
  name : String := "daq_control"
  /-- The name of the level of what is logged. -/
  logLevel : String := Log.Level.info.name
  /-- Whether control traffic is echoed from the start. -/
  echo : Bool := false
  deriving DecidableEq, Repr

/-- The settings of the sweep automation. -/
structure Automation where
  /-- The number of intervals of a ramp. -/
  rampPoints : Nat := Sweep.defaultRampPoints
  /-- The panel tool whose variables configure a sweep. -/
  panelTool : String := Sweep.defaultPanelTool
  deriving DecidableEq, Repr

end Settings

/-- The settings of a control client. -/
structure Settings where
  application : Settings.Application := {}
  automation : Settings.Automation := {}
  devices : List DeviceDefinition := []
  deriving Repr

namespace Settings

/-! ## 2. Contradictions -/

/-- How settings contradict themselves. -/
inductive Fault where
  /-- The log level is not the name of a level. -/
  | unknownLogLevel (given : String)
  /-- A ramp has no intervals. -/
  | noRampPoints
  /-- Two devices have one id. -/
  | duplicateDevice (id : String)
  /-- The period of a device is not positive. -/
  | periodNotPositive (id : String) (period : Float)
  /-- The breakpoints of a device are no table. -/
  | table (id : String) (fault : LookupTable.Fault)
  deriving Repr

/-- The text shown for a contradiction. -/
def Fault.message : Fault → String
  | unknownLogLevel given =>
    "Invalid log_level '" ++ given ++ "'. Must be one of: " ++ Log.Level.choices
  | noRampPoints => "Invalid ramp_points 0. Must be at least 1"
  | duplicateDevice id => "Duplicate device ID: " ++ id
  | periodNotPositive id period =>
    "Invalid period " ++ Decimal.shortest period ++ " for device '" ++ id ++ "'. Must be positive"
  | table id fault =>
    "Device '" ++ id ++ "': " ++ (ControlError.configuration fault.message).message

/-- Whether a period is positive.  A value that is no number is not. -/
def isPositive (period : Float) : Bool := Scale.lt (floatCount 0) period

/-- Check the devices one after the other, given the ids of those before. -/
def validateDevices (earlier : List String) : List DeviceDefinition → Except Fault Unit
  | [] => .ok ()
  | d :: rest =>
    if earlier.contains d.id then .error (.duplicateDevice d.id)
    else if !isPositive d.period then .error (.periodNotPositive d.id d.period)
    else
      match d.calibration.table? with
      | .error fault => .error (.table d.id fault)
      | .ok _ => validateDevices (d.id :: earlier) rest

/-- Whether settings are free of contradictions, and the first contradiction otherwise: the log
level, the ramp, then the devices in their order. -/
def validate (s : Settings) : Except Fault Unit :=
  if !(Log.Level.all.map Log.Level.name).contains s.application.logLevel then
    .error (.unknownLogLevel s.application.logLevel)
  else if s.automation.rampPoints = 0 then .error .noRampPoints
  else validateDevices [] s.devices

/-! ## 3. Registration -/

/-- Register devices one after the other, given those registered before, which lose their owner
again when one cannot be registered. -/
def registerFrom (created : List Device) :
    List DeviceDefinition → Device.Inventory →
      Except ControlError (List Device) × Device.Inventory
  | [], i => (.ok created, i)
  | d :: rest, i =>
    let undone (i : Device.Inventory) := created.foldl (fun i d => i.disown d.serial) i
    match d.descriptor with
    | .error error => (.error error, undone i)
    | .ok descriptor =>
      match i.register d.id descriptor with
      | (.error error, i) => (.error error, undone i)
      | (.ok device, i) => registerFrom (created ++ [device]) rest i

/-- Register every device.  When one cannot be registered, none of them stays. -/
def registerAll (s : Settings) (i : Device.Inventory) :
    Except ControlError (List Device) × Device.Inventory :=
  registerFrom [] s.devices i

/-! ## 4. What settings give the other parts -/

/-- The options of the log. -/
def logOptions (s : Settings) : Except String Log.Options :=
  Log.Options.ofLevelName s.application.logLevel

/-- The engine that the settings of the automation describe. -/
def Automation.engine (a : Automation) : Sweep.Engine :=
  (Sweep.Engine.withRampPoints {} a.rampPoints).withPanelTool a.panelTool

/-- The echo at the start. -/
def Application.echoSwitch (a : Application) : Echo := { enabled := a.echo }

end Settings

end LabControl
