/-
# Calibrations

A calibration converts between the raw numbers of an instrument and engineering units, one
function for each direction.  The two should undo each other; for a lookup table they do so on
its positions.
-/
import LabControl.Calibration.LookupTable

namespace LabControl

open Calibration (LookupTable)

/-- A conversion between raw numbers and engineering units. -/
inductive Calibration (ν : Type) where
  /-- Values pass unchanged. -/
  | identity
  /-- One function for each direction. -/
  | converting (toEngineering toRaw : ν → ν)

namespace Calibration

variable {ν : Type}

/-- The raw number is a position in a table. -/
def ofTable [Scale ν] (table : LookupTable ν) : Calibration ν :=
  .converting table.valueClamped fun x => Scale.count (table.nearest x)

/-- Engineering values are `slope · raw + offset`. -/
def linear [Quantity ν] (slope offset : ν) : Calibration ν :=
  .converting (fun raw => slope * raw + offset) (fun x => (x - offset) / slope)

/-- Power at a source in dBm, as the effective voltage into fifty ohms: one milliwatt gives the
square root of a twentieth of a volt. -/
def dbmToVolts : Calibration Float :=
  let rootTwenty := Float.sqrt (floatCount 20)
  .converting
    (fun dbm => Float.pow (floatCount 10) (dbm / floatCount 20) / rootTwenty)
    (fun volts => floatCount 20 * Float.log10 (rootTwenty * volts))

/-- Whether values pass unchanged. -/
def isIdentity : Calibration ν → Bool
  | identity => true
  | converting .. => false

/-- A raw reading in engineering units. -/
def toEngineering : Calibration ν → ν → ν
  | identity, raw => raw
  | converting toEngineering _, raw => toEngineering raw

/-- The raw number for an engineering target. -/
def toRaw : Calibration ν → ν → ν
  | identity, x => x
  | converting _ toRaw, x => toRaw x

/-- The kind of calibration as it is shown. -/
def kindText : Calibration ν → String
  | identity => "Identity"
  | converting .. => "Calibrated"

end Calibration

end LabControl
