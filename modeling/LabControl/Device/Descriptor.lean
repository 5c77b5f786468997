/-
# Instruments on the bus

A descriptor says how one kind of instrument is polled and converted.  A slot request is what
the backend needs to open a polling slot for it at an address.
-/
import LabControl.Calibration

namespace LabControl.Device

/-- The default end-of-string code: none. -/
def defaultEos : Nat := 0

/-- The default introduction, which asks an instrument to identify itself. -/
def defaultIntro : String := "*IDN?"

/-- How an instrument is polled and converted. -/
structure Descriptor where
  /-- The query that reads the current value. -/
  command : String
  /-- The polling period in seconds. -/
  period : Float
  /-- The value reported while the instrument cannot be reached. -/
  dummyValue : Float
  /-- How the instrument's reply is read. -/
  replyFormat : String
  /-- How a new value is written; empty for an instrument that is only read. -/
  writeFormat : String
  /-- The end-of-string code. -/
  eos : Nat := defaultEos
  /-- What is sent when a slot is opened. -/
  intro : String := defaultIntro
  /-- The conversion between raw numbers and engineering units. -/
  calibration : Calibration Float := .identity

/-- A place on the bus: the number of the bus and the address on it. -/
structure Place where
  bus : Nat
  address : Nat
  deriving DecidableEq, Repr

/-- A request to open a polling slot for an instrument at a place. -/
structure SlotRequest where
  place : Place
  descriptor : Descriptor

end LabControl.Device
