/-
# The device registry

The registry finds the devices of a session by id, and resets the slots of all of them at once
when the backend was replaced.  It does not own them: an entry whose device has lost its owner
is dead and is never found, and it is swept out when the next device is registered.

An inventory is the registry together with the devices that have an owner.  Devices are told
apart by serial numbers, which are never used again.
-/
import LabControl.Device.SlotCache

namespace LabControl

/-- A device: its serial number, its id, its descriptor and its cached slots. -/
structure Device where
  serial : Nat
  id : String
  descriptor : Device.Descriptor
  slots : Device.SlotCache := {}

namespace Device

/-- The request for a slot of the device at a place. -/
def slotRequest (d : Device) (place : Place) : SlotRequest := { place, descriptor := d.descriptor }

/-- The device with no cached slots. -/
def reset (d : Device) : Device := { d with slots := {} }

/-- A raw reading in the device's engineering units. -/
def toEngineering (d : Device) (raw : Float) : Float := d.descriptor.calibration.toEngineering raw

/-- The raw number for an engineering target of the device. -/
def toRaw (d : Device) (x : Float) : Float := d.descriptor.calibration.toRaw x

/-- An entry of the registry: an id and the serial number of its device. -/
structure Entry where
  id : String
  serial : Nat
  deriving DecidableEq, Repr

/-- The devices that have an owner, and the registry over them. -/
structure Inventory where
  /-- The registry, in the order of registration, dead entries included. -/
  entries : List Entry := []
  /-- The devices that have an owner. -/
  owned : List Device := []
  /-- The serial number of the next device. -/
  next : Nat := 0

namespace Inventory

/-! ## 1. Looking devices up -/

/-- The device of a serial number, if it has an owner. -/
def device? (i : Inventory) (serial : Nat) : Option Device :=
  i.owned.find? (·.serial == serial)

/-- Whether the device of an entry has an owner. -/
def isLive (i : Inventory) (e : Entry) : Bool := (i.device? e.serial).isSome

/-- The device of an id: the device of the first entry with this id, if that one is live. -/
def get? (i : Inventory) (id : String) : Option Device :=
  (i.entries.find? (·.id == id)).bind fun e => i.device? e.serial

/-- The device of an id, or the error that there is none. -/
def require (i : Inventory) (id : String) : Except ControlError Device :=
  match i.get? id with
  | some d => .ok d
  | none => .error (.unknownDevice id)

/-- The ids of the live devices, in the order of registration. -/
def ids (i : Inventory) : List String := (i.entries.filter i.isLive).map (·.id)

/-- The number of live devices. -/
def size (i : Inventory) : Nat := (i.entries.filter i.isLive).length

/-- Whether no device is live. -/
def isEmpty (i : Inventory) : Bool := i.size == 0

/-! ## 2. Changing the inventory -/

/-- Register a new device under an id, which must not be that of a live device.  Dead entries
are swept out first, in any case. -/
def register (i : Inventory) (id : String) (descriptor : Descriptor) :
    Except ControlError Device × Inventory :=
  let i := { i with entries := i.entries.filter i.isLive }
  if (i.get? id).isSome then
    (.error (.configuration ("device '" ++ id ++ "' is already registered")), i)
  else
    let d : Device := { serial := i.next, id, descriptor }
    (.ok d,
      { entries := i.entries ++ [{ id, serial := d.serial }]
        owned := i.owned ++ [d]
        next := i.next + 1 })

/-- The owner of a device gives it up. -/
def disown (i : Inventory) (serial : Nat) : Inventory :=
  { i with owned := i.owned.filter (·.serial != serial) }

/-- Replace the state of a device. -/
def update (i : Inventory) (d : Device) : Inventory :=
  { i with owned := i.owned.map fun other => if other.serial == d.serial then d else other }

/-- Reset the slots of every live device of the registry.  Yields their number. -/
def resetAll (i : Inventory) : Nat × Inventory :=
  let live := (i.entries.filter i.isLive).map (·.serial)
  (live.length,
    { i with owned := i.owned.map fun d => if live.contains d.serial then d.reset else d })

end Inventory

end Device

end LabControl
