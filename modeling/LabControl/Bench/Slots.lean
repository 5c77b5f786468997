/-
# A scripted slot backend

A stand-in for the backend of polling slots.  Handles are given out in sequence; every slot reads
the same raw number, converted by the calibration that the slot was opened with.  Requests can be
refused beforehand, and every request is recorded, also a refused one.
-/
import LabControl.Device.Registry

namespace LabControl.Bench

open Device (SlotRequest SlotBackend)

/-- The backend of polling slots and what it recorded. -/
structure Slots where
  /-- The raw number that every slot reads. -/
  raw : Float
  /-- The requests that were granted; the handle of a slot is its position. -/
  granted : Array SlotRequest := #[]
  /-- Every request, refused ones included. -/
  seen : Array SlotRequest := #[]
  /-- The refusals that are still to come, the next one first. -/
  refusals : List String := []

namespace Slots

/-- Refuse the next request that no earlier refusal is meant for. -/
def refuseNext (b : Slots) (detail : String) : Slots :=
  { b with refusals := b.refusals ++ [detail] }

/-- Record a request. -/
def note (b : Slots) (request : SlotRequest) : Slots := { b with seen := b.seen.push request }

/-- Open a slot, unless a refusal is due. -/
def openSlot (b : Slots) (request : SlotRequest) : Except ControlError Nat × Slots :=
  match b.refusals with
  | detail :: refusals => (.error (.backend detail), { b with refusals })
  | [] => (.ok b.granted.size, { b with granted := b.granted.push request })

/-- The current value of a slot.  The slot has to be on the bus that is named. -/
def readSlot (b : Slots) (bus slot : Nat) : Except ControlError Float :=
  match b.granted[slot]?.filter (·.place.bus == bus) with
  | some request => .ok (request.descriptor.calibration.toEngineering b.raw)
  | none =>
    .error (.backend ("no slot " ++ Decimal.natText slot ++ " on bus " ++ Decimal.natText bus))

/-- The scripted backend as the backend of devices. -/
def backend : SlotBackend Slots where
  note request b := b.note request
  openSlot request b := b.openSlot request
  readSlot bus slot b := (b.readSlot bus slot, b)

end Slots

/-- An inventory of devices on a scripted slot backend. -/
structure Rack where
  inventory : Device.Inventory := {}
  slots : Slots

namespace Rack

open Device (Reading Shared Place)

/-- What a device and the backend are after reads of the device. -/
def afterReads (r : Rack) (d : Device) (s : Shared Slots) : Rack :=
  { inventory := r.inventory.update { d with slots := s.cache }, slots := s.backend }

/-- The result of a read, which is over. -/
def resultOf (reading : Reading) : Except ControlError Float :=
  reading.result?.getD (.error (.backend "read not finished"))

/-- Read a device at a place. -/
def read (r : Rack) (id : String) (place : Place) : Except ControlError Float × Rack :=
  match r.inventory.require id with
  | .error error => (.error error, r)
  | .ok d =>
    let (reading, s) :=
      Reading.alone Slots.backend (d.slotRequest place) { cache := d.slots, backend := r.slots }
    (resultOf reading, r.afterReads d s)

/-- Read a device at two places at once. -/
def readPair (r : Rack) (id : String) (first second : Place) :
    Except ControlError (List (Except ControlError Float)) × Rack :=
  match r.inventory.require id with
  | .error error => (.error error, r)
  | .ok d =>
    let (reading, reading', s) :=
      Reading.together Slots.backend (d.slotRequest first) (d.slotRequest second)
        { cache := d.slots, backend := r.slots }
    (.ok [resultOf reading, resultOf reading'], r.afterReads d s)

/-- The owner of the device with an id gives it up.  Yields whether there was one. -/
def drop (r : Rack) (id : String) : Bool × Rack :=
  match r.inventory.owned.find? (·.id == id) with
  | some d => (true, { r with inventory := r.inventory.disown d.serial })
  | none => (false, r)

/-- Forget the slots of one device. -/
def reset (r : Rack) (id : String) : Except ControlError Unit × Rack :=
  match r.inventory.require id with
  | .error error => (.error error, r)
  | .ok d => (.ok (), { r with inventory := r.inventory.update d.reset })

/-- Forget the slots of every device.  Yields the number of devices. -/
def resetAll (r : Rack) : Nat × Rack :=
  let (count, inventory) := r.inventory.resetAll
  (count, { r with inventory })

/-- Replace the backend by a fresh one.  The devices keep their handles. -/
def replaceBackend (r : Rack) (raw : Float) : Rack := { r with slots := { raw } }

end Rack

end LabControl.Bench
