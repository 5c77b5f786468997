/-
# Readings are in a device's own units

A handle is a plain number.  What it denotes, a place on a bus and a conversion, is kept by the
backend alone, and all devices draw their handles from the same sequence.  So a device that used
the handle of another one, or one of an earlier backend, would read the wrong instrument in the
wrong units, and nothing would tell.

This does not happen: after any errands on a rack, a read of a live device yields the raw value in
the units of its own descriptor (`read_after`).  What carries this is that each handle that a device
keeps denotes, in the current backend, a slot that was opened for just that place and device
(`Truthful`).  A fresh backend breaks it, and a reset of all devices restores it.
-/
import LabControl.Bench.Slots
import LabControl.Proofs.Device.Registry
import LabControl.Proofs.Device.Readers

namespace LabControl.Bench

open Device (Descriptor Inventory Place Reading SlotCache)

/-! ## 1. Errands on a rack -/

/-- What can be done to a rack.  Its backend is not told to refuse anything. -/
inductive Errand where
  /-- A device is registered under an id, or is refused. -/
  | register (id : String) (descriptor : Descriptor)
  /-- The owner of the device with an id gives it up. -/
  | drop (id : String)
  /-- The device with an id is read at a place. -/
  | read (id : String) (place : Place)
  /-- The device with an id forgets its slots. -/
  | reset (id : String)
  /-- All devices forget their slots. -/
  | resetAll
  /-- The instruments read another raw value from now on. -/
  | setRaw (raw : Float)
  /-- The backend is replaced by a fresh one. -/
  | replace (raw : Float)

/-- A rack after one more errand. -/
def Rack.apply (r : Rack) : Errand → Rack
  | .register id descriptor => { r with inventory := (r.inventory.register id descriptor).2 }
  | .drop id => (r.drop id).2
  | .read id place => (r.read id place).2
  | .reset id => (r.reset id).2
  | .resetAll => r.resetAll.2
  | .setRaw raw => { r with slots := { r.slots with raw } }
  | .replace raw => r.replaceBackend raw

/-- The rack that some errands make of an empty one, whose instruments all read a raw value. -/
def Rack.after (raw : Float) (errands : List Errand) : Rack :=
  errands.foldl Rack.apply { slots := { raw } }

/-- **What readings depend on**: the raw value, and the descriptors of the live devices.  A ledger
knows nothing of slots. -/
structure Ledger where
  raw : Float
  live : List (String × Descriptor) := []
  /-- The backend was replaced, and the slots were not all reset since. -/
  stale : Bool := false

namespace Ledger

/-- The ids of the live devices. -/
def ids (l : Ledger) : List String := l.live.map (·.1)

/-- A ledger after one more errand. -/
def apply (l : Ledger) : Errand → Ledger
  | .register id descriptor =>
    if id ∈ l.ids then l else { l with live := l.live ++ [(id, descriptor)] }
  | .drop id => { l with live := l.live.filter (·.1 != id) }
  | .read .. | .reset _ => l
  | .resetAll => { l with stale := false }
  | .setRaw raw => { l with raw }
  | .replace raw => { l with raw, stale := true }

/-- The ledger that some errands make of an empty one. -/
def after (raw : Float) (errands : List Errand) : Ledger := errands.foldl apply { raw }

/-- **The reading of a device**: the raw value in its own units.  It does not depend on the
place. -/
def reading (l : Ledger) (id : String) : Except ControlError Float :=
  match l.live.lookup id with
  | some descriptor => .ok (descriptor.calibration.toEngineering l.raw)
  | none => .error (.unknownDevice id)

end Ledger

/-! ## 2. One read -/

/-- **A device keeps only handles that denote its own slots**: in the backend, the handle for a
place stands for the slot that was opened for this place and device. -/
def Truthful (b : Slots) (d : Device) : Prop :=
  ∀ place slot, d.slots.find? place = some slot → b.granted[slot]? = some (d.slotRequest place)

theorem truthful_of_empty {b : Slots} {d : Device} (h : d.slots = {}) : Truthful b d := by
  intro place slot hslot
  rw [h] at hslot
  cases hslot

/-- A slot reads the raw value in the units that it was opened with. -/
theorem Slots.readSlot_of_granted {b : Slots} {d : Device} {place : Place} {slot : Nat}
    (h : b.granted[slot]? = some (d.slotRequest place)) :
    b.readSlot place.bus slot = .ok (d.toEngineering b.raw) := by
  simp [readSlot, h, Option.filter, Device.slotRequest, Device.toEngineering]

/-- The backend once a slot for a device was opened at a place. -/
def Slots.opened (b : Slots) (d : Device) (place : Place) : Slots :=
  { b with
    granted := b.granted.push (d.slotRequest place), seen := b.seen.push (d.slotRequest place) }

/-- A device that is read at a place. -/
abbrev readAlone (d : Device) (place : Place) (b : Slots) : Reading × Device.Shared Slots :=
  Reading.alone Slots.backend (d.slotRequest place) { cache := d.slots, backend := b }

/-- A read with a cached handle reads its slot and changes nothing. -/
theorem readAlone_of_cached {d : Device} {place : Place} {b : Slots} {slot : Nat}
    (h : d.slots.find? place = some slot) :
    readAlone d place b =
      (.finished (b.readSlot place.bus slot), { cache := d.slots, backend := b }) := by
  simp [readAlone, Reading.alone, Reading.poll, Reading.step, h, Slots.backend]

/-- A first read opens a slot, keeps its handle and reads it. -/
theorem readAlone_of_new {d : Device} {place : Place} {b : Slots} (hwilling : b.refusals = [])
    (h : d.slots.find? place = none) :
    readAlone d place b =
      (.finished (.ok (d.toEngineering b.raw)),
        { cache := d.slots.insert place b.granted.size, backend := b.opened d place }) := by
  have hread : (b.opened d place).readSlot place.bus b.granted.size =
      .ok (d.toEngineering b.raw) :=
    Slots.readSlot_of_granted (b := b.opened d place) (by simp [Slots.opened])
  simp only [readAlone, Reading.alone, Reading.poll, Reading.step, Bool.false_eq_true, if_false,
    Device.slotRequest_place, h, Slots.backend, Slots.note, Slots.openSlot, hwilling]
  simp only [Slots.opened, Device.slotRequest, hwilling] at hread ⊢
  rw [hread]

/-- A slot that is opened makes no handle untrue. -/
theorem Truthful.opened {b : Slots} {other : Device} (h : Truthful b other) (d : Device)
    (place : Place) : Truthful (b.opened d place) other := by
  intro place' slot hslot
  have hgranted := h place' slot hslot
  obtain ⟨hlt, -⟩ := Array.getElem?_eq_some_iff.mp hgranted
  simp only [Slots.opened, Array.getElem?_push, if_neg (Nat.ne_of_lt hlt), hgranted]

/-- The new handle is truthful too. -/
theorem Truthful.insert {b : Slots} {d : Device} (h : Truthful b d) (place : Place) :
    Truthful (b.opened d place) { d with slots := d.slots.insert place b.granted.size } := by
  intro place' slot hslot
  rw [SlotCache.find?_insert] at hslot
  split at hslot
  · next hplace =>
    cases hslot
    subst hplace
    simp [Slots.opened, Device.slotRequest]
  · exact h.opened d place place' slot hslot

/-! ## 3. A rack agrees with its ledger -/

/-- What a ledger holds of a device. -/
def listing (d : Device) : String × Descriptor := (d.id, d.descriptor)

/-- **The rack agrees with the ledger.** -/
structure Agrees (r : Rack) (l : Ledger) : Prop where
  sound : r.inventory.Sound
  live : r.inventory.owned.map listing = l.live
  raw : r.slots.raw = l.raw
  /-- Nothing is going to be refused. -/
  willing : r.slots.refusals = []
  /-- Every live device keeps only handles of its own slots, unless the backend is a fresh one. -/
  truthful : l.stale = false → ∀ d ∈ r.inventory.owned, Truthful r.slots d

namespace Agrees

variable {r : Rack} {l : Ledger}

theorem ids_eq (h : Agrees r l) : r.inventory.roll.ids = l.ids := by
  rw [Ledger.ids, ← h.live, List.map_map]
  rfl

/-- Devices may change their slots, which no ledger holds. -/
theorem keep (h : Agrees r l) {serial : Nat} {slots : SlotCache} {b : Slots}
    (hraw : b.raw = r.slots.raw) (hwilling : b.refusals = [])
    (htruthful : l.stale = false → ∀ d ∈ r.inventory.owned,
      Truthful b (if d.serial = serial then { d with slots } else d)) :
    Agrees { inventory := r.inventory.apply (.keep serial slots), slots := b } l where
  sound := (h.sound.apply (.keep serial slots)).1
  live := by
    rw [h.sound.keep_eq, ← h.live, List.map_map]
    refine List.map_congr_left fun d _ => ?_
    simp only [Function.comp_apply]
    split
    · rfl
    · rfl
  raw := hraw.trans h.raw
  willing := hwilling
  truthful hstale d hd := by
    rw [h.sound.keep_eq] at hd
    obtain ⟨d', hd', rfl⟩ := List.mem_map.mp hd
    exact htruthful hstale d' hd'

/-- A device that is found is live, and what it is left with is kept for its serial number. -/
theorem of_require (h : Agrees r l) {id : String} {d : Device}
    (hd : r.inventory.require id = .ok d) :
    d ∈ r.inventory.owned ∧ d.id = id ∧ ∀ slots,
      r.inventory.update { d with slots } = r.inventory.apply (.keep d.serial slots) := by
  obtain ⟨hmem, hid⟩ := h.sound.get?_eq_some_iff.mp (Inventory.require_eq_ok_iff.mp hd)
  refine ⟨hmem, hid, fun slots => ?_⟩
  simp only [Inventory.apply, h.sound.device?_eq_some_iff.mpr ⟨hmem, rfl⟩]

theorem register (h : Agrees r l) (id : String) (descriptor : Descriptor) :
    Agrees (r.apply (.register id descriptor)) (l.apply (.register id descriptor)) := by
  have hsound := h.sound.register id descriptor
  by_cases hid : id ∈ l.ids
  · have happly := h.sound.register_of_mem (h.ids_eq ▸ hid) descriptor
    simp only [Rack.apply, Ledger.apply, if_pos hid, happly] at hsound ⊢
    exact { h with sound := hsound }
  · have happly := h.sound.register_of_not_mem (h.ids_eq ▸ hid) descriptor
    simp only [Rack.apply, Ledger.apply, if_neg hid, happly] at hsound ⊢
    refine { h with sound := hsound, live := ?_, truthful := fun hstale d hd => ?_ }
    · simp only [Inventory.joined, Inventory.swept, List.map_append, h.live]
      rfl
    · rcases List.mem_append.mp hd with hd | hd
      · exact h.truthful hstale d hd
      · obtain rfl := List.mem_singleton.mp hd
        exact truthful_of_empty rfl

theorem drop (h : Agrees r l) (id : String) :
    Agrees (r.apply (.drop id)) (l.apply (.drop id)) := by
  rcases hfind : r.inventory.owned.find? (·.id == id) with _ | d
  · have hnone : id ∉ l.ids := by
      rw [← h.ids_eq]
      intro hmem
      obtain ⟨d, hd, rfl⟩ := List.mem_map.mp hmem
      simpa using List.find?_eq_none.mp hfind d hd
    have hlive : l.live.filter (·.1 != id) = l.live :=
      List.filter_eq_self.mpr fun entry hentry =>
        bne_iff_ne.mpr fun hid => hnone (hid ▸ List.mem_map_of_mem hentry)
    simp only [Rack.apply, Rack.drop, hfind, Ledger.apply, hlive]
    exact h
  · have hmem := List.mem_of_find?_eq_some hfind
    have hid : d.id = id := by simpa using List.find?_some hfind
    -- serial numbers and ids tell the owned devices apart alike
    have hsame : ∀ other ∈ r.inventory.owned, (other.serial != d.serial) = (other.id != id) := by
      intro other hother
      rw [Bool.eq_iff_iff, bne_iff_ne, bne_iff_ne, ne_eq, ne_eq, not_iff_not, ← hid]
      constructor
      · intro hserial
        rw [List.inj_on_of_nodup_map h.sound.owned_serials hother hmem hserial]
      · intro hids
        have hother' := h.sound.get?_eq_some_iff.mpr ⟨hother, hids⟩
        rw [h.sound.get?_eq_some_iff.mpr ⟨hmem, rfl⟩] at hother'
        rw [Option.some.inj hother']
    simp only [Rack.apply, Rack.drop, hfind, Ledger.apply]
    refine { h with sound := h.sound.disown d.serial, live := ?_, truthful := ?_ }
    · rw [← h.live, List.filter_map]
      exact congrArg (List.map listing) (List.filter_congr hsame)
    · exact fun hstale other hother => h.truthful hstale other (List.mem_of_mem_filter hother)

theorem read (h : Agrees r l) (id : String) (place : Place) :
    Agrees (r.apply (.read id place)) (l.apply (.read id place)) := by
  rcases hd : r.inventory.require id with error | d
  · simp only [Rack.apply, Rack.read, hd]
    exact h
  obtain ⟨-, -, hkeep⟩ := h.of_require hd
  rcases hfind : d.slots.find? place with _ | slot
  · simp only [Rack.apply, Rack.read, hd, readAlone_of_new h.willing hfind, Rack.afterReads, hkeep]
    refine h.keep rfl h.willing fun hstale other hother => ?_
    split
    · next hserial =>
      obtain rfl : other = d := List.inj_on_of_nodup_map h.sound.owned_serials hother
        (h.of_require hd).1 hserial
      exact (h.truthful hstale other hother).insert place
    · exact (h.truthful hstale other hother).opened d place
  · simp only [Rack.apply, Rack.read, hd, readAlone_of_cached hfind, Rack.afterReads, hkeep]
    refine h.keep rfl h.willing fun hstale other hother => ?_
    split
    · next hserial =>
      obtain rfl : other = d := List.inj_on_of_nodup_map h.sound.owned_serials hother
        (h.of_require hd).1 hserial
      exact h.truthful hstale other hother
    · exact h.truthful hstale other hother

theorem reset (h : Agrees r l) (id : String) :
    Agrees (r.apply (.reset id)) (l.apply (.reset id)) := by
  rcases hd : r.inventory.require id with error | d
  · simp only [Rack.apply, Rack.reset, hd]
    exact h
  simp only [Rack.apply, Rack.reset, hd, Device.reset, (h.of_require hd).2.2]
  refine h.keep rfl h.willing fun hstale other hother => ?_
  split
  · exact truthful_of_empty rfl
  · exact h.truthful hstale other hother

theorem resetAll (h : Agrees r l) : Agrees (r.apply .resetAll) (l.apply .resetAll) := by
  have hsound := (h.sound.apply .resetAll).1
  simp only [Inventory.apply, h.sound.resetAll_eq] at hsound
  simp only [Rack.apply, Rack.resetAll, h.sound.resetAll_eq, Ledger.apply]
  refine { h with sound := hsound, live := ?_, truthful := fun _ d hd => ?_ }
  · rw [← h.live, List.map_map]
    rfl
  · obtain ⟨d', -, rfl⟩ := List.mem_map.mp hd
    exact truthful_of_empty rfl

/-- **One errand keeps a rack in agreement with its ledger.** -/
theorem apply (h : Agrees r l) (errand : Errand) : Agrees (r.apply errand) (l.apply errand) := by
  cases errand with
  | register id descriptor => exact h.register id descriptor
  | drop id => exact h.drop id
  | read id place => exact h.read id place
  | reset id => exact h.reset id
  | resetAll => exact h.resetAll
  | setRaw raw => exact { h with raw := rfl }
  | replace raw =>
    exact { h with raw := rfl, willing := rfl, truthful := fun hstale => nomatch hstale }

end Agrees

/-- A rack agrees with its ledger after any errands. -/
theorem agrees_after (raw : Float) (errands : List Errand) :
    Agrees (Rack.after raw errands) (Ledger.after raw errands) := by
  have hrun : ∀ (r : Rack) (l : Ledger), Agrees r l →
      Agrees (errands.foldl Rack.apply r) (errands.foldl Ledger.apply l) := by
    induction errands with
    | nil => exact fun r l h => h
    | cons errand rest ih => exact fun r l h => ih _ _ (h.apply errand)
  refine hrun _ _ { sound := Inventory.sound_empty, live := rfl, raw := rfl, willing := rfl,
                    truthful := fun _ d hd => ?_ }
  cases hd

/-! ## 4. Readings -/

/-- What a ledger holds under an id. -/
theorem lookup_listing (id : String) (devices : List Device) :
    (devices.map listing).lookup id =
      (devices.find? fun d => d.id == id).map (·.descriptor) := by
  induction devices with
  | nil => rfl
  | cons d rest ih =>
    by_cases hid : d.id = id
    · simp [listing, hid]
    · have hne : (id == d.id) = false := beq_eq_false_iff_ne.mpr (Ne.symm hid)
      simp [listing, List.lookup_cons, hid, hne, ih]

/-- A rack reads as a ledger says that it agrees with, unless its backend is a fresh one. -/
theorem Agrees.read_eq {r : Rack} {l : Ledger} (h : Agrees r l) (hfresh : l.stale = false)
    (id : String) (place : Place) : (r.read id place).1 = l.reading id := by
  rw [Ledger.reading, ← h.live, lookup_listing, ← h.sound.get?_eq_find?, Rack.read]
  rcases hd : r.inventory.get? id with _ | d
  · simp only [Inventory.require, hd, Option.map_none]
  have hmem := (h.sound.get?_eq_some_iff.mp hd).1
  simp only [Inventory.require, hd, Option.map_some]
  rcases hfind : d.slots.find? place with _ | slot
  · simp only [readAlone_of_new h.willing hfind, Rack.resultOf, Reading.result?, Option.getD_some,
      h.raw]
    rfl
  · have hread := Slots.readSlot_of_granted (h.truthful hfresh d hmem place slot hfind)
    simp only [readAlone_of_cached hfind, hread, Rack.resultOf, Reading.result?,
      Option.getD_some, h.raw]
    rfl

/-- **Readings are in the device's own units.**  After any errands, a read of a live device at any
place succeeds and yields the raw value in the units of its own descriptor, and a read under
another id finds no device.  This holds unless the backend was replaced and the slots were not all
reset since. -/
theorem read_after (raw : Float) (errands : List Errand)
    (hfresh : (Ledger.after raw errands).stale = false) (id : String) (place : Place) :
    ((Rack.after raw errands).read id place).1 = (Ledger.after raw errands).reading id :=
  (agrees_after raw errands).read_eq hfresh id place

/-- A thermometer, which reads in its own units what it reports. -/
def thermometer : Descriptor :=
  { command := "R1", period := 1, dummyValue := 300, replyFormat := "R%lf", writeFormat := "" }

/-- A gauge, whose readings are twice what it reports and one more. -/
def gauge : Descriptor := { thermometer with command := "P?", calibration := .linear 2 1 }

/-- Two devices are read at one address, their backend is replaced, and all slots are reset before
they are read again. -/
def replacement : List Errand :=
  [.register "temperature" thermometer, .register "pressure" gauge, .read "temperature" ⟨0, 24⟩,
    .read "pressure" ⟨0, 24⟩, .replace 4, .resetAll, .read "pressure" ⟨0, 24⟩]

theorem read_after_replacement :
    (Ledger.after 3 replacement).stale = false ∧
      ((Rack.after 3 replacement).read "temperature" ⟨0, 24⟩).1 = .ok 4 ∧
      ((Rack.after 3 replacement).read "pressure" ⟨0, 24⟩).1 = .ok (2 * 4 + 1) :=
  ⟨rfl, (read_after 3 replacement rfl "temperature" ⟨0, 24⟩).trans rfl,
    (read_after 3 replacement rfl "pressure" ⟨0, 24⟩).trans rfl⟩

end LabControl.Bench
