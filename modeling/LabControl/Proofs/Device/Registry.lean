/-
# The registry as a list of live devices

The registry keeps entries of devices that have lost their owner until the next registration, and
it looks at the first entry of an id alone.  Seen from outside none of this shows: after any
changes, in any order, it answers as the plain list of the live devices in the order of their
registration does, the *roll* (`registry_answers_as_roll`).

What carries this is that a registration sweeps the dead entries out before it looks for its id.
So an id never has two entries, live or dead (`Sound.ids`), and the live entries are those of the
owned devices, in their order (`Sound.live`).
-/
import LabControl.Device.Registry
import Mathlib.Data.List.Nodup

namespace LabControl.Device

/-! ## 1. Changes -/

/-- What changes an inventory.  Queries do not. -/
inductive Change where
  /-- A device is registered under an id, or is refused. -/
  | register (id : String) (descriptor : Descriptor)
  /-- The last owner of a device gives it up. -/
  | disown (serial : Nat)
  /-- The reads of a device leave it with these slots. -/
  | keep (serial : Nat) (slots : SlotCache)
  /-- All slots are reset. -/
  | resetAll

/-- An inventory after one more change. -/
def Inventory.apply (i : Inventory) : Change → Inventory
  | .register id descriptor => (i.register id descriptor).2
  | .disown serial => i.disown serial
  | .keep serial slots =>
    match i.device? serial with
    | some d => i.update { d with slots }
    | none => i
  | .resetAll => i.resetAll.2

/-- The inventory that some changes make of an empty one. -/
def Inventory.after (changes : List Change) : Inventory := changes.foldl Inventory.apply {}

/-- The live devices in the order of their registration, and how many were registered in all. -/
structure Roll where
  live : List Device := []
  registered : Nat := 0

namespace Roll

/-- The ids of the live devices. -/
def ids (r : Roll) : List String := r.live.map (·.id)

/-- A roll after one more change. -/
def apply (r : Roll) : Change → Roll
  | .register id descriptor =>
    if id ∈ r.ids then r
    else
      { live := r.live ++
          [{ serial := r.registered, id, descriptor, slots := { entries := [] } }]
        registered := r.registered + 1 }
  | .disown serial => { r with live := r.live.filter (·.serial != serial) }
  | .keep serial slots =>
    { r with live := r.live.map fun d => if d.serial = serial then { d with slots } else d }
  | .resetAll => { r with live := r.live.map fun d => { d with slots := { entries := [] } } }

/-- The roll that some changes make of an empty one. -/
def after (changes : List Change) : Roll := changes.foldl Roll.apply {}

end Roll

/-- **An inventory answers as a roll does**, whatever it is asked. -/
structure Answers (i : Inventory) (r : Roll) : Prop where
  ids : i.ids = r.ids
  size : i.size = r.live.length
  isEmpty : i.isEmpty = r.live.isEmpty
  get? : ∀ id d, i.get? id = some d ↔ d ∈ r.live ∧ d.id = id
  require : ∀ id, (∀ d, i.require id = .ok d ↔ d ∈ r.live ∧ d.id = id) ∧
    ∀ error, i.require id = .error error ↔ id ∉ r.ids ∧ error = .unknownDevice id
  register : ∀ id descriptor, (i.register id descriptor).1 =
    if id ∈ r.ids then
      .error (.configuration ("device '" ++ id ++ "' is already registered"))
    else .ok { serial := r.registered, id, descriptor, slots := { entries := [] } }
  resetAll : i.resetAll.1 = r.live.length

/-! ## 2. Sound inventories -/

/-- Of elements with different keys, a key finds the one that has it. -/
theorem find?_key_eq_some_iff {α β : Type} [BEq β] [LawfulBEq β] {key : α → β} {l : List α}
    (h : (l.map key).Nodup) {k : β} {a : α} :
    l.find? (fun x => key x == k) = some a ↔ a ∈ l ∧ key a = k := by
  constructor
  · intro hfind
    have hkey := List.find?_some hfind
    exact ⟨List.mem_of_find?_eq_some hfind, by simpa using hkey⟩
  · rintro ⟨hmem, rfl⟩
    have hsome : (l.find? fun x => key x == key a).isSome = true :=
      List.find?_isSome.mpr ⟨a, hmem, by simp⟩
    obtain ⟨b, hb⟩ := Option.isSome_iff_exists.mp hsome
    have hkey : key b = key a := by simpa using List.find?_some hb
    rw [hb, List.inj_on_of_nodup_map h (List.mem_of_find?_eq_some hb) hmem hkey]

/-- The entry of a device. -/
def entry (d : Device) : Entry := { id := d.id, serial := d.serial }

namespace Inventory

/-- The roll of an inventory: the devices that have an owner. -/
def roll (i : Inventory) : Roll := { live := i.owned, registered := i.next }

/-- **The invariant of an inventory.** -/
structure Sound (i : Inventory) : Prop where
  /-- The live entries are those of the owned devices, in their order. -/
  live : i.entries.filter i.isLive = i.owned.map Device.entry
  /-- No two entries have one id, dead ones included. -/
  ids : (i.entries.map Entry.id).Nodup
  /-- No two entries have one serial number. -/
  serials : (i.entries.map Entry.serial).Nodup
  /-- Serial numbers are given out in their order. -/
  fresh : ∀ e ∈ i.entries, e.serial < i.next

variable {i : Inventory}

theorem isLive_iff {e : Entry} : i.isLive e = true ↔ ∃ d ∈ i.owned, d.serial = e.serial := by
  simp [isLive, device?, List.find?_isSome]

theorem require_eq_ok_iff {id : String} {d : Device} :
    i.require id = .ok d ↔ i.get? id = some d := by
  unfold require
  cases i.get? id <;> simp

theorem require_eq_error_iff {id : String} {error : ControlError} :
    i.require id = .error error ↔ i.get? id = none ∧ error = .unknownDevice id := by
  unfold require
  cases i.get? id <;> simp [eq_comm]

theorem sound_empty : Sound {} where
  live := rfl
  ids := List.nodup_nil
  serials := List.nodup_nil
  fresh e he := by cases he

namespace Sound

theorem entries_sublist (h : i.Sound) : (i.owned.map Device.entry).Sublist i.entries :=
  h.live ▸ List.filter_sublist

theorem mem_entries (h : i.Sound) {d : Device} (hd : d ∈ i.owned) : d.entry ∈ i.entries :=
  h.entries_sublist.subset (List.mem_map_of_mem hd)

/-- Serial numbers tell the owned devices apart. -/
theorem owned_serials (h : i.Sound) : (i.owned.map (·.serial)).Nodup := by
  have hsub := h.entries_sublist.map Entry.serial
  rw [List.map_map] at hsub
  exact h.serials.sublist hsub

/-- Ids tell the owned devices apart. -/
theorem owned_ids (h : i.Sound) : (i.owned.map (·.id)).Nodup := by
  have hsub := h.entries_sublist.map Entry.id
  rw [List.map_map] at hsub
  exact h.ids.sublist hsub

theorem device?_eq_some_iff (h : i.Sound) {serial : Nat} {d : Device} :
    i.device? serial = some d ↔ d ∈ i.owned ∧ d.serial = serial :=
  find?_key_eq_some_iff h.owned_serials

/-- **An id finds the owned device that has it**, and no other. -/
theorem get?_eq_some_iff (h : i.Sound) {id : String} {d : Device} :
    i.get? id = some d ↔ d ∈ i.owned ∧ d.id = id := by
  simp only [get?, Option.bind_eq_some_iff, find?_key_eq_some_iff h.ids, h.device?_eq_some_iff]
  constructor
  · rintro ⟨e, ⟨he, rfl⟩, hd, hserial⟩
    -- The entry found is live, so it is the entry of an owned device, which has its serial number.
    have hlive : e ∈ i.entries.filter i.isLive :=
      List.mem_filter.mpr ⟨he, isLive_iff.mpr ⟨d, hd, hserial⟩⟩
    rw [h.live] at hlive
    obtain ⟨d', hd', rfl⟩ := List.mem_map.mp hlive
    obtain rfl : d = d' := List.inj_on_of_nodup_map h.owned_serials hd hd' hserial
    exact ⟨hd, rfl⟩
  · rintro ⟨hd, rfl⟩
    exact ⟨d.entry, ⟨h.mem_entries hd, rfl⟩, hd, rfl⟩

/-- The entries do not matter for what an id finds. -/
theorem get?_eq_find? (h : i.Sound) (id : String) :
    i.get? id = i.owned.find? (·.id == id) := by
  ext d
  rw [h.get?_eq_some_iff, find?_key_eq_some_iff h.owned_ids]

theorem isSome_get?_iff (h : i.Sound) {id : String} :
    (i.get? id).isSome = true ↔ id ∈ i.roll.ids := by
  simp only [Option.isSome_iff_exists, h.get?_eq_some_iff, Roll.ids, roll, List.mem_map]

theorem get?_eq_none_iff (h : i.Sound) {id : String} : i.get? id = none ↔ id ∉ i.roll.ids := by
  rw [← h.isSome_get?_iff, Bool.not_eq_true, Option.isSome_eq_false_iff,
    Option.isNone_iff_eq_none]

end Sound

/-! ## 3. Each change keeps an inventory sound, and does to the roll what it says -/

/-- The inventory without its dead entries. -/
def swept (i : Inventory) : Inventory := { i with entries := i.entries.filter i.isLive }

/-- The inventory with a new device under an id. -/
def joined (i : Inventory) (id : String) (descriptor : Descriptor) : Inventory :=
  { entries := i.entries ++ [{ id, serial := i.next }]
    owned := i.owned ++ [{ serial := i.next, id, descriptor }]
    next := i.next + 1 }

theorem register_eq (id : String) (descriptor : Descriptor) :
    i.register id descriptor =
      if (i.swept.get? id).isSome then
        (.error (.configuration ("device '" ++ id ++ "' is already registered")), i.swept)
      else (.ok { serial := i.next, id, descriptor }, i.swept.joined id descriptor) := rfl

namespace Sound

/-- Dead entries may go. -/
theorem swept (h : i.Sound) : i.swept.Sound where
  live := by
    change (i.entries.filter i.isLive).filter i.isLive = _
    rw [List.filter_filter]
    simp only [Bool.and_self]
    exact h.live
  ids := h.ids.sublist (List.filter_sublist.map _)
  serials := h.serials.sublist (List.filter_sublist.map _)
  fresh e he := h.fresh e (List.mem_filter.mp he).1

/-- A new device may join where no entry is dead and no device has its id. -/
theorem joined (h : i.Sound) (hall : i.entries = i.owned.map Device.entry) {id : String}
    (hid : id ∉ i.roll.ids) (descriptor : Descriptor) : (i.joined id descriptor).Sound where
  live := by
    change _ = (i.owned ++ [_]).map Device.entry
    rw [List.map_append, ← hall]
    refine List.filter_eq_self.mpr fun e he => isLive_iff.mpr ?_
    rcases List.mem_append.mp he with he | he
    · rw [hall] at he
      obtain ⟨d, hd, rfl⟩ := List.mem_map.mp he
      exact ⟨d, List.mem_append_left _ hd, rfl⟩
    · obtain rfl := List.mem_singleton.mp he
      exact ⟨_, List.mem_append_right _ (List.mem_singleton_self _), rfl⟩
  ids := by
    change ((i.entries ++ [_]).map Entry.id).Nodup
    rw [List.map_append]
    refine List.nodup_append.mpr ⟨h.ids, List.nodup_singleton _, ?_⟩
    rintro _ hold _ hnew rfl
    obtain rfl := List.mem_singleton.mp hnew
    rw [hall, List.map_map] at hold
    exact hid hold
  serials := by
    change ((i.entries ++ [_]).map Entry.serial).Nodup
    rw [List.map_append]
    refine List.nodup_append.mpr ⟨h.serials, List.nodup_singleton _, ?_⟩
    rintro _ hold _ hnew rfl
    obtain rfl := List.mem_singleton.mp hnew
    obtain ⟨e, he, hserial⟩ := List.mem_map.mp hold
    exact absurd hserial (Nat.ne_of_lt (h.fresh e he))
  fresh e he := by
    rcases List.mem_append.mp he with he | he
    · exact Nat.lt_succ_of_lt (h.fresh e he)
    · obtain rfl := List.mem_singleton.mp he
      exact Nat.lt_succ_self _

/-- **A registration** under the id of a live device is refused and leaves the roll as it is. -/
theorem register_of_mem (h : i.Sound) {id : String} (hid : id ∈ i.roll.ids)
    (descriptor : Descriptor) : i.register id descriptor =
      (.error (.configuration ("device '" ++ id ++ "' is already registered")), i.swept) := by
  rw [register_eq, if_pos (h.swept.isSome_get?_iff.mpr hid)]

/-- **A registration** under any other id adds a device without slots. -/
theorem register_of_not_mem (h : i.Sound) {id : String} (hid : id ∉ i.roll.ids)
    (descriptor : Descriptor) : i.register id descriptor =
      (.ok { serial := i.next, id, descriptor }, i.swept.joined id descriptor) := by
  rw [register_eq, if_neg fun hsome => hid (h.swept.isSome_get?_iff.mp hsome)]

theorem register (h : i.Sound) (id : String) (descriptor : Descriptor) :
    (i.register id descriptor).2.Sound := by
  by_cases hid : id ∈ i.roll.ids
  · rw [h.register_of_mem hid]
    exact h.swept
  · rw [h.register_of_not_mem hid]
    exact h.swept.joined h.live hid descriptor

/-- A device may lose its owner. -/
theorem disown (h : i.Sound) (serial : Nat) : (i.disown serial).Sound where
  live := by
    have hlive : (i.disown serial).isLive = fun e => i.isLive e && e.serial != serial := by
      funext e
      rw [Bool.eq_iff_iff, isLive_iff, Bool.and_eq_true, isLive_iff, bne_iff_ne]
      simp only [Inventory.disown, List.mem_filter, bne_iff_ne]
      constructor
      · rintro ⟨d, ⟨hd, hne⟩, heq⟩
        exact ⟨⟨d, hd, heq⟩, heq ▸ hne⟩
      · rintro ⟨⟨d, hd, heq⟩, hne⟩
        exact ⟨d, ⟨hd, heq ▸ hne⟩, heq⟩
    change i.entries.filter _ = (i.owned.filter _).map Device.entry
    rw [hlive, ← List.filter_filter, List.filter_comm, h.live, List.filter_map]
    rfl
  ids := h.ids
  serials := h.serials
  fresh := h.fresh

/-- The slots of devices may change. -/
theorem mapOwned (h : i.Sound) {change : Device → Device}
    (hentry : ∀ d ∈ i.owned, (change d).entry = d.entry) :
    Sound { i with owned := i.owned.map change } where
  live := by
    have hlive : Inventory.isLive { i with owned := i.owned.map change } = i.isLive := by
      funext e
      rw [Bool.eq_iff_iff, isLive_iff, isLive_iff]
      simp only [List.mem_map, exists_exists_and_eq_and]
      refine exists_congr fun d => and_congr_right fun hd => ?_
      rw [show (change d).serial = d.serial from congrArg Entry.serial (hentry d hd)]
    change i.entries.filter _ = (i.owned.map change).map Device.entry
    rw [hlive, h.live, List.map_map]
    exact List.map_congr_left fun d hd => (hentry d hd).symm
  ids := h.ids
  serials := h.serials
  fresh := h.fresh

/-- What the reads of a device leave it with changes the slots of this device alone. -/
theorem keep_eq (h : i.Sound) (serial : Nat) (slots : SlotCache) :
    i.apply (.keep serial slots) =
      { i with
        owned := i.owned.map fun d => if d.serial = serial then { d with slots } else d } := by
  rcases hfind : i.device? serial with _ | d
  · have hnone : ∀ d ∈ i.owned, d.serial ≠ serial := fun d hd hserial => by
      rw [h.device?_eq_some_iff.mpr ⟨hd, hserial⟩] at hfind
      cases hfind
    have hsame : (i.owned.map fun d => if d.serial = serial then { d with slots } else d) =
        i.owned := by
      rw [List.map_congr_left fun d hd => if_neg (hnone d hd), List.map_id']
    simp only [apply, hfind, hsame]
  · obtain ⟨hd, rfl⟩ := h.device?_eq_some_iff.mp hfind
    simp only [apply, hfind, update, beq_iff_eq]
    congr 1
    refine List.map_congr_left fun other hother => ?_
    by_cases hserial : other.serial = d.serial
    · rw [List.inj_on_of_nodup_map h.owned_serials hother hd hserial]
    · simp only [if_neg hserial]

/-- A reset of all slots reaches every owned device. -/
theorem resetAll_eq (h : i.Sound) :
    i.resetAll = (i.owned.length, { i with owned := i.owned.map Device.reset }) := by
  have hserials : (i.entries.filter i.isLive).map Entry.serial = i.owned.map (·.serial) := by
    rw [h.live, List.map_map]
    rfl
  have hreset : (i.owned.map fun d =>
      if (i.owned.map (·.serial)).contains d.serial then d.reset else d) =
        i.owned.map Device.reset := by
    refine List.map_congr_left fun d hd => if_pos ?_
    exact List.contains_iff_mem.mpr (List.mem_map_of_mem hd)
  simp only [resetAll, hserials, List.length_map, hreset]

/-- **A change** keeps an inventory sound, and does to its roll what it does to a roll. -/
theorem apply (h : i.Sound) (c : Change) :
    (i.apply c).Sound ∧ (i.apply c).roll = i.roll.apply c := by
  cases c with
  | register id descriptor =>
    refine ⟨h.register id descriptor, ?_⟩
    simp only [Inventory.apply, Roll.apply]
    by_cases hid : id ∈ i.roll.ids
    · rw [h.register_of_mem hid, if_pos hid]
      rfl
    · rw [h.register_of_not_mem hid, if_neg hid]
      rfl
  | disown serial => exact ⟨h.disown serial, rfl⟩
  | keep serial slots =>
    rw [h.keep_eq]
    refine ⟨h.mapOwned fun d _ => ?_, rfl⟩
    split
    · rfl
    · rfl
  | resetAll =>
    simp only [Inventory.apply, h.resetAll_eq]
    exact ⟨h.mapOwned fun d _ => rfl, rfl⟩

/-- A sound inventory answers as its roll does. -/
theorem answers (h : i.Sound) : Answers i i.roll where
  ids := by
    rw [Inventory.ids, h.live, List.map_map]
    rfl
  size := by
    rw [size, h.live, List.length_map]
    rfl
  isEmpty := by
    rw [isEmpty, size, h.live, List.length_map, Bool.eq_iff_iff, beq_iff_eq,
      List.length_eq_zero_iff, List.isEmpty_iff]
    rfl
  get? id d := h.get?_eq_some_iff
  require id :=
    ⟨fun d => require_eq_ok_iff.trans h.get?_eq_some_iff, fun error =>
      require_eq_error_iff.trans (and_congr_left fun _ => h.get?_eq_none_iff)⟩
  register id descriptor := by
    by_cases hid : id ∈ i.roll.ids
    · rw [h.register_of_mem hid, if_pos hid]
    · rw [h.register_of_not_mem hid, if_neg hid]
      rfl
  resetAll := by
    rw [h.resetAll_eq]
    rfl

end Sound

/-- **Every history of changes** leads to a sound inventory, whose roll is what the same changes
make of an empty roll. -/
theorem sound_after (changes : List Change) :
    (after changes).Sound ∧ (after changes).roll = Roll.after changes := by
  suffices h : ∀ i : Inventory, i.Sound →
      (changes.foldl apply i).Sound ∧ (changes.foldl apply i).roll = changes.foldl Roll.apply i.roll
    from h {} sound_empty
  induction changes with
  | nil => exact fun i h => ⟨h, rfl⟩
  | cons c rest ih =>
    intro i h
    obtain ⟨hsound, hroll⟩ := h.apply c
    rw [List.foldl_cons, List.foldl_cons, ← hroll]
    exact ih (i.apply c) hsound

end Inventory

/-! ## 4. The registry and the roll -/

/-- **The registry answers as the list of the live devices does**, whatever was registered,
refused, given up, read and reset before, and no id has two entries in it, dead ones included. -/
theorem registry_answers_as_roll (changes : List Change) :
    ((Inventory.after changes).entries.map Entry.id).Nodup ∧
      Answers (Inventory.after changes) (Roll.after changes) := by
  obtain ⟨hsound, hroll⟩ := Inventory.sound_after changes
  exact ⟨hsound.ids, hroll ▸ hsound.answers⟩

end LabControl.Device
