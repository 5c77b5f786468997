/-
# Registering configured devices

The devices of some settings are registered one after the other, and a failure at any of them makes
those before it lose their owner again.  Nothing is taken back in the registry itself: the entries
of the lost devices stay until the next registration.  Seen through the registry's answers this is
all or nothing all the same (`registerAll_all_or_none`), since dead entries never answer.

The induction is over the definitions that are still to be registered.  What it carries is that
the owned devices are those from before the call followed by those created so far.
-/
import LabControl.Proofs.Calibration.Tables
import LabControl.Proofs.Device.Registry
import LabControl.Settings
import Mathlib.Data.List.Chain
import Mathlib.Data.List.Forall2

namespace LabControl

open Calibration (LookupTable)
open Device (Inventory)

/-! ## 1. Descriptors that can be built -/

/-- A calibration can be built: a table has breakpoints, and each exceeds the one before it. -/
def CalibrationKind.Proper : CalibrationKind → Prop
  | .table breakpoints =>
    breakpoints ≠ [] ∧ breakpoints.IsChain fun lower upper => Scale.lt lower upper = true
  | .identity | .dbmToVolts => True

theorem CalibrationKind.exists_build_iff (kind : CalibrationKind) :
    (∃ calibration, kind.build = .ok calibration) ↔ kind.Proper := by
  cases kind with
  | identity => exact ⟨fun _ => trivial, fun _ => ⟨_, rfl⟩⟩
  | dbmToVolts => exact ⟨fun _ => trivial, fun _ => ⟨_, rfl⟩⟩
  | table breakpoints =>
    rw [Proper, ← LookupTable.exists_check_iff]
    simp only [build, LookupTable.ofList?]
    cases LookupTable.check breakpoints <;> simp [Except.map, Except.mapError]

/-- A device is what its definition describes, and has no slots yet. -/
structure DeviceDefinition.Describes (definition : DeviceDefinition) (d : Device) : Prop where
  id : d.id = definition.id
  command : d.descriptor.command = definition.command
  period : d.descriptor.period = definition.period
  dummyValue : d.descriptor.dummyValue = definition.dummyValue
  replyFormat : d.descriptor.replyFormat = definition.replyFormat
  writeFormat : d.descriptor.writeFormat = definition.writeFormat
  eos : d.descriptor.eos = definition.eos
  intro : d.descriptor.intro = definition.intro
  calibration : definition.calibration.build = .ok d.descriptor.calibration
  slots : d.slots = {}

variable {definition : DeviceDefinition}

/-- A device with the descriptor of a definition is what the definition describes. -/
theorem DeviceDefinition.describes_of_descriptor {descriptor : Device.Descriptor}
    (h : definition.descriptor = .ok descriptor) (serial : Nat) :
    definition.Describes { serial, id := definition.id, descriptor } := by
  unfold DeviceDefinition.descriptor at h
  rcases hbuild : definition.calibration.build with error | calibration
  · rw [hbuild] at h
    cases h
  · rw [hbuild] at h
    cases h
    exact ⟨rfl, rfl, rfl, rfl, rfl, rfl, rfl, rfl, hbuild, rfl⟩

/-- A descriptor can be built when its calibration can. -/
theorem DeviceDefinition.exists_descriptor_iff :
    (∃ descriptor, definition.descriptor = .ok descriptor) ↔ definition.calibration.Proper := by
  rw [← CalibrationKind.exists_build_iff]
  unfold DeviceDefinition.descriptor
  cases definition.calibration.build <;> simp [Except.map]

/-! ## 2. Definitions that can be registered -/

/-- **Definitions can be registered beside live devices**: each calibration can be built, and each
id is that of no other definition and of no live device. -/
structure Registrable (definitions : List DeviceDefinition) (live : List String) : Prop where
  calibrations : ∀ d ∈ definitions, d.calibration.Proper
  distinct : (definitions.map (·.id)).Nodup
  free : ∀ d ∈ definitions, d.id ∉ live

/-- The first definition is registered, and then its id is one that the others have to avoid. -/
theorem registrable_cons_iff {rest : List DeviceDefinition} {live : List String} :
    Registrable (definition :: rest) live ↔
      definition.calibration.Proper ∧ definition.id ∉ live ∧
        Registrable rest (live ++ [definition.id]) := by
  constructor
  · rintro ⟨hcalibrations, hdistinct, hfree⟩
    obtain ⟨hnew, hrest⟩ := List.nodup_cons.mp hdistinct
    refine ⟨hcalibrations _ List.mem_cons_self, hfree _ List.mem_cons_self,
      fun d hd => hcalibrations d (List.mem_cons_of_mem _ hd), hrest, fun d hd hmem => ?_⟩
    rcases List.mem_append.mp hmem with hmem | hmem
    · exact hfree d (List.mem_cons_of_mem _ hd) hmem
    · rw [List.mem_singleton] at hmem
      exact hnew (List.mem_map.mpr ⟨d, hd, hmem⟩)
  · rintro ⟨hproper, hid, hcalibrations, hdistinct, hfree⟩
    refine ⟨List.forall_mem_cons.mpr ⟨hproper, hcalibrations⟩,
      List.nodup_cons.mpr ⟨fun hmem => ?_, hdistinct⟩,
      List.forall_mem_cons.mpr ⟨hid, fun d hd => ?_⟩⟩
    · obtain ⟨d, hd, heq⟩ := List.mem_map.mp hmem
      exact hfree d hd (List.mem_append_right _ (List.mem_singleton.mpr heq))
    · exact fun hmem => hfree d hd (List.mem_append_left _ hmem)

/-! ## 3. Taking devices back -/

namespace Device.Inventory

variable {i : Inventory} {base created : List Device}

/-- Devices that lose their owner are owned no more, and all others still are. -/
theorem Sound.disownAll (h : i.Sound) (howned : i.owned = base ++ created) :
    (created.foldl (fun i d => i.disown d.serial) i).Sound ∧
      (created.foldl (fun i d => i.disown d.serial) i).owned = base := by
  induction created generalizing i with
  | nil => exact ⟨h, by simpa using howned⟩
  | cons d rest ih =>
    refine ih (h.disown d.serial) ?_
    have hserials := h.owned_serials
    rw [howned, List.map_append, List.map_cons, List.nodup_middle, List.nodup_cons] at hserials
    have hothers : ∀ other ∈ base ++ rest, (other.serial != d.serial) = true := fun other hmem =>
      bne_iff_ne.mpr fun heq => hserials.1 (by
        rw [← List.map_append, ← heq]
        exact List.mem_map_of_mem hmem)
    have hself : (d.serial != d.serial) = false := by simp
    change i.owned.filter (·.serial != d.serial) = base ++ rest
    rw [howned, List.filter_append, List.filter_cons, hself, if_neg Bool.false_ne_true,
      ← List.filter_append]
    exact List.filter_eq_self.mpr hothers

end Device.Inventory

/-! ## 4. Registering definitions -/

namespace Settings

/-- What became of definitions that were to be registered beside live devices: all of them have a
device now, after those created before, or none has, and those created before are gone. -/
def AllOrNone (definitions : List DeviceDefinition) (live : List String)
    (base created : List Device) : Except ControlError (List Device) × Inventory → Prop
  | (.ok devices, i) => Registrable definitions live ∧ ∃ fresh, devices = created ++ fresh ∧
      List.Forall₂ DeviceDefinition.Describes definitions fresh ∧ i.Sound ∧
      i.owned = base ++ created ++ fresh
  | (.error _, i) => ¬ Registrable definitions live ∧ i.Sound ∧ i.owned = base

variable {rest : List DeviceDefinition} {live : List String} {base created : List Device}

/-- When the first definition has its device, it depends on the others. -/
theorem AllOrNone.cons {d : Device} {r : Except ControlError (List Device) × Inventory}
    (hproper : definition.calibration.Proper) (hid : definition.id ∉ live)
    (hd : definition.Describes d)
    (h : AllOrNone rest (live ++ [definition.id]) base (created ++ [d]) r) :
    AllOrNone (definition :: rest) live base created r := by
  obtain ⟨error | devices, i⟩ := r
  · obtain ⟨hnot, hsound, howned⟩ := h
    exact ⟨fun hall => hnot (registrable_cons_iff.mp hall).2.2, hsound, howned⟩
  · obtain ⟨hall, fresh, rfl, hfresh, hsound, howned⟩ := h
    refine ⟨registrable_cons_iff.mpr ⟨hproper, hid, hall⟩, d :: fresh, by simp, .cons hd hfresh,
      hsound, by simpa using howned⟩

/-- **Registering definitions** after some devices were created. -/
theorem allOrNone_registerFrom (definitions : List DeviceDefinition) {i : Inventory}
    (h : i.Sound) (howned : i.owned = base ++ created) :
    AllOrNone definitions i.roll.ids base created (registerFrom created definitions i) := by
  induction definitions generalizing i created with
  | nil =>
    exact ⟨⟨by simp, List.nodup_nil, by simp⟩, [], by simp, .nil, h, by simpa using howned⟩
  | cons definition rest ih =>
    rcases hdescriptor : definition.descriptor with error | descriptor
    · -- Its calibration cannot be built, and the registry is not even asked.
      simp only [registerFrom, hdescriptor]
      refine ⟨fun hall => ?_, h.disownAll howned⟩
      obtain ⟨descriptor, hok⟩ :=
        DeviceDefinition.exists_descriptor_iff.mpr (registrable_cons_iff.mp hall).1
      rw [hdescriptor] at hok
      cases hok
    · have hproper := DeviceDefinition.exists_descriptor_iff.mp ⟨descriptor, hdescriptor⟩
      by_cases hid : definition.id ∈ i.roll.ids
      · simp only [registerFrom, hdescriptor, h.register_of_mem hid]
        exact ⟨fun hall => (registrable_cons_iff.mp hall).2.1 hid, h.swept.disownAll howned⟩
      · simp only [registerFrom, hdescriptor, h.register_of_not_mem hid]
        have hjoined := h.swept.joined h.live hid descriptor
        have hids : (i.swept.joined definition.id descriptor).roll.ids =
            i.roll.ids ++ [definition.id] := List.map_append
        refine AllOrNone.cons hproper hid
          (DeviceDefinition.describes_of_descriptor hdescriptor i.next) (hids ▸ ih hjoined ?_)
        change i.owned ++ [_] = base ++ (created ++ [_])
        rw [howned, List.append_assoc]
        rfl

end Settings

end LabControl
