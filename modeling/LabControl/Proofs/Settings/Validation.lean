/-
# Settings without contradictions

Three parts of the client read the same settings, each with a check of its own: the validation, the
log, and the registration of the devices.  They agree.  Validation passes exactly the settings whose
level has a name, whose ramps have intervals, whose periods are positive and whose devices can all
be registered in an empty registry; and what it passes never fails afterwards, unless a live device
already has one of the ids (`validate_eq_ok_iff_usable`).

The loop over the devices carries the ids of those before, as a registration carries the live ids,
so one notion says what both let through: `Registrable`, of which only the members of the list of
taken ids matter.
-/
import LabControl.Proofs.Settings.Registration

namespace LabControl

open Calibration (LookupTable)
open Device (Inventory)

/-! ## 1. Periods and tables -/

/-- Nothing is less than a double that is not a number. -/
theorem isNaN_eq_false_of_lt {x y : Float} (h : x < y) : y.isNaN = false := by
  have hlt : x.toModel.unpack.lt y.toModel.unpack = true := of_decide_eq_true h
  change y.toModel.unpack.isNaN = false
  generalize x.toModel.unpack = a at hlt
  generalize y.toModel.unpack = b at hlt ⊢
  cases b with
  | notANumber => cases a <;> cases hlt
  | infinity sign => rfl
  | zero sign => rfl
  | finite sign mantissa exponent pos => rfl

/-- A positive period is a number above zero. -/
theorem Settings.isPositive_iff {period : Float} :
    isPositive period = true ↔ period.isNaN = false ∧ 0 < period := by
  have hzero : floatCount 0 = 0 := rfl
  have hpositive : isPositive period = true ↔ 0 < period := by
    rw [← hzero]
    exact decide_eq_true_iff
  exact hpositive.trans ⟨fun h => ⟨isNaN_eq_false_of_lt h, h⟩, And.right⟩

/-- Validation takes the tables that a calibration can be built from. -/
theorem CalibrationKind.exists_table?_iff (kind : CalibrationKind) :
    (∃ table, kind.table? = .ok table) ↔ kind.Proper := by
  cases kind with
  | identity => exact ⟨fun _ => trivial, fun _ => ⟨none, rfl⟩⟩
  | dbmToVolts => exact ⟨fun _ => trivial, fun _ => ⟨none, rfl⟩⟩
  | table breakpoints =>
    rw [Proper, ← LookupTable.exists_check_iff, table?]
    cases LookupTable.check breakpoints <;> simp [Except.map]

/-! ## 2. The devices, one after the other -/

/-- Only which ids are taken matters for a registration, not in which order they are listed. -/
theorem registrable_congr {definitions : List DeviceDefinition} {live live' : List String}
    (hsame : ∀ id, id ∈ live ↔ id ∈ live') :
    Registrable definitions live ↔ Registrable definitions live' := by
  constructor
  · rintro ⟨hcalibrations, hdistinct, hfree⟩
    exact ⟨hcalibrations, hdistinct, fun d hd hmem => hfree d hd ((hsame d.id).mpr hmem)⟩
  · rintro ⟨hcalibrations, hdistinct, hfree⟩
    exact ⟨hcalibrations, hdistinct, fun d hd hmem => hfree d hd ((hsame d.id).mp hmem)⟩

/-- What can be registered beside some devices can be registered beside others, if none of these
has one of the ids. -/
theorem Registrable.beside {definitions : List DeviceDefinition} {live live' : List String}
    (h : Registrable definitions live) (hfree : ∀ d ∈ definitions, d.id ∉ live') :
    Registrable definitions live' :=
  ⟨h.calibrations, h.distinct, hfree⟩

namespace Settings

/-- **The devices of settings contradict nothing** just if they can be registered beside those
before them and have positive periods. -/
theorem validateDevices_eq_ok_iff (earlier : List String) (devices : List DeviceDefinition) :
    validateDevices earlier devices = .ok () ↔
      Registrable devices earlier ∧ ∀ d ∈ devices, isPositive d.period = true := by
  induction devices generalizing earlier with
  | nil =>
    have hnone : Registrable [] earlier := ⟨by simp, List.nodup_nil, by simp⟩
    simp [validateDevices, hnone]
  | cons d rest ih =>
    have hsame : Registrable rest (d.id :: earlier) ↔ Registrable rest (earlier ++ [d.id]) :=
      registrable_congr fun id => by simp [or_comm]
    rw [registrable_cons_iff, List.forall_mem_cons, ← hsame, ← CalibrationKind.exists_table?_iff]
    unfold validateDevices
    split
    · next htaken => simp [List.contains_iff_mem.mp htaken]
    next hfree =>
    rw [List.contains_iff_mem] at hfree
    split
    · next hperiod => simp_all
    next hperiod =>
    rcases d.calibration.table? with fault | table
    · simp
    · simp_all

/-- **Devices can be registered** just if they contradict neither each other nor a live device. -/
theorem exists_registerAll_iff (s : Settings) {i : Inventory} (h : i.Sound) :
    (∃ devices, (s.registerAll i).1 = .ok devices) ↔ Registrable s.devices i.ids := by
  have hall := allOrNone_registerFrom s.devices h (List.append_nil i.owned).symm
  rw [← h.answers.ids] at hall
  change AllOrNone s.devices i.ids i.owned [] (s.registerAll i) at hall
  rcases hr : s.registerAll i with ⟨error | devices, i'⟩
  · rw [hr] at hall
    simp [hall.1]
  · rw [hr] at hall
    simp [hall.1]

/-! ## 3. The log level -/

/-- The name of a level reads as this level. -/
theorem parse?_name (level : Log.Level) : Log.Level.parse? level.name = some level := by
  cases level <;> rfl

/-! ## 4. The settings as a whole -/

/-- **Settings without contradictions.** -/
theorem validate_eq_ok_iff (s : Settings) :
    s.validate = .ok () ↔
      s.application.logLevel ∈ Log.Level.all.map Log.Level.name ∧
      1 ≤ s.automation.rampPoints ∧
      Registrable s.devices [] ∧ ∀ d ∈ s.devices, isPositive d.period = true := by
  rw [← validateDevices_eq_ok_iff]
  unfold validate
  split
  · next hlevel =>
    simp_all
  next hlevel =>
  split
  · next hramp => simp [hramp]
  · next hramp =>
    have hpos : 1 ≤ s.automation.rampPoints := Nat.one_le_iff_ne_zero.mpr hramp
    simp_all

/-- **Validation passes the settings that can be used**, and no others: those whose log level is
one of the five names, whose ramps have intervals, whose periods are numbers above zero, and whose
devices an empty registry registers.  What has passed gives options for the log and a descriptor
for every device, and every registry without a live device of a configured id registers them
all. -/
theorem validate_eq_ok_iff_usable (s : Settings) :
    (s.validate = .ok () ↔
      s.application.logLevel ∈ ["trace", "debug", "info", "warn", "error"] ∧
      1 ≤ s.automation.rampPoints ∧
      (∀ d ∈ s.devices, d.period.isNaN = false ∧ 0 < d.period) ∧
      ∃ devices, (s.registerAll {}).1 = .ok devices) ∧
    (s.validate = .ok () →
      (∃ options, s.logOptions = .ok options) ∧
      (∀ d ∈ s.devices, ∃ descriptor, d.descriptor = .ok descriptor) ∧
      ∀ changes : List Device.Change,
        (∀ d ∈ s.devices, d.id ∉ (Inventory.after changes).ids) →
        ∃ devices, (s.registerAll (Inventory.after changes)).1 = .ok devices) := by
  have hempty : (∃ devices, (s.registerAll {}).1 = .ok devices) ↔ Registrable s.devices [] :=
    exists_registerAll_iff s Inventory.sound_empty
  have hperiods : (∀ d ∈ s.devices, isPositive d.period = true) ↔
      ∀ d ∈ s.devices, d.period.isNaN = false ∧ 0 < d.period :=
    forall₂_congr fun d _ => isPositive_iff
  refine ⟨?_, fun hvalid => ?_⟩
  · rw [validate_eq_ok_iff, hempty, ← hperiods]
    exact and_congr_right fun _ => and_congr_right fun _ => and_comm
  · obtain ⟨hlevel, -, hregistrable, -⟩ := (validate_eq_ok_iff s).mp hvalid
    refine ⟨?_, ?_, fun changes hfree => ?_⟩
    · obtain ⟨level, -, hname⟩ := List.mem_map.mp hlevel
      refine ⟨{ level }, ?_⟩
      rw [logOptions, ← hname, Log.Options.ofLevelName, parse?_name]
    · intro d hd
      exact DeviceDefinition.exists_descriptor_iff.mpr (hregistrable.calibrations d hd)
    · have hsound : (Inventory.after changes).Sound := (Inventory.sound_after changes).1
      exact (exists_registerAll_iff s hsound).mpr (hregistrable.beside hfree)

end Settings

end LabControl
