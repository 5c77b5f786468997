/-
# Tables that invert themselves

A table calibration decodes a position to its breakpoint and encodes a breakpoint to the nearest
position, so decoding a position and encoding the result should lead back to it.  It does for every
table and position but one kind: the first position of a longer table whose first breakpoint is
minus infinity.  The lookup decides by differences, the distance of minus infinity to itself is no
number, and so the lookup goes one too far (`toRaw_toEngineering_iff`).

No value is encoded as that position either, so a second round trip never changes what the first
one gave, whatever the table.
-/
import LabControl.Calibration
import LabControl.Proofs.Calibration.Tables
import LabControl.Proofs.Extended
import Mathlib.Data.Rat.Floor

namespace LabControl.Calibration

open Extended (infinity minusInfinity notANumber)

variable {breakpoints rest : List Extended} {lower x : Extended} {i : Nat}

/-! ## 1. Tables that begin at minus infinity -/

/-- The first of several breakpoints is minus infinity. -/
def BeginsBelowAll (breakpoints : List Extended) : Prop :=
  2 ≤ breakpoints.length ∧ breakpoints.head? = some minusInfinity

/-- **No value is nearest to minus infinity** when there are other breakpoints. -/
theorem nearestIndex_pos (h : BeginsBelowAll breakpoints) (x : Extended) :
    0 < nearestIndex breakpoints x := by
  obtain ⟨hlength, hhead⟩ := h
  match breakpoints with
  | [] | [_] => simp at hlength
  | first :: upper :: rest =>
    obtain rfl : first = minusInfinity := Option.some.inj hhead
    have hfirst : Scale.lt x minusInfinity = false := by
      by_contra hlt
      exact Extended.ne_minusInfinity_of_lt (Bool.eq_true_of_not_eq_false hlt) rfl
    simp only [nearestIndex, nearestFrom, hfirst, Extended.not_closer_to_minusInfinity,
      Bool.false_eq_true, if_false]
    split <;> omega

/-! ## 2. The lookup of a breakpoint -/

/-- No breakpoint of a rising list is below the first. -/
theorem not_lt_first (hrise : (lower :: rest).Pairwise fun x y => Scale.lt x y = true)
    (hx : x ∈ lower :: rest) : Scale.lt x lower = false := by
  rcases List.mem_cons.mp hx with rfl | hx
  · exact Extended.not_lt_self x
  · exact Extended.not_lt_of_lt ((List.pairwise_cons.mp hrise).1 x hx)

/-- **The lookup of a breakpoint ends at its position**, but for minus infinity among others. -/
theorem nearestFrom_getElem (hrise : (lower :: rest).Pairwise fun x y => Scale.lt x y = true)
    (hi : i < (lower :: rest).length) (h : ¬ (i = 0 ∧ BeginsBelowAll (lower :: rest))) :
    nearestFrom lower rest (lower :: rest)[i] = i := by
  induction rest generalizing lower i with
  | nil =>
    obtain rfl : i = 0 := Nat.lt_one_iff.mp hi
    rfl
  | cons upper rest ih =>
    obtain ⟨habove, hrest⟩ := List.pairwise_cons.mp hrise
    have hupper : Scale.lt lower upper = true := habove upper List.mem_cons_self
    cases i with
    | zero =>
      have hlower : lower ≠ minusInfinity := by
        rintro rfl
        exact h ⟨rfl, by simp, rfl⟩
      simp [nearestFrom, hupper, Extended.closer_to_self hupper hlower]
    | succ i =>
      have hi' : i < (upper :: rest).length := Nat.lt_of_succ_lt_succ hi
      have hnot : Scale.lt (upper :: rest)[i] upper = false :=
        not_lt_first hrest (List.getElem_mem hi')
      have hnext : ¬ (i = 0 ∧ BeginsBelowAll (upper :: rest)) := by
        rintro ⟨-, -, hhead⟩
        exact Extended.ne_minusInfinity_of_lt hupper (Option.some.inj hhead)
      simp only [List.getElem_cons_succ, nearestFrom, hnot, Bool.false_eq_true, if_false,
        ih hrest hi' hnext]

theorem nearestIndex_getElem (hrise : breakpoints.Pairwise fun x y => Scale.lt x y = true)
    (hi : i < breakpoints.length) (h : ¬ (i = 0 ∧ BeginsBelowAll breakpoints)) :
    nearestIndex breakpoints breakpoints[i] = i := by
  match breakpoints with
  | [] => cases hi
  | first :: rest =>
    have hnot : Scale.lt (first :: rest)[i] first = false :=
      not_lt_first hrise (List.getElem_mem hi)
    simp only [nearestIndex, hnot, Bool.false_eq_true, if_false]
    exact nearestFrom_getElem hrise hi h

/-! ## 3. Round trips -/

namespace LookupTable

variable {table : LookupTable Extended}

/-- A position of the table is decoded to its breakpoint. -/
theorem valueClamped_count (hi : i < table.breakpoints.length) :
    table.valueClamped (Scale.count i) = table.breakpoints[i] := by
  have hposition : table.position (Scale.count i) = i := by
    have hfloor : ((i : ℚ).floor) = i := Int.floor_natCast (R := ℚ) i
    change min ((i : ℚ).floor.toNat) (table.breakpoints.length - 1) = i
    rw [hfloor, Int.toNat_natCast]
    omega
  simp only [valueClamped, hposition, List.get_eq_getElem]

/-- **Decoding a position and encoding the result** leads back to the position just if it is not
that of minus infinity among others. -/
theorem nearest_valueClamped_iff (hi : i < table.breakpoints.length) :
    table.nearest (table.valueClamped (Scale.count i)) = i ↔
      ¬ (i = 0 ∧ BeginsBelowAll table.breakpoints) := by
  rw [valueClamped_count hi, nearest]
  constructor
  · rintro heq ⟨rfl, hbelow⟩
    have hpos := nearestIndex_pos hbelow table.breakpoints[0]
    omega
  · exact nearestIndex_getElem table.pairwise_breakpoints hi

end LookupTable

theorem count_inj {i j : Nat} : (Scale.count i : Extended) = Scale.count j ↔ i = j := by
  refine ⟨fun h => ?_, fun h => h ▸ rfl⟩
  have hcast : (i : ℚ) = (j : ℚ) := Extended.finite.inj h
  exact_mod_cast hcast

/-- **A table calibration inverts itself** on every position of its table, but for the first
position of several whose first breakpoint is minus infinity.  It does on every position that it
encodes a value as. -/
theorem toRaw_toEngineering_iff {c : Calibration Extended}
    (h : (LookupTable.ofList? breakpoints).map Calibration.ofTable = .ok c) :
    (∀ i < breakpoints.length,
      (c.toRaw (c.toEngineering (Scale.count i)) = Scale.count i ↔
        ¬ (i = 0 ∧ BeginsBelowAll breakpoints))) ∧
    ∀ x, c.toRaw (c.toEngineering (c.toRaw x)) = c.toRaw x := by
  rcases hbuilt : LookupTable.ofList? breakpoints with fault | table
  · rw [hbuilt] at h
    cases h
  rw [hbuilt] at h
  cases h
  obtain rfl : table.breakpoints = breakpoints := LookupTable.breakpoints_of_ofList? hbuilt
  refine ⟨fun i hi => count_inj.trans (LookupTable.nearest_valueClamped_iff hi), fun x => ?_⟩
  refine count_inj.mpr ((LookupTable.nearest_valueClamped_iff (table.nearest_lt x)).mpr ?_)
  -- no value is encoded as the position that is lost
  rintro ⟨hzero, hbelow⟩
  exact (nearestIndex_pos hbelow x).ne' hzero

/-- A table from one infinity to the other: the position in the middle and the last are kept. -/
theorem toRaw_toEngineering_iff_unbounded :
    ∃ c : Calibration Extended,
      (LookupTable.ofList? [minusInfinity, .finite 0, infinity]).map Calibration.ofTable = .ok c ∧
      c.toRaw (c.toEngineering (Scale.count 1)) = Scale.count 1 ∧
      c.toRaw (c.toEngineering (Scale.count 2)) = Scale.count 2 ∧
      c.toRaw (c.toEngineering (c.toRaw notANumber)) = c.toRaw notANumber := by
  let table : LookupTable Extended :=
    ⟨[minusInfinity, .finite 0, infinity], by simp, by decide +kernel⟩
  have h : (LookupTable.ofList? [minusInfinity, .finite 0, infinity]).map Calibration.ofTable =
      .ok (.ofTable table) := by
    rfl
  obtain ⟨hpositions, hagain⟩ := toRaw_toEngineering_iff h
  exact ⟨_, h, (hpositions 1 (by simp)).mpr (by simp), (hpositions 2 (by simp)).mpr (by simp),
    hagain _⟩

/-- **The position of minus infinity is lost**: the table is built, the position is decoded to
minus infinity, and minus infinity is encoded as the next position. -/
theorem lowest_position_lost :
    ∃ c : Calibration Extended,
      (LookupTable.ofList? [minusInfinity, .finite 0]).map Calibration.ofTable = .ok c ∧
      c.toEngineering (Scale.count 0) = minusInfinity ∧
      c.toRaw minusInfinity = Scale.count 1 ∧ (Scale.count 1 : Extended) ≠ Scale.count 0 := by
  let table : LookupTable Extended := ⟨[minusInfinity, .finite 0], by simp, by decide +kernel⟩
  exact ⟨.ofTable table, rfl, by decide +kernel, by decide +kernel, by decide +kernel⟩

/-- It is lost among doubles, too. -/
example : nearestIndex [-(1 / 0 : Float), 0] (-(1 / 0)) = 1 := by decide +kernel

end LabControl.Calibration
