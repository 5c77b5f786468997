/-
# Lists that make a table

A list of breakpoints makes a table when it is not empty and each element exceeds the one before
it; otherwise what is reported is the least position where it does not (`IsDescent`).  The table has
just these breakpoints, and a lookup among them ends inside the table.
-/
import LabControl.Calibration.LookupTable
import Mathlib.Data.List.Chain
import Mathlib.Order.Bounds.Basic

namespace LabControl.Calibration

variable {ν : Type} [Scale ν] {lower upper : ν} {l rest : List ν} {i : Nat}

/-! ## 1. Descents -/

/-- The element at a position does not exceed the one before it. -/
def IsDescent (l : List ν) (i : Nat) : Prop :=
  0 < i ∧ ∃ h : i < l.length, Scale.lt l[i - 1] l[i] = false

theorem isDescent_cons_iff :
    IsDescent (lower :: upper :: rest) (i + 1) ↔
      i = 0 ∧ Scale.lt lower upper = false ∨ IsDescent (upper :: rest) i := by
  cases i <;> simp [IsDescent]

/-- A list has no descent when each of its elements exceeds the one before it. -/
theorem firstDescent_eq_none_iff (l : List ν) :
    firstDescent l = none ↔ l.IsChain fun lower upper => Scale.lt lower upper = true := by
  fun_induction firstDescent l with
  | case1 lower upper rest hlt ih => simp [hlt, ih]
  | case2 lower upper rest hlt => simp [hlt]
  | case3 l hshort =>
    match l with
    | [] => simp
    | [_] => simp
    | lower :: upper :: rest => exact absurd rfl (hshort lower upper rest)

/-- The search for a descent finds the least one. -/
theorem isLeast_of_firstDescent (h : firstDescent l = some i) :
    IsLeast {j | IsDescent l j} i := by
  fun_induction firstDescent l generalizing i with
  | case1 lower upper rest hlt ih =>
    obtain ⟨k, hk, rfl⟩ := Option.map_eq_some_iff.mp h
    obtain ⟨hdescent, hleast⟩ := ih hk
    refine ⟨isDescent_cons_iff.mpr (.inr hdescent), ?_⟩
    rintro (_ | j) hj
    · exact absurd hj.1 (Nat.lt_irrefl 0)
    · rcases isDescent_cons_iff.mp hj with ⟨-, hnot⟩ | hj
      · rw [hlt] at hnot
        cases hnot
      · exact Nat.succ_le_succ (hleast hj)
  | case2 lower upper rest hlt =>
    cases h
    have hnot : Scale.lt lower upper = false := Bool.eq_false_of_not_eq_true hlt
    exact ⟨isDescent_cons_iff.mpr (.inl ⟨rfl, hnot⟩), fun j hj => hj.1⟩
  | case3 => cases h

theorem firstDescent_eq_some_iff : firstDescent l = some i ↔ IsLeast {j | IsDescent l j} i := by
  refine ⟨isLeast_of_firstDescent, fun h => ?_⟩
  rcases hsearch : firstDescent l with _ | k
  · obtain ⟨hpos, hi, hnot⟩ := h.1
    have hchain := List.isChain_iff_getElem.mp ((firstDescent_eq_none_iff l).mp hsearch)
    have hlt := hchain (i - 1) (by omega)
    simp only [Nat.sub_add_cancel hpos] at hlt
    rw [hlt] at hnot
    cases hnot
  · exact congrArg some ((isLeast_of_firstDescent hsearch).unique h)

/-! ## 2. Lookups -/

/-- The lookup ends inside the table, whatever the table and its numbers are. -/
theorem nearestIndex_lt (table : List ν) (x : ν) :
    nearestIndex table x < max 1 table.length := by
  match table with
  | [] => simp [nearestIndex]
  | first :: rest =>
    have hle := nearestFrom_le first rest x
    simp only [nearestIndex, List.length_cons]
    split <;> omega

/-! ## 3. Tables -/

namespace LookupTable

/-- **The breakpoints that make a table.** -/
theorem exists_check_iff (l : List ν) :
    (∃ table, LookupTable.check l = .ok table) ↔
      l ≠ [] ∧ l.IsChain fun lower upper => Scale.lt lower upper = true := by
  rw [← firstDescent_eq_none_iff]
  unfold check
  split
  · next hne =>
    split
    · next hnone => simp [hne, hnone]
    · next index hsome => simp [hsome]
  · next hempty => simp [not_not.mp hempty]

theorem exists_ofList?_iff (l : List ν) :
    (∃ table, ofList? l = .ok table) ↔
      l ≠ [] ∧ l.IsChain fun lower upper => Scale.lt lower upper = true := by
  rw [← exists_check_iff]
  unfold ofList?
  cases check l <;> simp [Except.mapError]

/-- **The report on breakpoints that make no table** names the least descent. -/
theorem ofList?_eq_error_iff (hne : l ≠ []) {error : ControlError} :
    ofList? l = .error error ↔
      ∃ i, IsLeast {j | IsDescent l j} i ∧
        error = .configuration (Fault.notIncreasing i).message := by
  simp only [← firstDescent_eq_some_iff]
  unfold ofList? check
  rw [dif_pos hne]
  split
  · next hnone => simp [hnone, Except.mapError]
  · next i hsome => simp [hsome, Except.mapError, eq_comm]

/-- A table has the breakpoints that it was made from. -/
theorem breakpoints_of_ofList? {l : List ν} {table : LookupTable ν}
    (h : ofList? l = .ok table) : table.breakpoints = l := by
  unfold ofList? check at h
  split at h
  · split at h
    · cases h
      rfl
    · cases h
  · cases h

/-- Every table is what its breakpoints make. -/
theorem ofList?_breakpoints (table : LookupTable ν) : ofList? table.breakpoints = .ok table := by
  unfold ofList? check
  rw [dif_pos table.nonempty]
  split
  · rfl
  · next hsome =>
    rw [table.increasing] at hsome
    cases hsome

/-- Breakpoints that exceed their neighbours exceed all before them. -/
theorem pairwise_breakpoints [IsTrans ν fun x y => Scale.lt x y = true] (table : LookupTable ν) :
    table.breakpoints.Pairwise fun x y => Scale.lt x y = true :=
  List.isChain_iff_pairwise.mp ((firstDescent_eq_none_iff _).mp table.increasing)

theorem nearest_lt (table : LookupTable ν) (x : ν) :
    table.nearest x < table.breakpoints.length := by
  have hlt := nearestIndex_lt table.breakpoints x
  rwa [Nat.max_eq_right (List.length_pos_iff.mpr table.nonempty)] at hlt

end LookupTable

end LabControl.Calibration
