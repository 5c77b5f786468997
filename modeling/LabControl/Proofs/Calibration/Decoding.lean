/-
# The breakpoint of a raw setting

A raw setting is decoded to the breakpoint at its whole part, cut to the ends of the table.  The raw
number may be any double, an infinity or no number among them, and it never leads outside; a greater
raw number is decoded to the same breakpoint or to a greater one (`tables_decode_in_order`).

Two orders meet in this.  The positions follow the raw numbers because doubles and their whole parts
do, and the breakpoints follow the positions because each exceeds its neighbour, and so all before
it.
-/
import LabControl.Proofs.Calibration.Tables
import LabControl.Proofs.Doubles

namespace LabControl.Calibration

open Extended (ofFloat)

namespace LookupTable

/-! ## 1. Positions -/

/-- The position of a raw double: its whole part as a word, cut to the last position. -/
theorem position_eq (table : LookupTable Float) (raw : Float) :
    table.position raw = min (table.size - 1) ((ofFloat raw).setting (2 ^ 64 - 1)) := by
  rw [← Extended.toNat_toUInt64]
  exact Nat.min_comm _ _

theorem position_mono (table : LookupTable Float) {raw raw' : Float} (h : raw ≤ raw') :
    table.position raw ≤ table.position raw' := by
  have hsetting := Extended.setting_mono (Extended.le_ofFloat.mp h) (2 ^ 64 - 1)
  rw [position_eq, position_eq]
  omega

/-! ## 2. Breakpoints -/

variable {ν : Type} [Scale ν]

theorem getElem?_position (table : LookupTable ν) (raw : ν) :
    table.breakpoints[table.position raw]? = some (table.valueClamped raw) :=
  List.getElem?_eq_getElem (table.position_lt raw)

/-- The breakpoint at a later position is greater. -/
theorem valueClamped_eq_or_lt [IsTrans ν fun x y => Scale.lt x y = true] (table : LookupTable ν)
    {raw raw' : ν} (h : table.position raw ≤ table.position raw') :
    table.valueClamped raw = table.valueClamped raw' ∨
      Scale.lt (table.valueClamped raw) (table.valueClamped raw') = true := by
  rcases Nat.eq_or_lt_of_le h with heq | hlt
  · left
    simp only [valueClamped, heq]
  · right
    exact List.pairwise_iff_getElem.mp table.pairwise_breakpoints _ _ (table.position_lt raw)
      (table.position_lt raw') hlt

end LookupTable

/-! ## 3. Tables of doubles -/

/-- **Tables are safe to decode with, and keep the order.**  A list makes a table just if it is not
empty and each element is less than the next; of a longer list, the refusal names the least position
whose element does not exceed the one before.  There are no other tables, and each decodes every raw
double to the breakpoint at its whole part: zero below zero and for what is no number, at most the
largest word, and cut to the last position.  Of two raw doubles in order, the greater is decoded to
the same breakpoint or to a greater one. -/
theorem tables_decode_in_order :
    (∀ l : List Float,
      ((∃ table, LookupTable.ofList? l = .ok table) ↔ l ≠ [] ∧ l.IsChain (· < ·)) ∧
      (l ≠ [] → ∀ error, LookupTable.ofList? l = .error error ↔
        ∃ i, IsLeast {j | 0 < j ∧ ∃ h : j < l.length, ¬ l[j - 1] < l[j]} i ∧
          error = .configuration
            ("lookup table is not strictly increasing at index " ++ Decimal.natText i))) ∧
    ∀ table : LookupTable Float,
      LookupTable.ofList? table.breakpoints = .ok table ∧
      (∀ raw, table.breakpoints[min (table.size - 1) ((ofFloat raw).setting (2 ^ 64 - 1))]? =
        some (table.valueClamped raw)) ∧
      ∀ raw raw', raw ≤ raw' →
        table.valueClamped raw = table.valueClamped raw' ∨
          table.valueClamped raw < table.valueClamped raw' := by
  refine ⟨fun l => ⟨?_, fun hne error => ?_⟩, fun table => ⟨table.ofList?_breakpoints, ?_, ?_⟩⟩
  · rw [LookupTable.exists_ofList?_iff]
    simp only [Extended.lt_float_iff]
  · rw [LookupTable.ofList?_eq_error_iff hne]
    simp only [IsDescent, ← Bool.not_eq_true, Extended.lt_float_iff]
    rfl
  · intro raw
    rw [← table.position_eq]
    exact table.getElem?_position raw
  · intro raw raw' h
    rw [← Extended.lt_float_iff]
    exact table.valueClamped_eq_or_lt (table.position_mono h)

/-- A list that first falters at its third element, and a table from one infinity to the other. -/
theorem tables_decode_in_order_unbounded :
    LookupTable.ofList? ([1, 3, 3, 2] : List Float) = .error (.configuration
      ("lookup table is not strictly increasing at index " ++ Decimal.natText 2)) ∧
    ∃ table : LookupTable Float, table.breakpoints = [-(1 / 0), 0.5, 1 / 0] ∧
      table.valueClamped (-7.5) = -(1 / 0) ∧ table.valueClamped 1.5 = 0.5 ∧
      (-7.5 : Float) ≤ 1.5 ∧
      (table.valueClamped (-7.5) = table.valueClamped 1.5 ∨
        table.valueClamped (-7.5) < table.valueClamped 1.5) := by
  let table : LookupTable Float := ⟨[-(1 / 0), 0.5, 1 / 0], by simp, by decide +kernel⟩
  have hrise : (1 : Float) < 3 := by decide +kernel
  have hle : (-7.5 : Float) ≤ 1.5 := by decide +kernel
  refine ⟨((tables_decode_in_order.1 [1, 3, 3, 2]).2 (by simp) _).mpr ⟨2, ⟨?_, ?_⟩, rfl⟩, table,
    rfl, by decide +kernel, by decide +kernel, hle, (tables_decode_in_order.2 table).2.2 _ _ hle⟩
  · exact ⟨by decide, by decide, by decide +kernel⟩
  · rintro j ⟨hpos, hj, hnot⟩
    by_contra hlt
    obtain rfl : j = 1 := by omega
    exact hnot hrise

end LabControl.Calibration
