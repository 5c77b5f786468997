/-
# The nearest breakpoint

The lookup of a value decides once, between the first neighbours that bracket the value, and never
looks at the other breakpoints.  In exact arithmetic and a rising table this is enough: the
position it ends at is that of a nearest breakpoint of the whole table, and of two equally near
ones the upper (`nearestIndex_isGreatest`).

What the induction along the table carries is `Wins`: no breakpoint is nearer, and those further up
are all further away.  Everything else follows from it without looking at the lookup again, since
only one position of a table wins.
-/
import LabControl.Proofs.Calibration.Tables
import LabControl.Proofs.Exact
import Mathlib.Order.Bounds.Basic
import Mathlib.Order.Monotone.Basic
import Mathlib.Tactic.Linarith

namespace LabControl.Calibration

/-! ## 1. Nearest positions -/

/-- **The position of a nearest breakpoint**: none of the table is nearer to the value. -/
def IsNearest (table : List ℚ) (x : ℚ) (i : Nat) : Prop :=
  ∃ _ : i < table.length, ∀ (j : Nat) (_ : j < table.length), |x - table[i]| ≤ |x - table[j]|

/-- A position wins: no breakpoint is nearer to the value, and those above are further away. -/
structure Wins (table : List ℚ) (x : ℚ) (i : Nat) : Prop where
  lt_length : i < table.length
  nearest : ∀ y ∈ table, |x - table[i]| ≤ |x - y|
  above : ∀ y ∈ table.drop (i + 1), |x - table[i]| < |x - y|

variable {table rest : List ℚ} {lower upper x y : ℚ} {i : Nat}

/-- A breakpoint above another position is among those above it. -/
theorem getElem_mem_drop {j : Nat} (hi : i < table.length) (hji : j < i) :
    table[i] ∈ table.drop (j + 1) :=
  List.mem_drop_iff_getElem.mpr ⟨i - (j + 1), by omega, by congr 1; omega⟩

theorem Wins.isNearest (h : Wins table x i) : IsNearest table x i :=
  ⟨h.lt_length, fun j hj => h.nearest table[j] (List.getElem_mem hj)⟩

/-- The position that wins is the largest of a nearest breakpoint. -/
theorem Wins.isGreatest (h : Wins table x i) : IsGreatest {j | IsNearest table x j} i := by
  refine ⟨h.isNearest, ?_⟩
  rintro j ⟨hj, hnearest⟩
  by_contra hlt
  have hmem : table[j] ∈ table.drop (i + 1) := getElem_mem_drop hj (by omega)
  exact absurd (hnearest i h.lt_length) (not_le.mpr (h.above _ hmem))

/-! ## 2. The lookup -/

theorem lt_eq_true_iff : Scale.lt x y = true ↔ x < y := decide_eq_true_iff

/-- The lower of two neighbours wins when the value is strictly closer to it. -/
theorem wins_lower (hrise : ∀ y ∈ rest, upper < y) (hlower : lower ≤ x)
    (hcloser : x - lower < upper - x) : Wins (lower :: upper :: rest) x 0 := by
  have hfar : ∀ y ∈ upper :: rest, |x - lower| < |x - y| := by
    intro y hy
    have hle : upper ≤ y := by
      rcases List.mem_cons.mp hy with rfl | hy
      · exact le_refl _
      · exact (hrise y hy).le
    rw [abs_of_nonneg (by linarith), abs_sub_comm, abs_of_nonneg (by linarith)]
    linarith
  refine ⟨by simp, fun y hy => ?_, hfar⟩
  rcases List.mem_cons.mp hy with rfl | hy
  · exact le_refl _
  · exact (hfar y hy).le

/-- The upper of two neighbours wins when the value below it is not strictly closer to the lower
one. -/
theorem wins_upper (hrise : ∀ y ∈ rest, upper < y) (hlower : lower ≤ x) (hupper : x < upper)
    (hcloser : ¬ x - lower < upper - x) : Wins (lower :: upper :: rest) x 1 := by
  have hdistance : |x - upper| = upper - x := by
    rw [abs_sub_comm, abs_of_nonneg (by linarith)]
  have hfar : ∀ y ∈ rest, |x - upper| < |x - y| := by
    intro y hy
    have hlt := hrise y hy
    rw [hdistance, abs_sub_comm, abs_of_nonneg (by linarith)]
    linarith
  refine ⟨by simp, fun y hy => ?_, hfar⟩
  rcases List.mem_cons.mp hy with rfl | hy
  · change |x - upper| ≤ _
    rw [hdistance, abs_of_nonneg (by linarith)]
    linarith
  rcases List.mem_cons.mp hy with rfl | hy
  · exact le_refl _
  · exact (hfar y hy).le

/-- A breakpoint below those that the value is not below changes nothing. -/
theorem Wins.cons (h : Wins (upper :: rest) x i) (hlower : lower < upper) (hupper : upper ≤ x) :
    Wins (lower :: upper :: rest) x (i + 1) := by
  have hi := h.lt_length
  refine ⟨Nat.succ_lt_succ hi, fun y hy => ?_, h.above⟩
  rcases List.mem_cons.mp hy with rfl | hy
  · calc |x - (upper :: rest)[i]|
        ≤ |x - upper| := h.nearest upper List.mem_cons_self
      _ = x - upper := abs_of_nonneg (by linarith)
      _ ≤ x - y := by linarith
      _ ≤ |x - y| := le_abs_self _
  · exact h.nearest y hy

/-- **The lookup from a breakpoint on** ends at the position that wins. -/
theorem wins_nearestFrom (hrise : (lower :: rest).Pairwise (· < ·)) (hlower : lower ≤ x) :
    Wins (lower :: rest) x (nearestFrom lower rest x) := by
  induction rest generalizing lower with
  | nil => exact ⟨by simp [nearestFrom], by simp [nearestFrom], by simp⟩
  | cons upper rest ih =>
    obtain ⟨habove, hrest⟩ := List.pairwise_cons.mp hrise
    obtain ⟨hupper, -⟩ := List.pairwise_cons.mp hrest
    simp only [nearestFrom, lt_eq_true_iff]
    split
    · next hbelow =>
      split
      · next hcloser => exact wins_lower hupper hlower hcloser
      · next hcloser => exact wins_upper hupper hlower hbelow hcloser
    · next hbelow =>
      exact (ih hrest (not_lt.mp hbelow)).cons (habove upper List.mem_cons_self)
        (not_lt.mp hbelow)

/-- A value below all breakpoints is nearest to the first. -/
theorem wins_first (hrise : (lower :: rest).Pairwise (· < ·)) (hx : x < lower) :
    Wins (lower :: rest) x 0 := by
  have hfar : ∀ y ∈ rest, |x - lower| < |x - y| := by
    intro y hy
    have hlt : lower < y := (List.pairwise_cons.mp hrise).1 y hy
    rw [abs_sub_comm, abs_of_nonneg (by linarith), abs_sub_comm, abs_of_nonneg (by linarith)]
    linarith
  refine ⟨by simp, fun y hy => ?_, hfar⟩
  rcases List.mem_cons.mp hy with rfl | hy
  · exact le_refl _
  · exact (hfar y hy).le

/-- **The lookup ends at the position that wins.** -/
theorem wins_nearestIndex (hne : table ≠ []) (hrise : table.Pairwise (· < ·)) (x : ℚ) :
    Wins table x (nearestIndex table x) := by
  obtain ⟨first, rest, rfl⟩ := List.exists_cons_of_ne_nil hne
  simp only [nearestIndex, lt_eq_true_iff]
  split
  · next hx => exact wins_first hrise hx
  · next hx => exact wins_nearestFrom hrise (not_lt.mp hx)

/-! ## 3. What follows from winning -/

/-- **Values in order have their nearest positions in order.**  Between two positions the middle
decides: the larger value would be below it and the smaller one not. -/
theorem Wins.le_of_le {j : Nat} (hrise : table.Pairwise (· < ·)) (hi : Wins table x i)
    (hj : Wins table y j) (hxy : x ≤ y) : i ≤ j := by
  by_contra hlt
  have hji : j < i := not_le.mp hlt
  have hi' := hi.lt_length
  have hj' := hj.lt_length
  have hbelow : table[j] < table[i] := List.pairwise_iff_getElem.mp hrise j i hj' hi' hji
  have hx : |x - table[i]| ≤ |x - table[j]| := hi.nearest _ (List.getElem_mem hj')
  have hy : |y - table[j]| < |y - table[i]| := hj.above _ (getElem_mem_drop hi' hji)
  generalize table[j] = a at hbelow hx hy
  generalize table[i] = b at hbelow hx hy
  have hmiddle : a + b ≤ 2 * x := by
    rcases abs_cases (x - b) with ⟨h, _⟩ | ⟨h, _⟩ <;>
      rcases abs_cases (x - a) with ⟨h', _⟩ | ⟨h', _⟩ <;> linarith
  have hmiddle' : 2 * y < a + b := by
    rcases abs_cases (y - a) with ⟨h, _⟩ | ⟨h, _⟩ <;>
      rcases abs_cases (y - b) with ⟨h', _⟩ | ⟨h', _⟩ <;> linarith
  linarith

/-- A value above all breakpoints is nearest to the last. -/
theorem isNearest_last (hne : table ≠ []) (hrise : table.Pairwise (· < ·))
    (hx : table.getLast hne < x) : IsNearest table x (table.length - 1) := by
  have hlast : table.length - 1 < table.length := by
    have := List.length_pos_iff.mpr hne
    omega
  refine ⟨hlast, fun j hj => ?_⟩
  rw [List.getLast_eq_getElem hne] at hx
  have hle : table[j] ≤ table[table.length - 1] := by
    rcases Nat.lt_or_ge j (table.length - 1) with hlt | hge
    · exact (List.pairwise_iff_getElem.mp hrise j _ hj hlast hlt).le
    · obtain rfl : j = table.length - 1 := by omega
      exact le_refl _
  rw [abs_of_nonneg (by linarith), abs_of_nonneg (by linarith)]
  linarith

/-- **The lookup is a search for a nearest breakpoint.**  In exact arithmetic and a rising table
it ends at the largest position of a nearest one, so a value half way between two goes up; it
rises with the value, from the first position below the table to the last above it.  In any
table, also one that does not rise or holds no numbers, it ends inside. -/
theorem nearestIndex_isGreatest :
    (∀ (table : List ℚ) (hne : table ≠ []), table.Pairwise (· < ·) →
      (∀ x, IsGreatest {i | IsNearest table x i} (nearestIndex table x)) ∧
      Monotone (nearestIndex table) ∧
      (∀ x < table.head hne, nearestIndex table x = 0) ∧
      ∀ x > table.getLast hne, nearestIndex table x = table.length - 1) ∧
    ∀ (ν : Type) [Scale ν] (table : List ν) (x : ν),
      nearestIndex table x < max 1 table.length := by
  refine ⟨fun table hne hrise => ?_, fun ν _ => nearestIndex_lt⟩
  have hwins := wins_nearestIndex hne hrise
  refine ⟨fun x => (hwins x).isGreatest, fun x y => (hwins x).le_of_le hrise (hwins y), ?_, ?_⟩
  · intro x hx
    obtain ⟨first, rest, rfl⟩ := List.exists_cons_of_ne_nil hne
    have hfirst : x < first := hx
    simp [nearestIndex, lt_eq_true_iff, hfirst]
  · intro x hx
    have hlt := (hwins x).lt_length
    have hle := (hwins x).isGreatest.2 (isNearest_last hne hrise hx)
    omega

/-- A value half way between the first two of three breakpoints. -/
theorem nearestIndex_isGreatest_halfway :
    ([0, 2, 4] : List ℚ) ≠ [] ∧ ([0, 2, 4] : List ℚ).Pairwise (· < ·) ∧
      nearestIndex ([0, 2, 4] : List ℚ) 1 = 1 ∧
      IsGreatest {i | IsNearest [0, 2, 4] 1 i} 1 := by
  have hrise : ([0, 2, 4] : List ℚ).Pairwise (· < ·) := by decide
  have hone : nearestIndex ([0, 2, 4] : List ℚ) 1 = 1 := by decide +kernel
  have hgreatest := (nearestIndex_isGreatest.1 [0, 2, 4] (by simp) hrise).1 1
  exact ⟨by simp, hrise, hone, hone ▸ hgreatest⟩

end LabControl.Calibration
