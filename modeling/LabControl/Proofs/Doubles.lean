/-
# The values of doubles

A double is a whole number times a power of two, a zero, an infinity, or no number, and so it has a
value among the extended rationals (`Extended.ofFloat`).  Two operations on doubles never round, and
what they give can be told from the values alone: comparison (`lt_ofFloat`, `le_ofFloat`), and the
whole part cut to a word (`toNat_toUInt64`).

Comparison of doubles looks at the exponents, and at the mantissas only where the exponents agree.
That this is the order of the values rests on the form in which a double is stored: its mantissa has
its leading bit, unless its exponent is the least (`Canonical`).
-/
import LabControl.Proofs.Extended
import Mathlib.Algebra.Order.Field.Power
import Mathlib.Data.Rat.Floor
import Mathlib.Order.Compare
import Mathlib.Tactic.NormNum
import Mathlib.Tactic.Positivity
import Mathlib.Tactic.Ring

namespace LabControl.Extended

open Float.Model (Format UnpackedFloat)
open Float.Model.UnpackedFloat (ExtendedMantissa Sign unpackExponent unpackMantissa)

/-! ## 1. Values -/

/-- A whole number times a power of two. -/
def magnitude (mantissa : Nat) (exponent : Int) : ℚ := mantissa * 2 ^ exponent

/-- The value of a double, by its parts. -/
def ofParts : UnpackedFloat → Extended
  | .finite .positive mantissa exponent _ => finite (magnitude mantissa exponent)
  | .finite .negative mantissa exponent _ => finite (-magnitude mantissa exponent)
  | .zero _ => finite 0
  | .infinity .positive => infinity
  | .infinity .negative => minusInfinity
  | .notANumber => notANumber

/-- The value of a double. -/
def ofFloat (x : Float) : Extended := ofParts x.toModel.unpack

variable {x y : Float} {m n : Nat} {e f : Int} {s : Sign}

theorem magnitude_pos (h : 0 < m) : 0 < magnitude m e := by
  unfold magnitude
  positivity

/-! ## 2. Mantissas and exponents -/

/-- A mantissa and an exponent as a double has them: the mantissa has fifty-three bits at most, and
just as many unless the exponent is the least. -/
structure Canonical (mantissa : Nat) (exponent : Int) : Prop where
  least_le : -1074 ≤ exponent
  lt_two_pow : mantissa < 2 ^ 53
  leading : -1074 < exponent → 2 ^ 52 ≤ mantissa

/-- The leading bit of a mantissa, which is not stored. -/
theorem toNat_leading {k : Nat} (v : BitVec k) : (1#1 ++ v).toNat = 2 ^ k + v.toNat := by
  have hone : (1#1).toNat <<< k = 2 ^ k * 1 := by rw [Nat.shiftLeft_eq, Nat.mul_comm]; rfl
  rw [BitVec.toNat_append, hone, ← Nat.two_pow_add_eq_or_of_lt v.isLt, Nat.mul_one]

/-- The parts of a double are canonical, if it has any. -/
def IsCanonical : UnpackedFloat → Prop
  | .finite _ mantissa exponent _ => Canonical mantissa exponent
  | .zero _ | .infinity _ | .notANumber => True

theorem isCanonical_unpack (x : Float) : IsCanonical x.toModel.unpack := by
  have hbias : (Format.exponentBias .binary64 : ℤ) = 1023 := rfl
  have hbound : (@unpackMantissa .binary64 x.toModel.toBits.toBitVec).toNat < 2 ^ 52 :=
    BitVec.isLt _
  have hleading := toNat_leading (@unpackMantissa .binary64 x.toModel.toBits.toBitVec)
  change _ = 2 ^ 52 + _ at hleading
  dsimp only [Float.Model.unpack, UnpackedFloat.unpack]
  -- All ones in the exponent is an infinity or no number.
  by_cases hfull : @unpackExponent .binary64 x.toModel.toBits.toBitVec = -1#11
  · rw [if_pos hfull]
    by_cases hzero : @unpackMantissa .binary64 x.toModel.toBits.toBitVec = 0#52
    · rw [if_pos hzero]
      trivial
    · rw [if_neg hzero]
      trivial
  rw [if_neg hfull]
  -- All zeros is a zero, or a mantissa without a leading bit at the least exponent.
  by_cases hempty : @unpackExponent .binary64 x.toModel.toBits.toBitVec = 0#11
  · rw [if_pos hempty]
    by_cases hzero : @unpackMantissa .binary64 x.toModel.toBits.toBitVec = 0#52
    · rw [dif_pos hzero]
      trivial
    · rw [dif_neg hzero, hempty, hbias]
      exact ⟨by decide, by omega, fun hlt => absurd hlt (by decide)⟩
  · have hexponent : (@unpackExponent .binary64 x.toModel.toBits.toBitVec).toNat ≠ 0 :=
      fun heq => hempty (BitVec.eq_of_toNat_eq heq)
    rw [if_neg hempty, hbias]
    exact ⟨by omega, by omega, by omega⟩

/-- A greater exponent is not the least, so its mantissa makes up for any other. -/
theorem Canonical.lt_of_exponent_lt (hm : Canonical m e) (hn : Canonical n f) (h : e < f) :
    magnitude m e < magnitude n f := by
  have hleading : 2 ^ 52 ≤ n := hn.leading (lt_of_le_of_lt hm.least_le h)
  have hm' : (m : ℚ) < 2 ^ 53 := by exact_mod_cast hm.lt_two_pow
  have hn' : (2 : ℚ) ^ 52 ≤ n := by exact_mod_cast hleading
  calc (m : ℚ) * 2 ^ e
      < 2 ^ 53 * 2 ^ e := by gcongr
    _ = 2 ^ 52 * 2 ^ (e + 1) := by rw [zpow_add_one₀ (by norm_num)]; ring
    _ ≤ n * 2 ^ f := by
      gcongr
      · norm_num
      · omega

/-- **Magnitudes compare by their exponents, and then by their mantissas.** -/
theorem Canonical.cmp_magnitude (hm : Canonical m e) (hn : Canonical n f) :
    cmp (magnitude m e) (magnitude n f) = (compare e f).then (compare m n) := by
  rcases lt_trichotomy e f with h | rfl | h
  · rw [compare_lt_iff_lt.mpr h]
    exact (hm.lt_of_exponent_lt hn h).cmp_eq_lt
  · have hscale : StrictMono fun q : ℚ => q * 2 ^ e :=
      fun _ _ hlt => mul_lt_mul_of_pos_right hlt (by positivity)
    calc cmp (magnitude m e) (magnitude n e)
        = cmp (m : ℚ) n := hscale.cmp_map_eq _ _
      _ = cmp m n := Nat.strictMono_cast.cmp_map_eq m n
      _ = compare m n := cmp_eq_compare m n
      _ = (compare e e).then (compare m n) := by rw [compare_eq_iff_eq.mpr rfl]; rfl
  · rw [compare_gt_iff_gt.mpr h]
    exact (hn.lt_of_exponent_lt hm h).cmp_eq_gt

/-! ## 3. Comparison -/

/-- How two values compare, if both are numbers. -/
def compare? : Extended → Extended → Option Ordering
  | notANumber, _ | _, notANumber => none
  | finite x, finite y => some (cmp x y)
  | infinity, infinity | minusInfinity, minusInfinity => some .eq
  | minusInfinity, _ | _, infinity => some .lt
  | infinity, _ | _, minusInfinity => some .gt

/-- Less or equal. -/
def le (x y : Extended) : Bool := (x.compare? y).any (·.isLE)

theorem lt_iff_compare? {x y : Extended} : Scale.lt x y = true ↔ x.compare? y = some .lt := by
  cases x <;> cases y
  case finite.finite p q =>
    rw [compare?, Option.some_inj, cmp_eq_lt_iff]
    exact decide_eq_true_iff
  all_goals simp [Scale.lt, lt, compare?]

theorem le_finite_iff {p q : ℚ} : le (finite p) (finite q) = true ↔ p ≤ q := by
  rw [le, compare?]
  rcases lt_trichotomy p q with h | rfl | h
  · rw [h.cmp_eq_lt]
    exact iff_of_true rfl h.le
  · rw [cmp_self_eq_eq]
    exact iff_of_true rfl (le_refl p)
  · rw [h.cmp_eq_gt]
    exact iff_of_false (by decide) (not_le_of_gt h)

/-- The parts of two doubles compare as their values do.  Only two values of one sign need a look at
mantissa and exponent. -/
theorem compare_ofParts {u v : UnpackedFloat} (hu : IsCanonical u) (hv : IsCanonical v) :
    u.compare v = (ofParts u).compare? (ofParts v) := by
  cases u with
  | notANumber => rfl
  | infinity s =>
    cases v with
    | infinity t | finite t => cases s <;> cases t <;> rfl
    | zero | notANumber => cases s <;> rfl
  | zero =>
    cases v with
    | infinity t => cases t <;> rfl
    | zero | notANumber => rfl
    | finite t n f hn =>
      have hpos : 0 < magnitude n f := magnitude_pos hn
      cases t with
      | positive => exact congrArg some hpos.cmp_eq_lt.symm
      | negative => exact congrArg some (neg_neg_of_pos hpos).cmp_eq_gt.symm
  | finite s m e hm =>
    have hpos : 0 < magnitude m e := magnitude_pos hm
    cases v with
    | infinity t => cases s <;> cases t <;> rfl
    | notANumber => cases s <;> rfl
    | zero =>
      cases s with
      | positive => exact congrArg some hpos.cmp_eq_gt.symm
      | negative => exact congrArg some (neg_neg_of_pos hpos).cmp_eq_lt.symm
    | finite t n f hn =>
      have hpos' : 0 < magnitude n f := magnitude_pos hn
      have hcmp := Canonical.cmp_magnitude hu hv
      cases s with
      | positive =>
        cases t with
        | positive => exact congrArg some hcmp.symm
        | negative => exact congrArg some ((neg_neg_of_pos hpos').trans hpos).cmp_eq_gt.symm
      | negative =>
        cases t with
        | positive => exact congrArg some ((neg_neg_of_pos hpos).trans hpos').cmp_eq_lt.symm
        | negative =>
          refine congrArg some ?_
          rw [← hcmp, cmp_swap, StrictAnti.cmp_map_eq fun _ _ h => neg_lt_neg h]

theorem compare_unpack (x y : Float) :
    x.toModel.unpack.compare y.toModel.unpack = (ofFloat x).compare? (ofFloat y) :=
  compare_ofParts (isCanonical_unpack x) (isCanonical_unpack y)

/-- **Doubles compare as their values do.** -/
theorem lt_ofFloat : x < y ↔ Scale.lt (ofFloat x) (ofFloat y) = true := by
  have hunpack : x < y ↔ x.toModel.unpack.lt y.toModel.unpack = true := decide_eq_true_iff
  rw [hunpack, UnpackedFloat.lt, compare_unpack, beq_iff_eq, lt_iff_compare?]

theorem le_ofFloat : x ≤ y ↔ le (ofFloat x) (ofFloat y) = true := by
  have hunpack : x ≤ y ↔ x.toModel.unpack.le y.toModel.unpack = true := decide_eq_true_iff
  rw [hunpack, UnpackedFloat.le, compare_unpack, le]

theorem lt_float_iff : Scale.lt x y = true ↔ x < y := decide_eq_true_iff

instance : IsTrans Float fun x y => Scale.lt x y = true where
  trans _ _ _ h h' := by
    rw [lt_float_iff, lt_ofFloat] at h h' ⊢
    exact lt_trans h h'

/-! ## 4. Whole parts -/

/-- A greater value does not have a smaller whole part. -/
theorem setting_mono {x y : Extended} (h : le x y = true) (limit : Nat) :
    x.setting limit ≤ y.setting limit := by
  cases x with
  | minusInfinity | notANumber => exact Nat.zero_le _
  | infinity =>
    cases y with
    | infinity => exact le_refl limit
    | finite | minusInfinity | notANumber => cases h
  | finite p =>
    cases y with
    | infinity => exact setting_le limit _
    | minusInfinity | notANumber => cases h
    | finite q =>
      have hfloor : p.floor ≤ q.floor := Int.floor_mono (le_finite_iff.mp h)
      simp only [setting]
      omega

theorem mantissa_shiftRight (a : ExtendedMantissa) (k : Nat) :
    (a >>> k).mantissa = a.mantissa / 2 ^ k := by
  induction k with
  | zero => exact (Nat.div_one _).symm
  | succ k ih =>
    change (a >>> k).mantissa / 2 = _
    rw [ih, Nat.div_div_eq_div_mul, Nat.pow_succ]

theorem floor_magnitude (m : Nat) (e : Int) :
    (magnitude m e).floor = (m * 2 ^ e.toNat / 2 ^ (-e).toNat : Nat) := by
  unfold magnitude
  obtain ⟨k, rfl | rfl⟩ := e.eq_nat_or_neg
  · have hfloor : ((m * 2 ^ k : Nat) : ℚ).floor = (m * 2 ^ k : Nat) := Int.floor_natCast (R := ℚ) _
    have hdown : (-(k : ℤ)).toNat = 0 := by omega
    rw [hdown, Int.toNat_natCast, pow_zero, Nat.div_one, ← hfloor]
    push_cast
    rfl
  · have hfloor := Rat.floor_natCast_div_natCast m (2 ^ k)
    have hup : (-(k : ℤ)).toNat = 0 := by omega
    rw [hup, neg_neg, Int.toNat_natCast, pow_zero, Nat.mul_one, zpow_neg, zpow_natCast,
      ← div_eq_mul_inv]
    push_cast at hfloor ⊢
    exact hfloor

theorem roundToInt_eq (s : Sign) (m : Nat) (e : Int) :
    UnpackedFloat.roundToInt s m e = s.apply (magnitude m e).floor := by
  have hdown : (0 - (e - ((e - 0).toNat : ℤ))).toNat = (-e).toNat := by omega
  rw [floor_magnitude]
  unfold UnpackedFloat.roundToInt UnpackedFloat.decreaseExponent UnpackedFloat.shiftToExponent
  dsimp only
  rw [mantissa_shiftRight, hdown, Int.sub_zero, Nat.shiftLeft_eq]
  rfl

theorem toNat_ofNatClamp (n : Nat) : (UInt64.ofNatClamp n).toNat = min n (2 ^ 64 - 1) := by
  have hsize : UInt64.size = 2 ^ 64 := rfl
  unfold UInt64.ofNatClamp
  split
  · rw [UInt64.toNat_ofNatLT]
    omega
  · rw [UInt64.toNat_ofNatLT]
    omega

/-- **The whole part of a double, cut to a word**, is that of its value. -/
theorem toNat_toUInt64 (x : Float) : x.toUInt64.toNat = (ofFloat x).setting (2 ^ 64 - 1) := by
  have hunpack : x.toUInt64 = UInt64.ofNatClamp (x.toModel.unpack.toInt 0 (2 ^ 64 - 1)).toNat := rfl
  rw [hunpack, toNat_ofNatClamp, ofFloat]
  cases x.toModel.unpack with
  | notANumber => rfl
  | zero => rfl
  | infinity s => cases s <;> rfl
  | finite s m e hm =>
    have hpos : 0 < magnitude m e := magnitude_pos hm
    have hfloor : 0 ≤ (magnitude m e).floor := Int.floor_nonneg.mpr hpos.le
    have hwhole : (UnpackedFloat.finite s m e hm).toInt 0 (2 ^ 64 - 1) =
        s.apply (magnitude m e).floor := roundToInt_eq s m e
    rw [hwhole]
    cases s with
    | positive => rfl
    | negative =>
      have hneg : (-magnitude m e).floor ≤ 0 :=
        (Int.floor_mono (neg_nonpos.mpr hpos.le)).trans_eq Int.floor_zero
      change min (-(magnitude m e).floor).toNat _ = min (-magnitude m e).floor.toNat _
      omega

end LabControl.Extended
