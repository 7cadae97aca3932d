import Mathlib.Algebra.Order.Field.Power
import Dialogue.Proofs.Number.Numeral
import Dialogue.Proofs.Number.Rounding

/-!
# Numerals as doubles

A numeral becomes a double in units of `2 ^ -1074`: its value is measured in these units and
rounded to 53 bits (`Dialogue.Number.IsDouble`). Numerals that are much too large or too small are
told by their number of digits and never computed. The bounds for that are safe: what is called
too large would round beyond the doubles, and what is called too small would round to zero
(`Dialogue.Number.exists_magnitude?`). So a numeral has no double exactly if its value is half a
unit below `2 ^ 1024` or beyond (`Dialogue.Number.Decimal.toDouble?_eq_none_iff`), and in every
other case it has the double that its value is rounded to
(`Dialogue.Number.Decimal.isDouble_of_toDouble?`).

The powers that are compared here have hundreds of digits. They are kept as powers, and lemmas
speak of any exponent `k` where one is meant.
-/

namespace Dialogue

namespace Number

/-! ### Values in units -/

/-- The value of a significand and an exponent, in units of `2 ^ -1074`. -/
def unitsOf (significand : ℕ) (exponent : ℤ) : ℚ :=
  significand * 10 ^ exponent * unitsPerOne

theorem unitsPerOne_pos : (0 : ℚ) < unitsPerOne := by
  have hpos : 0 < unitsPerOne := by decide +kernel
  exact_mod_cast hpos

theorem unitsOf_nonneg (significand : ℕ) (exponent : ℤ) : 0 ≤ unitsOf significand exponent :=
  mul_nonneg (mul_nonneg (Nat.cast_nonneg _) (zpow_nonneg (by norm_num) _)) unitsPerOne_pos.le

/-- The number of digits tells between which powers of ten a number lies. -/
theorem ten_pow_le_of_length {n : ℕ} (h : n ≠ 0) :
    10 ^ ((Nat.toDigits 10 n).length - 1) ≤ n ∧ n < 10 ^ (Nat.toDigits 10 n).length := by
  have hpos : 0 < (Nat.toDigits 10 n).length := Nat.length_toDigits_pos
  refine ⟨?_, (Nat.length_toDigits_le_iff (by decide) hpos).mp le_rfl⟩
  rcases Nat.eq_zero_or_pos ((Nat.toDigits 10 n).length - 1) with hzero | hpos'
  · rw [hzero]
    omega
  · by_contra hlt
    have hle := (Nat.length_toDigits_le_iff (by decide) hpos').mpr (Nat.lt_of_not_le hlt)
    omega

variable {significand : ℕ} {exponent : ℤ} {k : ℕ}

/-- A value is below the power of ten that its size tells. -/
theorem mul_zpow_le (h : significand ≠ 0)
    (hsize : (Nat.toDigits 10 significand).length + exponent ≤ -k) :
    (significand : ℚ) * 10 ^ exponent ≤ ((Nat.pow 10 k : ℕ) : ℚ)⁻¹ := by
  have hless : (significand : ℚ) ≤ 10 ^ ((Nat.toDigits 10 significand).length : ℤ) := by
    rw [zpow_natCast]
    exact_mod_cast (ten_pow_le_of_length h).2.le
  calc (significand : ℚ) * 10 ^ exponent
      ≤ 10 ^ ((Nat.toDigits 10 significand).length : ℤ) * 10 ^ exponent :=
        mul_le_mul_of_nonneg_right hless (zpow_nonneg (by norm_num) _)
    _ = 10 ^ ((Nat.toDigits 10 significand).length + exponent) :=
        (zpow_add₀ (by norm_num) _ _).symm
    _ ≤ 10 ^ (-k : ℤ) := zpow_le_zpow_right₀ (by norm_num) hsize
    _ = ((Nat.pow 10 k : ℕ) : ℚ)⁻¹ := by
        rw [zpow_neg, zpow_natCast]
        exact congrArg _ (Nat.cast_pow 10 k).symm

/-- A value reaches the power of ten below the one that its size tells. -/
theorem le_mul_zpow (h : significand ≠ 0)
    (hsize : k + 1 ≤ (Nat.toDigits 10 significand).length + exponent) :
    ((Nat.pow 10 k : ℕ) : ℚ) ≤ significand * 10 ^ exponent := by
  have hpos : 0 < (Nat.toDigits 10 significand).length := Nat.length_toDigits_pos
  have hless : (10 : ℚ) ^ (((Nat.toDigits 10 significand).length - 1 : ℕ) : ℤ) ≤ significand := by
    rw [zpow_natCast]
    exact_mod_cast (ten_pow_le_of_length h).1
  calc ((Nat.pow 10 k : ℕ) : ℚ) = 10 ^ (k : ℤ) := by
        rw [zpow_natCast]
        exact Nat.cast_pow 10 k
    _ ≤ 10 ^ ((((Nat.toDigits 10 significand).length - 1 : ℕ) : ℤ) + exponent) :=
        zpow_le_zpow_right₀ (by norm_num) (by omega)
    _ = 10 ^ (((Nat.toDigits 10 significand).length - 1 : ℕ) : ℤ) * 10 ^ exponent :=
        zpow_add₀ (by norm_num) _ _
    _ ≤ significand * 10 ^ exponent :=
        mul_le_mul_of_nonneg_right hless (zpow_nonneg (by norm_num) _)

/-- **What is called too small** is at most half a unit. -/
theorem unitsOf_le_half (hk : 2 * unitsPerOne ≤ Nat.pow 10 k) (h : significand ≠ 0)
    (hsize : (Nat.toDigits 10 significand).length + exponent ≤ -k) :
    unitsOf significand exponent ≤ 1 / 2 := by
  have hbound : (2 : ℚ) * unitsPerOne ≤ (Nat.pow 10 k : ℕ) := by exact_mod_cast hk
  have hunits := unitsPerOne_pos
  have hpos : (0 : ℚ) < (Nat.pow 10 k : ℕ) := by linarith
  calc unitsOf significand exponent ≤ ((Nat.pow 10 k : ℕ) : ℚ)⁻¹ * unitsPerOne :=
        mul_le_mul_of_nonneg_right (mul_zpow_le h hsize) hunits.le
    _ ≤ 1 / 2 := by
        rw [inv_mul_le_iff₀ hpos]
        linarith

/-- **What is called too large** is beyond the doubles. -/
theorem overflowBound_le_unitsOf (hk : overflowBound ≤ Nat.pow 10 k * unitsPerOne)
    (h : significand ≠ 0) (hsize : k + 1 ≤ (Nat.toDigits 10 significand).length + exponent) :
    (overflowBound : ℚ) ≤ unitsOf significand exponent := by
  have hbound : (overflowBound : ℚ) ≤ (Nat.pow 10 k : ℕ) * unitsPerOne := by exact_mod_cast hk
  exact hbound.trans (mul_le_mul_of_nonneg_right (le_mul_zpow h hsize) unitsPerOne_pos.le)

/-- The quotient that is computed is the value. -/
theorem cast_quotient_eq (significand : ℕ) (exponent : ℤ) :
    ((significand * Nat.pow 10 exponent.toNat * unitsPerOne : ℕ) : ℚ) /
      (Nat.pow 10 (-exponent).toNat : ℕ) = unitsOf significand exponent := by
  have hsplit : (10 : ℚ) ^ exponent = 10 ^ exponent.toNat / 10 ^ (-exponent).toNat := by
    rw [← zpow_natCast, ← zpow_natCast, ← zpow_sub₀ (by norm_num)]
    congr 1
    omega
  have hcast : ∀ k : ℕ, ((Nat.pow 10 k : ℕ) : ℚ) = 10 ^ k := fun k => Nat.cast_pow 10 k
  rw [unitsOf, hsplit, Nat.cast_mul, Nat.cast_mul, hcast, hcast]
  ring

/-! ### Magnitudes -/

/-- Where the doubles end: half a unit below `2 ^ 1024`. -/
def overflowThreshold : ℚ :=
  2 ^ 1024 - 2 ^ 970

/-- The threshold in units, for any exponents. -/
theorem sub_mul_two_pow {units : ℕ} (a b c : ℕ) (hunits : units = 2 ^ c) :
    ((2 : ℚ) ^ (a + b) - 2 ^ a) * units = ((2 ^ (a + c + b) - 2 ^ (a + c) : ℕ) : ℚ) := by
  have hle : 2 ^ (a + c) ≤ 2 ^ (a + c + b) := Nat.pow_le_pow_right (by norm_num) (by omega)
  rw [Nat.cast_sub hle, hunits]
  push_cast
  ring

/-- The threshold lies half a unit of the largest doubles below the first power of two that is
none. -/
theorem overflowThreshold_mul_units :
    overflowThreshold * unitsPerOne =
      ((2 ^ (970 + 1074 + 54) - 2 ^ (970 + 1074) : ℕ) : ℚ) :=
  sub_mul_two_pow 970 54 1074 (by decide +kernel)

theorem overflowBound_eq : overflowBound = 2 ^ (970 + 1074 + 54) := by
  decide +kernel

theorem overflowThreshold_mul_units_le : overflowThreshold * unitsPerOne ≤ overflowBound := by
  rw [overflowThreshold_mul_units, overflowBound_eq]
  exact Nat.cast_le.mpr (Nat.sub_le _ _)

/-- **Rounding reaches the end of the doubles** from the threshold on. -/
theorem IsNearest.overflowBound_le_iff {v : ℚ} {n : ℕ} (h : IsNearest v n) (h0 : 0 ≤ v) :
    overflowBound ≤ n ↔ overflowThreshold * unitsPerOne ≤ v := by
  rw [overflowThreshold_mul_units, overflowBound_eq]
  exact h.two_pow_le_iff h0

/-- **A magnitude is rounded**, and it is none if it is rounded beyond the doubles. -/
theorem exists_magnitude? (significand : ℕ) (exponent : ℤ) :
    ∃ n, IsNearest (unitsOf significand exponent) n ∧
      magnitude? significand exponent = if n < overflowBound then some n else none := by
  have hpos : 0 < overflowBound := by decide +kernel
  have hnonneg := unitsOf_nonneg significand exponent
  unfold magnitude?
  dsimp only
  split
  · next hsmall =>
    -- too small, or zero, which has no size to speak of
    refine ⟨0, isNearest_zero hnonneg ?_, (if_pos hpos).symm⟩
    rcases eq_or_ne significand 0 with hzero | hzero
    · rw [hzero, unitsOf, Nat.cast_zero, zero_mul, zero_mul]
      norm_num
    · exact unitsOf_le_half (by decide +kernel) hzero (hsmall.resolve_left hzero)
  · next hsmall =>
    rw [not_or] at hsmall
    split
    · next hlarge =>
      -- too large: the rounded value is not computed, but it would be beyond the doubles
      obtain ⟨n, hn⟩ := exists_isNearest hnonneg
      have hunits : (overflowBound : ℚ) ≤ unitsOf significand exponent :=
        overflowBound_le_unitsOf (k := 309) (by decide +kernel) hsmall.1 hlarge
      have hover : overflowBound ≤ n :=
        (hn.overflowBound_le_iff hnonneg).mpr (overflowThreshold_mul_units_le.trans hunits)
      exact ⟨n, hn, (if_neg (Nat.not_lt.mpr hover)).symm⟩
    · refine ⟨_, ?_, rfl⟩
      rw [← cast_quotient_eq]
      exact isNearest_nearest _ (Nat.pow_pos (by decide))

/-! ### Doubles -/

/-- **The double of a number**, in units of `2 ^ -1074`: its magnitude is rounded to 53 bits, and
it has the sign of the number. -/
structure IsDouble (x : ℚ) (i : ℤ) : Prop where
  nearest : IsNearest (|x| * unitsPerOne) i.natAbs
  nonneg : 0 ≤ x → 0 ≤ i
  nonpos : x ≤ 0 → i ≤ 0

/-- **The doubles keep the order.** -/
theorem IsDouble.mono {x y : ℚ} {i j : ℤ} (hx : IsDouble x i) (hy : IsDouble y j) (h : x ≤ y) :
    i ≤ j := by
  have hunits := unitsPerOne_pos.le
  have hmagnitude : ∀ {u v : ℚ}, |u| ≤ |v| → |u| * unitsPerOne ≤ |v| * unitsPerOne :=
    fun h => mul_le_mul_of_nonneg_right h hunits
  have hnonneg : ∀ u : ℚ, 0 ≤ |u| * unitsPerOne := fun u => mul_nonneg (abs_nonneg u) hunits
  rcases le_total 0 x with hpos | hneg
  · have habs : |x| ≤ |y| := abs_le_abs_of_nonneg hpos h
    have hle := hx.nearest.mono hy.nearest (hnonneg x) (hmagnitude habs)
    have hi := hx.nonneg hpos
    have hj := hy.nonneg (hpos.trans h)
    omega
  · have hi := hx.nonpos hneg
    rcases le_total 0 y with hpos' | hneg'
    · exact hi.trans (hy.nonneg hpos')
    · -- below zero the larger magnitude is the smaller number
      have habs : |y| ≤ |x| := by
        rw [abs_of_nonpos hneg, abs_of_nonpos hneg']
        linarith
      have hle := hy.nearest.mono hx.nearest (hnonneg y) (hmagnitude habs)
      have hj := hy.nonpos hneg'
      omega

/-- **The double is determined** by the number. -/
theorem IsDouble.unique {x : ℚ} {i j : ℤ} (hi : IsDouble x i) (hj : IsDouble x j) : i = j :=
  le_antisymm (hi.mono hj le_rfl) (hj.mono hi le_rfl)

/-- **Whole numbers of 53 bits are doubles.** -/
theorem isDouble_intCast {m : ℤ} (h : |m| ≤ 2 ^ 53) : IsDouble m (m * unitsPerOne) where
  nearest := by
    have hbits : m.natAbs ≤ 2 ^ 53 := by
      rw [Int.abs_eq_natAbs] at h
      exact_mod_cast h
    have hvalue : |(m : ℚ)| * unitsPerOne = ((m.natAbs * unitsPerOne : ℕ) : ℚ) := by
      rw [Nat.cast_mul, Nat.cast_natAbs, Int.cast_abs]
    have hdvd : spacing (m.natAbs * unitsPerOne) ∣ m.natAbs * unitsPerOne := by
      have hunits : unitsPerOne = 2 ^ 1074 := by decide +kernel
      rw [hunits]
      exact spacing_dvd_mul_two_pow hbits 1074
    rw [hvalue, Int.natAbs_mul, Int.natAbs_natCast]
    exact isNearest_natCast hdvd
  nonneg hm := mul_nonneg (by exact_mod_cast hm) (Int.natCast_nonneg _)
  nonpos hm := mul_nonpos_of_nonpos_of_nonneg (by exact_mod_cast hm) (Int.natCast_nonneg _)

namespace Decimal

theorem magnitude_nonneg (d : Decimal) : (0 : ℚ) ≤ d.significand * 10 ^ d.exponent :=
  mul_nonneg (Nat.cast_nonneg _) (zpow_nonneg (by norm_num) _)

theorem abs_value_mul (d : Decimal) :
    |d.value| * unitsPerOne = unitsOf d.significand d.exponent := by
  have hsign : |if d.negative then (-1 : ℚ) else 1| = 1 := by
    cases d.negative <;> simp
  rw [value, abs_mul, hsign, one_mul, abs_of_nonneg d.magnitude_nonneg, unitsOf]

/-- A magnitude is put together with the sign of the numeral. -/
theorem isDouble_of_isNearest {d : Decimal} {n : ℕ}
    (h : IsNearest (unitsOf d.significand d.exponent) n) :
    IsDouble d.value (if d.negative then -(n : ℤ) else n) := by
  -- zero has either sign, and so must its double
  have hzero : d.value = 0 → n = 0 := by
    intro hvalue
    refine h.unique ?_ (unitsOf_nonneg _ _)
    rw [← abs_value_mul, hvalue, abs_zero, zero_mul]
    exact isNearest_zero le_rfl (by norm_num)
  have hmagnitude := d.magnitude_nonneg
  rw [← abs_value_mul] at h
  cases hnegative : d.negative with
  | false =>
    have hvalue : 0 ≤ d.value := by simpa [value, hnegative] using hmagnitude
    rw [if_neg Bool.false_ne_true]
    refine ⟨h, fun _ => Int.natCast_nonneg n, fun hle => ?_⟩
    simp [hzero (le_antisymm hle hvalue)]
  | true =>
    have hvalue : d.value ≤ 0 := by simpa [value, hnegative] using hmagnitude
    rw [if_pos rfl]
    refine ⟨by rwa [Int.natAbs_neg], fun hle => ?_, fun _ => by simp⟩
    simp [hzero (le_antisymm hvalue hle)]

/-- **A numeral has the double of its value**, if it has one. -/
theorem isDouble_of_toDouble? {d : Decimal} {i : ℤ} (h : d.toDouble? = some i) :
    IsDouble d.value i := by
  obtain ⟨n, hn, hmagnitude⟩ := exists_magnitude? d.significand d.exponent
  obtain ⟨m, hm, rfl⟩ := Option.map_eq_some_iff.mp h
  rw [hmagnitude] at hm
  split at hm
  · obtain rfl := Option.some.inj hm
    exact isDouble_of_isNearest hn
  · cases hm

/-- **A numeral has no double** exactly if its value is at the threshold or beyond. -/
theorem toDouble?_eq_none_iff {d : Decimal} :
    d.toDouble? = none ↔ overflowThreshold ≤ |d.value| := by
  obtain ⟨n, hn, hmagnitude⟩ := exists_magnitude? d.significand d.exponent
  calc d.toDouble? = none ↔ overflowBound ≤ n := by
        rw [toDouble?, Option.map_eq_none_iff, hmagnitude]
        split <;> simp_all
    _ ↔ overflowThreshold * unitsPerOne ≤ |d.value| * unitsPerOne := by
        rw [abs_value_mul, hn.overflowBound_le_iff (unitsOf_nonneg _ _)]
    _ ↔ overflowThreshold ≤ |d.value| := mul_le_mul_iff_left₀ unitsPerOne_pos

end Decimal

end Number

end Dialogue
