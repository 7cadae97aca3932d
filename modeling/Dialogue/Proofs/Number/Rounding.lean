import Mathlib.Algebra.Order.Floor.Semifield
import Mathlib.Algebra.Order.Field.Basic
import Mathlib.Data.Nat.Log
import Mathlib.Data.Rat.Floor
import Mathlib.Tactic.Linarith
import Dialogue.Number.Binary64

/-!
# Rounding keeps the order

A quotient is rounded to 53 significant bits: it is measured in a unit that fits its size and
rounded to a whole number of such units, a tie going to the even one. Here this is said of the
rational number alone, whatever quotient it is written as: `Dialogue.Number.RoundsTo` is rounding
to a whole number, and `Dialogue.Number.IsNearest` is rounding to 53 bits.

The result never reverses the order (`Dialogue.Number.IsNearest.mono`). Between two numbers of one
size this holds because rounding to whole units does so. Two numbers of different sizes are
measured in different units, but a power of two lies between them, which is a whole number of
either unit, and rounding crosses no such number. What follows is that the result is determined
by the rational number, that numbers which need no more than 53 bits stay as they are, and where
exactly the doubles end (`Dialogue.Number.IsNearest.two_pow_le_iff`).
-/

namespace Dialogue

namespace Number

/-! ### Rounding to a whole number -/

/-- **The whole number nearest to a number**, of two equally near ones the even. -/
structure RoundsTo (v : ℚ) (r : ℕ) : Prop where
  above : (r : ℚ) - 1 / 2 ≤ v
  below : v ≤ r + 1 / 2
  even : v = r - 1 / 2 ∨ v = r + 1 / 2 → Even r

/-- Less than half away there is no tie. -/
theorem roundsTo_of_lt {v : ℚ} {r : ℕ} (habove : (r : ℚ) - 1 / 2 < v) (hbelow : v < r + 1 / 2) :
    RoundsTo v r where
  above := habove.le
  below := hbelow.le
  even := by
    rintro (h | h) <;> linarith

/-- A whole number is nearest to itself. -/
theorem roundsTo_natCast (k : ℕ) : RoundsTo k k :=
  roundsTo_of_lt (by linarith) (by linarith)

/-- **Rounding keeps the order.** Two numbers could only change places if both of them lay
halfway between the same two neighbours, and then both go to the even one. -/
theorem RoundsTo.mono {v w : ℚ} {r s : ℕ} (hv : RoundsTo v r) (hw : RoundsTo w s) (h : v ≤ w) :
    r ≤ s := by
  by_contra hlt
  have hgap : s + 1 ≤ r := by omega
  have hgap' : (s : ℚ) + 1 ≤ r := by exact_mod_cast hgap
  have habove := hv.above
  have hbelow := hw.below
  have hr : r = s + 1 := by
    have : (r : ℚ) ≤ s + 1 := by linarith
    have : r ≤ s + 1 := by exact_mod_cast this
    omega
  have hr' : (r : ℚ) = s + 1 := by exact_mod_cast hr
  have hreven : Even r := hv.even (Or.inl (by linarith))
  have hseven : Even s := hw.even (Or.inr (by linarith))
  rw [hr, Nat.even_add_one] at hreven
  exact hreven hseven

/-- A quotient is its whole part and the rest of the division. -/
theorem cast_div_eq (num : ℕ) {den : ℕ} (hden : 0 < den) :
    (num : ℚ) / den = (num / den : ℕ) + ((num % den : ℕ) : ℚ) / den := by
  have hden' : (den : ℚ) ≠ 0 := by exact_mod_cast hden.ne'
  have hsum : (num : ℚ) = den * (num / den : ℕ) + (num % den : ℕ) := by
    exact_mod_cast (Nat.div_add_mod num den).symm
  rw [div_eq_iff hden', add_mul, div_mul_cancel₀ _ hden', mul_comm]
  exact hsum

/-- **Rounding a quotient** gives the whole number nearest to it. -/
theorem roundsTo_roundHalfEven (num : ℕ) {den : ℕ} (hden : 0 < den) :
    RoundsTo ((num : ℚ) / den) (roundHalfEven num den) := by
  have hden' : (0 : ℚ) < den := by exact_mod_cast hden
  have hnonneg : 0 ≤ ((num % den : ℕ) : ℚ) / den := by positivity
  have hlt : ((num % den : ℕ) : ℚ) / den < 1 := by
    rw [div_lt_one hden']
    exact_mod_cast Nat.mod_lt num hden
  rw [cast_div_eq num hden, roundHalfEven]
  split
  · next hlow =>
    have hfrac : ((num % den : ℕ) : ℚ) / den < 1 / 2 := by
      have hlow' : (2 : ℚ) * (num % den : ℕ) < den := by exact_mod_cast hlow
      rw [div_lt_iff₀ hden']
      linarith
    exact roundsTo_of_lt (by linarith) (by linarith)
  · split
    · next hhigh =>
      have hfrac : 1 / 2 < ((num % den : ℕ) : ℚ) / den := by
        have hhigh' : (den : ℚ) < 2 * (num % den : ℕ) := by exact_mod_cast hhigh
        rw [lt_div_iff₀ hden']
        linarith
      exact roundsTo_of_lt (by push_cast; linarith) (by push_cast; linarith)
    · next hlow hhigh =>
      have hfrac : ((num % den : ℕ) : ℚ) / den = 1 / 2 := by
        have htie : (2 : ℚ) * (num % den : ℕ) = den := by
          exact_mod_cast (by omega : 2 * (num % den) = den)
        rw [div_eq_iff hden'.ne']
        linarith
      rw [hfrac]
      split
      · next heven => exact ⟨by linarith, le_rfl, fun _ => Nat.even_iff.mpr heven⟩
      · next hodd =>
        refine ⟨by push_cast; linarith, by push_cast; linarith, fun _ => ?_⟩
        exact Nat.even_add_one.mpr fun heven => hodd (Nat.even_iff.mp heven)

/-! ### Rounding to 53 bits -/

/-- **The number of 53 significant bits nearest to a number**: the number is measured in the
spacing that belongs to its whole part, and rounded to a whole number of these. -/
def IsNearest (v : ℚ) (n : ℕ) : Prop :=
  ∃ r, RoundsTo (v / spacing ⌊v⌋₊) r ∧ n = r * spacing ⌊v⌋₊

theorem spacing_pos (n : ℕ) : 0 < spacing n :=
  Nat.two_pow_pos _

/-- A number of `k + 1` bits, zero included. -/
theorem log2_le_of_lt {n k : ℕ} (h : n < 2 ^ (k + 1)) : n.log2 ≤ k := by
  rcases Nat.eq_zero_or_pos n with rfl | hpos
  · simp [Nat.log2_zero]
  · exact Nat.le_of_lt_succ ((Nat.log2_lt hpos.ne').mpr h)

theorem spacing_dvd_two_pow {n k : ℕ} (h : n.log2 ≤ k + 52) : spacing n ∣ 2 ^ k :=
  Nat.pow_dvd_pow 2 (by omega)

/-- **A number of 53 bits is a whole number of units**, with any zeros after them. -/
theorem spacing_dvd_mul_two_pow {m : ℕ} (h : m ≤ 2 ^ 53) (k : ℕ) :
    spacing (m * 2 ^ k) ∣ m * 2 ^ k := by
  rcases h.eq_or_lt with rfl | hlt
  · rw [← pow_add]
    exact spacing_dvd_two_pow (by rw [Nat.log2_two_pow]; omega)
  · have hless : m * 2 ^ k < 2 ^ (k + 53) := by
      rw [Nat.pow_add, Nat.mul_comm]
      exact Nat.mul_lt_mul_of_pos_left hlt (Nat.two_pow_pos k)
    exact (spacing_dvd_two_pow (log2_le_of_lt hless)).trans (Nat.dvd_mul_left _ _)

/-- **Rounding a quotient to 53 bits** gives the number of 53 bits nearest to it. -/
theorem isNearest_nearest (num : ℕ) {den : ℕ} (hden : 0 < den) :
    IsNearest ((num : ℚ) / den) (nearest num den) := by
  have hfloor : ⌊(num : ℚ) / den⌋₊ = num / den := Nat.floor_div_eq_div num den
  have hunit : 0 < den * spacing (num / den) := Nat.mul_pos hden (spacing_pos _)
  refine ⟨roundHalfEven num (den * spacing (num / den)), ?_, ?_⟩
  · rw [hfloor, div_div]
    exact_mod_cast roundsTo_roundHalfEven num hunit
  · rw [hfloor]
    rfl

theorem exists_isNearest {v : ℚ} (h : 0 ≤ v) : ∃ n, IsNearest v n := by
  refine ⟨nearest v.num.toNat v.den, ?_⟩
  have hvalue : ((v.num.toNat : ℕ) : ℚ) / v.den = v := by
    have hnum : ((v.num.toNat : ℕ) : ℤ) = v.num := Int.toNat_of_nonneg (Rat.num_nonneg.mpr h)
    have hnum' : ((v.num.toNat : ℕ) : ℚ) = v.num := by exact_mod_cast hnum
    rw [hnum', Rat.num_div_den]
  rw [← hvalue]
  simpa [hvalue] using isNearest_nearest v.num.toNat v.den_pos

namespace IsNearest

variable {v w : ℚ} {m n c : ℕ}

/-- What is a whole number of units is not crossed from below. -/
theorem le_of_dvd (h : IsNearest v n) (hdvd : spacing ⌊v⌋₊ ∣ c) (hle : v ≤ c) : n ≤ c := by
  obtain ⟨r, hr, rfl⟩ := h
  obtain ⟨k, rfl⟩ := hdvd
  have hunit : (0 : ℚ) < spacing ⌊v⌋₊ := by exact_mod_cast spacing_pos _
  have hv : v / spacing ⌊v⌋₊ ≤ k := by
    rw [div_le_iff₀ hunit, mul_comm]
    exact_mod_cast hle
  rw [mul_comm]
  exact Nat.mul_le_mul_left _ (hr.mono (roundsTo_natCast k) hv)

/-- What is a whole number of units is not crossed from above. -/
theorem ge_of_dvd (h : IsNearest v n) (hdvd : spacing ⌊v⌋₊ ∣ c) (hle : c ≤ v) : c ≤ n := by
  obtain ⟨r, hr, rfl⟩ := h
  obtain ⟨k, rfl⟩ := hdvd
  have hunit : (0 : ℚ) < spacing ⌊v⌋₊ := by exact_mod_cast spacing_pos _
  have hv : (k : ℚ) ≤ v / spacing ⌊v⌋₊ := by
    rw [le_div_iff₀ hunit, mul_comm]
    exact_mod_cast hle
  rw [mul_comm r]
  exact Nat.mul_le_mul_left _ ((roundsTo_natCast k).mono hr hv)

/-- **Rounding to 53 bits keeps the order.** -/
theorem mono (hv : IsNearest v m) (hw : IsNearest w n) (h0 : 0 ≤ v) (h : v ≤ w) : m ≤ n := by
  have hfloor : ⌊v⌋₊ ≤ ⌊w⌋₊ := Nat.floor_le_floor h
  have hlog : ⌊v⌋₊.log2 ≤ ⌊w⌋₊.log2 := by
    rw [Nat.log2_eq_log_two, Nat.log2_eq_log_two]
    exact Nat.log_mono_right hfloor
  rcases hlog.eq_or_lt with hsame | hless
  · -- numbers of one size are measured in the same unit
    have hunits : spacing ⌊v⌋₊ = spacing ⌊w⌋₊ := by rw [spacing, hsame, spacing]
    obtain ⟨r, hr, rfl⟩ := hv
    obtain ⟨s, hs, rfl⟩ := hw
    rw [hunits] at hr ⊢
    exact Nat.mul_le_mul_right _ (hr.mono hs (by gcongr))
  · -- a power of two lies between numbers of different sizes
    have hne : ⌊w⌋₊ ≠ 0 := by
      intro hzero
      rw [hzero] at hless
      exact absurd hless (by simp [Nat.log2_zero])
    have hlow : ((2 ^ ⌊w⌋₊.log2 : ℕ) : ℚ) ≤ w :=
      (Nat.le_floor_iff (h0.trans h)).mp (Nat.log2_self_le hne)
    have hhigh : v ≤ ((2 ^ ⌊w⌋₊.log2 : ℕ) : ℚ) := by
      refine (Nat.lt_of_floor_lt ?_).le
      calc ⌊v⌋₊ < 2 ^ (⌊v⌋₊.log2 + 1) := Nat.lt_log2_self
        _ ≤ 2 ^ ⌊w⌋₊.log2 := Nat.pow_le_pow_right (by norm_num) hless
    calc m ≤ 2 ^ ⌊w⌋₊.log2 := hv.le_of_dvd (spacing_dvd_two_pow (by omega)) hhigh
      _ ≤ n := hw.ge_of_dvd (spacing_dvd_two_pow (by omega)) hlow

/-- **Rounding is determined** by the number. -/
theorem unique (hm : IsNearest v m) (hn : IsNearest v n) (h0 : 0 ≤ v) : m = n :=
  le_antisymm (hm.mono hn h0 le_rfl) (hn.mono hm h0 le_rfl)

end IsNearest

/-- **A whole number of units stays as it is.** -/
theorem isNearest_natCast {n : ℕ} (h : spacing n ∣ n) : IsNearest n n := by
  obtain ⟨k, hk⟩ := h
  have hunit : (spacing n : ℚ) ≠ 0 := by exact_mod_cast (spacing_pos n).ne'
  refine ⟨k, ?_, ?_⟩
  · have hquotient : (n : ℚ) / spacing ⌊(n : ℚ)⌋₊ = k := by
      rw [Nat.floor_natCast, div_eq_iff hunit, mul_comm]
      exact_mod_cast hk
    rw [hquotient]
    exact roundsTo_natCast k
  · rw [Nat.floor_natCast, mul_comm]
    exact hk

/-- What is at most half is rounded to nothing. -/
theorem isNearest_zero {v : ℚ} (h0 : 0 ≤ v) (h : v ≤ 1 / 2) : IsNearest v 0 := by
  have hfloor : ⌊v⌋₊ = 0 := Nat.floor_eq_zero.mpr (by linarith)
  have hunit : spacing 0 = 1 := by decide
  refine ⟨0, ?_, by simp⟩
  rw [hfloor, hunit, Nat.cast_one, div_one]
  exact ⟨by push_cast; linarith, by push_cast; linarith, fun _ => Even.zero⟩

/-! ### Where the doubles end -/

/-- Just below a power of two the spacing is that of the numbers before it. -/
theorem spacing_of_mem {k n : ℕ} (hlow : 2 ^ (k + 53) ≤ n) (hhigh : n < 2 ^ (k + 54)) :
    spacing n = 2 ^ (k + 1) := by
  have hne : n ≠ 0 := by
    have := Nat.two_pow_pos (k + 53)
    omega
  have hlog : n.log2 = k + 53 := (Nat.log2_eq_iff hne).mpr ⟨hlow, hhigh⟩
  rw [spacing, hlog]
  rfl

/-- Half a unit below a power of two. -/
theorem cast_half_below (k : ℕ) :
    ((2 ^ (k + 54) - 2 ^ k : ℕ) : ℚ) = (2 ^ 53 - 1 / 2) * 2 ^ (k + 1) := by
  have hle : 2 ^ k ≤ 2 ^ (k + 54) := Nat.pow_le_pow_right (by norm_num) (by omega)
  rw [Nat.cast_sub hle]
  push_cast
  ring

theorem units_of_two_pow (k : ℕ) : 2 ^ 53 * 2 ^ (k + 1) = 2 ^ (k + 54) := by
  rw [← pow_add, show 53 + (k + 1) = k + 54 by omega]

/-- Half a unit below a power of two the even neighbour is that power. -/
theorem isNearest_half_below (k : ℕ) :
    IsNearest ((2 ^ (k + 54) - 2 ^ k : ℕ) : ℚ) (2 ^ (k + 54)) := by
  have hunit : spacing (2 ^ (k + 54) - 2 ^ k) = 2 ^ (k + 1) := by
    have hpow : (2 : ℕ) ^ (k + 54) = 2 ^ 54 * 2 ^ k := by rw [pow_add, mul_comm]
    have hpow' : (2 : ℕ) ^ (k + 53) = 2 ^ 53 * 2 ^ k := by rw [pow_add, mul_comm]
    have hpos : 0 < 2 ^ k := Nat.two_pow_pos k
    exact spacing_of_mem (by omega) (by omega)
  have hquotient : ((2 ^ (k + 54) - 2 ^ k : ℕ) : ℚ) / (2 ^ (k + 1) : ℕ) = 2 ^ 53 - 1 / 2 := by
    rw [cast_half_below, Nat.cast_pow, Nat.cast_ofNat, mul_div_cancel_right₀ _ (by positivity)]
  refine ⟨2 ^ 53, ?_, ?_⟩
  · rw [Nat.floor_natCast, hunit, hquotient]
    refine ⟨by push_cast; linarith, by push_cast; linarith, fun _ => ?_⟩
    exact Nat.even_pow.mpr ⟨even_two, by norm_num⟩
  · rw [Nat.floor_natCast, hunit, units_of_two_pow]

/-- **Rounding reaches a power of two** exactly from half a unit below it on. -/
theorem IsNearest.two_pow_le_iff {v : ℚ} {k n : ℕ} (h : IsNearest v n) (h0 : 0 ≤ v) :
    2 ^ (k + 54) ≤ n ↔ ((2 ^ (k + 54) - 2 ^ k : ℕ) : ℚ) ≤ v := by
  refine ⟨?_, fun hv => (isNearest_half_below k).mono h (Nat.cast_nonneg _) hv⟩
  contrapose!
  intro hbelow
  rcases Nat.lt_or_ge ⌊v⌋₊ (2 ^ (k + 53)) with hsmall | hlarge
  · -- far below the power of two: already half of it is not crossed
    have hlog : ⌊v⌋₊.log2 ≤ k + 52 := log2_le_of_lt hsmall
    have hv : v ≤ (2 ^ (k + 53) : ℕ) := (Nat.lt_of_floor_lt hsmall).le
    calc n ≤ 2 ^ (k + 53) := h.le_of_dvd (spacing_dvd_two_pow (by omega)) hv
      _ < 2 ^ (k + 54) := Nat.pow_lt_pow_right (by norm_num) (by omega)
  · -- just below it: the number of units stays too small
    have hhigh : ⌊v⌋₊ < 2 ^ (k + 54) := by
      rw [Nat.floor_lt h0]
      exact hbelow.trans_le (Nat.cast_le.mpr (Nat.sub_le _ _))
    obtain ⟨r, hr, rfl⟩ := h
    rw [spacing_of_mem hlarge hhigh] at hr ⊢
    have hquotient : v / (2 ^ (k + 1) : ℕ) < 2 ^ 53 - 1 / 2 := by
      rw [div_lt_iff₀ (by positivity), Nat.cast_pow, Nat.cast_ofNat, ← cast_half_below]
      exact hbelow
    have hcount : r < 2 ^ 53 := by
      have hless : (r : ℚ) < 2 ^ 53 := by linarith [hr.above]
      exact_mod_cast hless
    calc r * 2 ^ (k + 1) < 2 ^ 53 * 2 ^ (k + 1) :=
          Nat.mul_lt_mul_of_pos_right hcount (Nat.two_pow_pos _)
      _ = 2 ^ (k + 54) := units_of_two_pow k

end Number

end Dialogue
