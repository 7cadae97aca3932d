import Dialogue.Proofs.Number.Double
import Dialogue.Proofs.Text.Trimmed
import Dialogue.Rule.Operator

/-!
# Comparing numbers

The two numeric tests compare what the texts of value and operand stand for
(`Dialogue.Number.Denotes`), but they do so after rounding, and rounding may make one number of
two. What it cannot do is make the smaller one the larger: so a comparison may fail to hold, but
it never holds the wrong way round, for numerals of any length and with any exponent
(`Dialogue.Operator.comparisons_exact`). Between whole numbers up to `2 ^ 53` nothing is lost, and
there the tests are the order of the numbers. A text that is no numeral, or one that is too large
for a double, has no place in the order at all.
-/

namespace Dialogue

/-- **A text stands for a number** if it is a decimal numeral with nothing but blanks around
it. -/
def Number.Denotes (s : String) (x : ℚ) : Prop :=
  ∃ numeral, Text.Pads s.toList numeral ∧ IsNumeral numeral x

namespace Operator

open Number (Decimal Denotes IsDouble overflowThreshold unitsPerOne)

variable {s : String} {x : ℚ} {i : ℤ}

/-! ### The number of a text -/

/-- It makes no difference that the value of a variable is trimmed beforehand. -/
theorem number?_fieldText (s : String) : number? (fieldText (some s)) = number? s.toList := by
  rw [fieldText, number?, Text.trimmed_trimmed, number?]

/-- **The numeral of a text is read**, with its value. -/
theorem exists_read?_of_denotes (h : Denotes s x) :
    ∃ d, Decimal.read? (Text.trimmed s.toList) = some d ∧ d.value = x := by
  obtain ⟨numeral, hpads, hnumeral⟩ := h
  have htrimmed : Text.IsTrimmed numeral :=
    ⟨fun c hc => hnumeral.not_blank c (List.mem_of_mem_head? hc),
      fun c hc => hnumeral.not_blank c (List.mem_of_getLast? hc)⟩
  rw [Text.trimmed_eq_iff.mpr ⟨htrimmed, hpads⟩]
  exact Number.exists_read?_of_isNumeral hnumeral

/-- What is read is the numeral of the text. -/
theorem denotes_of_read? {d : Decimal} (h : Decimal.read? (Text.trimmed s.toList) = some d) :
    Denotes s d.value :=
  ⟨_, Text.pads_trimmed s.toList, Number.isNumeral_of_read? h⟩

theorem number?_eq_toDouble? {d : Decimal}
    (h : Decimal.read? (Text.trimmed s.toList) = some d) : number? s.toList = d.toDouble? := by
  rw [number?, h, Option.bind_some]

theorem isDouble_of_number? (h : Denotes s x) (hi : number? s.toList = some i) :
    IsDouble x i := by
  obtain ⟨d, hd, rfl⟩ := exists_read?_of_denotes h
  exact Decimal.isDouble_of_toDouble? ((number?_eq_toDouble? hd).symm.trans hi)

/-- **A text has no number** if it is no numeral, or one that is too large. -/
theorem number?_eq_none (h : ∀ x, Denotes s x → overflowThreshold ≤ |x|) :
    number? s.toList = none := by
  rw [number?, Option.bind_eq_none_iff]
  exact fun d hd => Decimal.toDouble?_eq_none_iff.mpr (h d.value (denotes_of_read? hd))

/-- **A numeral that is not too large** has a number. -/
theorem exists_number? (h : Denotes s x) (hx : |x| < overflowThreshold) :
    ∃ i, number? s.toList = some i ∧ IsDouble x i := by
  obtain ⟨d, hd, rfl⟩ := exists_read?_of_denotes h
  rw [number?_eq_toDouble? hd]
  cases hi : d.toDouble? with
  | none => exact absurd (Decimal.toDouble?_eq_none_iff.mp hi) (not_le.mpr hx)
  | some i => exact ⟨i, rfl, Decimal.isDouble_of_toDouble? hi⟩

theorem two_pow_lt_overflowThreshold : (2 : ℚ) ^ 53 < overflowThreshold := by
  have hgeneral : ∀ a : ℕ, (2 : ℚ) ^ 53 < 2 ^ (a + 54) - 2 ^ a := by
    intro a
    have hone : (1 : ℚ) ≤ 2 ^ a := one_le_pow₀ (by norm_num)
    calc (2 : ℚ) ^ 53 < 2 ^ 54 - 1 := by norm_num
      _ ≤ 2 ^ a * (2 ^ 54 - 1) := le_mul_of_one_le_left (by norm_num) hone
      _ = 2 ^ (a + 54) - 2 ^ a := by ring
  exact hgeneral 970

/-- **Whole numbers of 53 bits are read as they are.** -/
theorem number?_intCast {m : ℤ} (h : Denotes s m) (hm : |m| ≤ 2 ^ 53) :
    number? s.toList = some (m * unitsPerOne) := by
  have hsmall : |(m : ℚ)| < overflowThreshold := by
    have hm' : |(m : ℚ)| ≤ 2 ^ 53 := by exact_mod_cast hm
    exact hm'.trans_lt two_pow_lt_overflowThreshold
  obtain ⟨i, hi, hdouble⟩ := exists_number? h hsmall
  rw [hi, hdouble.unique (Number.isDouble_intCast hm)]

/-! ### Comparisons -/

theorem numberLess_eq_false_of_none {a b : List Char} (h : number? a = none ∨ number? b = none) :
    numberLess a b = false := by
  unfold numberLess
  rcases h with h | h
  · rw [h]
  · rw [h]
    cases number? a <;> rfl

/-- **A larger number is not less** than a smaller one. -/
theorem numberLess_eq_false {a b : String} {y : ℚ} (ha : Denotes a x) (hb : Denotes b y)
    (h : y ≤ x) : numberLess a.toList b.toList = false := by
  cases hi : number? a.toList with
  | none => exact numberLess_eq_false_of_none (Or.inl hi)
  | some i =>
    cases hj : number? b.toList with
    | none => exact numberLess_eq_false_of_none (Or.inr hj)
    | some j =>
      have hle : j ≤ i := (isDouble_of_number? hb hj).mono (isDouble_of_number? ha hi) h
      simpa [numberLess, hi, hj] using hle

/-- **Whole numbers of 53 bits are compared exactly.** -/
theorem numberLess_intCast_iff {a b : String} {m n : ℤ} (ha : Denotes a m) (hb : Denotes b n)
    (hm : |m| ≤ 2 ^ 53) (hn : |n| ≤ 2 ^ 53) : numberLess a.toList b.toList = true ↔ m < n := by
  have hunits : (0 : ℤ) < unitsPerOne := by exact_mod_cast Number.unitsPerOne_pos
  rw [numberLess, number?_intCast ha hm, number?_intCast hb hn, decide_eq_true_iff]
  exact mul_lt_mul_iff_left₀ hunits

theorem lessThan_eq (a b : String) :
    lessThan.holds (some a) b = numberLess a.toList b.toList := by
  rw [holds, numberLess, number?_fieldText, numberLess]

theorem greaterThan_eq (a b : String) :
    greaterThan.holds (some a) b = numberLess b.toList a.toList := by
  rw [holds, numberLess, number?_fieldText, numberLess]

/-- **Comparisons never reverse the order and are exact on ordinary whole numbers.** Whatever
numerals two texts are, the larger number is not less than the smaller one, nor the smaller one
greater than the larger. Between whole numbers of at most `2 ^ 53` in magnitude, greater and less
are what they are among numbers, and between any numbers that are not too large they are what
they are among the doubles of these. If one of the texts is no numeral, or a number so large that
it rounds to none that is finite, neither comparison holds. -/
theorem comparisons_exact (a b : String) :
    (∀ x y : ℚ, Denotes a x → Denotes b y → y < x →
      lessThan.holds (some a) b = false ∧ greaterThan.holds (some b) a = false) ∧
    (∀ m n : ℤ, Denotes a m → Denotes b n → |m| ≤ 2 ^ 53 → |n| ≤ 2 ^ 53 →
      (greaterThan.holds (some a) b = true ↔ n < m) ∧
        (lessThan.holds (some a) b = true ↔ m < n)) ∧
    (∀ x y : ℚ, Denotes a x → Denotes b y → |x| < 2 ^ 1024 - 2 ^ 970 → |y| < 2 ^ 1024 - 2 ^ 970 →
      ∃ i j, IsDouble x i ∧ IsDouble y j ∧ (greaterThan.holds (some a) b = true ↔ j < i) ∧
        (lessThan.holds (some a) b = true ↔ i < j)) ∧
    ((∀ x, Denotes a x → 2 ^ 1024 - 2 ^ 970 ≤ |x|) ∨
        (∀ y, Denotes b y → 2 ^ 1024 - 2 ^ 970 ≤ |y|) →
      greaterThan.holds (some a) b = false ∧ lessThan.holds (some a) b = false) := by
  simp only [lessThan_eq, greaterThan_eq]
  refine ⟨fun x y ha hb h => ?_, fun m n ha hb hm hn => ?_, fun x y ha hb hx hy => ?_, fun h => ?_⟩
  · have hless := numberLess_eq_false ha hb h.le
    exact ⟨hless, hless⟩
  · exact ⟨numberLess_intCast_iff hb ha hn hm, numberLess_intCast_iff ha hb hm hn⟩
  · obtain ⟨i, hi, hdouble⟩ := exists_number? ha hx
    obtain ⟨j, hj, hdouble'⟩ := exists_number? hb hy
    exact ⟨i, j, hdouble, hdouble', by simp [numberLess, hi, hj], by simp [numberLess, hi, hj]⟩
  · have hnone : number? a.toList = none ∨ number? b.toList = none :=
      h.imp number?_eq_none number?_eq_none
    exact ⟨numberLess_eq_false_of_none hnone.symm, numberLess_eq_false_of_none hnone⟩

/-- A thousand in two spellings, and a word that is no number. -/
theorem comparisons_exact_thousand :
    Denotes " 1e3 " (1000 : ℤ) ∧ Denotes "-0999" (-999 : ℤ) ∧
      greaterThan.holds (some " 1e3 ") "-0999" = true ∧
      lessThan.holds (some " 1e3 ") "-0999" = false ∧
      (∃ i j, IsDouble (1000 : ℤ) i ∧ IsDouble (-999 : ℤ) j ∧ j < i) ∧
    (∀ x, Denotes "many" x → 2 ^ 1024 - 2 ^ 970 ≤ |x|) ∧
      greaterThan.holds (some " 1e3 ") "many" = false := by
  have hthousand : Denotes " 1e3 " (1000 : ℤ) := by
    have hread : Decimal.read? (Text.trimmed " 1e3 ".toList) = some ⟨false, 1, 3⟩ := by decide
    have hvalue : Decimal.value ⟨false, 1, 3⟩ = (1000 : ℤ) := by norm_num [Decimal.value]
    exact hvalue ▸ denotes_of_read? hread
  have hminus : Denotes "-0999" (-999 : ℤ) := by
    have hread : Decimal.read? (Text.trimmed "-0999".toList) = some ⟨true, 999, 0⟩ := by decide
    have hvalue : Decimal.value ⟨true, 999, 0⟩ = (-999 : ℤ) := by norm_num [Decimal.value]
    exact hvalue ▸ denotes_of_read? hread
  have hword : ∀ x, Denotes "many" x → 2 ^ 1024 - 2 ^ 970 ≤ |x| := by
    intro x hx
    obtain ⟨d, hd, -⟩ := exists_read?_of_denotes hx
    have hnone : Decimal.read? (Text.trimmed "many".toList) = none := by decide
    rw [hnone] at hd
    cases hd
  have hsmall : ∀ m : ℤ, |m| ≤ 2 ^ 53 → |(m : ℚ)| < 2 ^ 1024 - 2 ^ 970 := fun m hm =>
    (by exact_mod_cast hm : |(m : ℚ)| ≤ 2 ^ 53).trans_lt two_pow_lt_overflowThreshold
  obtain ⟨horder, hexact, hdoubles, -⟩ := comparisons_exact " 1e3 " "-0999"
  obtain ⟨-, -, -, hnone⟩ := comparisons_exact " 1e3 " "many"
  have hgreater : greaterThan.holds (some " 1e3 ") "-0999" = true :=
    (hexact 1000 (-999) hthousand hminus (by norm_num) (by norm_num)).1.mpr (by norm_num)
  obtain ⟨i, j, hi, hj, hless, -⟩ := hdoubles _ _ hthousand hminus
    (hsmall 1000 (by norm_num)) (hsmall (-999) (by norm_num))
  exact ⟨hthousand, hminus, hgreater, (horder _ _ hthousand hminus (by norm_num)).1,
    ⟨i, j, hi, hj, hless.mp hgreater⟩, hword, (hnone (Or.inr hword)).1⟩

end Operator

end Dialogue
