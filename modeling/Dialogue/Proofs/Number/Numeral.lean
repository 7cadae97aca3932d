import Mathlib.Algebra.Field.Rat
import Mathlib.Algebra.Order.Field.Basic
import Mathlib.Data.List.TakeWhile
import Mathlib.Data.Rat.Cast.Defs
import Mathlib.Tactic.FieldSimp
import Mathlib.Tactic.Ring
import Dialogue.Number.Decimal
import Dialogue.Text.Blank

/-!
# The numerals and their values

A decimal numeral is spelt out here part by part, with the rational number it stands for
(`Dialogue.Number.IsNumeral`): a sign, digits with a point among or beside them, and an exponent,
where all but one digit may be absent. The reader does not follow this division. It takes the
digits on both sides of the point for one whole number and makes up for the point in the
exponent. Nevertheless it reads exactly the numerals, each with its value
(`Dialogue.Number.isNumeral_of_read?`, `Dialogue.Number.exists_read?_of_isNumeral`).

Where a whole number is wanted, as in a setting or for the number of an option, fewer numerals
will do: digits behind a plus sign that may be absent, and no more than 64 bits
(`Dialogue.Number.count?_eq_some_iff`).
-/

namespace Dialogue

namespace Number

/-! ### The parts of a numeral -/

/-- Nothing but decimal digits. -/
def AreDigits (cs : List Char) : Prop :=
  ∀ c ∈ cs, c.isDigit = true

/-- A sign that may be absent; the flag says whether it is a minus. -/
inductive IsSign : List Char → Bool → Prop
  | absent : IsSign [] false
  | plus : IsSign ['+'] false
  | minus : IsSign ['-'] true

/-- A point that may be absent, with the digits behind it, of which there may be none. -/
inductive IsFraction : List Char → List Char → Prop
  | absent : IsFraction [] []
  | point {digits : List Char} (isDigits : AreDigits digits) : IsFraction ('.' :: digits) digits

/-- An exponent that may be absent: a letter, a sign that may be absent, and digits. -/
inductive IsPower : List Char → ℤ → Prop
  | absent : IsPower [] 0
  | letter {c : Char} {sign digits : List Char} {negative : Bool} (isLetter : c = 'e' ∨ c = 'E')
      (isSign : IsSign sign negative) (nonempty : digits ≠ []) (isDigits : AreDigits digits) :
      IsPower (c :: (sign ++ digits))
        (if negative then -(Nat.ofDigitChars 10 digits 0 : ℤ) else Nat.ofDigitChars 10 digits 0)

/-- **A decimal numeral and the number it stands for.** A digit stands before the point, or
behind it, or on both sides. -/
inductive IsNumeral : List Char → ℚ → Prop
  | mk {sign whole point fraction power : List Char} {negative : Bool} {exponent : ℤ}
      (isSign : IsSign sign negative) (isDigits : AreDigits whole)
      (isFraction : IsFraction point fraction) (nonempty : whole ≠ [] ∨ fraction ≠ [])
      (isPower : IsPower power exponent) :
      IsNumeral (sign ++ (whole ++ (point ++ power)))
        ((if negative then -1 else 1) *
          ((Nat.ofDigitChars 10 whole 0 + Nat.ofDigitChars 10 fraction 0 / 10 ^ fraction.length) *
            10 ^ exponent))

/-- The rational number that was read. -/
def Decimal.value (d : Decimal) : ℚ :=
  (if d.negative then -1 else 1) * (d.significand * 10 ^ d.exponent)

/-! ### Characters -/

variable {c : Char} {cs sign digits point fraction power rest : List Char} {negative : Bool}
  {exponent : ℤ} {x : ℚ}

theorem toNat_of_isDigit (h : c.isDigit = true) : 48 ≤ c.toNat ∧ c.toNat ≤ 57 := by
  rw [Char.isDigit, Bool.and_eq_true, decide_eq_true_eq, decide_eq_true_eq] at h
  exact h

/-- A digit is none of the other characters of a numeral. -/
theorem ne_of_isDigit (h : c.isDigit = true) : c ≠ '-' ∧ c ≠ '+' ∧ c ≠ '.' := by
  refine ⟨?_, ?_, ?_⟩ <;> rintro rfl <;> exact absurd h (by decide)

theorem isBlank_of_isDigit (h : c.isDigit = true) : Text.isBlank c = false := by
  have hrange := toNat_of_isDigit h
  simp only [Text.isBlank, Bool.or_eq_false_iff, Bool.and_eq_false_iff, decide_eq_false_iff_not,
    beq_eq_false_iff_ne]
  omega

theorem IsSign.not_blank (h : IsSign sign negative) : ∀ c ∈ sign, Text.isBlank c = false := by
  cases h with
  | absent => simp
  | plus => exact List.forall_mem_singleton.mpr (by decide)
  | minus => exact List.forall_mem_singleton.mpr (by decide)

theorem AreDigits.not_blank (h : AreDigits digits) : ∀ c ∈ digits, Text.isBlank c = false :=
  fun c hc => isBlank_of_isDigit (h c hc)

theorem IsFraction.not_blank (h : IsFraction point fraction) :
    ∀ c ∈ point, Text.isBlank c = false := by
  cases h with
  | absent => simp
  | point isDigits => exact List.forall_mem_cons.mpr ⟨by decide, isDigits.not_blank⟩

theorem IsPower.not_blank (h : IsPower power exponent) : ∀ c ∈ power, Text.isBlank c = false := by
  cases h with
  | absent => simp
  | letter isLetter isSign nonempty isDigits =>
    refine List.forall_mem_cons.mpr ⟨?_, List.forall_mem_append.mpr
      ⟨isSign.not_blank, isDigits.not_blank⟩⟩
    rcases isLetter with rfl | rfl <;> decide

/-- **No blank stands in a numeral.** -/
theorem IsNumeral.not_blank (h : IsNumeral cs x) : ∀ c ∈ cs, Text.isBlank c = false := by
  obtain ⟨isSign, isDigits, isFraction, -, isPower⟩ := h
  simp only [List.forall_mem_append]
  exact ⟨isSign.not_blank, isDigits.not_blank, isFraction.not_blank, isPower.not_blank⟩

/-- What may follow the digits of a numeral: neither a digit nor a point. -/
def EndsDigits (rest : List Char) : Prop :=
  ∀ c ∈ rest.head?, c.isDigit = false ∧ c ≠ '.'

theorem IsPower.endsDigits (h : IsPower power exponent) : EndsDigits power := by
  intro c hc
  cases h with
  | absent => simp at hc
  | letter isLetter =>
    obtain rfl := Option.some.inj hc
    rcases isLetter with rfl | rfl <;> decide

/-! ### Reading the parts -/

theorem isSign_splitSign (cs : List Char) :
    ∃ sign, IsSign sign (splitSign cs).1 ∧ cs = sign ++ (splitSign cs).2 := by
  unfold splitSign
  split
  · exact ⟨['-'], .minus, rfl⟩
  · exact ⟨['+'], .plus, rfl⟩
  · exact ⟨[], .absent, rfl⟩

theorem splitSign_append (h : IsSign sign negative) (hrest : ∀ c ∈ rest.head?, c ≠ '-' ∧ c ≠ '+') :
    splitSign (sign ++ rest) = (negative, rest) := by
  cases h with
  | absent =>
    unfold splitSign
    split
    · next heq => exact absurd rfl (hrest '-' (by simp_all)).1
    · next heq => exact absurd rfl (hrest '+' (by simp_all)).2
    · rfl
  | plus => rfl
  | minus => rfl

theorem areDigits_splitDigits (cs : List Char) : AreDigits (splitDigits cs).1 :=
  fun _ hc => List.mem_takeWhile_imp hc

theorem splitDigits_eq (cs : List Char) : cs = (splitDigits cs).1 ++ (splitDigits cs).2 :=
  List.takeWhile_append_dropWhile.symm

theorem splitDigits_append (h : AreDigits digits)
    (hrest : ∀ c ∈ rest.head?, c.isDigit = false) :
    splitDigits (digits ++ rest) = (digits, rest) := by
  have htake : rest.takeWhile Char.isDigit = [] := by
    cases rest with
    | nil => rfl
    | cons c rest => simp [hrest c rfl]
  have hdrop : rest.dropWhile Char.isDigit = rest := by
    cases rest with
    | nil => rfl
    | cons c rest => simp [hrest c rfl]
  rw [splitDigits, List.takeWhile_append_of_pos h, List.dropWhile_append_of_pos h, htake, hdrop,
    List.append_nil]

theorem isFraction_splitFraction (cs : List Char) :
    ∃ point, IsFraction point (splitFraction cs).1 ∧ cs = point ++ (splitFraction cs).2 := by
  unfold splitFraction
  split
  · next rest =>
    exact ⟨'.' :: (splitDigits rest).1, .point (areDigits_splitDigits rest),
      congrArg ('.' :: ·) (splitDigits_eq rest)⟩
  · exact ⟨[], .absent, rfl⟩

theorem splitFraction_append (h : IsFraction point fraction) (hrest : EndsDigits rest) :
    splitFraction (point ++ rest) = (fraction, rest) := by
  cases h with
  | absent =>
    unfold splitFraction
    split
    · next heq => exact absurd rfl (hrest '.' (by simp_all)).2
    · rfl
  | point isDigits => exact splitDigits_append isDigits fun c hc => (hrest c hc).1

theorem valueOf_eq (digits : List Char) : valueOf digits = Nat.ofDigitChars 10 digits 0 :=
  rfl

/-- There are digits, and nothing but digits. -/
theorem isEmpty_or_not_all_iff :
    (digits.isEmpty || !digits.all Char.isDigit) = false ↔ digits ≠ [] ∧ AreDigits digits := by
  simp [AreDigits]

/-- **The exponents are read**, each with its value. -/
theorem exponent?_eq_some_iff : exponent? cs = some exponent ↔ IsPower cs exponent := by
  constructor
  · intro h
    unfold exponent? at h
    split at h
    · obtain rfl := Option.some.inj h
      exact .absent
    · next c rest =>
      split at h
      · next hletter =>
        obtain ⟨sign, hsign, hrest⟩ := isSign_splitSign rest
        generalize splitSign rest = split at h hsign hrest
        obtain ⟨negative, digits⟩ := split
        subst hrest
        dsimp only at h
        split at h
        · cases h
        · next hdigits =>
          obtain ⟨hne, hall⟩ := isEmpty_or_not_all_iff.mp (Bool.eq_false_of_not_eq_true hdigits)
          have hpower := IsPower.letter hletter hsign hne hall
          cases negative <;> simp only [Bool.false_eq_true, if_false, if_true] at h hpower <;>
            obtain rfl := Option.some.inj h <;> exact hpower
      · cases h
  · intro h
    cases h with
    | absent => rfl
    | @letter c sign digits negative isLetter isSign nonempty isDigits =>
      have hsplit : splitSign (sign ++ digits) = (negative, digits) := by
        refine splitSign_append isSign fun c hc => ?_
        have hne := ne_of_isDigit (isDigits c (List.mem_of_mem_head? hc))
        exact ⟨hne.1, hne.2.1⟩
      have hdigits : (digits.isEmpty || !digits.all Char.isDigit) = false :=
        isEmpty_or_not_all_iff.mpr ⟨nonempty, isDigits⟩
      rw [exponent?, if_pos isLetter, hsplit]
      simp only [hdigits, Bool.false_eq_true, if_false]
      cases negative <;> rfl

/-! ### Reading a numeral -/

/-- A digit stands somewhere, unless there is none on either side. -/
theorem isEmpty_and_isEmpty_iff {whole fraction : List Char} :
    (whole.isEmpty && fraction.isEmpty) = false ↔ whole ≠ [] ∨ fraction ≠ [] := by
  cases whole <;> cases fraction <;> simp

/-- **One significand for all digits**: the digits behind the point are made up for in the
exponent. -/
theorem significand_eq (whole fraction : List Char) (exponent : ℤ) :
    ((valueOf (whole ++ fraction) : ℕ) : ℚ) * 10 ^ (exponent - fraction.length) =
      (Nat.ofDigitChars 10 whole 0 + Nat.ofDigitChars 10 fraction 0 / 10 ^ fraction.length) *
        10 ^ exponent := by
  rw [valueOf_eq, Nat.ofDigitChars_append, Nat.ofDigitChars_eq_ofDigitChars_zero,
    zpow_sub₀ (by norm_num), zpow_natCast]
  push_cast
  field_simp

/-- **What is read is a numeral**, and it is read with its value. -/
theorem isNumeral_of_read? {d : Decimal} (h : Decimal.read? cs = some d) :
    IsNumeral cs d.value := by
  unfold Decimal.read? at h
  obtain ⟨sign, hsign, hcs⟩ := isSign_splitSign cs
  generalize splitSign cs = split at h hsign hcs
  obtain ⟨negative, unsigned⟩ := split
  have hwhole := areDigits_splitDigits unsigned
  have hunsigned := splitDigits_eq unsigned
  simp only at h hsign hcs
  generalize splitDigits unsigned = split at h hwhole hunsigned
  obtain ⟨whole, afterWhole⟩ := split
  obtain ⟨point, hpoint, hafter⟩ := isFraction_splitFraction afterWhole
  simp only at h hwhole hunsigned
  generalize splitFraction afterWhole = split at h hpoint hafter
  obtain ⟨fraction, afterFraction⟩ := split
  simp only at h hpoint hafter
  split at h
  · cases h
  · next hne =>
    obtain ⟨exponent, hexponent, rfl⟩ := Option.map_eq_some_iff.mp h
    have hpower := exponent?_eq_some_iff.mp hexponent
    rw [hcs, hunsigned, hafter, Decimal.value, significand_eq]
    refine IsNumeral.mk hsign hwhole hpoint ?_ hpower
    exact isEmpty_and_isEmpty_iff.mp (by simpa using hne)

/-- **Every numeral is read**, with its value. -/
theorem exists_read?_of_isNumeral (h : IsNumeral cs x) :
    ∃ d, Decimal.read? cs = some d ∧ d.value = x := by
  obtain @⟨sign, whole, point, fraction, power, negative, exponent, isSign, isDigits, isFraction,
    nonempty, isPower⟩ := h
  have hsplit : splitSign (sign ++ (whole ++ (point ++ power))) =
      (negative, whole ++ (point ++ power)) := by
    refine splitSign_append isSign fun c hc => ?_
    -- a second sign would be read with an absent one, but a digit or the point comes first
    cases whole with
    | nil =>
      cases isFraction with
      | absent => simp at nonempty
      | point =>
        obtain rfl := Option.some.inj hc
        decide
    | cons digit whole =>
      obtain rfl := Option.some.inj hc
      have hne := ne_of_isDigit (isDigits digit List.mem_cons_self)
      exact ⟨hne.1, hne.2.1⟩
  have hwhole : splitDigits (whole ++ (point ++ power)) = (whole, point ++ power) := by
    refine splitDigits_append isDigits fun c hc => ?_
    cases isFraction with
    | absent => exact (isPower.endsDigits c hc).1
    | point =>
      obtain rfl := Option.some.inj hc
      decide
  have hfraction : splitFraction (point ++ power) = (fraction, power) :=
    splitFraction_append isFraction isPower.endsDigits
  have hne : (whole.isEmpty && fraction.isEmpty) = false := isEmpty_and_isEmpty_iff.mpr nonempty
  refine ⟨⟨negative, valueOf (whole ++ fraction), exponent - fraction.length⟩, ?_, ?_⟩
  · simp only [Decimal.read?, hsplit, hwhole, hfraction, hne, Bool.false_eq_true, if_false,
      exponent?_eq_some_iff.mpr isPower, Option.map_some]
  · rw [Decimal.value, significand_eq]

/-! ### Counts -/

/-- **A count and the number it stands for**: digits, of which there is at least one, behind a
plus sign that may be absent. The number has at most 64 bits. -/
inductive IsCount : List Char → ℕ → Prop
  | mk {sign digits : List Char} (isSign : IsSign sign false) (nonempty : digits ≠ [])
      (isDigits : AreDigits digits) (within : Nat.ofDigitChars 10 digits 0 < 2 ^ 64) :
      IsCount (sign ++ digits) (Nat.ofDigitChars 10 digits 0)

theorem valueOf_le_countLimit_iff :
    valueOf digits ≤ countLimit ↔ Nat.ofDigitChars 10 digits 0 < 2 ^ 64 :=
  Nat.lt_succ_iff.symm

/-- **The counts are read**, each with its value, and nothing else is. -/
theorem count?_eq_some_iff {n : ℕ} : count? cs = some n ↔ IsCount cs n := by
  constructor
  · intro h
    unfold count? at h
    extract_lets digits at h
    obtain ⟨sign, hsign, hcs⟩ : ∃ sign, IsSign sign false ∧ cs = sign ++ digits := by
      unfold digits
      split
      · exact ⟨['+'], .plus, rfl⟩
      · exact ⟨[], .absent, rfl⟩
    clear_value digits
    rw [Option.ite_none_left_eq_some, Option.ite_none_right_eq_some] at h
    obtain ⟨hdigits, hwithin, hvalue⟩ := h
    obtain ⟨hne, hall⟩ := isEmpty_or_not_all_iff.mp (Bool.eq_false_of_not_eq_true hdigits)
    rw [hcs, ← Option.some.inj hvalue, valueOf_eq]
    exact IsCount.mk hsign hne hall (valueOf_le_countLimit_iff.mp hwithin)
  · rintro @⟨sign, digits, isSign, nonempty, isDigits, within⟩
    have hdigits : (digits.isEmpty || !digits.all Char.isDigit) = false :=
      isEmpty_or_not_all_iff.mpr ⟨nonempty, isDigits⟩
    unfold count?
    extract_lets behind
    -- a plus sign is taken off once, and no digit is one
    have hbehind : behind = digits := by
      unfold behind
      rcases isSign with _ | _
      · split
        · next rest heq =>
          have hmem : '+' ∈ digits := by simp_all
          exact absurd rfl (ne_of_isDigit (isDigits '+' hmem)).2.1
        · rfl
      · rfl
    rw [hbehind, hdigits, if_neg Bool.false_ne_true, if_pos (valueOf_le_countLimit_iff.mpr within),
      valueOf_eq]

end Number

end Dialogue
