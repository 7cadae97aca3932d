import Mathlib.Data.List.TakeWhile
import Dialogue.Text.Lowercase

/-!
# Lower-casing a part of a text

What a character becomes in lower case does not depend on its neighbours, unless it is a capital
sigma. So a part of a text is lower-cased as if it stood alone, except for the sigmas in it whose
word ends elsewhere in the whole text than in the part. `Dialogue.Text.lowerBetween` is the
lower-casing of a part between what stands before and after it, and two surroundings make the same
of a part exactly if all of its sigmas end their words in both or in neither of them
(`Dialogue.Text.lowerBetween_eq_iff`).

Only one sigma of a part can be concerned. At the end of a text it is one that ends a word and has
nothing but passed-over characters behind it (`Dialogue.Text.EndsInSigma`); then the lower-cased
text does not begin as its first part does alone (`Dialogue.Text.lowered_prefix_iff`). At the
beginning it is one that has nothing but such characters before it
(`Dialogue.Text.BeginsWithSigma`), and then the lower-cased text does not end as its last part
does alone (`Dialogue.Text.lowered_suffix_iff`).
-/

namespace Dialogue

namespace Text

variable {c : Char} {cs part before after before' after' : List Char}

/-! ### The letter next to a sigma -/

theorem meetsCased_append_of_ignorable (h : ∀ c ∈ cs, isCaseIgnorable c = true)
    (after : List Char) : meetsCased (cs ++ after) = meetsCased after := by
  rw [meetsCased, List.dropWhile_append_of_pos h, meetsCased]

/-- The search for a letter ends inside a text that has more than passed-over characters. -/
theorem meetsCased_append (h : ¬ ∀ c ∈ cs, isCaseIgnorable c = true) (after : List Char) :
    meetsCased (cs ++ after) = meetsCased cs := by
  have hne : (cs.dropWhile isCaseIgnorable).isEmpty = false := by
    rw [List.isEmpty_eq_false_iff, Ne, List.dropWhile_eq_nil_iff]
    exact h
  rw [meetsCased, List.dropWhile_append, hne, meetsCased]
  cases hrest : cs.dropWhile isCaseIgnorable with
  | nil => simp [hrest] at hne
  | cons d rest => rfl

theorem meetsCased_of_ignorable (h : ∀ c ∈ cs, isCaseIgnorable c = true) :
    meetsCased cs = false := by
  rw [← List.append_nil cs, meetsCased_append_of_ignorable h]
  rfl

/-! ### One character -/

/-- What a character becomes between the part of a text `before` it, read backwards, and the part
`after` it. -/
def lowerOne (before : List Char) (c : Char) (after : List Char) : List Char :=
  if c = 'Σ' then [if endsWord before after then 'ς' else 'σ']
  else if c = 'İ' then ['i', '\u0307']
  else [lowerChar c]

theorem lowerAfter_cons (before : List Char) (c : Char) (rest : List Char) :
    lowerAfter before (c :: rest) = lowerOne before c rest ++ lowerAfter (c :: before) rest :=
  rfl

/-- A capital sigma shows whether a word ends with it. -/
theorem lowerOne_sigma_eq_iff :
    lowerOne before 'Σ' after = lowerOne before' 'Σ' after' ↔
      endsWord before after = endsWord before' after' := by
  unfold lowerOne
  cases endsWord before after <;> cases endsWord before' after' <;> decide

/-- A character that is no capital sigma has no eye for its neighbours. -/
theorem lowerOne_congr (h : c ≠ 'Σ') : lowerOne before c after = lowerOne before' c after' := by
  rw [lowerOne, if_neg h, lowerOne, if_neg h]

/-- How long the result is depends on the character alone. -/
theorem length_lowerOne_congr :
    (lowerOne before c after).length = (lowerOne before' c after').length := by
  by_cases h : c = 'Σ'
  · rw [h]
    rfl
  · rw [lowerOne_congr h]

/-! ### A part of a text -/

/-- **Lower-casing of a part of a text**, which stands between the part `before` it, read
backwards, and the part `after` it. -/
def lowerBetween (before after : List Char) : List Char → List Char
  | [] => []
  | c :: rest => lowerOne before c (rest ++ after) ++ lowerBetween (c :: before) after rest

/-- **A text is lower-cased part by part**, with an eye on what stands around each part. -/
theorem lowerAfter_append (before part after : List Char) :
    lowerAfter before (part ++ after) =
      lowerBetween before after part ++ lowerAfter (part.reverse ++ before) after := by
  induction part generalizing before with
  | nil => rfl
  | cons c rest ih => simp [lowerAfter_cons, lowerBetween, ih (c :: before)]

theorem lowerAfter_eq (before part : List Char) :
    lowerAfter before part = lowerBetween before [] part := by
  simpa [lowerAfter] using lowerAfter_append before part []

theorem lowered_append (part after : List Char) :
    lowered (part ++ after) =
      lowerBetween [] after part ++ lowerBetween part.reverse [] after := by
  rw [lowered, lowerAfter_append, List.append_nil, lowerAfter_eq]

theorem lowered_eq (part : List Char) : lowered part = lowerBetween [] [] part :=
  lowerAfter_eq [] part

theorem length_lowerBetween_congr :
    (lowerBetween before after part).length = (lowerBetween before' after' part).length := by
  induction part generalizing before before' with
  | nil => simp [lowerBetween]
  | cons c rest ih =>
    rw [lowerBetween, lowerBetween, List.length_append, List.length_append,
      length_lowerOne_congr, ih]

/-- **Two surroundings make the same of a part** exactly if each of its sigmas ends a word in
both or in neither of them. -/
theorem lowerBetween_eq_iff :
    lowerBetween before after part = lowerBetween before' after' part ↔
      ∀ x y, part = x ++ 'Σ' :: y →
        endsWord (x.reverse ++ before) (y ++ after) =
          endsWord (x.reverse ++ before') (y ++ after') := by
  induction part generalizing before before' with
  | nil => simp [lowerBetween]
  | cons c rest ih =>
    rw [lowerBetween, lowerBetween]
    constructor
    · intro heq x y hsplit
      -- the first character takes up as much room in both results, so they can be cut after it
      obtain ⟨hhead, hrest⟩ := List.append_inj heq length_lowerOne_congr
      rw [ih] at hrest
      cases x with
      | nil =>
        obtain ⟨rfl, rfl⟩ := List.cons.inj hsplit
        exact lowerOne_sigma_eq_iff.mp hhead
      | cons d x =>
        obtain ⟨rfl, rfl⟩ := List.cons.inj hsplit
        simpa using hrest x y rfl
    · intro h
      have hhead : lowerOne before c (rest ++ after) = lowerOne before' c (rest ++ after') := by
        by_cases hc : c = 'Σ'
        · subst hc
          exact lowerOne_sigma_eq_iff.mpr (h [] rest rfl)
        · exact lowerOne_congr hc
      have hrest : lowerBetween (c :: before) after rest =
          lowerBetween (c :: before') after' rest :=
        ih.mpr fun x y hsplit => by simpa using h (c :: x) y (congrArg (c :: ·) hsplit)
      rw [hhead, hrest]

/-! ### The beginning and the end of a text -/

/-- **A text ends in a sigma**, if what may follow it is left open: a letter stands before that
sigma, and nothing but passed-over characters stands after it. -/
def EndsInSigma (cs : List Char) : Prop :=
  ∃ x y, cs = x ++ 'Σ' :: y ∧ meetsCased x.reverse = true ∧ ∀ c ∈ y, isCaseIgnorable c = true

/-- **A text begins with a sigma**, if what may precede it is left open: nothing but passed-over
characters stands before that sigma, and no letter stands after it. -/
def BeginsWithSigma (cs : List Char) : Prop :=
  ∃ x y, cs = x ++ 'Σ' :: y ∧ (∀ c ∈ x, isCaseIgnorable c = true) ∧ meetsCased y = false

/-- **A lower-cased text begins as its first part does alone**, unless that part ends in a sigma
and a letter follows. -/
theorem lowered_prefix_iff (part after : List Char) :
    lowered part <+: lowered (part ++ after) ↔
      ¬ (EndsInSigma part ∧ meetsCased after = true) := by
  have hbegins : lowered part <+: lowered (part ++ after) ↔
      lowerBetween [] [] part = lowerBetween [] after part := by
    rw [lowered_append, lowered_eq]
    constructor
    · rintro ⟨rest, hrest⟩
      exact (List.append_inj hrest length_lowerBetween_congr).1
    · intro heq
      rw [heq]
      exact List.prefix_append _ _
  rw [hbegins, lowerBetween_eq_iff]
  constructor
  · rintro h ⟨⟨x, y, hsplit, hbefore, hignorable⟩, hafter⟩
    have hsame := h x y hsplit
    simp [endsWord, hbefore, meetsCased_append_of_ignorable hignorable, hafter,
      meetsCased_of_ignorable hignorable] at hsame
  · intro h x y hsplit
    rw [List.append_nil, List.append_nil, endsWord, endsWord]
    cases hbefore : meetsCased x.reverse with
    | false => rfl
    | true =>
      -- what follows the part matters only if the search for a letter leaves it
      by_cases hignorable : ∀ c ∈ y, isCaseIgnorable c = true
      · have hafter : meetsCased after = false := by
          by_contra hletter
          exact h ⟨⟨x, y, hsplit, hbefore, hignorable⟩, by simpa using hletter⟩
        rw [meetsCased_append_of_ignorable hignorable, meetsCased_of_ignorable hignorable, hafter]
      · rw [meetsCased_append hignorable]

/-- **A lower-cased text ends as its last part does alone**, unless that part begins with a sigma
and a letter precedes. -/
theorem lowered_suffix_iff (before part : List Char) :
    lowered part <:+ lowered (before ++ part) ↔
      ¬ (BeginsWithSigma part ∧ meetsCased before.reverse = true) := by
  have hends : lowered part <:+ lowered (before ++ part) ↔
      lowerBetween [] [] part = lowerBetween before.reverse [] part := by
    rw [lowered_append, lowered_eq]
    constructor
    · rintro ⟨rest, hrest⟩
      exact (List.append_inj' hrest length_lowerBetween_congr).2
    · intro heq
      rw [heq]
      exact List.suffix_append _ _
  rw [hends, lowerBetween_eq_iff]
  constructor
  · rintro h ⟨⟨x, y, hsplit, hignorable, hafter⟩, hbefore⟩
    have hsame := h x y hsplit
    have hignorable' : ∀ c ∈ x.reverse, isCaseIgnorable c = true := by simpa using hignorable
    simp [endsWord, hbefore, meetsCased_append_of_ignorable hignorable', hafter,
      meetsCased_of_ignorable hignorable'] at hsame
  · intro h x y hsplit
    rw [List.append_nil, List.append_nil, endsWord, endsWord]
    cases hafter : meetsCased y with
    | true => simp
    | false =>
      by_cases hignorable : ∀ c ∈ x, isCaseIgnorable c = true
      · have hignorable' : ∀ c ∈ x.reverse, isCaseIgnorable c = true := by simpa using hignorable
        have hbefore : meetsCased before.reverse = false := by
          by_contra hletter
          exact h ⟨⟨x, y, hsplit, hignorable, hafter⟩, by simpa using hletter⟩
        rw [meetsCased_append_of_ignorable hignorable', meetsCased_of_ignorable hignorable',
          hbefore]
      · rw [meetsCased_append (by simpa using hignorable)]

/-! ### Characters without letter case -/

/-- The small letters beyond ASCII start above the comma. -/
theorem comma_lt_target : ∀ run ∈ caseRuns, 0x2C < run.target := by
  decide +kernel

/-- The comma is the character of one number only. -/
theorem eq_of_ofNat_eq_comma {n : Nat} (h : Char.ofNat n = ',') : n = 0x2C := by
  by_cases hvalid : n.isValidChar
  · have hchar : Char.ofNat n = Char.ofNatAux n hvalid := dif_pos hvalid
    have hvalue : (Char.ofNatAux n hvalid).val.toNat = n := UInt32.toNat_ofNatLT
    rw [← hchar, h] at hvalue
    exact hvalue.symm
  · have hchar : Char.ofNat n = Char.ofNat 0 := dif_neg hvalid
    rw [hchar] at h
    exact absurd h (by decide)

/-- **Only a comma becomes a comma.** -/
theorem lowerChar_eq_comma_iff : lowerChar c = ',' ↔ c = ',' := by
  constructor
  · intro h
    unfold lowerChar at h
    split at h
    · split at h
      · next hcapital =>
        have hlow := eq_of_ofNat_eq_comma h
        have hA : 'A'.toNat ≤ c.toNat := by
          simp only [Bool.and_eq_true, decide_eq_true_eq] at hcapital
          exact hcapital.1
        have hvalue : 'A'.toNat = 0x41 := rfl
        omega
      · exact h
    · split at h
      · next n hn =>
        obtain ⟨run, hrun, hlower⟩ := List.exists_of_findSome?_eq_some hn
        have hhigh := comma_lt_target run hrun
        have hlow := eq_of_ofNat_eq_comma h
        unfold CaseRun.lower? at hlower
        split at hlower
        · obtain rfl := Option.some.inj hlower
          omega
        · cases hlower
      · exact h
  · rintro rfl
    rfl

/-- **Lower-casing keeps the commas** and makes no new ones. -/
theorem comma_mem_lowered_iff : ',' ∈ lowered cs ↔ ',' ∈ cs := by
  have hafter : ∀ before, ',' ∈ lowerAfter before cs ↔ ',' ∈ cs := by
    induction cs with
    | nil => simp [lowerAfter]
    | cons c rest ih =>
      intro before
      rw [lowerAfter_cons, List.mem_append, ih (c :: before), List.mem_cons]
      refine or_congr ?_ Iff.rfl
      unfold lowerOne
      split
      · next h => subst h; split <;> simp
      · split
        · next h => subst h; simp
        · rw [List.mem_singleton, eq_comm, lowerChar_eq_comma_iff, eq_comm]
  exact hafter []

end Text

end Dialogue
