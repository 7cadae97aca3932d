import Dialogue.Proofs.Text.Lowered
import Dialogue.Proofs.Text.Trimmed
import Dialogue.Rule.Operator

/-!
# Literal beginnings and ends

The affix tests compare without regard to letter case, and they do so by lower-casing the value
and the operand apart. One might expect that a value which literally begins with the operand
passes the test, and so it does but for one letter: a capital sigma that ends a word in the
operand and stands inside a word in the value has two different small forms
(`Dialogue.Operator.literal_affixes_refused`). That is the only exception, and it is described
in full by `Dialogue.Operator.literal_affixes_iff`.
-/

namespace Dialogue

namespace Operator

theorem folded_of_isTrimmed {cs : List Char} (h : Text.IsTrimmed cs) :
    folded cs = Text.lowered cs :=
  congrArg Text.lowered h.trimmed_eq

theorem foldedField_of_isTrimmed {s : String} (h : Text.IsTrimmed s.toList) :
    foldedField (some s) = Text.lowered s.toList :=
  folded_of_isTrimmed h

/-- Between trimmed texts the test for a beginning compares them in lower case. -/
theorem startsWith_iff {value operand : String} (hvalue : Text.IsTrimmed value.toList)
    (hoperand : Text.IsTrimmed operand.toList) :
    startsWith.holds (some value) operand = true ↔
      Text.lowered operand.toList <+: Text.lowered value.toList := by
  rw [holds, foldedField_of_isTrimmed hvalue, folded_of_isTrimmed hoperand,
    List.isPrefixOf_iff_prefix]

/-- Between trimmed texts the test for an end compares them in lower case. -/
theorem endsWith_iff {value operand : String} (hvalue : Text.IsTrimmed value.toList)
    (hoperand : Text.IsTrimmed operand.toList) :
    endsWith.holds (some value) operand = true ↔
      Text.lowered operand.toList <:+ Text.lowered value.toList := by
  rw [holds, foldedField_of_isTrimmed hvalue, folded_of_isTrimmed hoperand,
    List.isSuffixOf_iff_suffix]

/-- **A value that literally begins or ends with the operand** passes the test, except for a
sigma at the seam. It fails the test for its beginning exactly if the operand ends in a sigma
and a letter follows in the value, and the test for its end exactly if the operand begins with
a sigma and a letter precedes it in the value. -/
theorem literal_affixes_iff (p q : String) (hp : Text.IsTrimmed p.toList) :
    (Text.IsTrimmed (p ++ q).toList →
      (startsWith.holds (some (p ++ q)) p = true ↔
        ¬ (Text.EndsInSigma p.toList ∧ Text.meetsCased q.toList = true))) ∧
    (Text.IsTrimmed (q ++ p).toList →
      (endsWith.holds (some (q ++ p)) p = true ↔
        ¬ (Text.BeginsWithSigma p.toList ∧ Text.meetsCased q.toList.reverse = true))) := by
  refine ⟨fun hvalue => ?_, fun hvalue => ?_⟩
  · rw [startsWith_iff hvalue hp, String.toList_append]
    exact Text.lowered_prefix_iff p.toList q.toList
  · rw [endsWith_iff hvalue hp, String.toList_append]
    exact Text.lowered_suffix_iff q.toList p.toList

/-- A sigma that ends a word in the operand and in the value alike does no harm. -/
theorem literal_affixes_streets :
    Text.IsTrimmed "ΟΔΟΣ".toList ∧ Text.IsTrimmed ("ΟΔΟΣ" ++ " Α").toList ∧
      startsWith.holds (some ("ΟΔΟΣ" ++ " Α")) "ΟΔΟΣ" = true ∧
    Text.IsTrimmed "Σ".toList ∧ Text.IsTrimmed ("Α " ++ "Σ").toList ∧
      endsWith.holds (some ("Α " ++ "Σ")) "Σ" = true := by
  have hstreet : Text.IsTrimmed "ΟΔΟΣ".toList := by decide
  have hvalue : Text.IsTrimmed ("ΟΔΟΣ" ++ " Α").toList := by decide
  have hsigma : Text.IsTrimmed "Σ".toList := by decide
  have hvalue' : Text.IsTrimmed ("Α " ++ "Σ").toList := by decide
  have hblank : Text.meetsCased " Α".toList = false := by decide +kernel
  have hblank' : Text.meetsCased "Α ".toList.reverse = false := by decide +kernel
  refine ⟨hstreet, hvalue, ?_, hsigma, hvalue', ?_⟩
  · refine ((literal_affixes_iff "ΟΔΟΣ" " Α" hstreet).1 hvalue).mpr ?_
    rintro ⟨-, hletter⟩
    exact Bool.noConfusion (hblank.symm.trans hletter)
  · refine ((literal_affixes_iff "Σ" "Α " hsigma).2 hvalue').mpr ?_
    rintro ⟨-, hletter⟩
    exact Bool.noConfusion (hblank'.symm.trans hletter)

/-- **A literal beginning may be refused, and so may a literal end**: the sigma of `ΑΣ` ends a
word, but not where another letter follows, and the lone `Σ` ends none, but does so after a
letter. -/
theorem literal_affixes_refused :
    (Text.IsTrimmed "ΑΣ".toList ∧ Text.IsTrimmed ("ΑΣ" ++ "Α").toList ∧
      startsWith.holds (some ("ΑΣ" ++ "Α")) "ΑΣ" = false) ∧
    Text.IsTrimmed "Σ".toList ∧ Text.IsTrimmed ("Α" ++ "Σ").toList ∧
      endsWith.holds (some ("Α" ++ "Σ")) "Σ" = false := by
  decide +kernel

end Operator

end Dialogue
