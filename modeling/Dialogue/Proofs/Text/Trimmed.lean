import Mathlib.Data.List.DropRight
import Dialogue.Text.Blank

/-!
# What trimming leaves

A text is trimmed if no blank stands at either end of it (`Dialogue.Text.IsTrimmed`), and blanks
around a text are what trimming takes away (`Dialogue.Text.Pads`). The two belong together:
trimming a text leaves a trimmed one around which the text has nothing but blanks, and there is
no other such text (`Dialogue.Text.trimmed_eq_iff`). So nothing here depends on the order in
which the two ends are cleared.
-/

namespace Dialogue

namespace Text

/-- **A text is trimmed**: it neither begins nor ends with a blank. -/
structure IsTrimmed (cs : List Char) : Prop where
  head : ∀ c ∈ cs.head?, isBlank c = false
  last : ∀ c ∈ cs.getLast?, isBlank c = false

/-- Only the two ends of a text decide whether it is trimmed. -/
theorem isTrimmed_iff (cs : List Char) :
    IsTrimmed cs ↔ cs.head?.all (!isBlank ·) = true ∧ cs.getLast?.all (!isBlank ·) = true := by
  simp only [Option.all_eq_true, Bool.not_eq_true']
  exact ⟨fun h => ⟨h.head, h.last⟩, fun h => ⟨h.1, h.2⟩⟩

instance (cs : List Char) : Decidable (IsTrimmed cs) :=
  decidable_of_iff' _ (isTrimmed_iff cs)

/-- **A text pads another one**: it has blanks around it and nothing else. -/
def Pads (cs core : List Char) : Prop :=
  ∃ before after, cs = before ++ core ++ after ∧ (∀ c ∈ before, isBlank c = true) ∧
    ∀ c ∈ after, isBlank c = true

variable {cs core : List Char}

theorem Pads.refl (cs : List Char) : Pads cs cs :=
  ⟨[], [], by simp⟩

/-- Clearing the end is dropping from the right. -/
theorem trimEnd_eq (cs : List Char) : trimEnd cs = cs.rdropWhile isBlank :=
  rfl

/-- What is left begins with no blank. -/
theorem head?_dropWhile_isBlank (cs : List Char) :
    ∀ c ∈ (cs.dropWhile isBlank).head?, isBlank c = false := by
  intro c hc
  have hnot := List.head?_dropWhile_not isBlank cs
  rw [Option.mem_def.mp hc] at hnot
  exact hnot

theorem getLast?_trimEnd (cs : List Char) : ∀ c ∈ (trimEnd cs).getLast?, isBlank c = false := by
  intro c hc
  rw [trimEnd, List.getLast?_reverse] at hc
  exact head?_dropWhile_isBlank _ c hc

/-- Clearing the end keeps the beginning, as far as anything is left. -/
theorem head?_trimEnd {c : Char} (h : c ∈ (trimEnd cs).head?) : c ∈ cs.head? := by
  obtain ⟨rest, hrest⟩ := List.rdropWhile_prefix isBlank cs
  obtain ⟨tail, htail⟩ : ∃ tail, trimEnd cs = c :: tail := by
    cases hends : trimEnd cs with
    | nil => simp [hends] at h
    | cons d tail =>
      obtain rfl : d = c := by simpa [hends] using h
      exact ⟨tail, rfl⟩
  rw [← trimEnd_eq, htail] at hrest
  simp [← hrest]

/-- **Trimming leaves a trimmed text.** -/
theorem isTrimmed_trimmed (cs : List Char) : IsTrimmed (trimmed cs) :=
  ⟨fun c hc => head?_dropWhile_isBlank cs c (head?_trimEnd hc), getLast?_trimEnd _⟩

/-- **Trimming takes nothing but blanks away.** -/
theorem pads_trimmed (cs : List Char) : Pads cs (trimmed cs) := by
  refine ⟨cs.takeWhile isBlank, (cs.dropWhile isBlank).rtakeWhile isBlank, ?_,
    fun c => List.mem_takeWhile_imp, fun c => List.mem_rtakeWhile_imp⟩
  rw [trimmed, trimEnd_eq, List.append_assoc, List.rdropWhile_append_rtakeWhile,
    List.takeWhile_append_dropWhile]

/-- A trimmed text stays as it is. -/
theorem IsTrimmed.trimmed_eq (h : IsTrimmed cs) : trimmed cs = cs := by
  have hhead : cs.dropWhile isBlank = cs := by
    rw [List.dropWhile_eq_self_iff]
    intro hlength
    have hfirst := h.head cs[0] (by simp [List.head?_eq_getElem?])
    simp [hfirst]
  have hlast : cs.rdropWhile isBlank = cs := by
    rw [List.rdropWhile_eq_self_iff]
    intro hne
    have hend := h.last (cs.getLast hne) (by simp [List.getLast?_eq_some_getLast hne])
    simp [hend]
  rw [trimmed, hhead, trimEnd_eq, hlast]

theorem trimmed_trimmed (cs : List Char) : trimmed (trimmed cs) = trimmed cs :=
  (isTrimmed_trimmed cs).trimmed_eq

/-- **Blanks around a text do not matter.** -/
theorem Pads.trimmed_eq (h : Pads cs core) : trimmed cs = trimmed core := by
  obtain ⟨before, after, rfl, hbefore, hafter⟩ := h
  have hblank : ∀ c ∈ after.reverse, isBlank c = true := by simpa using hafter
  rw [trimmed, List.append_assoc, List.dropWhile_append_of_pos hbefore, List.dropWhile_append,
    trimmed]
  split
  · next hnone =>
    -- nothing but blanks: then those behind the text go with those before it
    have hafter' : after.dropWhile isBlank = [] := List.dropWhile_eq_nil_iff.mpr hafter
    rw [List.isEmpty_iff.mp hnone, hafter']
  · rw [trimEnd, List.reverse_append, List.dropWhile_append_of_pos hblank, trimEnd]

/-- **Trimming is determined** by what it leaves. -/
theorem trimmed_eq_iff : trimmed cs = core ↔ IsTrimmed core ∧ Pads cs core := by
  constructor
  · rintro rfl
    exact ⟨isTrimmed_trimmed cs, pads_trimmed cs⟩
  · rintro ⟨htrimmed, hpads⟩
    rw [hpads.trimmed_eq, htrimmed.trimmed_eq]

/-- What is not blank is not taken away. -/
theorem mem_trimmed {c : Char} (hc : c ∈ cs) (hblank : isBlank c = false) : c ∈ trimmed cs := by
  obtain ⟨before, after, hsplit, hbefore, hafter⟩ := pads_trimmed cs
  rw [hsplit] at hc
  rcases List.mem_append.mp hc with hc | hc
  · rcases List.mem_append.mp hc with hc | hc
    · simp [hbefore c hc] at hblank
    · exact hc
  · simp [hafter c hc] at hblank

end Text

end Dialogue
