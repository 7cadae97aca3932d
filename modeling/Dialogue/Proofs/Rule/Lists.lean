import Mathlib.Data.List.Forall2
import Dialogue.Proofs.Text.Lowered
import Dialogue.Proofs.Text.Trimmed
import Dialogue.Rule.Operator

/-!
# Lists as operands

A list operand is one text with commas in it, and a value is in the list if it is the same text
as one of the pieces between the commas. This is said here in terms of the equality test
(`Dialogue.Operator.lists_iff_equals`), which compares with a whole operand and knows nothing of
commas: the two tests agree on every operand, whatever the pieces are, empty and blank ones
included.

So for a list that is written down item by item, with commas and any blanks between them, only
the items matter, neither their order nor how often each is named. What cannot be written down
in this way is an item with a comma in it, and indeed a value with a comma is in no list.
-/

namespace Dialogue

/-! ### Pieces -/

/-- **Cutting at commas** is splitting a list of characters. -/
theorem Text.pieces_eq_splitOn (cs : List Char) : pieces cs = cs.splitOn ',' := by
  induction cs with
  | nil => rfl
  | cons c rest ih =>
    rw [pieces, List.splitOn_cons_eq_if_modifyHead, ih]
    by_cases hc : c = ','
    · simp [hc]
    · rw [if_neg hc, if_neg (by simpa using hc)]
      cases hpieces : rest.splitOn ',' with
      | nil => exact absurd hpieces (List.splitOn_ne_nil ',' rest)
      | cons piece others => rfl

/-- No piece has a comma in it. -/
theorem Text.comma_not_mem_of_mem_pieces {cs piece : List Char} (h : piece ∈ pieces cs) :
    ',' ∉ piece := by
  induction cs generalizing piece with
  | nil => simp [List.mem_singleton.mp h]
  | cons c rest ih =>
    rw [pieces] at h
    split at h
    · rcases List.mem_cons.mp h with rfl | hrest
      · simp
      · exact ih hrest
    · next hc =>
      cases hpieces : pieces rest with
      | nil =>
        rw [hpieces] at h
        rw [List.mem_singleton.mp h]
        simpa using fun hcomma => hc hcomma.symm
      | cons first others =>
        rw [hpieces] at h ih
        rcases List.mem_cons.mp h with rfl | hothers
        · simpa using ⟨fun hcomma => hc hcomma.symm, ih List.mem_cons_self⟩
        · exact ih (List.mem_cons_of_mem _ hothers)

namespace Operator

/-- The pieces of an operand between its commas, each as an operand of its own. -/
def pieceTexts (operand : String) : List String :=
  (operand.toList.splitOn ',').map String.ofList

/-- A text as operands are compared. -/
def foldedText (s : String) : List Char :=
  folded s.toList

variable {field : Option String} {operand item part : String} {items padded : List String}

/-! ### The two tests -/

theorem equals_iff : equals.holds field item = true ↔ foldedText item = foldedField field := by
  rw [holds, sameText, beq_iff_eq, eq_comm]
  rfl

theorem listItems_eq (operand : String) :
    listItems operand = (pieceTexts operand).map foldedText := by
  rw [listItems, Text.pieces_eq_splitOn, pieceTexts, List.map_map]
  refine List.map_congr_left fun piece _ => ?_
  simp [foldedText, String.toList_ofList]

/-- **A value is in a list** if it compares like one of the pieces. -/
theorem inList_iff_mem :
    inList.holds field operand = true ↔
      foldedField field ∈ (pieceTexts operand).map foldedText := by
  rw [holds, amongItems, List.contains_iff_mem, listItems_eq]

theorem mem_map_foldedText_iff :
    foldedField field ∈ items.map foldedText ↔
      ∃ item ∈ items, equals.holds field item = true := by
  simp only [List.mem_map, equals_iff]

theorem notInList_eq (field : Option String) (operand : String) :
    notInList.holds field operand = !inList.holds field operand :=
  rfl

theorem notEquals_eq (field : Option String) (operand : String) :
    notEquals.holds field operand = !equals.holds field operand :=
  rfl

/-! ### Lists written down item by item -/

/-- Blanks around an item do not matter. -/
theorem foldedText_of_pads (h : Text.Pads part.toList item.toList) :
    foldedText part = foldedText item :=
  congrArg Text.lowered h.trimmed_eq

/-- Blanks around an item put no comma there. -/
theorem comma_not_mem_of_pads (h : Text.Pads part.toList item.toList)
    (hitem : ',' ∉ item.toList) : ',' ∉ part.toList := by
  obtain ⟨before, after, hsplit, hbefore, hafter⟩ := h
  have hcomma : ¬ Text.isBlank ',' = true := by decide
  rw [hsplit, List.mem_append, List.mem_append]
  rintro ((hmem | hmem) | hmem)
  · exact hcomma (hbefore _ hmem)
  · exact hitem hmem
  · exact hcomma (hafter _ hmem)

/-- **The pieces of a list** that is written down item by item are its items. -/
theorem pieceTexts_intercalate (hne : padded ≠ [])
    (hcomma : ∀ part ∈ padded, ',' ∉ part.toList) :
    pieceTexts (",".intercalate padded) = padded := by
  have hsplit : (",".intercalate padded).toList.splitOn ',' = padded.map String.toList := by
    rw [String.toList_intercalate]
    exact List.splitOn_intercalate ',' (by simpa using hcomma) (by simpa using hne)
  rw [pieceTexts, hsplit, List.map_map]
  exact (List.map_congr_left fun part _ => String.ofList_toList).trans (List.map_id padded)

/-- **Being in a list that is written down** is to be the same text as one of its items. -/
theorem inList_intercalate_iff (hne : items ≠ []) (hcomma : ∀ item ∈ items, ',' ∉ item.toList)
    (hpads : List.Forall₂ (fun item part => Text.Pads part.toList item.toList) items padded) :
    inList.holds field (",".intercalate padded) = true ↔
      ∃ item ∈ items, equals.holds field item = true := by
  have hne' : padded ≠ [] := by
    rintro rfl
    exact hne (List.forall₂_nil_right_iff.mp hpads)
  have hcomma' : ∀ part ∈ padded, ',' ∉ part.toList := by
    intro part hpart
    obtain ⟨i, hi, rfl⟩ := List.getElem_of_mem hpart
    have hi' : i < items.length := hpads.length_eq ▸ hi
    exact comma_not_mem_of_pads (hpads.get hi' hi) (hcomma _ (List.getElem_mem hi'))
  -- what the padded parts are compared as is what the items are compared as
  have hsame : padded.map foldedText = items.map foldedText := by
    rw [← List.forall₂_eq_eq_eq, List.forall₂_map_left_iff, List.forall₂_map_right_iff]
    exact hpads.flip.imp fun _ _ h => foldedText_of_pads h
  rw [inList_iff_mem, pieceTexts_intercalate hne' hcomma', hsame, mem_map_foldedText_iff]

/-! ### Values with a comma -/

theorem comma_mem_foldedField {value : String} (h : ',' ∈ value.toList) :
    ',' ∈ foldedField (some value) :=
  Text.comma_mem_lowered_iff.mpr (Text.mem_trimmed h (by decide))

/-- No piece, as it is compared, has a comma in it. -/
theorem comma_not_mem_of_mem_listItems {cs : List Char} (h : cs ∈ listItems operand) :
    ',' ∉ cs := by
  obtain ⟨piece, hpiece, rfl⟩ := List.mem_map.mp h
  obtain ⟨before, after, hsplit, -⟩ := Text.pads_trimmed piece
  intro hmem
  refine Text.comma_not_mem_of_mem_pieces hpiece ?_
  rw [hsplit]
  simp [Text.comma_mem_lowered_iff.mp hmem]

/-- **The list tests agree with the equality tests.** A value, or the lack of one, is in the list
of an operand exactly if it equals one of the pieces between its commas, and not in it exactly if
it differs from all of them. For a list of items without commas, written down with commas and any
blanks between them, it is in the list exactly if it equals one of the items; so the order of the
items and their repetition do not matter. A value with a comma in it is in no list. -/
theorem lists_iff_equals (field : Option String) :
    (∀ operand, inList.holds field operand = true ↔
      ∃ item ∈ pieceTexts operand, equals.holds field item = true) ∧
    (∀ operand, notInList.holds field operand = true ↔
      ∀ item ∈ pieceTexts operand, notEquals.holds field item = true) ∧
    (∀ items padded : List String, items ≠ [] → (∀ item ∈ items, ',' ∉ item.toList) →
      List.Forall₂ (fun item part => Text.Pads part.toList item.toList) items padded →
      (inList.holds field (",".intercalate padded) = true ↔
        ∃ item ∈ items, equals.holds field item = true) ∧
      ∀ items' padded' : List String, (∀ item, item ∈ items' ↔ item ∈ items) →
        List.Forall₂ (fun item part => Text.Pads part.toList item.toList) items' padded' →
        inList.holds field (",".intercalate padded') =
          inList.holds field (",".intercalate padded)) ∧
    ∀ value, field = some value → ',' ∈ value.toList →
      ∀ operand, inList.holds field operand = false := by
  have hin : ∀ operand, inList.holds field operand = true ↔
      ∃ item ∈ pieceTexts operand, equals.holds field item = true :=
    fun operand => inList_iff_mem.trans mem_map_foldedText_iff
  refine ⟨hin, fun operand => ?_, fun items padded hne hcomma hpads => ?_, ?_⟩
  · rw [notInList_eq, Bool.not_eq_true', ← Bool.not_eq_true, hin operand]
    simp only [notEquals_eq, Bool.not_eq_true', not_exists, not_and, Bool.not_eq_true]
  · have hjoined : inList.holds field (",".intercalate padded) = true ↔
        ∃ item ∈ items, equals.holds field item = true :=
      inList_intercalate_iff hne hcomma hpads
    refine ⟨hjoined, fun items' padded' hsame hpads' => ?_⟩
    have hne' : items' ≠ [] := by
      obtain ⟨item, hitem⟩ := List.exists_mem_of_ne_nil items hne
      exact List.ne_nil_of_mem ((hsame item).mpr hitem)
    have hcomma' : ∀ item ∈ items', ',' ∉ item.toList :=
      fun item hitem => hcomma item ((hsame item).mp hitem)
    rw [Bool.eq_iff_iff, inList_intercalate_iff hne' hcomma' hpads', hjoined]
    simp only [hsame]
  · rintro value rfl hvalue operand
    rw [← Bool.not_eq_true, holds, amongItems, List.contains_iff_mem]
    exact fun hmem => comma_not_mem_of_mem_listItems hmem (comma_mem_foldedField hvalue)

/-- Colours with blanks around the commas, in another order and one of them twice; and a value
with a comma, which is in no list. -/
theorem lists_iff_equals_colours :
    (["red", "Blue"] : List String) ≠ [] ∧
    (∀ item ∈ ["red", "Blue"], ',' ∉ item.toList) ∧
    List.Forall₂ (fun item part => Text.Pads part.toList item.toList)
      ["red", "Blue"] ["red ", " Blue"] ∧
    (∀ item, item ∈ ["Blue", "red", "Blue"] ↔ item ∈ ["red", "Blue"]) ∧
    inList.holds (some " BLUE") (",".intercalate ["red ", " Blue"]) = true ∧
    inList.holds (some " BLUE") (",".intercalate ["Blue", "red", "Blue"]) = true ∧
    ',' ∈ "red,blue".toList ∧ inList.holds (some "red,blue") "red,blue" = false := by
  have hne : (["red", "Blue"] : List String) ≠ [] := by decide
  have hcomma : ∀ item ∈ ["red", "Blue"], ',' ∉ item.toList := by decide
  have hblank : ∀ c ∈ [' '], Text.isBlank c = true :=
    List.forall_mem_singleton.mpr (by decide)
  have hpads : List.Forall₂ (fun item part => Text.Pads part.toList item.toList)
      ["red", "Blue"] ["red ", " Blue"] :=
    .cons ⟨[], [' '], by decide, List.forall_mem_nil _, hblank⟩
      (.cons ⟨[' '], [], by decide, hblank, List.forall_mem_nil _⟩ .nil)
  have hplain : List.Forall₂ (fun item part => Text.Pads part.toList item.toList)
      ["Blue", "red", "Blue"] ["Blue", "red", "Blue"] :=
    List.forall₂_same.mpr fun item _ => Text.Pads.refl item.toList
  have hsame : ∀ item, item ∈ ["Blue", "red", "Blue"] ↔ item ∈ ["red", "Blue"] := by
    intro item
    simp only [List.mem_cons, List.not_mem_nil, or_false]
    exact or_iff_right_of_imp Or.inr
  obtain ⟨-, -, hjoined, -⟩ := lists_iff_equals (some " BLUE")
  obtain ⟨hblue, horder⟩ := hjoined ["red", "Blue"] ["red ", " Blue"] hne hcomma hpads
  have hfound : inList.holds (some " BLUE") (",".intercalate ["red ", " Blue"]) = true :=
    hblue.mpr ⟨"Blue", by simp, by decide⟩
  obtain ⟨-, -, -, hnone⟩ := lists_iff_equals (some "red,blue")
  have hmem : ',' ∈ "red,blue".toList := by decide
  exact ⟨hne, hcomma, hpads, hsame, hfound, (horder _ _ hsame hplain).trans hfound, hmem,
    hnone _ rfl hmem _⟩

end Operator

end Dialogue
