import Dialogue.StringMap
import Mathlib.Data.List.Basic

/-!
# Maps made of lists

What a map holds is told by the list that it was made of. Of the values that the list binds to a
key the last one counts (`Dialogue.StringMap.get?_ofList`), unless they are collected under the
key; then all of them are there, in their order (`Dialogue.StringMap.getD_foldl_push`). Two maps
that bind every key to the same are the same (`Dialogue.StringMap.eq_of_get?_eq`).
-/

namespace Dialogue

namespace StringMap

variable {α : Type}

/-! ### Ascending bindings -/

/-- A new key is added to those there are. -/
theorem insertEntry_perm {key : String} {l : List (String × α)} (h : ∀ e ∈ l, e.1 ≠ key)
    (value : α) : (insertEntry key value l).Perm ((key, value) :: l) := by
  induction l with
  | nil => exact .refl _
  | cons entry rest ih =>
    have hne : key ≠ entry.1 := (h entry List.mem_cons_self).symm
    rw [insertEntry, if_neg hne]
    split
    · exact .refl _
    · have hrest := ih fun e he => h e (List.mem_cons_of_mem _ he)
      exact (hrest.cons entry).trans (.swap ..)

/-- Bindings of new keys are added to those of a map. -/
theorem entries_foldl_insert {m : StringMap α} {l : List (String × α)}
    (h : (m.entries ++ l).Pairwise (fun a b => a.1 ≠ b.1)) :
    (l.foldl (fun m e => m.insert e.1 e.2) m).entries.Perm (m.entries ++ l) := by
  induction l generalizing m with
  | nil => rw [List.foldl_nil, List.append_nil]
  | cons e rest ih =>
    have hnew : ∀ d ∈ m.entries, d.1 ≠ e.1 :=
      fun d hd => (List.pairwise_append.mp h).2.2 d hd e List.mem_cons_self
    have hinsert : ((m.insert e.1 e.2).entries ++ rest).Perm (m.entries ++ e :: rest) :=
      ((insertEntry_perm hnew e.2).append_right rest).trans List.perm_middle.symm
    exact (ih (hinsert.symm.pairwise h Ne.symm)).trans hinsert

/-- **A map is made of its bindings in any order**, if they are ascending in one. -/
theorem entries_ofList_of_perm {l entries : List (String × α)} (hperm : l.Perm entries)
    (h : entries.Pairwise (fun a b => a.1 < b.1)) : (ofList l).entries = entries := by
  have hdistinct : entries.Pairwise (fun a b => a.1 ≠ b.1) := by
    refine h.imp ?_
    intro a b hlt heq
    exact String.lt_irrefl b.1 (heq ▸ hlt)
  have hnew : l.Pairwise (fun a b => a.1 ≠ b.1) := hperm.symm.pairwise hdistinct Ne.symm
  have hkept : (ofList l).entries.Perm l := entries_foldl_insert hnew
  refine (hkept.trans hperm).eq_of_pairwise ?_ (ofList l).ascending h
  exact fun a b _ _ hab hba => absurd hab (String.lt_asymm hba)

/-- Ascending bindings are the map that is made of them. -/
theorem entries_ofList {l : List (String × α)} (h : l.Pairwise (fun a b => a.1 < b.1)) :
    (ofList l).entries = l :=
  entries_ofList_of_perm (.refl l) h

/-! ### The bindings of a key -/

/-- The values that a list binds to a key, in their order. -/
def bindings (key : String) (l : List (String × α)) : List α :=
  l.filterMap fun e => if e.1 = key then some e.2 else none

theorem bindings_cons (key : String) (e : String × α) (l : List (String × α)) :
    bindings key (e :: l) = if e.1 = key then e.2 :: bindings key l else bindings key l := by
  rw [bindings, List.filterMap_cons]
  split <;> simp_all [bindings]

/-- Of the bindings that are added to a map the last one counts. -/
theorem get?_foldl_insert (key : String) (l : List (String × α)) (m : StringMap α) :
    (l.foldl (fun m e => m.insert e.1 e.2) m).get? key =
      (bindings key l).getLast?.or (m.get? key) := by
  induction l generalizing m with
  | nil => rfl
  | cons e rest ih =>
    rw [List.foldl_cons, ih, get?_insert, bindings_cons]
    by_cases heq : e.1 = key
    · rw [if_pos heq, if_pos heq.symm, List.getLast?_cons]
      cases (bindings key rest).getLast? <;> rfl
    · rw [if_neg heq, if_neg (Ne.symm heq)]

/-- **A map that is made of a list** binds a key to the last of its values there. -/
theorem get?_ofList (key : String) (l : List (String × α)) :
    (ofList l).get? key = (bindings key l).getLast? :=
  (get?_foldl_insert key l empty).trans (Option.or_none ..)

/-- **What is collected under a key** comes after what was there, in the order of the list. -/
theorem getD_foldl_push (keyOf : α → String) (key : String) (l : List α) (m : StringMap (List α)) :
    ((l.foldl (fun m a => m.push (keyOf a) a) m).get? key).getD [] =
      (m.get? key).getD [] ++ l.filter (keyOf · == key) := by
  induction l generalizing m with
  | nil => rw [List.foldl_nil, List.filter_nil, List.append_nil]
  | cons a rest ih =>
    rw [List.foldl_cons, ih, getD_push]
    by_cases heq : keyOf a = key
    · rw [if_pos heq.symm, List.filter_cons_of_pos (by simpa using heq), List.append_assoc,
        List.singleton_append]
    · rw [if_neg (Ne.symm heq), List.filter_cons_of_neg (by simpa using heq), List.append_nil]

/-! ### Maps told by their bindings -/

/-- In ascending bindings a binding is found by its key. -/
theorem mem_iff_lookup {key : String} {value : α} {l : List (String × α)}
    (h : l.Pairwise (fun a b => a.1 < b.1)) : (key, value) ∈ l ↔ l.lookup key = some value := by
  induction l with
  | nil => simp
  | cons e rest ih =>
    obtain ⟨name, other⟩ := e
    obtain ⟨hfirst, hrest⟩ := List.pairwise_cons.mp h
    rw [lookup_cons_eq, List.mem_cons, ih hrest]
    by_cases heq : key = name
    · subst heq
      have hnone : rest.lookup key = none :=
        List.lookup_eq_none_iff.mpr fun d hd => bne_iff_ne.mpr (String.ne_of_lt (hfirst d hd))
      simp [hnone, eq_comm]
    · simp [heq]

/-- **Two maps are the same** if they bind every key to the same. -/
theorem eq_of_get?_eq {m m' : StringMap α} (h : ∀ key, m.get? key = m'.get? key) : m = m' := by
  obtain ⟨l, hl⟩ := m
  obtain ⟨l', hl'⟩ := m'
  have hdistinct {l : List (String × α)} (hl : l.Pairwise (fun a b => a.1 < b.1)) : l.Nodup :=
    hl.imp fun {_ _} hlt heq => String.ne_of_lt hlt (congrArg Prod.fst heq)
  have hmem (e : String × α) : e ∈ l ↔ e ∈ l' := by
    rw [mem_iff_lookup hl, mem_iff_lookup hl']
    exact iff_of_eq (congrArg (· = some e.2) (h e.1))
  have hperm : l.Perm l' := (List.perm_ext_iff_of_nodup (hdistinct hl) (hdistinct hl')).mpr hmem
  have heq : l = l' := hperm.eq_of_pairwise
    (fun a b _ _ hab hba => absurd hab (String.lt_asymm hba)) hl hl'
  subst heq
  rfl

end StringMap

end Dialogue
