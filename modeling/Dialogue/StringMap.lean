/-!
# Maps with text keys

A finite map from texts to values, kept as a list in ascending order of the keys.
Because the order is part of the type, two maps with the same bindings are equal,
and listing a map needs no further rule. Texts are ordered by their code points.
-/

namespace Dialogue

/-- A finite map from texts to values, in ascending order of its keys. -/
structure StringMap (α : Type) where
  entries : List (String × α)
  ascending : entries.Pairwise (fun a b => a.1 < b.1)
  deriving DecidableEq

namespace StringMap

variable {α : Type}

/-- The map without bindings. -/
def empty : StringMap α :=
  ⟨[], .nil⟩

instance : Inhabited (StringMap α) :=
  ⟨empty⟩

/-- Binds `key` to `value` in an ascending list, replacing an earlier binding. -/
def insertEntry (key : String) (value : α) : List (String × α) → List (String × α)
  | [] => [(key, value)]
  | entry :: rest =>
    if key < entry.1 then (key, value) :: entry :: rest
    else if key = entry.1 then (key, value) :: rest
    else entry :: insertEntry key value rest

/-- Every key after an insertion is the new one or an old one. -/
theorem fst_of_mem_insertEntry {key : String} {value : α} {l : List (String × α)}
    {e : String × α} (h : e ∈ insertEntry key value l) : e.1 = key ∨ e ∈ l := by
  induction l with
  | nil => simp_all [insertEntry]
  | cons entry rest ih =>
    unfold insertEntry at h
    split at h
    · rcases List.mem_cons.mp h with rfl | h
      · exact .inl rfl
      · exact .inr h
    · split at h
      · rcases List.mem_cons.mp h with rfl | h
        · exact .inl rfl
        · exact .inr (List.mem_cons_of_mem _ h)
      · rcases List.mem_cons.mp h with rfl | h
        · exact .inr List.mem_cons_self
        · exact (ih h).imp_right (List.mem_cons_of_mem _)

/-- An insertion keeps the order of the keys. -/
theorem pairwise_insertEntry (key : String) (value : α) {l : List (String × α)}
    (h : l.Pairwise (fun a b => a.1 < b.1)) :
    (insertEntry key value l).Pairwise (fun a b => a.1 < b.1) := by
  induction l with
  | nil => simp [insertEntry]
  | cons entry rest ih =>
    obtain ⟨head, tail⟩ := List.pairwise_cons.mp h
    unfold insertEntry
    split
    · next lt =>
      refine List.pairwise_cons.mpr ⟨fun e he => ?_, h⟩
      rcases List.mem_cons.mp he with rfl | he
      · exact lt
      · exact String.lt_trans lt (head e he)
    · next ge =>
      split
      · next eq =>
        exact List.pairwise_cons.mpr ⟨fun e he => eq ▸ head e he, tail⟩
      · next ne =>
        refine List.pairwise_cons.mpr ⟨fun e he => ?_, ih tail⟩
        rcases fst_of_mem_insertEntry he with eq | he
        · rw [eq]
          exact String.not_le.mp fun le => ne (String.le_antisymm le (String.not_lt.mp ge))
        · exact head e he

/-- Binds `key` to `value`, replacing an earlier binding. -/
def insert (m : StringMap α) (key : String) (value : α) : StringMap α :=
  ⟨insertEntry key value m.entries, pairwise_insertEntry key value m.ascending⟩

/-- The value bound to a key. -/
def get? (m : StringMap α) (key : String) : Option α :=
  m.entries.lookup key

/-- The empty map binds no key. -/
@[simp]
theorem get?_empty (key : String) : (empty : StringMap α).get? key = none :=
  rfl

/-- The value found under a key in front of a list. -/
theorem lookup_cons_eq (key other : String) (value : α) (l : List (String × α)) :
    ((key, value) :: l).lookup other = if other = key then some value else l.lookup other := by
  rw [List.lookup_cons]
  by_cases h : other = key
  · simp [h]
  · simp [beq_false_of_ne h, h]

/-- After an insertion the new key has the new value. The list need not be ascending. -/
theorem lookup_insertEntry_self (key : String) (value : α) (l : List (String × α)) :
    (insertEntry key value l).lookup key = some value := by
  induction l with
  | nil => simp [insertEntry]
  | cons entry rest ih =>
    obtain ⟨first, _⟩ := entry
    unfold insertEntry
    split
    · simp
    · split
      · simp
      · next ne => rw [lookup_cons_eq, if_neg ne, ih]

/-- An insertion changes no other key. The list need not be ascending. -/
theorem lookup_insertEntry_of_ne {key other : String} (h : other ≠ key) (value : α)
    (l : List (String × α)) : (insertEntry key value l).lookup other = l.lookup other := by
  induction l with
  | nil => rw [insertEntry, lookup_cons_eq, if_neg h]
  | cons entry rest ih =>
    obtain ⟨first, _⟩ := entry
    unfold insertEntry
    split
    · rw [lookup_cons_eq, if_neg h]
    · split
      · next eq =>
        have ne : other ≠ first := fun same => h (same.trans eq.symm)
        rw [lookup_cons_eq, lookup_cons_eq, if_neg h, if_neg ne]
      · rw [lookup_cons_eq, lookup_cons_eq, ih]

/-- What a map binds after an insertion. -/
theorem get?_insert (m : StringMap α) (key other : String) (value : α) :
    (m.insert key value).get? other = if other = key then some value else m.get? other := by
  split
  · next eq =>
    subst eq
    exact lookup_insertEntry_self other value m.entries
  · next ne => exact lookup_insertEntry_of_ne ne value m.entries

/-- Whether a key is bound. -/
def contains (m : StringMap α) (key : String) : Bool :=
  (m.get? key).isSome

/-- The keys in ascending order. -/
def keys (m : StringMap α) : List String :=
  m.entries.map (·.1)

/-- The number of keys. -/
def size (m : StringMap α) : Nat :=
  m.entries.length

/-- The map with the given bindings, of which later ones win. -/
def ofList (l : List (String × α)) : StringMap α :=
  l.foldl (fun m e => m.insert e.1 e.2) empty

/-- Adds a value at the end of the list that is bound to a key. -/
def push (m : StringMap (List α)) (key : String) (value : α) : StringMap (List α) :=
  m.insert key ((m.get? key).getD [] ++ [value])

/-- What a map collects under a key after one more value. -/
theorem getD_push (m : StringMap (List α)) (key other : String) (value : α) :
    ((m.push key value).get? other).getD [] =
      (m.get? other).getD [] ++ if other = key then [value] else [] := by
  rw [push, get?_insert]
  split
  · next eq => rw [Option.getD_some, eq]
  · rw [List.append_nil]

end StringMap

end Dialogue
