import Dialogue.Json.Decode
import Dialogue.Proofs.StringMap

/-!
# Readings of values

The reading of a value has no flaws, so a reader gets through all of it, if the value is not
too deep (`Dialogue.Json.depth`). A reader that keeps the value gets it with the fields of all
its objects in the order of their keys (`Dialogue.Json.sorted`, `Dialogue.Json.value?_reading`).

This matters where a part of a text is first kept as a value and decoded later: what is decoded
then is not the part as it was written, but its sorted form.
-/

namespace Dialogue

namespace Json

/-- A computation in two steps succeeds if both steps do. -/
theorem bind_eq_ok_iff {ε α β : Type} {x : Except ε α} {f : α → Except ε β} {b : β} :
    x >>= f = .ok b ↔ ∃ a, x = .ok a ∧ f a = .ok b := by
  cases x with
  | error e => exact ⟨nofun, fun ⟨_, h, _⟩ => nomatch h⟩
  | ok a => exact ⟨fun h => ⟨a, rfl, h⟩, fun ⟨_, ha, h⟩ => Except.ok.inj ha ▸ h⟩

/-! ### How deep values are -/

mutual

/-- The number of arrays and objects that lie inside one another. -/
def depth : Json → Nat
  | .arr items => itemsDepth items + 1
  | .obj fields => fieldsDepth fields + 1
  | .null | .bool _ | .int _ | .decimal _ | .str _ => 0

/-- The depth of the deepest item. -/
def itemsDepth : List Json → Nat
  | [] => 0
  | item :: rest => max item.depth (itemsDepth rest)

/-- The depth of the deepest field. -/
def fieldsDepth : List (String × Json) → Nat
  | [] => 0
  | (_, value) :: rest => max value.depth (fieldsDepth rest)

end

@[simp]
theorem depth_ofOption (o : Option String) : (ofOption o).depth = 0 := by
  cases o <;> rfl

theorem itemsDepth_le_iff {items : List Json} {n : Nat} :
    itemsDepth items ≤ n ↔ ∀ item ∈ items, item.depth ≤ n := by
  induction items with
  | nil => simp [itemsDepth]
  | cons item rest ih => rw [itemsDepth, Nat.max_le, ih, List.forall_mem_cons]

/-- Items that are written one by one are as deep as the deepest. -/
theorem itemsDepth_map_le {α : Type} {write : α → Json} {as : List α} {n : Nat}
    (h : ∀ a ∈ as, (write a).depth ≤ n) : itemsDepth (as.map write) ≤ n :=
  itemsDepth_le_iff.mpr (List.forall_mem_map.mpr h)

theorem fieldsDepth_le_iff {fields : List (String × Json)} {n : Nat} :
    fieldsDepth fields ≤ n ↔ ∀ e ∈ fields, e.2.depth ≤ n := by
  induction fields with
  | nil => simp [fieldsDepth]
  | cons e rest ih => rw [fieldsDepth, Nat.max_le, ih, List.forall_mem_cons]

theorem itemReadings_eq (items : List Json) : itemReadings items = items.map reading := by
  induction items with
  | nil => rfl
  | cons item rest ih => rw [itemReadings, ih, List.map_cons]

theorem fieldReadings_eq (fields : List (String × Json)) :
    fieldReadings fields = fields.map fun e => (some e.1, e.2.reading) := by
  induction fields with
  | nil => rfl
  | cons e rest ih => rw [fieldReadings, ih, List.map_cons]

/-! ### Values in sorted form -/

mutual

/-- A value with the fields of all objects in ascending order of their keys, and of a repeated
key only the last. -/
def sorted : Json → Json
  | .arr items => .arr (sortedItems items)
  | .obj fields => .obj (StringMap.ofList (sortedFields fields)).entries
  | v => v

/-- Some items in sorted form. -/
def sortedItems : List Json → List Json
  | [] => []
  | item :: rest => item.sorted :: sortedItems rest

/-- Some fields in their order, with the values in sorted form. -/
def sortedFields : List (String × Json) → List (String × Json)
  | [] => []
  | (key, value) :: rest => (key, value.sorted) :: sortedFields rest

end

theorem sortedItems_eq (items : List Json) : sortedItems items = items.map sorted := by
  induction items with
  | nil => rfl
  | cons item rest ih => rw [sortedItems, ih, List.map_cons]

/-- Items that are written in sorted form are in sorted form. -/
theorem sortedItems_map {α : Type} {write : α → Json} {as : List α}
    (h : ∀ a ∈ as, (write a).sorted = write a) : sortedItems (as.map write) = as.map write := by
  rw [sortedItems_eq, List.map_map]
  exact List.map_congr_left h

theorem sortedFields_eq (fields : List (String × Json)) :
    sortedFields fields = fields.map fun e => (e.1, e.2.sorted) := by
  induction fields with
  | nil => rfl
  | cons e rest ih => rw [sortedFields, ih, List.map_cons]

/-- An object in sorted form, told by the order of its keys. -/
theorem sorted_obj {fields entries : List (String × Json)}
    (hperm : (sortedFields fields).Perm entries) (h : (entries.map (·.1)).Pairwise (· < ·)) :
    (obj fields).sorted = obj entries := by
  rw [sorted, StringMap.entries_ofList_of_perm hperm (List.pairwise_map.mp h)]

mutual

/-- **What is kept of a value is its sorted form.** -/
theorem value?_reading (v : Json) {depth : Nat} (h : v.depth ≤ depth) :
    v.reading.value? depth = .ok v.sorted := by
  match v, depth, h with
  | .null, _, _ => rfl
  | .bool _, _, _ => rfl
  | .int _, _, _ => rfl
  | .decimal _, _, _ => rfl
  | .str _, _, _ => rfl
  | .arr items, depth + 1, h =>
    rw [reading, Reading.value?, descend, sorted]
    simp only [bind, Except.bind, itemValues?_readings items (Nat.le_of_succ_le_succ h)]
    rfl
  | .obj fields, depth + 1, h =>
    rw [reading, Reading.value?, descend, sorted]
    simp only [bind, Except.bind, fieldValues?_readings fields (Nat.le_of_succ_le_succ h)]
    rfl

/-- What is kept of some items. -/
theorem itemValues?_readings (items : List Json) {depth : Nat} (h : itemsDepth items ≤ depth) :
    itemValues? depth (itemReadings items) = .ok (sortedItems items) := by
  match items, h with
  | [], _ => rfl
  | item :: rest, h =>
    obtain ⟨hitem, hrest⟩ := Nat.max_le.mp h
    rw [itemReadings, itemValues?, value?_reading item hitem, itemValues?_readings rest hrest,
      sortedItems]
    rfl

/-- What is kept of some fields. -/
theorem fieldValues?_readings (fields : List (String × Json)) {depth : Nat}
    (h : fieldsDepth fields ≤ depth) :
    fieldValues? depth (fieldReadings fields) = .ok (sortedFields fields) := by
  match fields, h with
  | [], _ => rfl
  | (key, value) :: rest, h =>
    obtain ⟨hvalue, hrest⟩ := Nat.max_le.mp h
    rw [fieldReadings, fieldValues?, value?_reading value hvalue,
      fieldValues?_readings rest hrest, sortedFields]
    rfl

end

/-! ### Passing over values -/

mutual

/-- No fault is met in skipping a value. -/
theorem skipFault_reading (v : Json) : v.reading.skipFault = none := by
  match v with
  | .null | .bool _ | .int _ | .decimal _ | .str _ => rfl
  | .arr items => rw [reading, Reading.skipFault, itemsSkipFault_readings items]; rfl
  | .obj fields => rw [reading, Reading.skipFault, fieldsSkipFault_readings fields]; rfl

theorem itemsSkipFault_readings (items : List Json) :
    itemsSkipFault (itemReadings items) = none := by
  match items with
  | [] => rfl
  | item :: rest =>
    rw [itemReadings, itemsSkipFault, skipFault_reading item, itemsSkipFault_readings rest]
    rfl

theorem fieldsSkipFault_readings (fields : List (String × Json)) :
    fieldsSkipFault (fieldReadings fields) = none := by
  match fields with
  | [] => rfl
  | (_, value) :: rest =>
    rw [fieldReadings, fieldsSkipFault, skipFault_reading value, fieldsSkipFault_readings rest]
    rfl

end

namespace Source

/-- A value nobody asks for is passed over. -/
theorem skip_reading (source : Source) (v : Json) : source.skip v.reading = .ok () := by
  cases source with
  | text depth => rw [skip, skipFault_reading]; rfl
  | value => rfl
  | aside => rfl

/-- **A source allows a value** of the given depth: a text has that many levels left, and any
other source has no limit. -/
def Allows : Source → Nat → Prop
  | text depth, n => n ≤ depth
  | value, _ | aside, _ => True

theorem Allows.mono {source : Source} {m n : Nat} (h : source.Allows n) (hle : m ≤ n) :
    source.Allows m := by
  cases source with
  | text depth => exact Nat.le_trans hle h
  | value => trivial
  | aside => trivial

/-- Inside an array or an object one level less is left. -/
theorem Allows.enter {source : Source} {n : Nat} (h : source.Allows (n + 1)) :
    ∃ inner, source.enter = .ok inner ∧ inner.Allows n := by
  cases source with
  | text depth =>
    obtain ⟨rest, rfl⟩ := Nat.exists_eq_add_of_le' h
    exact ⟨.text (rest + n), rfl, Nat.le_add_left n rest⟩
  | value => exact ⟨.value, rfl, trivial⟩
  | aside => exact ⟨.aside, rfl, trivial⟩

/-- A value is set aside to be decoded later, if it is not too deep. -/
theorem setAside_reading {source : Source} {v : Json} (h : source.Allows v.depth) :
    source.setAside v.reading = .ok () := by
  cases source with
  | text depth => rw [setAside, value?_reading v h]
  | value => rfl
  | aside => rfl

end Source

end Json

end Dialogue
