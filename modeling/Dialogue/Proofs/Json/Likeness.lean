import Mathlib.Data.List.Forall2
import Dialogue.Proofs.Json.Record

/-!
# Readings that say the same

Two readings may be told apart by the order of their fields, or by fields nobody asks for, and
still say the same to a reader. What may differ depends on the reader, so it is told in parts,
as the readers are: `Dialogue.Json.RecordAlike` for records, `Dialogue.Json.ListAlike` for
lists, and `Dialogue.Json.MapAlike` for maps.

Order is left out of account by comparing two objects key by key (`Dialogue.Json.under`). No
key need be distinct: of the fields under one key the order counts, since the last of them may
be the one that is kept.

A part of a text may be kept as a value and read later. Each of these likenesses holds between
two values when it holds between their readings (`Dialogue.Json.Likeness.Kept`).
-/

namespace Dialogue

namespace Json

/-! ### Likenesses -/

/-- When one reading may stand in for another. -/
abbrev Likeness :=
  Reading → Reading → Prop

/-- Both readings are the same text. -/
def IsText (text : String) : Likeness := fun r r' =>
  r = .str text ∧ r' = .str text

/-- Two lists with like items. -/
inductive ListAlike (like : Likeness) : Likeness
  | items {items items' : List Reading} (h : List.Forall₂ like items items') :
      ListAlike like (.arr items .closed) (.arr items' .closed)

/-- Two objects that bind every key to the same, in whatever order the keys stand. -/
inductive MapAlike : Likeness
  | fields {fields fields' : List (Option String × Reading)}
      (h : ∀ key, under key fields = under key fields')
      (hkeys : ∀ e ∈ fields', e.1.isSome) :
      MapAlike (.obj fields .closed) (.obj fields' .closed)

section Records

variable {α : Type} (rec : Record α) (like : String → Likeness) (spare : Reading → Prop)

/-- Under every key of every field stand like values. -/
def FoundAlike (fields fields' : List (Option String × Reading)) : Prop :=
  ∀ f ∈ rec.fields, ∀ key ∈ f.name :: f.aliases,
    List.Forall₂ (like f.name) (under key fields) (under key fields')

/-- **Two objects are alike to the reader of a record** if it finds like values for every field.
Whatever else the second object holds is spare. -/
structure FieldsAlike (fields fields' : List (Option String × Reading)) : Prop where
  found : FoundAlike rec like fields fields'
  others : rec.Spares spare fields'

/-- Two arrays are alike to the reader of a record if the items for each field are. -/
inductive ItemsAlike : List String → List Reading → List Reading → Prop
  | nil (names : List String) : ItemsAlike names [] []
  | cons {name : String} {names : List String} {item item' : Reading} {items items' : List Reading}
      (head : like name item item') (tail : ItemsAlike names items items') :
      ItemsAlike (name :: names) (item :: items) (item' :: items')

/-- Two readings that are alike to the reader of a record. What it makes of a field is told by
the name of the field. -/
inductive RecordAlike : Likeness
  | fields {fields fields' : List (Option String × Reading)}
      (h : FieldsAlike rec like spare fields fields') :
      RecordAlike (.obj fields .closed) (.obj fields' .closed)
  | items {items items' : List Reading}
      (h : ItemsAlike like (rec.fields.map (·.name)) items items') :
      RecordAlike (.arr items .closed) (.arr items' .closed)

end Records

/-- A record is written as an object or an array. -/
theorem RecordAlike.ne_null {α : Type} {rec : Record α} {like : String → Likeness}
    {spare : Reading → Prop} {r r' : Reading} (h : RecordAlike rec like spare r r') :
    r ≠ .null ∧ r' ≠ .null := by
  cases h <;> exact ⟨Reading.noConfusion, Reading.noConfusion⟩

/-! ### Fields and bindings -/

/-- A field stands for a binding if it has its key, and its value stands for the value bound. -/
def StandsFor {β : Type} (P : Reading → β → Prop) (e : Option String × Reading)
    (d : String × β) : Prop :=
  e.1 = some d.1 ∧ P e.2 d.2

/-- The values under a key stand for the bindings of the key. -/
theorem forall₂_bindings {β : Type} {P : Reading → β → Prop}
    {fields : List (Option String × Reading)} {values : List (String × β)} (key : String)
    (h : List.Forall₂ (StandsFor P) fields values) :
    List.Forall₂ P (under key fields) (StringMap.bindings key values) := by
  refine List.rel_filterMap ?_ h
  rintro ⟨_, r⟩ ⟨name, b⟩ ⟨rfl, hr⟩
  by_cases heq : name = key
  · subst heq
    simpa using hr
  · simp [heq]

/-! ### What is kept of readings -/

/-- The values of some items are theirs one by one. -/
theorem forall₂_of_itemValues? {depth : Nat} {items : List Reading} {values : List Json}
    (h : itemValues? depth items = .ok values) :
    List.Forall₂ (fun r v => r.value? depth = .ok v) items values := by
  induction items generalizing values with
  | nil =>
    obtain rfl := Except.ok.inj h
    exact .nil
  | cons item rest ih =>
    rw [itemValues?] at h
    obtain ⟨v, hv, h⟩ := bind_eq_ok_iff.mp h
    obtain ⟨vs, hvs, h⟩ := bind_eq_ok_iff.mp h
    obtain rfl := Except.ok.inj h
    exact .cons hv (ih hvs)

/-- So are the values of some fields, which stand under the same keys. -/
theorem forall₂_of_fieldValues? {depth : Nat} {fields : List (Option String × Reading)}
    {values : List (String × Json)} (h : fieldValues? depth fields = .ok values) :
    List.Forall₂ (StandsFor fun r v => r.value? depth = .ok v) fields values := by
  induction fields generalizing values with
  | nil =>
    obtain rfl := Except.ok.inj h
    exact .nil
  | cons e rest ih =>
    obtain ⟨_ | key, r⟩ := e
    · cases h
    · rw [fieldValues?] at h
      obtain ⟨v, hv, h⟩ := bind_eq_ok_iff.mp h
      obtain ⟨vs, hvs, h⟩ := bind_eq_ok_iff.mp h
      obtain rfl := Except.ok.inj h
      exact .cons ⟨rfl, hv⟩ (ih hvs)

theorem value?_arr_eq_ok {items : List Reading} {stop : Stop} {depth : Nat} {v : Json}
    (h : (Reading.arr items stop).value? depth = .ok v) :
    ∃ inner values, descend depth = .ok inner ∧
      List.Forall₂ (fun r v => r.value? inner = .ok v) items values ∧ v = .arr values := by
  rw [Reading.value?] at h
  obtain ⟨inner, hinner, h⟩ := bind_eq_ok_iff.mp h
  obtain ⟨values, hvalues, h⟩ := bind_eq_ok_iff.mp h
  obtain ⟨-, -, h⟩ := bind_eq_ok_iff.mp h
  exact ⟨inner, values, hinner, forall₂_of_itemValues? hvalues, (Except.ok.inj h).symm⟩

theorem value?_obj_eq_ok {fields : List (Option String × Reading)} {stop : Stop} {depth : Nat}
    {v : Json} (h : (Reading.obj fields stop).value? depth = .ok v) :
    ∃ inner values, descend depth = .ok inner ∧
      List.Forall₂ (StandsFor fun r v => r.value? inner = .ok v) fields values ∧
      v = .obj (StringMap.ofList values).entries := by
  rw [Reading.value?] at h
  obtain ⟨inner, hinner, h⟩ := bind_eq_ok_iff.mp h
  obtain ⟨values, hvalues, h⟩ := bind_eq_ok_iff.mp h
  obtain ⟨-, -, h⟩ := bind_eq_ok_iff.mp h
  exact ⟨inner, values, hinner, forall₂_of_fieldValues? hvalues, (Except.ok.inj h).symm⟩

/-- Under a key of a map stands the value that it is bound to. -/
theorem under_entries (key : String) (m : StringMap Json) :
    under key (fieldReadings m.entries) = ((m.get? key).map reading).toList := by
  obtain ⟨entries, ascending⟩ := m
  change under key (fieldReadings entries) = ((entries.lookup key).map reading).toList
  induction entries with
  | nil => rfl
  | cons e rest ih =>
    obtain ⟨name, v⟩ := e
    obtain ⟨hfirst, hrest⟩ := List.pairwise_cons.mp ascending
    rw [fieldReadings, under_cons, StringMap.lookup_cons_eq, ih hrest]
    by_cases heq : name = key
    · subst heq
      have hnone : rest.lookup name = none := by
        refine List.lookup_eq_none_iff.mpr fun d hd => ?_
        exact bne_iff_ne.mpr (String.ne_of_lt (hfirst d hd))
      simp [hnone]
    · rw [if_neg (by simpa using heq), if_neg (Ne.symm heq)]

namespace Likeness

/-- **A likeness is kept** if it holds between the values of the readings between which it
holds. -/
def Kept (like : Likeness) : Prop :=
  ∀ ⦃r r' : Reading⦄ ⦃depth : Nat⦄ ⦃v v' : Json⦄, like r r' →
    r.value? depth = .ok v → r'.value? depth = .ok v' → like v.reading v'.reading

theorem kept_eq : Kept Eq := by
  rintro r _ depth v v' rfl hv hv'
  rw [Except.ok.inj (hv.symm.trans hv')]

theorem kept_isText (text : String) : Kept (IsText text) := by
  rintro _ _ depth v v' ⟨rfl, rfl⟩ hv hv'
  obtain rfl := Except.ok.inj hv
  obtain rfl := Except.ok.inj hv'
  exact ⟨rfl, rfl⟩

variable {like : Likeness}

/-- Between lists of readings a likeness is kept item by item. -/
theorem Kept.forall₂ (hkept : Kept like) {depth : Nat} {rs rs' : List Reading}
    {vs vs' : List Json} (h : List.Forall₂ like rs rs')
    (hvs : List.Forall₂ (fun r v => r.value? depth = .ok v) rs vs)
    (hvs' : List.Forall₂ (fun r v => r.value? depth = .ok v) rs' vs') :
    List.Forall₂ (fun v v' => like v.reading v'.reading) vs vs' := by
  induction h generalizing vs vs' with
  | nil =>
    cases hvs
    cases hvs'
    exact .nil
  | cons h _ ih =>
    obtain _ | ⟨hv, hvs⟩ := hvs
    obtain _ | ⟨hv', hvs'⟩ := hvs'
    exact .cons (hkept h hv hv') (ih hvs hvs')

theorem Kept.list (hkept : Kept like) : Kept (ListAlike like) := by
  rintro _ _ depth v v' ⟨h⟩ hv hv'
  obtain ⟨inner, values, hinner, hvalues, rfl⟩ := value?_arr_eq_ok hv
  obtain ⟨inner', values', hinner', hvalues', rfl⟩ := value?_arr_eq_ok hv'
  obtain rfl := Except.ok.inj (hinner.symm.trans hinner')
  rw [reading, reading, itemReadings_eq, itemReadings_eq]
  refine .items (List.forall₂_map_left_iff.mpr (List.forall₂_map_right_iff.mpr ?_))
  exact hkept.forall₂ h hvalues hvalues'

/-- The last items of two lists are related if the lists are. -/
theorem rel_getLast? {α β : Type} {R : α → β → Prop} {l : List α} {l' : List β}
    (h : List.Forall₂ R l l') : Option.Rel R l.getLast? l'.getLast? := by
  induction h with
  | nil => exact .none
  | @cons _ _ rest rest' h _ ih =>
    rw [List.getLast?_cons, List.getLast?_cons]
    generalize rest.getLast? = last, rest'.getLast? = last' at ih
    cases ih with
    | none => exact .some h
    | some hlast => exact .some hlast

/-- Between objects a likeness is kept key by key. -/
theorem Kept.fields (hkept : Kept like) {depth : Nat} {key : String}
    {fields fields' : List (Option String × Reading)} {values values' : List (String × Json)}
    (h : List.Forall₂ like (under key fields) (under key fields'))
    (hvalues : List.Forall₂ (StandsFor fun r v => r.value? depth = .ok v) fields values)
    (hvalues' : List.Forall₂ (StandsFor fun r v => r.value? depth = .ok v) fields' values') :
    List.Forall₂ like (under key (fieldReadings (StringMap.ofList values).entries))
      (under key (fieldReadings (StringMap.ofList values').entries)) := by
  rw [under_entries, under_entries, StringMap.get?_ofList, StringMap.get?_ofList]
  have hlast := rel_getLast?
    (hkept.forall₂ h (forall₂_bindings key hvalues) (forall₂_bindings key hvalues'))
  generalize (StringMap.bindings key values).getLast? = last,
    (StringMap.bindings key values').getLast? = last' at hlast
  cases hlast with
  | none => exact .nil
  | some hlast => exact .cons hlast .nil

/-- Between items for the fields of a record likenesses are kept one by one. -/
theorem kept_items {likes : String → Likeness} (hkept : ∀ name, Kept (likes name))
    {names : List String} {depth : Nat} {items items' : List Reading} {values values' : List Json}
    (h : ItemsAlike likes names items items')
    (hvalues : List.Forall₂ (fun r v => r.value? depth = .ok v) items values)
    (hvalues' : List.Forall₂ (fun r v => r.value? depth = .ok v) items' values') :
    ItemsAlike likes names (values.map reading) (values'.map reading) := by
  induction h generalizing values values' with
  | nil names =>
    cases hvalues
    cases hvalues'
    exact .nil names
  | cons head _ ih =>
    obtain _ | ⟨hv, hvs⟩ := hvalues
    obtain _ | ⟨hv', hvs'⟩ := hvalues'
    exact .cons (hkept _ head hv hv') (ih hvs hvs')

theorem kept_map : Kept MapAlike := by
  rintro _ _ depth v v' ⟨h, -⟩ hv hv'
  obtain ⟨inner, values, hinner, hvalues, rfl⟩ := value?_obj_eq_ok hv
  obtain ⟨inner', values', hinner', hvalues', rfl⟩ := value?_obj_eq_ok hv'
  obtain rfl := Except.ok.inj (hinner.symm.trans hinner')
  refine .fields (fun key => ?_) ?_
  · have hsame := kept_eq.fields (List.forall₂_eq_eq_eq.symm ▸ h key) hvalues hvalues'
    rwa [List.forall₂_eq_eq_eq] at hsame
  · rw [fieldReadings_eq]
    exact List.forall_mem_map.mpr fun _ _ => rfl

/-- **The likeness of records is kept** if that of every field is. -/
theorem kept_record {α : Type} (rec : Record α) {likes : String → Likeness}
    (hkept : ∀ name, Kept (likes name)) : Kept (RecordAlike rec likes fun _ => True) := by
  rintro _ _ depth v v' (h | h) hv hv'
  · obtain ⟨inner, values, hinner, hvalues, rfl⟩ := value?_obj_eq_ok hv
    obtain ⟨inner', values', hinner', hvalues', rfl⟩ := value?_obj_eq_ok hv'
    obtain rfl := Except.ok.inj (hinner.symm.trans hinner')
    refine .fields ⟨fun f hf key hkey => ?_, rec.spares_fieldReadings fun _ _ => trivial⟩
    exact (hkept f.name).fields (h.found f hf key hkey) hvalues hvalues'
  · obtain ⟨inner, values, hinner, hvalues, rfl⟩ := value?_arr_eq_ok hv
    obtain ⟨inner', values', hinner', hvalues', rfl⟩ := value?_arr_eq_ok hv'
    obtain rfl := Except.ok.inj (hinner.symm.trans hinner')
    rw [reading, reading, itemReadings_eq, itemReadings_eq]
    exact .items (kept_items hkept h hvalues hvalues')

end Likeness

end Json

end Dialogue
