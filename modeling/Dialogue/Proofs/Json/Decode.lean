import Dialogue.Json.Choice
import Dialogue.Proofs.Json.Value

/-!
# What values decode to

A value decodes to something (`Dialogue.Json.Decodes`) if every source gives that for it which
allows a value of its depth: a text, a value that was read before, or a part that was set aside.
Here is when scalars, lists, maps and plain choices do, and
`Dialogue.Json.Decodes.document` for whole texts. Records and tagged choices are in
`Dialogue.Proofs.Json.Record`.
-/

namespace Dialogue

namespace Json

variable {α β : Type}

/-- **A value decodes to something**, wherever it is read. -/
def Decodes (decode : Decoder α) (v : Json) (a : α) : Prop :=
  ∀ source : Source, source.Allows v.depth → decode source v.reading = .ok a

/-- A document with nothing but the value decodes to what the value does. -/
theorem Decodes.document {decode : Decoder α} {v : Json} {a : α} (h : Decodes decode v a)
    (hdepth : v.depth ≤ depthLimit) : (document v).decode decode = .ok a := by
  rw [Document.decode, Json.document, h (.text depthLimit) hdepth]
  rfl

/-- A value that was read before decodes however deep it is. -/
theorem Decodes.value {decode : Decoder α} {v : Json} {a : α} (h : Decodes decode v a) :
    Json.decode v decode = .ok a :=
  h .value trivial

/-- What is made of a result is decoded with it. -/
theorem Decodes.map {decode : Decoder α} {v : Json} {a : α} (h : Decodes decode v a)
    (f : α → β) : Decodes (fun source r => (decode source r).map f) v (f a) := by
  intro source hsource
  exact congrArg (Except.map f) (h source hsource)

/-! ### Scalars -/

theorem decodes_string (s : String) : Decodes decodeString (.str s) s :=
  fun _ _ => rfl

theorem decodes_bool (b : Bool) : Decodes decodeBool (.bool b) b :=
  fun _ _ => rfl

/-- A number within the bound decodes to itself. -/
theorem decodes_nat {bound n : Nat} (h : n ≤ bound) : Decodes (decodeNat bound) (.int n) n := by
  intro source _
  rw [reading, decodeNat, if_pos ⟨Int.natCast_nonneg n, Int.ofNat_le.mpr h⟩, Int.toNat_natCast]

theorem decodes_nat32 {n : Nat} (h : n < UInt32.size) : Decodes decodeNat32 (.int n) n :=
  decodes_nat (Nat.le_pred_of_lt h)

theorem decodes_nat64 {n : Nat} (h : n < UInt64.size) : Decodes decodeNat64 (.int n) n :=
  decodes_nat (Nat.le_pred_of_lt h)

/-- What is kept of a value is its sorted form. -/
theorem decodes_value {v : Json} (h : v.depth ≤ depthLimit) : Decodes decodeValue v v.sorted := by
  intro source hsource
  cases source with
  | text depth => simp only [decodeValue, value?_reading v hsource]
  | value | aside => simp only [decodeValue, value?_reading v h]

/-- Null decodes to nothing. -/
theorem decodes_null (decode : Decoder α) : Decodes (decodeOption decode) .null none :=
  fun _ _ => rfl

/-- Any other value decodes to what it does without the option. -/
theorem Decodes.option {decode : Decoder α} {v : Json} {a : α} (h : Decodes decode v a)
    (hnull : v ≠ .null) : Decodes (decodeOption decode) v (some a) := by
  intro source hsource
  have hv := h source hsource
  cases v with
  | null => exact absurd rfl hnull
  | _ => exact (congrArg (Except.map some) hv).trans rfl

/-- A text or its absence decodes to itself. -/
theorem decodes_ofOption (o : Option String) :
    Decodes (decodeOption decodeString) (.ofOption o) o := by
  cases o with
  | none => exact decodes_null _
  | some s => exact (decodes_string s).option Json.noConfusion

/-! ### Lists and maps -/

/-- **A list is decoded item by item.** -/
theorem decodes_listOf {decode : Decoder α} {write : β → Json} {make : β → α} {bs : List β}
    (h : ∀ b ∈ bs, Decodes decode (write b) (make b)) :
    Decodes (decodeList decode) (.arr (bs.map write)) (bs.map make) := by
  intro source hsource
  obtain ⟨inner, henter, hinner⟩ := hsource.enter
  have hitems : ∀ b ∈ bs, decode inner (write b).reading = .ok (make b) := by
    intro b hb
    refine h b hb inner (hinner.mono ?_)
    exact itemsDepth_le_iff.mp (Nat.le_refl _) _ (List.mem_map_of_mem hb)
  rw [reading, decodeList, henter, itemReadings_eq, List.map_map]
  change Json.decodeItems decode inner .closed (bs.map fun b => (write b).reading) = _
  clear hinner h hsource
  induction bs with
  | nil => rfl
  | cons b rest ih =>
    rw [List.map_cons, decodeItems, hitems b List.mem_cons_self,
      ih fun d hd => hitems d (List.mem_cons_of_mem _ hd)]
    rfl

/-- A list whose items are read as they were written is read so as well. -/
theorem decodes_list {decode : Decoder α} {write : α → Json} {as : List α}
    (h : ∀ a ∈ as, Decodes decode (write a) a) :
    Decodes (decodeList decode) (.arr (as.map write)) as := by
  have hlist : Decodes (decodeList decode) (.arr (as.map write)) (as.map id) := decodes_listOf h
  rwa [List.map_id] at hlist

/-- Fields that decode are put into a map one after the other. -/
theorem decodeEntries_eq {decode : Decoder α} {source : Source} {write : α → Json}
    {entries : List (String × α)}
    (h : ∀ e ∈ entries, decode source (write e.2).reading = .ok e.2) (m : StringMap α) :
    decodeEntries decode source .closed
        (entries.map fun e => (some e.1, (write e.2).reading)) m =
      .ok (entries.foldl (fun m e => m.insert e.1 e.2) m) := by
  induction entries generalizing m with
  | nil => rfl
  | cons e rest ih =>
    rw [List.map_cons, decodeEntries, h e List.mem_cons_self]
    exact ih (fun d hd => h d (List.mem_cons_of_mem _ hd)) _

/-- **A map is decoded binding by binding.** -/
theorem decodes_map {decode : Decoder α} {write : α → Json} {m : StringMap α}
    (h : ∀ e ∈ m.entries, Decodes decode (write e.2) e.2) :
    Decodes (decodeMap decode) (.obj (m.entries.map fun e => (e.1, write e.2))) m := by
  intro source hsource
  obtain ⟨inner, henter, hinner⟩ := hsource.enter
  have hfields : ∀ e ∈ m.entries, decode inner (write e.2).reading = .ok e.2 := by
    intro e he
    refine h e he inner (hinner.mono ?_)
    exact fieldsDepth_le_iff.mp (Nat.le_refl _) (e.1, write e.2) (List.mem_map.mpr ⟨e, he, rfl⟩)
  have hmap : m.entries.foldl (fun m e => m.insert e.1 e.2) .empty = m := by
    obtain ⟨entries, ascending⟩ := m
    exact StringMap.mk.injEq .. ▸ StringMap.entries_ofList ascending
  rw [reading, decodeMap, henter, fieldReadings_eq, List.map_map]
  exact (decodeEntries_eq hfields .empty).trans (congrArg _ hmap)

/-! ### Choices -/

/-- The variant with a name is found, if it is the first with that name. -/
theorem variant?_eq_ok {variants : List (Variant α)} {name : String} {v : Variant α}
    (h : variants.find? (·.name == name) = some v) : variant? variants name = .ok v := by
  rw [variant?, h]

/-- **The bare name of a variant that holds nothing** decodes to the variant. -/
theorem decodes_bare {variants : List (Variant α)} {name : String} {a : α}
    (h : variants.find? (·.name == name) = some ⟨name, .unit a⟩) :
    Decodes (decodeChoice variants) (.str name) a := by
  intro source _
  cases source <;>
    simp only [decodeChoice, reading, decodeChoiceText, decodeChoiceValue, variant?_eq_ok h] <;> rfl

/-- A name is decoded to what it stands for. -/
theorem decodes_name {names : List (String × α)} {name : String} {a : α}
    (h : names.find? (·.1 == name) = some (name, a)) :
    Decodes (decodeName names) (.str name) a := by
  refine decodes_bare ?_
  rw [List.find?_map]
  exact congrArg (Option.map _) h

/-- A variant behind its name decodes to what its content does. -/
theorem decodes_keyed {variants : List (Variant α)} {name : String} {v : Variant α}
    (hfind : variants.find? (·.name == name) = some v) {content : Json} {a : α}
    (hcontent : Decodes v.decodeContent content a) :
    Decodes (decodeChoice variants) (.obj [(name, content)]) a := by
  intro source hsource
  obtain ⟨inner, henter, hinner⟩ := hsource.enter
  have hdepth : content.depth ≤ fieldsDepth [(name, content)] := Nat.le_max_left _ _
  have hfound := variant?_eq_ok hfind
  have hinside := hcontent inner (hinner.mono hdepth)
  have houtside := hcontent source (hsource.mono (Nat.le_succ_of_le hdepth))
  cases source with
  | text depth =>
    simp only [decodeChoice, reading, fieldReadings, decodeChoiceText, henter, decodeKeyed, bind,
      Except.bind, hfound, hinside]
    rfl
  | value | aside =>
    simp only [decodeChoice, reading, fieldReadings, decodeChoiceValue, bind, Except.bind, hfound,
      houtside]

/-- A variant with one value behind its name. -/
theorem decodes_single {variants : List (Variant α)} {name : String} {decode : Decoder α}
    (hfind : variants.find? (·.name == name) = some ⟨name, .single decode⟩) {content : Json}
    {a : α} (hcontent : Decodes decode content a) :
    Decodes (decodeChoice variants) (.obj [(name, content)]) a :=
  decodes_keyed hfind hcontent

/-- A variant with fields behind its name. -/
theorem decodes_record {variants : List (Variant α)} {name : String} {decode : Decoder α}
    (hfind : variants.find? (·.name == name) = some ⟨name, .record decode⟩)
    {fields : List (String × Json)} {a : α} (hcontent : Decodes decode (.obj fields) a) :
    Decodes (decodeChoice variants) (.obj [(name, .obj fields)]) a := by
  refine decodes_keyed hfind fun source hsource => ?_
  exact hcontent source hsource

end Json

end Dialogue
