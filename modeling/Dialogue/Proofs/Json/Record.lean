import Dialogue.Proofs.Json.Decode
import Dialogue.Proofs.Json.Fields

/-!
# What objects decode to

The reading of a value has no flaws, so an object decodes to what its own fields hold. A record
with several fields finds each of them as it would find it alone
(`Dialogue.Json.Record.Reads.and`), and a single field is found under its names wherever it
stands (`Dialogue.Json.Record.reads_of_found`), or missing
(`Dialogue.Json.Record.reads_of_missing`).

The same holds for records that share their object with others
(`Dialogue.Json.Record.Reads.split`), and for choices with a tag
(`Dialogue.Json.decodes_tagged`).
-/

namespace Dialogue

namespace Json

namespace Record

variable {α β : Type}

/-! ### What records decode to -/

/-- All keys of a value can be read. -/
theorem spares_fieldReadings (rec : Record α) {spare : Reading → Prop}
    {fields : List (String × Json)} (h : ∀ e ∈ fields, spare e.2.reading) :
    rec.Spares spare (fieldReadings fields) := by
  rw [Spares, fieldReadings_eq]
  exact List.forall_mem_map.mpr fun e he => ⟨e.1, rfl, fun _ => h e he⟩

/-- **The fields of an object hold a record**: this is decoded from them, wherever they are
read. -/
def Reads (rec : Record α) (fields : List (String × Json)) (a : α) : Prop :=
  ∀ source : Source, source.Allows (fieldsDepth fields) →
    rec.decodeFields source .closed (fieldReadings fields) [] rec.blank = .ok a

theorem reads_iff {rec : Record α} {fields : List (String × Json)} {a : α} :
    rec.Reads fields a ↔ ∀ source : Source, source.Allows (fieldsDepth fields) →
      rec.Gathers source (fieldReadings fields) a := by
  refine forall₂_congr fun source _ => ?_
  have hspare : rec.Spares (fun r => source.skip r = .ok ()) (fieldReadings fields) :=
    rec.spares_fieldReadings fun e _ => source.skip_reading e.2
  exact decodeFields_eq_ok_iff_gathers.trans ⟨fun h => h.2.2, fun h => ⟨rfl, hspare, h⟩⟩

theorem Reads.decodes {rec : Record α} {fields : List (String × Json)} {a : α}
    (h : rec.Reads fields a) : Decodes rec.decode (.obj fields) a := by
  intro source hsource
  obtain ⟨inner, henter, hinner⟩ := hsource.enter
  rw [reading, decode, henter]
  exact h inner hinner

/-- What is made of a record is decoded with it. -/
theorem Reads.into {rec : Record α} {fields : List (String × Json)} {a : α}
    (h : rec.Reads fields a) (make : α → β) : Decodes (rec.into make) (.obj fields) (make a) :=
  h.decodes.map make

/-- **Two records that lie apart may share an object.** -/
theorem Reads.and {first : Record α} {second : Record β} {fields : List (String × Json)} {a : α}
    {b : β} (hfirst : first.Reads fields a) (hsecond : second.Reads fields b)
    (hapart : first.Apart second) : (first.and second).Reads fields (a, b) :=
  reads_iff.mpr fun source hsource => (gathers_and_iff hapart).mpr
    ⟨reads_iff.mp hfirst source hsource, reads_iff.mp hsecond source hsource⟩

/-- The fields under the names of a field, in the reading of a value. -/
theorem among_fieldReadings (f : Field α) (fields : List (String × Json)) :
    among f (fieldReadings fields) = fieldReadings (fields.filter (f.answersTo ·.1)) := by
  rw [among, fieldReadings_eq, fieldReadings_eq, List.filter_map]
  rfl

/-- **A field that is found once**, under any of its names, is all that matters to it. -/
theorem reads_of_found {f : Field α} {blank a : α} {fields : List (String × Json)} {key : String}
    {v : Json} (hfound : fields.filter (f.answersTo ·.1) = [(key, v)])
    (hput : Decodes (fun source r => f.put source r blank) v a) :
    (Record.mk blank [f]).Reads fields a := by
  refine reads_iff.mpr fun source hsource => gathers_single_iff.mpr (.inr ⟨key, v.reading, ?_, ?_⟩)
  · rw [among_fieldReadings, hfound]
    rfl
  · have hmem : (key, v) ∈ fields :=
      (List.mem_filter.mp (hfound ▸ List.mem_singleton_self (key, v))).1
    exact hput source (hsource.mono (fieldsDepth_le_iff.mp (Nat.le_refl _) _ hmem))

/-- **A field that may be left out** stays blank if it is not found. -/
theorem reads_of_missing {f : Field α} {blank : α} {fields : List (String × Json)}
    (hmissing : fields.filter (f.answersTo ·.1) = []) (hfree : f.presence ≠ .required) :
    (Record.mk blank [f]).Reads fields blank := by
  refine reads_iff.mpr fun source _ => gathers_single_iff.mpr (.inl ⟨?_, hfree, rfl⟩)
  rw [among_fieldReadings, hmissing]
  rfl

section Kinds

variable {decode : Decoder α} {name : String} {fields : List (String × Json)} {v : Json} {a : α}

/-- A field without other names is found under its name only. -/
theorem filter_answersTo (name : String) (fields : List (String × Json)) :
    fields.filter (fun e => name == e.1 || [].contains e.1) = fields.filter (name == ·.1) :=
  List.filter_congr fun e _ => Bool.or_false (name == e.1)

theorem reads_required {blank : α} (hfound : fields.filter (name == ·.1) = [(name, v)])
    (hv : Decodes decode v a) : (required name decode blank).Reads fields a :=
  reads_of_found ((filter_answersTo name fields).trans hfound) hv

theorem reads_defaulted {blank : α} (hfound : fields.filter (name == ·.1) = [(name, v)])
    (hv : Decodes decode v a) : (defaulted name decode blank).Reads fields a :=
  reads_of_found ((filter_answersTo name fields).trans hfound) hv

theorem reads_text {s : String} (hfound : fields.filter (name == ·.1) = [(name, .str s)]) :
    (text name).Reads fields s :=
  reads_required hfound (decodes_string s)

theorem reads_optionalText {o : Option String}
    (hfound : fields.filter (name == ·.1) = [(name, .ofOption o)]) :
    (optionalText name).Reads fields o :=
  reads_of_found ((filter_answersTo name fields).trans hfound) (decodes_ofOption o)

end Kinds

/-! ### Records that share their object -/

/-- The fields of an object that belong to others. -/
def others (rec : Record α) (fields : List (String × Json)) : List (String × Json) :=
  fields.filter fun e => (rec.field? e.1).isNone

theorem foreign_fieldReadings (rec : Record α) (fields : List (String × Json)) :
    rec.foreign (fieldReadings fields) = fieldReadings (rec.others fields) := by
  rw [foreign, others, fieldReadings_eq, fieldReadings_eq, List.filter_map]
  rfl

/-- **A record decodes beside the fields of others.** -/
theorem Reads.split {rec : Record α} {fields : List (String × Json)} {a : α} {b : β}
    (h : rec.Reads fields a)
    {finish : α → List (Option String × Reading) → Except DecodeError β}
    (hfinish : finish a (fieldReadings (rec.others fields)) = .ok b) :
    Decodes (rec.split finish) (.obj fields) b := by
  intro source hsource
  obtain ⟨inner, henter, hinner⟩ := hsource.enter
  have haside : rec.Spares (fun r => inner.setAside r = .ok ()) (fieldReadings fields) :=
    rec.spares_fieldReadings fun e he =>
      Source.setAside_reading (hinner.mono (fieldsDepth_le_iff.mp (Nat.le_refl _) e he))
  have hsplit := splitFields_eq_ok_iff.mpr
    ⟨rfl, haside, reads_iff.mp h inner hinner, (rec.foreign_fieldReadings fields).symm⟩
  rw [reading, Record.split]
  exact bind_eq_ok_iff.mpr ⟨inner, henter, bind_eq_ok_iff.mpr ⟨_, hsplit, hfinish⟩⟩

/-- Fields that were set aside hold a record wherever they come from. -/
theorem Reads.decodeAside {rec : Record α} {fields : List (String × Json)} {a : α}
    (h : rec.Reads fields a) : rec.decodeAside (fieldReadings fields) = .ok a :=
  h .aside trivial

end Record

/-! ### Choices with a tag -/

variable {α : Type}

/-- The fields of an object beside its tag. -/
def untagged (tag : String) (fields : List (String × Json)) : List (String × Json) :=
  fields.filter fun e => e.1 != tag

theorem beside_fieldReadings (tag : String) (fields : List (String × Json)) :
    beside tag (fieldReadings fields) = fieldReadings (untagged tag fields) := by
  rw [beside, untagged, fieldReadings_eq, fieldReadings_eq, List.filter_map]
  rfl

/-- In the reading of a value stands under a key what the value has there. -/
theorem under_fieldReadings (key : String) (fields : List (String × Json)) :
    under key (fieldReadings fields) = (fields.filter (·.1 == key)).map (·.2.reading) := by
  induction fields with
  | nil => rfl
  | cons e rest ih =>
    rw [fieldReadings, under_cons, ih, List.filter_cons]
    by_cases heq : e.1 = key <;> simp [heq]

/-- Wherever a value is allowed, the fields beside a tag can be set aside. -/
theorem setsAside_fieldReadings {source : Source} {fields : List (String × Json)}
    (hsource : source.Allows (fieldsDepth fields)) (tag : String) :
    SetsAside tag source (fieldReadings fields) := by
  rw [SetsAside, fieldReadings_eq]
  refine List.forall_mem_map.mpr fun e he => ⟨e.1, rfl, fun _ => ?_⟩
  exact Source.setAside_reading (hsource.mono (fieldsDepth_le_iff.mp (Nat.le_refl _) e he))

/-- Fields with a tag among them decode to what the others do for the variant with that name. -/
theorem decodeTaggedFields_eq_ok {tag name : String} {fields : List (String × Json)}
    (htag : fields.filter (·.1 == tag) = [(tag, .str name)]) {variants : List (Variant α)}
    {v : Variant α} (hfind : variants.find? (·.name == name) = some v) {a : α}
    (hcontent : v.decodeAside (Json.obj (untagged tag fields)).reading = .ok a)
    {source : Source} (hsource : source.Allows (fieldsDepth fields)) :
    decodeTaggedFields tag variants source .closed (fieldReadings fields) = .ok a := by
  have hunder : under tag (fieldReadings fields) = [.str name] := by
    rw [under_fieldReadings, htag]
    rfl
  have hfound : findTag tag variants source .closed (fieldReadings fields) none =
      .ok (v, beside tag (fieldReadings fields)) :=
    findTag_eq_ok_iff.mpr ⟨rfl, setsAside_fieldReadings hsource tag, rfl, _, hunder,
      variant?_eq_ok hfind⟩
  rw [decodeTaggedFields, hfound, beside_fieldReadings]
  exact hcontent

/-- **A choice with a tag** decodes to what the other fields do for the variant with that
name. -/
theorem decodes_tagged {tag name : String} {fields : List (String × Json)}
    (htag : fields.filter (·.1 == tag) = [(tag, .str name)]) {variants : List (Variant α)}
    {v : Variant α} (hfind : variants.find? (·.name == name) = some v) {a : α}
    (hcontent : v.decodeAside (Json.obj (untagged tag fields)).reading = .ok a) :
    Decodes (decodeTagged tag variants) (.obj fields) a := by
  intro source hsource
  obtain ⟨inner, henter, hinner⟩ := hsource.enter
  rw [reading, decodeTagged, henter]
  exact decodeTaggedFields_eq_ok htag hfind hcontent hinner

end Json

end Dialogue
