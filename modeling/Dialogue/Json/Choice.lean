import Dialogue.Json.Record

/-!
# Decoding choices

A choice between variants is written in one of two ways. The plain way
(`Dialogue.Json.decodeChoice`) writes the variant's name, or an object with the name
as its only key and the variant's content as its value. The tagged way
(`Dialogue.Json.decodeTagged`) writes the name into a field of its own, beside the
fields of the variant.
-/

namespace Dialogue

namespace Json

/-- What a variant holds. -/
inductive Content (α : Type)
  /-- Nothing. -/
  | unit (a : α)
  /-- One value. -/
  | single (decode : Decoder α)
  /-- The fields of a record. -/
  | record (decode : Decoder α)

/-- A variant of a choice: its name and what it holds. -/
structure Variant (α : Type) where
  name : String
  content : Content α

variable {α : Type}

/-- The variant with a name. -/
def variant? (variants : List (Variant α)) (name : String) : Except DecodeError (Variant α) :=
  match variants.find? (·.name == name) with
  | some v => .ok v
  | none => .error (.unknownVariant name (variants.map (·.name)))

/-! ### The plain way -/

/-- Decodes a variant that is written as its bare name. -/
def Variant.decodeBare (v : Variant α) : Except DecodeError α :=
  match v.content with
  | .unit a => .ok a
  | .single _ | .record _ => .error .invalidType

/-- Decodes the content that stands behind the name of a variant. A variant that
holds nothing has null there or, in a part set aside, an empty object. Within a
value a record must be written as an object. -/
def Variant.decodeContent (v : Variant α) : Decoder α := fun source r =>
  match v.content with
  | .unit a => match r, source with
    | .null, _ => .ok a
    | .obj [] _, .aside => .ok a
    | r, _ => mismatch r
  | .single decode => decode source r
  | .record decode => match r, source with
    | .arr _ _, .value => .error .invalidType
    | r, _ => decode source r

/-- A choice within a text that is written as an object. Nothing may follow its only
field. -/
def decodeKeyed (variants : List (Variant α)) (source : Source) (stop : Stop) :
    List (Option String × Reading) → Except DecodeError α
  | [] => .error (.fault (stop.readFault.getD .malformed))
  | (none, _) :: _ => .error (.fault .malformed)
  | (some name, r) :: rest => do
    let v ← variant? variants name
    let a ← v.decodeContent source r
    if rest.isEmpty then
      stopAt stop.endFault
      return a
    else
      .error (.fault .malformed)

/-- A choice within a text: whatever is neither a string nor an object is malformed. -/
def decodeChoiceText (variants : List (Variant α)) (source : Source) :
    Reading → Except DecodeError α
  | .str name => do (← variant? variants name).decodeBare
  | .obj fields stop => do decodeKeyed variants (← source.enter) stop fields
  | .torn .text read _ | .torn .nothing read _ => .error (.fault read)
  | _ => .error (.fault .malformed)

/-- A choice within a value. -/
def decodeChoiceValue (variants : List (Variant α)) (source : Source) :
    Reading → Except DecodeError α
  | .str name => do (← variant? variants name).decodeBare
  | .obj [(some name, r)] _ => do (← variant? variants name).decodeContent source r
  | .obj _ _ => .error .invalidValue
  | _ => .error .invalidType

/-- A choice that is written the plain way. -/
def decodeChoice (variants : List (Variant α)) : Decoder α := fun source r =>
  match source with
  | .text _ => decodeChoiceText variants source r
  | .value | .aside => decodeChoiceValue variants source r

/-- A choice between values that hold nothing, given with their names. -/
def decodeName (names : List (String × α)) : Decoder α :=
  decodeChoice (names.map fun (name, a) => ⟨name, .unit a⟩)

/-! ### The tagged way -/

/-- The variant named by a tag. In a part set aside a variant may also be given by its
position. -/
def decodeTag (variants : List (Variant α)) : Decoder (Variant α)
  | _, .str name => variant? variants name
  | .aside, .int n =>
    if n < 0 then .error .invalidType
    else match variants[n.toNat]? with
      | some v => .ok v
      | none => .error .invalidValue
  | _, r => mismatch r

/-- Decodes a variant whose fields were set aside. -/
def Variant.decodeAside (v : Variant α) (r : Reading) : Except DecodeError α :=
  match v.content with
  | .unit a => .ok a
  | .single decode | .record decode => decode .aside r

/-- Finds the tag among the fields of an object, and sets the other fields aside. -/
def findTag (tag : String) (variants : List (Variant α)) (source : Source) (stop : Stop) :
    List (Option String × Reading) → Option (Variant α) →
      Except DecodeError (Variant α × List (Option String × Reading))
  | [], found => do
    stopAt stop.readFault
    match found with
    | some v => return (v, [])
    | none => .error (.missingField tag)
  | (none, _) :: _, _ => .error (.fault .malformed)
  | (some key, r) :: rest, found =>
    if key = tag then
      match found with
      | some _ => .error (.duplicateField tag)
      | none => do
        let v ← decodeTag variants source r
        findTag tag variants source stop rest (some v)
    else do
      source.setAside r
      let (v, others) ← findTag tag variants source stop rest found
      return (v, (some key, r) :: others)

/-- Sets all items aside. -/
def setItemsAside (source : Source) (stop : Stop) : List Reading → Except DecodeError Unit
  | [] => stopAt stop.readFault
  | item :: rest => do
    source.setAside item
    setItemsAside source stop rest

/-- Decodes a tagged choice from the fields of an object. -/
def decodeTaggedFields (tag : String) (variants : List (Variant α)) (source : Source)
    (stop : Stop) (fields : List (Option String × Reading)) : Except DecodeError α := do
  let (v, others) ← findTag tag variants source stop fields none
  v.decodeAside (.obj others .closed)

/-- A choice that is written the tagged way: an object with the tag among its fields, or
an array with the tag before the fields of the variant. -/
def decodeTagged (tag : String) (variants : List (Variant α)) : Decoder α
  | source, .obj fields stop => do
    decodeTaggedFields tag variants (← source.enter) stop fields
  | source, .arr [] stop => do
    let _ ← source.enter
    stopAt stop.readFault
    .error (.missingField tag)
  | source, .arr (item :: rest) stop => do
    let inner ← source.enter
    let v ← decodeTag variants inner item
    setItemsAside inner stop rest
    v.decodeAside (.arr rest .closed)
  | _, r => mismatch r

end Json

end Dialogue
