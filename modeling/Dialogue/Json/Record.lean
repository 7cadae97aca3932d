import Dialogue.Json.Decode

/-!
# Decoding records

A record is described by its fields in the order of declaration
(`Dialogue.Json.Record`): single fields are put together by
`Dialogue.Json.Record.and`, and what they decode to is a tuple. It is decoded from an
object or from an array.

In an object the fields come in any order. A known key must not stand there twice,
not even under two of its names; unknown keys are passed over; and fields that are
still missing at the end are reported in the order of declaration. In an array the
fields come in the order of declaration, and trailing ones may be left out if they
have a default.

A record whose fields are mixed with those of others (`Dialogue.Json.Record.split`)
is decoded from objects only: the keys of others are set aside for them.
-/

namespace Dialogue

namespace Json

/-- Whether a field may be left out. -/
inductive Presence
  | required
  /-- An optional value: a missing key means that there is none, but an array must
  have an item for it. -/
  | nullable
  | defaulted
  deriving DecidableEq, Repr

/-- A field of a record `α`. -/
structure Field (α : Type) where
  /-- The name that errors show. -/
  name : String
  /-- The other keys under which the field is found. -/
  aliases : List String
  presence : Presence
  /-- Decodes the field and puts it into the record. -/
  put : Source → Reading → α → Except DecodeError α

/-- A record type: the record before any field is put into it, and the fields in the
order of declaration. -/
structure Record (α : Type) where
  blank : α
  fields : List (Field α)

namespace Field

variable {α β : Type}

/-- Whether the field is found under a key. -/
def answersTo (f : Field α) (key : String) : Bool :=
  f.name == key || f.aliases.contains key

/-- The field as one of the first component of a pair. -/
def inFirst (f : Field α) : Field (α × β) :=
  { f with put := fun source r p => (f.put source r p.1).map (·, p.2) }

/-- The field as one of the second component of a pair. -/
def inSecond (f : Field β) : Field (α × β) :=
  { f with put := fun source r p => (f.put source r p.2).map (p.1, ·) }

end Field

namespace Record

variable {α β : Type}

/-! ### Describing records -/

/-- A single field that must be there; `blank` stands in for it until it is put. -/
def required (name : String) (decode : Decoder α) (blank : α) : Record α :=
  ⟨blank, [⟨name, [], .required, fun source r _ => decode source r⟩]⟩

/-- A single field that may be null or, in an object, missing. -/
def nullable (name : String) (decode : Decoder α) : Record (Option α) :=
  ⟨none, [⟨name, [], .nullable, fun source r _ => decodeOption decode source r⟩]⟩

/-- A single field that has the given value if it is left out. -/
def defaulted (name : String) (decode : Decoder α) (value : α) : Record α :=
  ⟨value, [⟨name, [], .defaulted, fun source r _ => decode source r⟩]⟩

/-- A single text that must be there. -/
def text (name : String) : Record String :=
  required name decodeString ""

/-- A single text that may be null or, in an object, missing. -/
def optionalText (name : String) : Record (Option String) :=
  nullable name decodeString

/-- The fields are also found under other keys. -/
def orAs (rec : Record α) (aliases : List String) : Record α :=
  { rec with fields := rec.fields.map fun f => { f with aliases := f.aliases ++ aliases } }

/-- The fields of two records, one after the other. -/
def and (first : Record α) (second : Record β) : Record (α × β) where
  blank := (first.blank, second.blank)
  fields := first.fields.map Field.inFirst ++ second.fields.map Field.inSecond

/-! ### Decoding -/

/-- The field that is found under a key. -/
def field? (rec : Record α) (key : String) : Option (Field α) :=
  rec.fields.find? (·.answersTo key)

/-- Checks, at the end of an object, that no required field is missing. -/
def checkMissing (rec : Record α) (seen : List String) : Except DecodeError Unit :=
  match rec.fields.find? (fun f => f.presence == .required && !seen.contains f.name) with
  | some f => .error (.missingField f.name)
  | none => .ok ()

/-- Decodes the fields of an object; `seen` are the names of those already put. -/
def decodeFields (rec : Record α) (source : Source) (stop : Stop) :
    List (Option String × Reading) → List String → α → Except DecodeError α
  | [], seen, a => do
    stopAt stop.readFault
    rec.checkMissing seen
    return a
  | (none, _) :: _, _, _ => .error (.fault .malformed)
  | (some key, r) :: rest, seen, a =>
    match rec.field? key with
    | none => do
      source.skip r
      decodeFields rec source stop rest seen a
    | some f =>
      if seen.contains f.name then
        .error (.duplicateField f.name)
      else do
        let a ← f.put source r a
        decodeFields rec source stop rest (f.name :: seen) a

/-- The end of an array whose items are used up: nothing may follow. -/
def endItems (source : Source) (stop : Stop) : List Reading → Except DecodeError Unit
  | [] => stopAt stop.endFault
  | _ :: _ => match source with
    | .text _ => .error (.fault .malformed)
    | .value | .aside => .error .invalidLength

/-- Decodes the items of an array as the given fields. -/
def decodeItems (source : Source) (stop : Stop) :
    List (Field α) → List Reading → α → Except DecodeError α
  | [], items, a => do
    endItems source stop items
    return a
  | f :: fields, item :: items, a => do
    let a ← f.put source item a
    decodeItems source stop fields items a
  | f :: fields, [], a => do
    stopAt stop.readFault
    if f.presence == .defaulted then
      decodeItems source stop fields [] a
    else
      .error .invalidLength

/-- Decodes an object or an array. -/
def decode (rec : Record α) : Decoder α
  | source, .obj fields stop => do
    rec.decodeFields (← source.enter) stop fields [] rec.blank
  | source, .arr items stop => do
    Record.decodeItems (← source.enter) stop rec.fields items rec.blank
  | _, r => mismatch r

/-- Decodes the own fields of an object that also holds those of others, and returns
those of others in their order. -/
def splitFields (rec : Record α) (source : Source) (stop : Stop) :
    List (Option String × Reading) → List String → α →
      Except DecodeError (α × List (Option String × Reading))
  | [], seen, a => do
    stopAt stop.readFault
    rec.checkMissing seen
    return (a, [])
  | (none, _) :: _, _, _ => .error (.fault .malformed)
  | (some key, r) :: rest, seen, a =>
    match rec.field? key with
    | none => do
      source.setAside r
      let (a, others) ← splitFields rec source stop rest seen a
      return (a, (some key, r) :: others)
    | some f =>
      if seen.contains f.name then
        .error (.duplicateField f.name)
      else do
        let a ← f.put source r a
        splitFields rec source stop rest (f.name :: seen) a

/-- Decodes an object that also holds the fields of others; `finish` decodes those
once the own ones are complete. -/
def split (rec : Record α)
    (finish : α → List (Option String × Reading) → Except DecodeError β) : Decoder β
  | source, .obj fields stop => do
    let (a, others) ← rec.splitFields (← source.enter) stop fields [] rec.blank
    finish a others
  | _, .arr _ _ => .error .invalidType
  | _, r => mismatch r

/-- Decodes an object or an array and makes something of the record. -/
def into (rec : Record α) (make : α → β) : Decoder β := fun source r =>
  (rec.decode source r).map make

/-- Decodes a record from fields that were set aside, where those of others do not
matter. -/
def decodeAside (rec : Record α) (fields : List (Option String × Reading)) :
    Except DecodeError α :=
  rec.decodeFields .aside .closed fields [] rec.blank

end Record

end Json

end Dialogue
