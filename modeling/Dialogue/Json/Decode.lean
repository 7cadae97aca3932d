import Dialogue.Json.Document

/-!
# Decoding JSON

A `Dialogue.Json.Decoder` turns a reading into a value of the library, or says why
it is none. It is told where the reading comes from (`Dialogue.Json.Source`): a
text that is still being read may break off, and its arrays and objects must not
lie too deep; a value that was read before has neither problem, but is stricter
about how a choice may be written.

Here are the decoders of scalars, lists and maps. Those of records and choices are
in `Dialogue.Json.Record` and `Dialogue.Json.Choice`.
-/

namespace Dialogue

namespace Json

/-- Why a text or a value does not decode. -/
inductive DecodeError
  /-- The text is no JSON text. -/
  | fault (fault : Fault)
  | missingField (name : String)
  | duplicateField (name : String)
  /-- A choice by a name that is not among those expected. -/
  | unknownVariant (name : String) (expected : List String)
  | invalidType
  | invalidValue
  | invalidLength
  | invalidSessionId
  deriving DecidableEq, Repr

/-- A name as it is shown in a decoding error. -/
def ticked (name : String) : String :=
  "\x60" ++ name ++ "\x60"

/-- The names that are expected, as they are shown in a decoding error. -/
def expectation : List String → String
  | [] => "there are no variants"
  | [a] => "expected " ++ ticked a
  | [a, b] => "expected " ++ ticked a ++ " or " ++ ticked b
  | names => "expected one of " ++ String.intercalate ", " (names.map ticked)

/-- The text of a decoding error. -/
def DecodeError.message : DecodeError → String
  | fault .malformed => "malformed JSON"
  | fault .truncated => "unexpected end of JSON"
  | missingField name => "missing field " ++ ticked name
  | duplicateField name => "duplicate field " ++ ticked name
  | unknownVariant name expected => "unknown variant " ++ ticked name ++ ", " ++ expectation expected
  | invalidType => "invalid type"
  | invalidValue => "invalid value"
  | invalidLength => "invalid length"
  | invalidSessionId => "UUID parsing failed"

/-- Where a reading comes from. -/
inductive Source
  /-- From a text, with the given number of levels still allowed. -/
  | text (depth : Nat)
  /-- From a value: no flaws, and no key repeated. -/
  | value
  /-- From a part of a text or a value that was set aside: no flaws, but keys may
  repeat. -/
  | aside
  deriving DecidableEq, Repr

/-- Turns a reading into a value of the library. -/
abbrev Decoder (α : Type) := Source → Reading → Except DecodeError α

/-- Stops at a fault, if there is one. -/
def stopAt : Option Fault → Except DecodeError Unit
  | none => .ok ()
  | some fault => .error (.fault fault)

/-- Goes into an array or an object. -/
def Source.enter : Source → Except DecodeError Source
  | text 0 => .error (.fault .malformed)
  | text (depth + 1) => .ok (text depth)
  | value => .ok value
  | aside => .ok aside

/-- Passes over a value nobody asks for. -/
def Source.skip (source : Source) (r : Reading) : Except DecodeError Unit :=
  match source with
  | text _ => stopAt r.skipFault
  | value | aside => .ok ()

/-- Reads a value to the end, to decode it later. -/
def Source.setAside (source : Source) (r : Reading) : Except DecodeError Unit :=
  match source with
  | text depth => match r.value? depth with
    | .ok _ => .ok ()
    | .error fault => .error (.fault fault)
  | value | aside => .ok ()

/-- The error of a reading that has another type than the one wanted. A scalar that
breaks off is found out first. -/
def mismatch {α : Type} : Reading → Except DecodeError α
  | .torn _ read _ => .error (.fault read)
  | _ => .error .invalidType

/-! ### Scalars -/

/-- A string. -/
def decodeString : Decoder String
  | _, .str s => .ok s
  | _, r => mismatch r

/-- A truth value. -/
def decodeBool : Decoder Bool
  | _, .bool b => .ok b
  | _, r => mismatch r

/-- A whole number from zero to `bound`. -/
def decodeNat (bound : Nat) : Decoder Nat
  | _, .int n => if 0 ≤ n ∧ n ≤ bound then .ok n.toNat else .error .invalidValue
  | _, r => mismatch r

/-- Whole numbers of 32 bits. -/
def decodeNat32 : Decoder Nat :=
  decodeNat (UInt32.size - 1)

/-- Whole numbers of 64 bits. -/
def decodeNat64 : Decoder Nat :=
  decodeNat (UInt64.size - 1)

/-- Null, or what the given decoder takes. Whether it is null is found out first, so
that decoder is not asked about a `null` that breaks off. -/
def decodeOption {α : Type} (decode : Decoder α) : Decoder (Option α)
  | _, .null => .ok none
  | _, .torn .null read _ => .error (.fault read)
  | source, r => (decode source r).map some

/-! ### Lists, maps and free values -/

/-- The items of an array, each decoded in turn. -/
def decodeItems {α : Type} (decode : Decoder α) (source : Source) (stop : Stop) :
    List Reading → Except DecodeError (List α)
  | [] => do
    stopAt stop.readFault
    return []
  | item :: rest => do
    let a ← decode source item
    return a :: (← decodeItems decode source stop rest)

/-- An array, each item of which the given decoder takes. -/
def decodeList {α : Type} (decode : Decoder α) : Decoder (List α)
  | source, .arr items stop => do
    decodeItems decode (← source.enter) stop items
  | _, r => mismatch r

/-- The fields of an object, each decoded in turn and added to a map. -/
def decodeEntries {α : Type} (decode : Decoder α) (source : Source) (stop : Stop) :
    List (Option String × Reading) → StringMap α → Except DecodeError (StringMap α)
  | [], m => do
    stopAt stop.readFault
    return m
  | (none, _) :: _, _ => .error (.fault .malformed)
  | (some key, r) :: rest, m => do
    let a ← decode source r
    decodeEntries decode source stop rest (m.insert key a)

/-- An object with any keys, each value of which the given decoder takes; of a
repeated key the last field counts. -/
def decodeMap {α : Type} (decode : Decoder α) : Decoder (StringMap α)
  | source, .obj fields stop => do
    decodeEntries decode (← source.enter) stop fields .empty
  | _, r => mismatch r

/-- Any value at all. -/
def decodeValue : Decoder Json := fun source r =>
  let depth := match source with
    | .text depth => depth
    | .value | .aside => depthLimit
  match r.value? depth with
  | .ok value => .ok value
  | .error fault => .error (.fault fault)

/-! ### Texts and values -/

/-- Decodes a whole text: the value it begins with, after which nothing may follow. -/
def Document.decode {α : Type} (d : Document) (decode : Decoder α) : Except DecodeError α := do
  let a ← decode (.text depthLimit) d.root
  if d.trailing then .error (.fault .malformed) else return a

/-- Decodes a value that was read before. -/
def decode {α : Type} (value : Json) (decode : Decoder α) : Except DecodeError α :=
  decode .value value.reading

end Json

end Dialogue
