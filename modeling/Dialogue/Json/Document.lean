import Dialogue.Json.Token

/-!
# Whole JSON texts

`Dialogue.Json.Document` is what reading a whole text finds: the reading of the
value it begins with, and whether anything but blanks follows it. The tokens are
taken one at a time by `Dialogue.Json.Builder.step`, which keeps the arrays and
objects that are still open.
-/

namespace Dialogue

namespace Json

/-- What reading a whole text finds. -/
structure Document where
  root : Reading
  /-- Whether something follows the value. -/
  trailing : Bool

/-- An array or an object with a value that is being read. The items or fields before
that value are in reverse order. -/
inductive Frame
  | item (before : List Reading)
  | field (before : List (Option String × Reading)) (key : Option String)

/-- What is due next; items and fields that are read are in reverse order. -/
inductive Builder
  | value (outer : List Frame)
  | firstItem (outer : List Frame)
  | nextItem (items : List Reading) (outer : List Frame)
  | afterItem (items : List Reading) (outer : List Frame)
  | firstKey (outer : List Frame)
  | nextKey (fields : List (Option String × Reading)) (outer : List Frame)
  | colon (fields : List (Option String × Reading)) (key : Option String) (outer : List Frame)
  | afterField (fields : List (Option String × Reading)) (outer : List Frame)
  | done (document : Document)

namespace Builder

/-- Hands a finished value to the innermost open array or object. -/
def supply (v : Reading) : List Frame → Builder
  | [] => done ⟨v, false⟩
  | .item before :: outer => afterItem (v :: before) outer
  | .field before key :: outer => afterField ((key, v) :: before) outer

/-- Closes all that is open around a value at which the text breaks off. -/
def breakOff (v : Reading) : List Frame → Builder
  | [] => done ⟨v, false⟩
  | .item before :: outer => breakOff (.arr (v :: before).reverse .closed) outer
  | .field before key :: outer => breakOff (.obj ((key, v) :: before).reverse .closed) outer

/-- The value that is due does not begin. -/
def noValue (fault : Fault) : Reading :=
  .torn .nothing fault (some fault)

/-- Takes a token that begins a value; none if the token does not begin one. -/
def begin? (outer : List Frame) : Token → Option Builder
  | .openArray => some (firstItem outer)
  | .openObject => some (firstKey outer)
  | .text (some s) => some (supply (.str s) outer)
  | .text none => some (supply (.torn .text .malformed none) outer)
  | .scalar v => some (supply v outer)
  | .broken what read skip => some (breakOff (.torn what read (some skip)) outer)
  | .closeArray | .closeObject | .colon | .comma | .stray => none

/-- Takes one token. -/
def step : Builder → Token → Builder
  | value outer, t => (begin? outer t).getD (breakOff (noValue .malformed) outer)
  | firstItem outer, t =>
    match t with
    | .closeArray => supply (.arr [] .closed) outer
    | _ => (begin? (.item [] :: outer) t).getD
        (breakOff (.arr [] (.cut false .malformed .malformed)) outer)
  | nextItem items outer, t =>
    (begin? (.item items :: outer) t).getD
      (breakOff (.arr items.reverse (.cut true .malformed .malformed)) outer)
  | afterItem items outer, t =>
    match t with
    | .comma => nextItem items outer
    | .closeArray => supply (.arr items.reverse .closed) outer
    | _ => breakOff (.arr items.reverse (.cut false .malformed .malformed)) outer
  | firstKey outer, t =>
    match t with
    | .closeObject => supply (.obj [] .closed) outer
    | .text key => colon [] key outer
    | .broken .text read skip => breakOff (.obj [] (.cut false read skip)) outer
    | _ => breakOff (.obj [] (.cut false .malformed .malformed)) outer
  | nextKey fields outer, t =>
    match t with
    | .text key => colon fields key outer
    | .broken .text read skip => breakOff (.obj fields.reverse (.cut true read skip)) outer
    | _ => breakOff (.obj fields.reverse (.cut true .malformed .malformed)) outer
  | colon fields key outer, t =>
    match t with
    | .colon => value (.field fields key :: outer)
    | _ => breakOff (noValue .malformed) (.field fields key :: outer)
  | afterField fields outer, t =>
    match t with
    | .comma => nextKey fields outer
    | .closeObject => supply (.obj fields.reverse .closed) outer
    | _ => breakOff (.obj fields.reverse (.cut false .malformed .malformed)) outer
  | done document, _ => done { document with trailing := true }

/-- The builder when the text ends here. -/
def finished : Builder → Builder
  | value outer => breakOff (noValue .truncated) outer
  | firstItem outer => breakOff (.arr [] (.cut false .truncated .truncated)) outer
  | nextItem items outer => breakOff (.arr items.reverse (.cut true .truncated .truncated)) outer
  | afterItem items outer => breakOff (.arr items.reverse (.cut false .truncated .truncated)) outer
  | firstKey outer => breakOff (.obj [] (.cut false .truncated .truncated)) outer
  | nextKey fields outer => breakOff (.obj fields.reverse (.cut true .truncated .truncated)) outer
  | colon fields key outer => breakOff (noValue .truncated) (.field fields key :: outer)
  | afterField fields outer =>
    breakOff (.obj fields.reverse (.cut false .truncated .truncated)) outer
  | done document => done document

/-- The document when the text ends here. -/
def finish (b : Builder) : Document :=
  match b.finished with
  | done document => document
  | _ => ⟨noValue .truncated, false⟩

end Builder

/-- What reading the bytes of a text finds. -/
def Document.ofBytes (bytes : List UInt8) : Document :=
  ((tokens bytes).foldl Builder.step (.value [])).finish

/-- What reading a text finds. -/
def Document.ofText (text : String) : Document :=
  ofBytes text.toUTF8.toList

/-- The value that a whole text holds. -/
def Document.value? (d : Document) : Except Fault Json := do
  let value ← d.root.value? depthLimit
  if d.trailing then .error .malformed else return value

/-- The document that holds a value and nothing else. -/
def document (value : Json) : Document :=
  ⟨value.reading, false⟩

end Json

end Dialogue
