import Dialogue.Json.Basic
import Dialogue.StringMap

/-!
# What reading a JSON text finds

A text is read from left to right, and a reader that looks for a certain shape
stops at the first problem it meets: the wrong shape, or a place where the text is
no JSON. So that the two can be weighed against each other, a text is first turned
into a `Dialogue.Json.Reading`: the tree of what it says, with marks where it
breaks off.

Some flaws matter only to a reader who wants the value. A string may hold half of
a surrogate pair and a number may be too large for a double: such a value cannot
be read, but it can be skipped. A mark therefore carries two faults, the one met in
reading on and the one, if any, met in skipping on.

`Dialogue.Json.Reading.value?` turns a reading into the value it stands for, and
`Dialogue.Json.reading` is the reading of a text that holds a value without flaw.
-/

namespace Dialogue

namespace Json

/-- Why a text is no JSON text: it breaks a rule of the grammar, or it ends early. -/
inductive Fault
  | malformed
  | truncated
  deriving DecidableEq, Repr

/-- Where a value breaks off: inside a string, inside the word `null`, inside another
scalar, or before it has begun. -/
inductive Torn
  | text
  | null
  | word
  | nothing
  deriving DecidableEq, Repr

/-- How the items of an array or the fields of an object end. -/
inductive Stop
  /-- With the closing bracket. -/
  | closed
  /-- With a fault, which may come after a comma. -/
  | cut (afterComma : Bool) (read skip : Fault)
  deriving DecidableEq, Repr

/-- What reading a JSON text finds. A key that can only be skipped is `none`. -/
inductive Reading
  | null
  | bool (value : Bool)
  | int (value : Int)
  | decimal (literal : String)
  | str (value : String)
  | arr (items : List Reading) (stop : Stop)
  | obj (fields : List (Option String × Reading)) (stop : Stop)
  | torn (what : Torn) (read : Fault) (skip : Option Fault)
  deriving Inhabited

/-- The fault met in reading on past the last item or field. -/
def Stop.readFault : Stop → Option Fault
  | closed => none
  | cut _ read _ => some read

/-- The fault met in skipping on past the last item or field. -/
def Stop.skipFault : Stop → Option Fault
  | closed => none
  | cut _ _ skip => some skip

/-- The fault met by a reader that accepts nothing but the closing bracket next. -/
def Stop.endFault : Stop → Option Fault
  | closed => none
  | cut true _ _ => some .malformed
  | cut false read _ => some read

mutual

/-- The fault met in skipping a value, if any. -/
def Reading.skipFault : Reading → Option Fault
  | .arr items stop => (itemsSkipFault items).or stop.skipFault
  | .obj fields stop => (fieldsSkipFault fields).or stop.skipFault
  | .torn _ _ skip => skip
  | _ => none

/-- The fault met in skipping some items, if any. -/
def itemsSkipFault : List Reading → Option Fault
  | [] => none
  | item :: rest => item.skipFault.or (itemsSkipFault rest)

/-- The fault met in skipping some fields, if any. -/
def fieldsSkipFault : List (Option String × Reading) → Option Fault
  | [] => none
  | (_, value) :: rest => value.skipFault.or (fieldsSkipFault rest)

end

/-- The number of arrays and objects that may lie inside one another in a text that
is read. -/
def depthLimit : Nat :=
  127

/-- Goes one level deeper, if the limit allows it. -/
def descend : Nat → Except Fault Nat
  | 0 => .error .malformed
  | depth + 1 => .ok depth

/-- Nothing, or a fault. -/
def Fault.check : Option Fault → Except Fault Unit
  | none => .ok ()
  | some fault => .error fault

mutual

/-- The value a reading stands for, at most `depth` levels deep. The keys of its
objects are in ascending order, and of a repeated key the last field counts. -/
def Reading.value? (depth : Nat) : Reading → Except Fault Json
  | .null => .ok .null
  | .bool b => .ok (.bool b)
  | .int n => .ok (.int n)
  | .decimal literal => .ok (.decimal literal)
  | .str s => .ok (.str s)
  | .torn _ read _ => .error read
  | .arr items stop => do
    let values ← itemValues? (← descend depth) items
    Fault.check stop.readFault
    return .arr values
  | .obj fields stop => do
    let values ← fieldValues? (← descend depth) fields
    Fault.check stop.readFault
    return .obj (StringMap.ofList values).entries

/-- The values of some items. -/
def itemValues? (depth : Nat) : List Reading → Except Fault (List Json)
  | [] => .ok []
  | item :: rest => do
    let value ← item.value? depth
    return value :: (← itemValues? depth rest)

/-- The keys and values of some fields. -/
def fieldValues? (depth : Nat) :
    List (Option String × Reading) → Except Fault (List (String × Json))
  | [] => .ok []
  | (none, _) :: _ => .error .malformed
  | (some key, field) :: rest => do
    let value ← field.value? depth
    return (key, value) :: (← fieldValues? depth rest)

end

mutual

/-- The reading of a text that holds exactly the given value. -/
def reading : Json → Reading
  | .null => .null
  | .bool b => .bool b
  | .int n => .int n
  | .decimal literal => .decimal literal
  | .str s => .str s
  | .arr items => .arr (itemReadings items) .closed
  | .obj fields => .obj (fieldReadings fields) .closed

/-- The readings of some items. -/
def itemReadings : List Json → List Reading
  | [] => []
  | item :: rest => reading item :: itemReadings rest

/-- The readings of some fields. -/
def fieldReadings : List (String × Json) → List (Option String × Reading)
  | [] => []
  | (key, value) :: rest => (some key, reading value) :: fieldReadings rest

end

end Json

end Dialogue
