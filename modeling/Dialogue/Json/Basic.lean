/-!
# JSON values

A JSON value as a tree. Objects keep their fields in written order, and a key may
stand in one more than once: what a repeated key means is for the reader of the
object to decide. Whole numbers within 64 bits are kept as such; all others keep
the literal they were written with.
-/

namespace Dialogue

/-- A JSON value. -/
inductive Json
  | null
  | bool (value : Bool)
  | int (value : Int)
  | decimal (literal : String)
  | str (value : String)
  | arr (items : List Json)
  | obj (fields : List (String × Json))
  deriving Inhabited

namespace Json

/-- A text, or null in its absence. -/
def ofOption : Option String → Json
  | none => null
  | some s => str s

/-- A field that is left out of its object when it has no value. -/
def optionalField {α : Type} (key : String) (encode : α → Json) :
    Option α → List (String × Json)
  | none => []
  | some value => [(key, encode value)]

end Json

end Dialogue
