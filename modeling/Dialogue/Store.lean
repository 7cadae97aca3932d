import Dialogue.StringMap

/-!
# Stored answers

A session keeps the last answer given to each variable, and on request also the
history of all writes.
-/

namespace Dialogue

/-- A recorded write to a variable. -/
structure Write where
  name : String
  value : String
  /-- The value that was overwritten. -/
  previous : Option String
  /-- The question that was answered. -/
  node : String
  deriving DecidableEq, Repr

/-- The variables of a session. Without a history none is kept, which is not the same
as an empty one. -/
structure Store where
  values : StringMap String
  history : Option (List Write)
  deriving DecidableEq

namespace Store

/-- No variables and no history. -/
def empty : Store :=
  ⟨.empty, none⟩

/-- No variables, and a history that is kept from now on. -/
def emptyWithHistory : Store :=
  ⟨.empty, some []⟩

instance : Inhabited Store :=
  ⟨empty⟩

/-- The given variables, without a history. -/
def ofMap (values : StringMap String) : Store :=
  ⟨values, none⟩

/-- The value of a variable. -/
def get? (s : Store) (name : String) : Option String :=
  s.values.get? name

/-- Writes a variable, on behalf of the question `node`. -/
def set (s : Store) (name value node : String) : Store :=
  { values := s.values.insert name value
    history := s.history.map (· ++ [⟨name, value, s.get? name, node⟩]) }

/-- What a variable holds after a write. -/
theorem get?_set (s : Store) (name value node other : String) :
    (s.set name value node).get? other = if other = name then some value else s.get? other :=
  s.values.get?_insert name other value

/-- Whether a variable has a value. -/
def contains (s : Store) (name : String) : Bool :=
  s.values.contains name

/-- The number of variables that have a value. -/
def size (s : Store) : Nat :=
  s.values.size

end Store

end Dialogue
