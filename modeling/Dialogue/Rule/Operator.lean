import Dialogue.Number.Binary64
import Dialogue.Text.Blank
import Dialogue.Text.Lowercase
import Dialogue.Text.Search

/-!
# Rule operators

The comparisons that a rule can make between the value of a variable and its
operand. A variable without a value counts as the empty text, and blanks at either
end never matter. Equality, the affix tests and the list tests also ignore letter
case; the search for a part does not. The two numeric comparisons hold only between
texts that are decimal numerals of a finite double.
-/

namespace Dialogue

/-- A comparison between the value of a variable and an operand. -/
inductive Operator
  | equals
  | notEquals
  | contains
  | startsWith
  | endsWith
  | greaterThan
  | lessThan
  | isEmpty
  | isNotEmpty
  | inList
  | notInList
  deriving DecidableEq, Repr

namespace Operator

/-- All operators, in the order of declaration. -/
def all : List Operator :=
  [equals, notEquals, contains, startsWith, endsWith, greaterThan, lessThan, isEmpty, isNotEmpty,
    inList, notInList]

/-- The name of an operator in documents and traces. -/
def name : Operator → String
  | equals => "equals"
  | notEquals => "not_equals"
  | contains => "contains"
  | startsWith => "starts_with"
  | endsWith => "ends_with"
  | greaterThan => "greater_than"
  | lessThan => "less_than"
  | isEmpty => "is_empty"
  | isNotEmpty => "is_not_empty"
  | inList => "in_list"
  | notInList => "not_in_list"

/-- The operator with a name. -/
def ofName? (s : String) : Option Operator :=
  all.find? (·.name == s)

/-! ### The comparisons -/

/-- The characters of a value that count: none for a variable without a value. -/
def fieldText : Option String → List Char
  | none => []
  | some s => Text.trimmed s.toList

/-- Characters as they are compared without regard to letter case and outer blanks. -/
def folded (cs : List Char) : List Char :=
  Text.lowered (Text.trimmed cs)

/-- A value as it is compared without regard to letter case and outer blanks. -/
def foldedField (field : Option String) : List Char :=
  Text.lowered (fieldText field)

/-- The number a text stands for, in units of `2 ^ -1074`; none if it is no decimal
numeral or too large. -/
def number? (cs : List Char) : Option Int :=
  (Number.Decimal.read? (Text.trimmed cs)).bind (·.toDouble?)

/-- The items of a list operand. -/
def listItems (operand : String) : List (List Char) :=
  (Text.pieces operand.toList).map folded

/-- Whether value and operand are the same text. -/
def sameText (field : Option String) (operand : String) : Bool :=
  foldedField field == folded operand.toList

/-- Whether the value is among the items of the operand. -/
def amongItems (field : Option String) (operand : String) : Bool :=
  (listItems operand).contains (foldedField field)

/-- Whether both texts are numbers and the first is less than the second. -/
def numberLess (a b : List Char) : Bool :=
  match number? a, number? b with
  | some x, some y => decide (x < y)
  | _, _ => false

/-- Whether the comparison holds between the value of a variable and an operand. -/
def holds (op : Operator) (field : Option String) (operand : String) : Bool :=
  match op with
  | equals => sameText field operand
  | notEquals => !sameText field operand
  | contains => Text.occursIn (Text.trimmed operand.toList) (fieldText field)
  | startsWith => (folded operand.toList).isPrefixOf (foldedField field)
  | endsWith => (folded operand.toList).isSuffixOf (foldedField field)
  | greaterThan => numberLess operand.toList (fieldText field)
  | lessThan => numberLess (fieldText field) operand.toList
  | isEmpty => (fieldText field).isEmpty
  | isNotEmpty => !(fieldText field).isEmpty
  | inList => amongItems field operand
  | notInList => !amongItems field operand

end Operator

end Dialogue
