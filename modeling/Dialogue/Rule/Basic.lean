import Dialogue.Rule.Operator
import Dialogue.Store

/-!
# Rules and conditions

A rule compares one variable with an operand. Rules are gathered into sets, of which
all or any must hold, and sets decide where a condition leads: a simple condition
asks whether its one set holds, a condition with several outputs takes the first
output whose set holds. `Dialogue.RuleSet.holds` says when a set holds; the record of
an evaluation is the business of `Dialogue.RuleSet.evaluate`.
-/

namespace Dialogue

/-- A comparison of a variable with an operand. -/
structure Rule where
  /-- The variable. -/
  field : String
  operator : Operator
  /-- The operand; items with commas between them for the list operators. -/
  operand : String
  deriving DecidableEq, Repr

/-- How many of its rules must hold for a set to hold. -/
inductive Combinator
  | and
  | or
  deriving DecidableEq, Repr

/-- Rules and the way they combine. -/
structure RuleSet where
  combinator : Combinator
  rules : List Rule
  deriving DecidableEq, Repr

/-- A branch of a condition with several outputs. -/
structure Output where
  /-- The handle of the edge that leaves through this output. -/
  value : String
  /-- A text for authors. -/
  label : Option String
  ruleSet : RuleSet
  deriving DecidableEq, Repr

/-- What a condition node decides by. -/
inductive Condition
  /-- One set, which leads through the handle `true` or `false`. -/
  | simple (ruleSet : RuleSet)
  /-- The first output whose set holds. -/
  | multiOutput (outputs : List Output)
  deriving DecidableEq, Repr

namespace Combinator

/-- The name of a combinator in documents. -/
def name : Combinator → String
  | and => "and"
  | or => "or"

end Combinator

/-- Whether a rule holds of the stored variables. -/
def Rule.holds (r : Rule) (store : Store) : Bool :=
  r.operator.holds (store.get? r.field) r.operand

namespace RuleSet

/-- The set without rules, which always holds. -/
def always : RuleSet :=
  ⟨.and, []⟩

/-- Whether the set has no rules. -/
def isEmpty (s : RuleSet) : Bool :=
  s.rules.isEmpty

/-- Whether the set holds of the stored variables: it has no rules, or as many of them
hold as its combinator asks for. -/
def holds (s : RuleSet) (store : Store) : Bool :=
  s.isEmpty || match s.combinator with
    | .and => s.rules.all (·.holds store)
    | .or => s.rules.any (·.holds store)

end RuleSet

/-- The value of the first output whose set holds. -/
def Output.firstMatch? (outputs : List Output) (store : Store) : Option String :=
  (outputs.find? (·.ruleSet.holds store)).map (·.value)

namespace Condition

/-- The handle taken when a simple condition holds. -/
def trueHandle : String :=
  "true"

/-- The handle taken when a simple condition does not hold. -/
def falseHandle : String :=
  "false"

/-- The handles that edges leaving the condition may have. -/
def handles : Condition → List String
  | simple _ => [trueHandle, falseHandle]
  | multiOutput outputs => outputs.map (·.value)

end Condition

end Dialogue
