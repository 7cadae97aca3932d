import Dialogue.Trace.Basic

/-!
# Evaluating rule sets

The evaluation of a rule set as a session performs it: rule after rule, up to the
first one that settles the outcome, with a log of every rule looked at and of the
outcome.
-/

namespace Dialogue

/-- The log entry about one rule. -/
def Rule.logEntry (r : Rule) (store : Store) (node : String) : TraceEvent :=
  .ruleEvaluated node r.field r.operator.name r.operand (store.get? r.field) (r.holds store)

/-- Evaluates rules up to the first one whose outcome is `decisive`, which is then the
outcome of all; otherwise the outcome is the other one. -/
def Rule.evaluateUntil (decisive : Bool) (store : Store) (node : String) :
    List Rule → Bool × List TraceEvent
  | [] => (!decisive, [])
  | r :: rest =>
    if r.holds store = decisive then
      (decisive, [r.logEntry store node])
    else
      let (result, log) := Rule.evaluateUntil decisive store node rest
      (result, r.logEntry store node :: log)

/-- Evaluates a rule set on behalf of a node and, in a condition with several outputs,
of one of its outputs. -/
def RuleSet.evaluate (s : RuleSet) (store : Store) (node : String) (output : Option String) :
    Bool × List TraceEvent :=
  let (result, log) :=
    if s.isEmpty then
      (true, [])
    else
      Rule.evaluateUntil (s.combinator == .or) store node s.rules
  (result, log ++ [.ruleSetEvaluated node output result])

end Dialogue
