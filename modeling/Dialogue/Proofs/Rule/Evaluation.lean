import Dialogue.Rule.Evaluation

/-!
# What an evaluation finds and notes

Evaluating a rule set stops at the first rule that settles the outcome. Nevertheless the
outcome is that of the whole set, and whatever is noted on the way belongs to the node for
which the set is evaluated (`Dialogue.RuleSet.exists_evaluate`).
-/

namespace Dialogue

/-- The node for which rules are evaluated or an edge is refused in a step. -/
def TraceEvent.weighedAt? : TraceEvent → Option String
  | .ruleEvaluated node .. | .ruleSetEvaluated node .. => some node
  | .guardRejected source .. => some source
  | _ => none

namespace Rule

variable (decisive : Bool) (store : Store) (node : String) (rules : List Rule)

/-- Rules are decided by any of them whose outcome is decisive. -/
theorem fst_evaluateUntil :
    (evaluateUntil decisive store node rules).1 =
      if rules.any (·.holds store == decisive) then decisive else !decisive := by
  induction rules with
  | nil => simp [evaluateUntil]
  | cons r rest ih =>
    rw [evaluateUntil, List.any_cons]
    by_cases h : r.holds store = decisive
    · simp [h]
    · rw [if_neg h, beq_eq_false_iff_ne.mpr h, Bool.false_or]
      exact ih

variable {decisive store node rules}

theorem weighedAt?_evaluateUntil {e : TraceEvent}
    (he : e ∈ (evaluateUntil decisive store node rules).2) : e.weighedAt? = some node := by
  induction rules with
  | nil => simp [evaluateUntil] at he
  | cons r rest ih =>
    unfold evaluateUntil at he
    split at he
    · obtain rfl := List.mem_singleton.mp he
      rfl
    · rcases List.mem_cons.mp he with rfl | hrest
      · rfl
      · exact ih hrest

end Rule

namespace RuleSet

variable {store : Store} {node : String} {output : Option String}

theorem fst_evaluate (rules : RuleSet) :
    (rules.evaluate store node output).1 = rules.holds store := by
  obtain ⟨combinator, rules⟩ := rules
  cases rules with
  | nil => rfl
  | cons r rest =>
    have hfst : (evaluate ⟨combinator, r :: rest⟩ store node output).1 =
        (Rule.evaluateUntil (combinator == .or) store node (r :: rest)).1 := rfl
    rw [hfst, Rule.fst_evaluateUntil]
    cases combinator with
    | and =>
      have hand : (Combinator.and == Combinator.or) = false := rfl
      simp only [holds, isEmpty, List.isEmpty_cons, Bool.false_or, hand, beq_false]
      rw [List.all_eq_not_any_not]
      cases (r :: rest).any (!·.holds store) <;> rfl
    | or =>
      have hor : (Combinator.or == Combinator.or) = true := rfl
      simp only [holds, isEmpty, List.isEmpty_cons, Bool.false_or, hor, beq_true]
      cases (r :: rest).any (·.holds store) <;> rfl

theorem weighedAt?_evaluate {rules : RuleSet} {e : TraceEvent}
    (he : e ∈ (rules.evaluate store node output).2) : e.weighedAt? = some node := by
  rw [evaluate] at he
  rcases List.mem_append.mp he with hrules | hset
  · split at hrules
    · simp at hrules
    · exact Rule.weighedAt?_evaluateUntil hrules
  · obtain rfl := List.mem_singleton.mp hset
    rfl

/-- **An evaluation finds whether the set holds**, and notes what belongs to its node. -/
theorem exists_evaluate (rules : RuleSet) (store : Store) (node : String)
    (output : Option String) :
    ∃ log, rules.evaluate store node output = (rules.holds store, log) ∧
      ∀ e ∈ log, e.weighedAt? = some node :=
  ⟨_, Prod.ext rules.fst_evaluate rfl, fun _ => weighedAt?_evaluate⟩

end RuleSet

end Dialogue
