import Mathlib.Data.List.Basic
import Dialogue.Proofs.Pass.Moves
import Dialogue.Proofs.Rule.Evaluation

/-!
# Which rules an evaluation looks at

An evaluation goes through the rules of a set and stops at the first one that settles the
outcome: one that fails where all must hold, one that holds where any will do
(`Dialogue.RuleSet.decisive`). The rules it looks at are those up to and including that one, or
all of them if none settles it (`Dialogue.Rule.LookedAt`).

Every rule that is looked at is noted, in order, with the value it was compared with and its
outcome, and after them the outcome of the set. That is all that is added to a trace
(`Dialogue.RuleSet.evaluate_exact`). While the log depends on the order of the rules, the
outcome depends on nothing but which rules there are.
-/

namespace Dialogue

/-! ### Rules up to a decisive one -/

namespace Rule

/-- **The rules that are looked at** among some rules: those up to and including the first one
with a decisive outcome, or all of them if there is none. -/
inductive LookedAt (decisive : Bool) (store : Store) : List Rule → List Rule → Prop
  /-- A rule is decisive, and no rule before it is. -/
  | upTo (passed : List Rule) (r : Rule) (rest : List Rule)
      (calm : ∀ p ∈ passed, p.holds store ≠ decisive) (settled : r.holds store = decisive) :
      LookedAt decisive store (passed ++ r :: rest) (passed ++ [r])
  /-- No rule is decisive. -/
  | all (rules : List Rule) (calm : ∀ r ∈ rules, r.holds store ≠ decisive) :
      LookedAt decisive store rules rules

variable {decisive : Bool} {store : Store} {r : Rule} {rules looked : List Rule}

/-- A rule that is not decisive is passed. -/
theorem LookedAt.cons (h : LookedAt decisive store rules looked) (hr : r.holds store ≠ decisive) :
    LookedAt decisive store (r :: rules) (r :: looked) := by
  cases h with
  | upTo passed s rest calm settled =>
    exact LookedAt.upTo (r :: passed) s rest (List.forall_mem_cons.mpr ⟨hr, calm⟩) settled
  | all _ calm => exact LookedAt.all (r :: rules) (List.forall_mem_cons.mpr ⟨hr, calm⟩)

/-- **What is noted are the rules that are looked at.** -/
theorem exists_lookedAt (decisive : Bool) (store : Store) (node : String) (rules : List Rule) :
    ∃ looked, LookedAt decisive store rules looked ∧
      (evaluateUntil decisive store node rules).2 = looked.map (·.logEntry store node) := by
  induction rules with
  | nil => exact ⟨[], LookedAt.all [] (by simp), rfl⟩
  | cons r rest ih =>
    by_cases hr : r.holds store = decisive
    · refine ⟨[r], LookedAt.upTo [] r rest (by simp) hr, ?_⟩
      rw [evaluateUntil, if_pos hr]
      rfl
    · obtain ⟨looked, hlooked, hlog⟩ := ih
      refine ⟨r :: looked, hlooked.cons hr, ?_⟩
      rw [evaluateUntil, if_neg hr, List.map_cons, ← hlog]

end Rule

/-! ### Rule sets -/

namespace RuleSet

variable {s s' : RuleSet} {store : Store} {node : String} {output : Option String}

/-- The outcome of a rule that settles what the set comes to: where all rules must hold it is
settled by one that fails, where any will do by one that holds. -/
def decisive (s : RuleSet) : Bool :=
  match s.combinator with
  | .and => false
  | .or => true

theorem beq_or_eq_decisive (s : RuleSet) : (s.combinator == .or) = s.decisive := by
  unfold decisive
  cases s.combinator <;> rfl

/-- **When a set holds**: it has no rules, or all of them hold, or one of them does where that
is enough. -/
theorem holds_iff : s.holds store = true ↔
    s.rules = [] ∨ (s.combinator = .and ∧ ∀ r ∈ s.rules, r.holds store = true) ∨
      (s.combinator = .or ∧ ∃ r ∈ s.rules, r.holds store = true) := by
  obtain ⟨combinator, rules⟩ := s
  cases combinator <;> simp [holds, isEmpty]

/-- **Order and repetition do not matter** for what a set comes to. -/
theorem holds_eq_of_mem_iff (hcombinator : s'.combinator = s.combinator)
    (hrules : ∀ r, r ∈ s'.rules ↔ r ∈ s.rules) : s'.holds store = s.holds store := by
  have hempty : s'.rules = [] ↔ s.rules = [] := by
    simp only [List.eq_nil_iff_forall_not_mem, hrules]
  rw [Bool.eq_iff_iff, holds_iff, holds_iff]
  simp only [hempty, hcombinator, hrules]

/-- **The log of an evaluation** are the rules looked at, in order, and the outcome. -/
theorem snd_evaluate (s : RuleSet) (store : Store) (node : String) (output : Option String) :
    ∃ looked, Rule.LookedAt s.decisive store s.rules looked ∧
      (s.evaluate store node output).2 = looked.map (·.logEntry store node) ++
        [.ruleSetEvaluated node output (s.evaluate store node output).1] := by
  cases hrules : s.rules with
  | nil =>
    refine ⟨[], Rule.LookedAt.all [] (by simp), ?_⟩
    simp [evaluate, isEmpty, hrules]
  | cons r rest =>
    obtain ⟨looked, hlooked, hlog⟩ := Rule.exists_lookedAt s.decisive store node (r :: rest)
    refine ⟨looked, hlooked, ?_⟩
    rw [← hlog, ← beq_or_eq_decisive]
    simp [evaluate, isEmpty, hrules]

end RuleSet

/-! ### The trace so far -/

namespace Trace

/-- Events as the next entries of a trace: their numbers go on from its last one. -/
def nextEntries (t : Trace) (events : List TraceEvent) : List TraceEntry :=
  events.mapIdx fun i e => ⟨t.entries.length + i + 1, e⟩

/-- **Extending a trace leaves its entries alone** and numbers the new ones on from them. -/
theorem entries_extend_eq (t : Trace) (events : List TraceEvent) :
    (t.extend events).entries = t.entries ++ t.nextEntries events := by
  induction events generalizing t with
  | nil => simp [nextEntries]
  | cons e rest ih =>
    rw [extend_cons, ih, nextEntries, nextEntries, List.mapIdx_cons]
    simp [push, Nat.add_assoc, Nat.add_comm 1]

end Trace

namespace RuleSet

/-- **An evaluation is exact and fully noted.** It finds that the set has no rules, or that all
of its rules hold, or, where that is enough, that one of them does. Whatever is in a trace so
far stays there; added to it is an entry for every rule up to and including the first one that
settles the outcome, or for all rules if none does, each with the stored value of its field and
its own outcome, and then one entry with the outcome of the set. Sets with the same combinator
and the same rules, in whatever order and however often each, have the same outcome. -/
theorem evaluate_exact (s : RuleSet) (store : Store) (node : String) (output : Option String) :
    ((s.evaluate store node output).1 = true ↔
      s.rules = [] ∨ (s.combinator = .and ∧ ∀ r ∈ s.rules, r.holds store = true) ∨
        (s.combinator = .or ∧ ∃ r ∈ s.rules, r.holds store = true)) ∧
    (∃ looked, Rule.LookedAt s.decisive store s.rules looked ∧
      ∀ t : Trace, (t.extend (s.evaluate store node output).2).entries =
        t.entries ++ t.nextEntries
          (looked.map (fun r => .ruleEvaluated node r.field r.operator.name r.operand
              (store.get? r.field) (r.holds store)) ++
            [.ruleSetEvaluated node output (s.evaluate store node output).1])) ∧
    ∀ s' : RuleSet, s'.combinator = s.combinator → (∀ r, r ∈ s'.rules ↔ r ∈ s.rules) →
      ∀ node' output', (s'.evaluate store node' output').1 =
        (s.evaluate store node output).1 := by
  refine ⟨?_, ?_, ?_⟩
  · rw [fst_evaluate]
    exact holds_iff
  · obtain ⟨looked, hlooked, hlog⟩ := s.snd_evaluate store node output
    refine ⟨looked, hlooked, fun t => ?_⟩
    rw [Trace.entries_extend_eq, hlog]
    rfl
  · intro s' hcombinator hrules node' output'
    rw [fst_evaluate, fst_evaluate]
    exact holds_eq_of_mem_iff hcombinator hrules

/-- A set of which any rule will do holds because of its second rule. The same rules in another
order, one of them twice, come to the same. -/
theorem evaluate_exact_any :
    let gold : Rule := ⟨"card", .equals, "gold"⟩
    let silver : Rule := ⟨"card", .equals, "silver"⟩
    let bronze : Rule := ⟨"card", .equals, "bronze"⟩
    let store := Store.empty.set "card" "Silver" "ask"
    let s : RuleSet := ⟨.or, [gold, silver, bronze]⟩
    let s' : RuleSet := ⟨.or, [bronze, silver, gold, silver]⟩
    s'.combinator = s.combinator ∧ (∀ r, r ∈ s'.rules ↔ r ∈ s.rules) ∧
      (s.evaluate store "check" none).1 = true ∧
      (s'.evaluate store "again" (some "yes")).1 = true := by
  intro gold silver bronze store s s'
  have hrules : ∀ r, r ∈ s'.rules ↔ r ∈ s.rules := by
    intro r
    simp only [s, s', List.mem_cons, List.not_mem_nil, or_false]
    tauto
  obtain ⟨hresult, -, hsame⟩ := evaluate_exact s store "check" none
  have hholds : (s.evaluate store "check" none).1 = true :=
    hresult.mpr (Or.inr (Or.inr ⟨rfl, silver, by simp [s], by decide⟩))
  exact ⟨rfl, hrules, hholds, (hsame s' rfl hrules "again" (some "yes")).trans hholds⟩

end RuleSet

end Dialogue
