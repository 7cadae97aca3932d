import Dialogue.Proofs.Pass.Route

/-!
# What routing reads of a store

A rule reads the value of its field, and of that only what is left without outer blanks. A
variable without a value reads like a blank one (`Dialogue.Store.trimmed`). All comparisons
are made with what is read, so stores that read alike for the rules of a node
(`Dialogue.Store.ReadsLike`) lead to the same resolution after it
(`Dialogue.Flow.resolve_congr`), and stores that read alike for all rules of a flow lead
along the same routes (`Dialogue.Flow.route_congr`).

The logs do differ: a rule that is evaluated is noted with the value as it is stored.
-/

namespace Dialogue

/-- A variable as rules read it: its value without outer blanks, or the empty text if it has
no value. -/
def Store.trimmed (s : Store) (name : String) : String :=
  Text.trim ((s.get? name).getD "")

/-- **Two stores read alike** for some rules. -/
def Store.ReadsLike (rules : List Rule) (store store' : Store) : Prop :=
  ∀ r ∈ rules, store'.trimmed r.field = store.trimmed r.field

theorem Store.ReadsLike.refl (rules : List Rule) (store : Store) : ReadsLike rules store store :=
  fun _ _ => rfl

theorem Store.ReadsLike.mono {rules more : List Rule} {store store' : Store}
    (h : ReadsLike more store store') (hsub : rules ⊆ more) : ReadsLike rules store store' :=
  fun r hr => h r (hsub hr)

/-! ### Comparisons -/

/-- What counts of a value are its characters without outer blanks. -/
theorem Operator.fieldText_eq (field : Option String) :
    fieldText field = (Text.trim (field.getD "")).toList := by
  cases field with
  | none => rfl
  | some s => exact (Text.toList_trim s).symm

/-- **No comparison tells values apart that read alike.** -/
theorem Operator.holds_congr {field field' : Option String}
    (h : Text.trim (field'.getD "") = Text.trim (field.getD "")) (op : Operator)
    (operand : String) : op.holds field' operand = op.holds field operand := by
  have htext : fieldText field' = fieldText field := by rw [fieldText_eq, h, fieldText_eq]
  cases op <;> simp only [holds, sameText, amongItems, foldedField, htext]

section Stores

variable {store store' : Store}

theorem Rule.holds_congr {r : Rule} (h : store'.trimmed r.field = store.trimmed r.field) :
    r.holds store' = r.holds store :=
  Operator.holds_congr h r.operator r.operand

theorem RuleSet.holds_congr {s : RuleSet} (h : store.ReadsLike s.rules store') :
    s.holds store' = s.holds store := by
  have hrule : ∀ r ∈ s.rules, r.holds store' = r.holds store :=
    fun r hr => Rule.holds_congr (h r hr)
  have hall : s.rules.all (·.holds store') = s.rules.all (·.holds store) := by
    rw [Bool.eq_iff_iff, List.all_eq_true, List.all_eq_true]
    exact forall₂_congr fun r hr => by rw [hrule r hr]
  have hany : s.rules.any (·.holds store') = s.rules.any (·.holds store) := by
    rw [Bool.eq_iff_iff, List.any_eq_true, List.any_eq_true]
    exact exists_congr fun r => and_congr_right fun hr => by rw [hrule r hr]
  rw [holds, hall, hany, holds]

end Stores

/-! ### Rules of a flow -/

/-- The rules that a condition decides by. -/
def Condition.rules : Condition → List Rule
  | simple s => s.rules
  | multiOutput outputs => outputs.flatMap (·.ruleSet.rules)

/-- The rules of a node. Only a condition has any. -/
def Node.rules (n : Node) : List Rule :=
  (n.condition?.map Condition.rules).getD []

namespace Flow

/-- The rules of a flow. -/
def rules (flow : Flow) : List Rule :=
  flow.nodes.flatMap Node.rules

theorem rules_subset {flow : Flow} {n : Node} (h : n ∈ flow.nodes) : n.rules ⊆ flow.rules :=
  fun _ hr => List.mem_flatMap.mpr ⟨n, h, hr⟩

variable {flow : Flow} {store store' : Store} {n : Node}

/-! ### The same resolution -/

/-- **The same outputs are taken** for stores that read alike. -/
theorem fst_tryOutputs_congr (source : String) (edges : List Edge) {outputs : List Output}
    (h : store.ReadsLike (outputs.flatMap (·.ruleSet.rules)) store') (rejected : Bool) :
    (flow.tryOutputs source edges store' outputs rejected).1 =
      (flow.tryOutputs source edges store outputs rejected).1 := by
  induction outputs generalizing rejected with
  | nil => rfl
  | cons output rest ih =>
    have hsame : output.ruleSet.holds store' = output.ruleSet.holds store :=
      RuleSet.holds_congr (h.mono (by simp))
    have hrest := ih (h.mono (by simp))
    obtain ⟨log, heval, -⟩ := output.ruleSet.exists_evaluate store source (some output.value)
    obtain ⟨log', heval', -⟩ := output.ruleSet.exists_evaluate store' source (some output.value)
    rw [tryOutputs, heval', tryOutputs, heval, hsame]
    cases output.ruleSet.holds store with
    | false => exact hrest rejected
    | true =>
      cases edgeThrough? edges output.value with
      | none => rfl
      | some edge =>
        simp only [if_true]
        generalize flow.follow source edge (some output.value) = followed
        obtain ⟨outcome, tried⟩ := followed
        rcases outcome with defect | _ | target
        · rfl
        · exact hrest true
        · rfl

/-- **The same is found after a node** for stores that read alike for its rules. The node
need not belong to the flow. -/
theorem resolve_congr (h : store.ReadsLike n.rules store') :
    (flow.resolve n store').1 = (flow.resolve n store).1 := by
  unfold resolve
  cases flow.outgoing n.id with
  | nil => rfl
  | cons edge others =>
    cases hc : n.content with
    | condition c =>
      have hrules : n.rules = c.rules := by simp [Node.rules, Node.condition?, hc]
      rw [hrules] at h
      cases c with
      | simple ruleSet =>
        obtain ⟨log, heval, -⟩ := ruleSet.exists_evaluate store n.id none
        obtain ⟨log', heval', -⟩ := ruleSet.exists_evaluate store' n.id none
        have hsame : ruleSet.holds store' = ruleSet.holds store := RuleSet.holds_congr h
        simp only [heval, heval', hsame]
        generalize (if ruleSet.holds store then Condition.trueHandle
          else Condition.falseHandle) = handle
        cases edgeThrough? (edge :: others) handle <;> rfl
      | multiOutput outputs => exact fst_tryOutputs_congr n.id _ h false
    | _ => rfl

/-- **The same route is taken** for stores that read alike for the rules of the flow. -/
theorem route_congr (h : store.ReadsLike flow.rules store')
    (hn : flow.node? n.id = some n) (limit : Nat) (entered : List String) (steps : Nat) :
    flow.route store' limit n entered steps = flow.route store limit n entered steps := by
  have hmem : n ∈ flow.nodes := (node?_eq_some_iff.mp hn).1
  have hsame : (flow.resolve n store').1 = (flow.resolve n store).1 :=
    resolve_congr (h.mono (rules_subset hmem))
  induction steps generalizing n entered with
  | zero =>
    unfold route
    rw [hsame]
  | succ steps ih =>
    obtain ⟨r, hr, -⟩ := flow.exists_resolution n store
    have hr' := hsame.trans hr
    cases r with
    | endOfFlow => rw [route_of_endOfFlow hr, route_of_endOfFlow hr']
    | unresolved reason => rw [route_of_unresolved hr, route_of_unresolved hr']
    | next next edge =>
      by_cases hseen : next.id ∈ entered
      · rw [route_of_mem hr hseen, route_of_mem hr' hseen]
      · cases hhalts : next.haltsPass with
        | true => rw [route_of_halts hr hseen hhalts, route_of_halts hr' hseen hhalts]
        | false =>
          have hnext : flow.node? next.id = some next := node?_of_next hr
          have hmem' : next ∈ flow.nodes := (node?_eq_some_iff.mp hnext).1
          rw [route_of_transit hr hseen hhalts, route_of_transit hr' hseen hhalts,
            ih hnext (next.id :: entered) hmem' (resolve_congr (h.mono (rules_subset hmem')))]

end Flow

end Dialogue
