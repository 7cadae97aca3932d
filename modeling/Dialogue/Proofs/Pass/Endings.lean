import Dialogue.Proofs.Pass.Effect

/-!
# How a pass ends

A caller sees of the end of a pass only the event that closes it. An early completion has
two causes, that no edge leaves a node, or that none can be followed while the settings let
this pass (`Dialogue.Ending.closing_eq_early_iff`); an abort has two as well
(`Dialogue.Ending.closing_eq_aborted_iff`). Which of them it was is told by what was found
after the nodes on the route (`Dialogue.Flow.findings`): all but the last of these findings
are next nodes, and the last one goes with the ending.
-/

namespace Dialogue

/-- **The reasons to stop a pass** before a node that it would go on to. -/
def Abort.Stops : Abort → Prop
  | .cycle _ | .stepLimit _ => True
  | .noEdge .. | .allRejected _ | .defect _ => False

/-! ### Closing events -/

namespace Ending

variable {ending : Ending} {policy : DeadEndPolicy} {store : Store}

/-- **A pass aborts the session** if it is stopped, or if it comes to a dead end and the
policy says so. -/
theorem closing_eq_aborted_iff {reason : Abort} :
    ending.closing policy store = .aborted reason ↔
      ending = .stopped reason ∨ policy = .abort ∧ ending = .unresolved reason := by
  cases ending with
  | arrival n =>
    simp only [closing, Node.closing]
    split <;> simp
  | unresolved reason' => cases policy <;> simp [closing]
  | _ => simp [closing]

/-- **A pass completes the session early** if no edge leaves the node that it comes to, or
if it comes to a dead end and the policy says so. -/
theorem closing_eq_early_iff {values : StringMap String} {endNode : Option String} :
    ending.closing policy store = .completed values true endNode ↔
      (values = store.values ∧ endNode = none) ∧
        (ending = .endOfFlow ∨ policy = .complete ∧ ∃ reason, ending = .unresolved reason) := by
  cases ending with
  | arrival n =>
    simp only [closing, Node.closing]
    split <;> simp
  | endOfFlow => simp [closing, eq_comm]
  | unresolved reason => cases policy <;> simp [closing, eq_comm]
  | stopped reason => simp [closing]

/-- **The policy matters at dead ends alone.** -/
theorem closing_congr (h : ∀ reason, ending ≠ .unresolved reason) (policy' : DeadEndPolicy) :
    ending.closing policy' store = ending.closing policy store := by
  cases ending with
  | unresolved reason => exact absurd rfl (h reason)
  | _ => rfl

end Ending

namespace Flow

/-! ### Findings -/

/-- **What is found on a route** from the node `origin`: the outcomes of looking for the next
node, as often as this is done. -/
def findings (flow : Flow) (store : Store) (origin : Node) (r : Route) :
    List (Except Defect Resolution) :=
  (origin :: r.transit).map fun n => (flow.resolve n store).1

namespace Leads

variable {flow : Flow} {store : Store} {limit : Nat} {current : Node} {transit : List Node}
  {ending : Ending} {reason : Abort}

/-- A pass is stopped for no other reasons. -/
theorem stops (h : flow.Leads store limit current transit (.stopped reason)) : reason.Stops := by
  generalize hending : Ending.stopped reason = ending at h
  induction h with
  | stepLimit found | cycle found =>
    obtain rfl := Ending.stopped.inj hending
    trivial
  | onward found passes rest ih => exact ih hending
  | _ => simp at hending

/-- **What was found last goes with the ending**: the flow ends at the node to which the pass
has come, or no edge can be followed from there. -/
theorem resolve_last (h : flow.Leads store limit current transit ending) :
    (ending = .endOfFlow →
      (flow.resolve ((Route.mk transit ending).last current) store).1 = .ok .endOfFlow) ∧
    ∀ reason, ending = .unresolved reason →
      (flow.resolve ((Route.mk transit ending).last current) store).1 =
        .ok (.unresolved reason) := by
  induction h with
  | endOfFlow found => exact ⟨fun _ => found, by simp⟩
  | unresolved found =>
    refine ⟨by simp, fun reason hreason => ?_⟩
    obtain rfl := Ending.unresolved.inj hreason
    exact found
  | onward found passes rest ih =>
    rw [Route.last_cons]
    exact ih
  | _ => simp

/-- **What is found before is a next node.** So a finding that is none tells the ending. -/
theorem mem_findings_iff (h : flow.Leads store limit current transit ending) :
    (.ok .endOfFlow ∈ flow.findings store current ⟨transit, ending⟩ ↔ ending = .endOfFlow) ∧
    ∀ reason, .ok (.unresolved reason) ∈ flow.findings store current ⟨transit, ending⟩ ↔
      ending = .unresolved reason := by
  induction h with
  | onward found passes rest ih =>
    simp only [findings, List.map_cons, List.mem_cons, found] at ih ⊢
    simpa using ih
  | unresolved found => simp [findings, found, eq_comm]
  | arrival found | endOfFlow found | stepLimit found | cycle found => simp [findings, found]

end Leads

end Flow

end Dialogue
