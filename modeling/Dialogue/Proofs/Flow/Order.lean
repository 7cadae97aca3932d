import Dialogue.Proofs.Flow.Reach
import Dialogue.Proofs.Flow.Resolve
import Dialogue.Proofs.Flow.WellFormed
import Mathlib.Data.List.Find

/-!
# The order of nodes and edges

The order in which an author lists nodes and edges matters in one place: a node that is no
condition is left along its first edge. If these edges stay (`Dialogue.Reordered`), then
listing nodes and edges in another order makes a flow as well (`Dialogue.Reordered.build`),
which routes like the old one (`Dialogue.Flow.Reorders.routesLike`) and carries the same
warnings, if in another order (`Dialogue.Flow.Reorders.warnings_perm`).

A condition is left along the first edge with a handle that it chooses. There the order
would matter too, were it not for the check that no two of its edges have the same handle.
-/

namespace Dialogue

/-- **Nodes and edges are listed in another order**, but the first edge that leaves a node is
the same as before, unless the node is a condition. -/
structure Reordered (nodes : List Node) (edges : List Edge) (nodes' : List Node)
    (edges' : List Edge) : Prop where
  sameNodes : nodes'.Perm nodes
  sameEdges : edges'.Perm edges
  sameFirst : ∀ n ∈ nodes, n.condition? = none →
    (edgesFrom edges' n.id).head? = (edgesFrom edges n.id).head?

/-- **A flow lists the nodes and edges of another in another order.** -/
def Flow.Reorders (flow flow' : Flow) : Prop :=
  Reordered flow.nodes flow.edges flow'.nodes flow'.edges

/-- **Another order makes a flow as well.** -/
theorem Reordered.build {nodes nodes' : List Node} {edges edges' : List Edge} {flow : Flow}
    (h : Reordered nodes edges nodes' edges') (hflow : Flow.build nodes edges = .ok flow) :
    ∃ flow', Flow.build nodes' edges' = .ok flow' ∧ flow.Reorders flow' := by
  obtain ⟨rfl, rfl⟩ := Flow.build_eq_ok_iff.mp hflow
  have hsound : firstDefect nodes' edges' = none :=
    firstDefect_eq_none_iff.mpr (flow.wellFormed.perm h.sameNodes h.sameEdges)
  exact ⟨{ nodes := nodes', edges := edges', sound := hsound },
    Flow.build_eq_ok_iff.mpr ⟨rfl, rfl⟩, h⟩

namespace Flow

variable {flow flow' : Flow} {n : Node}

/-! ### What looking up does not tell apart -/

/-- Following an edge depends on the flow by its nodes alone. -/
theorem followOnly_congr (hnode : ∀ id, flow'.node? id = flow.node? id) (source : String)
    (edge : Edge) (handle : Option String) :
    flow'.followOnly source edge handle = flow.followOnly source edge handle := by
  simp only [followOnly, follow, node, hnode]

/-- Trying outputs depends on the edges by those found for a handle alone. -/
theorem tryOutputs_congr (hnode : ∀ id, flow'.node? id = flow.node? id) (source : String)
    {edges edges' : List Edge}
    (hthrough : ∀ handle, edgeThrough? edges' handle = edgeThrough? edges handle) (store : Store)
    (outputs : List Output) (rejected : Bool) :
    flow'.tryOutputs source edges' store outputs rejected =
      flow.tryOutputs source edges store outputs rejected := by
  induction outputs generalizing rejected with
  | nil => rfl
  | cons output rest ih => simp only [tryOutputs, follow, node, hnode, hthrough, ih]

namespace Reorders

theorem refl (flow : Flow) : flow.Reorders flow :=
  ⟨List.Perm.refl _, List.Perm.refl _, fun _ _ _ => rfl⟩

theorem symm (h : flow.Reorders flow') : flow'.Reorders flow where
  sameNodes := h.sameNodes.symm
  sameEdges := h.sameEdges.symm
  sameFirst n hn hc := (h.sameFirst n (h.sameNodes.mem_iff.mp hn) hc).symm

/-! ### The same way out of each node -/

/-- Looking up an id finds the same node. -/
theorem node?_eq (h : flow.Reorders flow') (id : String) : flow'.node? id = flow.node? id := by
  ext m
  rw [node?_eq_some_iff, node?_eq_some_iff, h.sameNodes.mem_iff]

/-- The start node is the same. -/
theorem start_eq (h : flow.Reorders flow') : flow'.start = flow.start :=
  eq_start (h.sameNodes.mem_iff.mp flow'.start_mem) flow'.isStart_start

/-- The same edges leave a node, in some order. -/
theorem outgoing_perm (h : flow.Reorders flow') (id : String) :
    (flow'.outgoing id).Perm (flow.outgoing id) := by
  rw [outgoing_eq, outgoing_eq]
  exact edgesFrom_perm h.sameEdges id

/-- **The same edge leaves a condition through a handle**: there is one at most. -/
theorem edgeThrough?_eq (h : flow.Reorders flow') {c : Condition} (hn : n ∈ flow.nodes)
    (hc : n.content = .condition c) (handle : String) :
    edgeThrough? (flow'.outgoing n.id) handle = edgeThrough? (flow.outgoing n.id) handle := by
  have honly : {e | e ∈ flow'.outgoing n.id ∧ (e.handle == some handle) = true}.Subsingleton := by
    rintro e ⟨he, hhandle⟩ e' ⟨he', hhandle'⟩
    have hsame : e.handle = e'.handle := (beq_iff_eq.mp hhandle).trans (beq_iff_eq.mp hhandle').symm
    have hperm := h.outgoing_perm n.id
    exact eq_of_handle_eq hn hc (hperm.mem_iff.mp he) (hperm.mem_iff.mp he') hsame
  exact List.find?_eq_find?_of_perm (h.outgoing_perm n.id) honly

/-- **The same is found after each node of the flow.** -/
theorem resolve_eq (h : flow.Reorders flow') (hn : n ∈ flow.nodes) (store : Store) :
    flow'.resolve n store = flow.resolve n store := by
  have hperm := h.outgoing_perm n.id
  have hfollow := followOnly_congr h.node?_eq n.id
  unfold resolve
  cases hout : flow.outgoing n.id with
  | nil =>
    rw [hout] at hperm
    rw [hperm.eq_nil]
  | cons first others =>
    cases hout' : flow'.outgoing n.id with
    | nil =>
      rw [hout, hout'] at hperm
      simp at hperm
    | cons first' others' =>
      have hfirst : n.condition? = none → first' = first := by
        intro hplain
        have hhead : (flow'.outgoing n.id).head? = (flow.outgoing n.id).head? := by
          rw [outgoing_eq, outgoing_eq]
          exact h.sameFirst n hn hplain
        rw [hout, hout'] at hhead
        exact Option.some.inj hhead
      have hthrough : ∀ c, n.content = .condition c → ∀ handle,
          edgeThrough? (first' :: others') handle = edgeThrough? (first :: others) handle := by
        intro c hc handle
        rw [← hout, ← hout']
        exact h.edgeThrough?_eq hn hc handle
      cases hc : n.content with
      | condition c =>
        cases c with
        | simple rules => simp only [hthrough _ hc, hfollow]
        | multiOutput outputs => exact tryOutputs_congr h.node?_eq n.id (hthrough _ hc) store _ _
      | _ =>
        obtain rfl := hfirst (by simp [Node.condition?, hc])
        exact hfollow ..

/-- **The order of nodes and edges does not matter for routing.** -/
theorem routesLike (h : flow.Reorders flow') : flow.RoutesLike flow' where
  start := h.start_eq
  node? := h.node?_eq
  resolve _ hn store := h.resolve_eq (node?_eq_some_iff.mp hn).1 store

/-! ### The same warnings -/

theorem mem_reachable_of_mem (h : flow.Reorders flow') :
    ∀ id ∈ flow'.reachable, id ∈ flow.reachable := by
  refine reachable_induction ?_ fun e he hsource => ?_
  · rw [h.start_eq]
    exact flow.start_mem_reachable
  · have hleaves : e ∈ flow.outgoing e.source :=
      mem_outgoing_iff.mpr ⟨h.sameEdges.mem_iff.mp he, rfl⟩
    exact target_mem_reachable hleaves hsource

/-- **The same nodes are reachable.** -/
theorem mem_reachable_iff (h : flow.Reorders flow') (id : String) :
    id ∈ flow'.reachable ↔ id ∈ flow.reachable :=
  ⟨h.mem_reachable_of_mem id, h.symm.mem_reachable_of_mem id⟩

/-- **The flows carry the same warnings**, if in another order. -/
theorem warnings_perm (h : flow.Reorders flow') : flow'.warnings.Perm flow.warnings := by
  simp only [warnings, h.mem_reachable_iff, h.sameNodes.any_eq]
  refine List.Perm.append_right _ (List.Perm.append ?_ ?_)
  · exact (h.sameNodes.filter _).map _
  · exact (h.sameNodes.filter _).map _

end Reorders

end Flow

end Dialogue
