import Dialogue.Flow.Basic

/-!
# Reachable nodes and warnings

`Dialogue.Flow.reachable` lists the nodes that can be reached from the start along
edges, in breadth-first order. It follows every edge, whatever its handle and
whatever the question behind it asks for. On it rest two of the warnings a flow can
carry (`Dialogue.Flow.warnings`): nodes that cannot be reached, and ends none of
which can. The third is a condition with several outputs but no default.
-/

namespace Dialogue

/-- Something about a flow that its author may not have meant. -/
inductive Warning
  | unreachableNode (node : String)
  | unreachableEnd
  | missingDefault (node : String)
  deriving DecidableEq, Repr

/-- The text of a warning. -/
def Warning.message : Warning → String
  | unreachableNode node => "Node '" ++ node ++ "' is not reachable from the start node"
  | unreachableEnd => "No end node is reachable from the start node"
  | missingDefault node =>
    "Condition node '" ++ node ++ "' has no output with an empty rule set to act as default"

/-! ### Breadth-first search -/

/-- The ids in a list that are not among those `seen`, each of them once. -/
def unseen (seen : List String) : List String → List String
  | [] => []
  | id :: rest => if id ∈ seen then unseen seen rest else id :: unseen (id :: seen) rest

/-- The number of edges that lead to an id not among those `seen`. -/
def openEdges (edges : List Edge) (seen : List String) : Nat :=
  edges.countP (·.target ∉ seen)

/-- An id newly seen closes the edges that lead to it. -/
theorem openEdges_cons_lt {edges : List Edge} {seen : List String} {e : Edge} (he : e ∈ edges)
    (hs : e.target ∉ seen) : openEdges edges (e.target :: seen) < openEdges edges seen := by
  induction edges with
  | nil => simp at he
  | cons f rest ih =>
    have le : openEdges rest (e.target :: seen) ≤ openEdges rest seen :=
      List.countP_mono_left fun x _ hx => by simp_all
    rcases List.mem_cons.mp he with rfl | he
    · simp only [openEdges, List.countP_cons, List.mem_cons, true_or, hs, decide_not, decide_true,
        decide_false, Bool.not_true, Bool.not_false, if_true, if_false, Bool.false_eq_true]
        at le ⊢
      omega
    · have lt := ih he
      simp only [openEdges, List.countP_cons] at lt ⊢
      by_cases hf : f.target ∈ seen
      · simp_all
      · by_cases hfe : f.target = e.target
        · simp_all
          omega
        · simp_all

/-- The ids newly seen are no more than the edges they close. -/
theorem length_unseen_add_le (edges : List Edge) (ids seen : List String)
    (h : ∀ id ∈ ids, ∃ e ∈ edges, e.target = id) :
    (unseen seen ids).length + openEdges edges (unseen seen ids ++ seen)
      ≤ openEdges edges seen := by
  induction ids generalizing seen with
  | nil => simp [unseen]
  | cons id rest ih =>
    have hrest : ∀ i ∈ rest, ∃ e ∈ edges, e.target = i :=
      fun i hi => h i (List.mem_cons_of_mem _ hi)
    by_cases hs : id ∈ seen
    · simpa [unseen, hs] using ih seen hrest
    · obtain ⟨e, he, rfl⟩ := h id List.mem_cons_self
      have lt := openEdges_cons_lt he hs
      have le := ih (e.target :: seen) hrest
      have same : openEdges edges (e.target :: (unseen (e.target :: seen) rest ++ seen))
          = openEdges edges (unseen (e.target :: seen) rest ++ e.target :: seen) := by
        simp only [openEdges]
        congr 1
        funext x
        simp only [List.mem_cons, List.mem_append, decide_not]
        congr 2
        simp only [eq_iff_iff]
        constructor <;> (rintro (h | h | h) <;> simp [h])
      simp only [unseen, hs, if_false, List.length_cons, List.cons_append]
      rw [same]
      omega

/-- The ids reached from a queue, in breadth-first order. The head of the queue comes
next, and the targets of its edges that are not `seen` yet join the end. -/
def explore (edges : List Edge) (queue seen : List String) : List String :=
  match queue with
  | [] => []
  | id :: queue =>
    let found := unseen seen ((edgesFrom edges id).map (·.target))
    id :: explore edges (queue ++ found) (found ++ seen)
termination_by openEdges edges seen + queue.length
decreasing_by
  have h := length_unseen_add_le edges ((edgesFrom edges id).map (·.target)) seen (by
    intro i hi
    obtain ⟨e, he, rfl⟩ := List.mem_map.mp hi
    exact ⟨e, (List.mem_filter.mp he).1, rfl⟩)
  simp only [List.length_append, List.length_cons]
  omega

namespace Flow

/-- The ids of the nodes that can be reached from the start, in breadth-first order. -/
def reachable (flow : Flow) : List String :=
  explore flow.edges [flow.start.id] [flow.start.id]

/-! ### Warnings -/

/-- Whether a node is a condition with several outputs none of which always matches. -/
def lacksDefault (n : Node) : Bool :=
  match n.content with
  | .condition (.multiOutput outputs) => !outputs.any (·.ruleSet.isEmpty)
  | _ => false

/-- The warnings about a flow: conditions without a default, nodes out of reach, and
last the lack of an end within reach. -/
def warnings (flow : Flow) : List Warning :=
  let reached := flow.reachable
  (flow.nodes.filter lacksDefault).map (.missingDefault ·.id)
    ++ (flow.nodes.filter (·.id ∉ reached)).map (.unreachableNode ·.id)
    ++ (if flow.nodes.any (fun n => n.isEnd && decide (n.id ∈ reached)) then []
        else [.unreachableEnd])

end Flow

end Dialogue
