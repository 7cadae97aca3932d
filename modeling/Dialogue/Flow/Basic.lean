import Dialogue.Flow.Defect
import Dialogue.Flow.Index

/-!
# Flows

A flow is a list of nodes and a list of edges without defects, with the index of the two.
`Dialogue.Flow.build` makes one or names the first defect. Nodes, and the edges that leave
them, are looked up in the index and read back from the lists.
-/

namespace Dialogue

/-- Nodes and edges that make a conversation: no check finds a defect in them. -/
structure Flow where
  nodes : List Node
  edges : List Edge
  sound : firstDefect nodes edges = none
  /-- Where the nodes and the edges stand in the two lists. -/
  index : Index nodes edges := .ofLists nodes edges
  /-- The index is the one that is made of the two lists. -/
  indexed : index = .ofLists nodes edges := by rfl

namespace Flow

/-- Two flows with the same lists are the same. -/
theorem eq_of_lists {flow flow' : Flow} (hnodes : flow.nodes = flow'.nodes)
    (hedges : flow.edges = flow'.edges) : flow = flow' := by
  obtain ⟨nodes, edges, sound, index, rfl⟩ := flow
  obtain ⟨nodes', edges', sound', index', rfl⟩ := flow'
  obtain rfl : nodes = nodes' := hnodes
  obtain rfl : edges = edges' := hedges
  rfl

instance : DecidableEq Flow := fun flow flow' =>
  decidable_of_iff (flow.nodes = flow'.nodes ∧ flow.edges = flow'.edges)
    ⟨fun h => eq_of_lists h.1 h.2, fun h => h ▸ ⟨rfl, rfl⟩⟩

/-- Makes a flow, or names the first defect. -/
def build (nodes : List Node) (edges : List Edge) : Except Defect Flow :=
  match h : firstDefect nodes edges with
  | none => .ok { nodes := nodes, edges := edges, sound := h }
  | some defect => .error defect

/-- The node with an id. -/
def node? (flow : Flow) (id : String) : Option Node :=
  (flow.index.places.get? id).map flow.nodes.get

/-- The node with an id, or the defect that there is none. -/
def node (flow : Flow) (id : String) : Except Defect Node :=
  match flow.node? id with
  | some n => .ok n
  | none => .error (.nodeNotFound id)

/-- Whether a node has the given id. -/
def contains (flow : Flow) (id : String) : Bool :=
  flow.index.places.contains id

/-- The edges that leave a node, in authoring order. -/
def outgoing (flow : Flow) (id : String) : List Edge :=
  ((flow.index.leaving.get? id).getD []).map flow.edges.get

/-- The edges that lead to a node, in authoring order. -/
def incoming (flow : Flow) (id : String) : List Edge :=
  flow.edges.filter (·.target == id)

/-- A flow has a start node, and the index knows its place. -/
theorem isSome_start? (flow : Flow) : flow.index.start?.isSome := by
  have h := flow.sound
  have hs : startDefect? flow.nodes = none := by
    simp only [firstDefect, Option.or_eq_none_iff] at h
    exact h.2.1
  have hstart : ∃ n ∈ flow.nodes, n.isStart = true := by
    refine Classical.not_forall_not.mp fun hnone => ?_
    have hn : flow.nodes.filter Node.isStart = [] :=
      List.filter_eq_nil_iff.mpr fun n hn hstarts => hnone n ⟨hn, hstarts⟩
    simp [startDefect?, hn] at hs
  obtain ⟨n, hn, hstarts⟩ := hstart
  obtain ⟨i, rfl⟩ := List.mem_iff_get.mp hn
  rw [flow.indexed, Index.ofLists, List.find?_isSome]
  exact ⟨i, List.mem_finRange i, hstarts⟩

/-- The start node. -/
def start (flow : Flow) : Node :=
  flow.nodes.get (flow.index.start?.get flow.isSome_start?)

end Flow

end Dialogue
