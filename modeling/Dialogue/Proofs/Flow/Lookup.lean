import Dialogue.Proofs.Flow.WellFormed

/-!
# Looking up nodes and edges

A flow is looked up by ids, and each look-up says what its two lists say
(`Dialogue.Flow.lookups_agree`). Everything that a session does rests on this: it holds an id
and never a node, and goes from there along the edges that are found under it.

Three of the checks are needed for it. An id finds one node because no id is used twice. An edge
is listed at one node on either side (`Dialogue.ListedOnce`) because both its ends are nodes,
and it is listed there once because no edge has the id of another. And the start node is the only
one because there are neither none nor several.
-/

namespace Dialogue

/-- **An edge is listed once**: in the list of one node and of no other, and there in one place. -/
def ListedOnce (nodes : List Node) (listOf : Node → List Edge) (e : Edge) : Prop :=
  ∃ n ∈ nodes, (listOf n).count e = 1 ∧ ∀ m ∈ nodes, e ∈ listOf m → m = n

namespace Flow

variable {flow : Flow}

theorem nodup_edges : flow.edges.Nodup :=
  List.Nodup.of_map _ flow.wellFormed.edgeIds

/-- Where no node is found, the defect names the id. -/
theorem node_eq_error_iff {id : String} {d : Defect} :
    flow.node id = .error d ↔ d = .nodeNotFound id ∧ ∀ n ∈ flow.nodes, n.id ≠ id := by
  have hnone : flow.node? id = none ↔ ∀ n ∈ flow.nodes, n.id ≠ id := by
    simp only [Option.eq_none_iff_forall_ne_some, ne_eq, node?_eq_some_iff, not_and]
  rw [← hnone, node]
  cases flow.node? id with
  | some n => simp
  | none => simp [eq_comm]

/-- The only start node is the one that the index knows. -/
theorem eq_start_iff {n : Node} : n = flow.start ↔ n ∈ flow.nodes ∧ n.content = .start := by
  constructor
  · rintro rfl
    exact ⟨flow.start_mem, flow.content_start⟩
  · rintro ⟨hn, hcontent⟩
    have hstart : n.isStart = true := by rw [Node.isStart, Node.kind, hcontent]; rfl
    exact eq_start hn hstart

/-- **An edge is listed once**, if it is listed at the node at one of its ends. -/
theorem listedOnce_of_end {endOf : Edge → String} {listOf : String → List Edge}
    (hlist : ∀ id, listOf id = flow.edges.filter (endOf · == id)) {e : Edge}
    (he : e ∈ flow.edges) (hend : hasNode flow.nodes (endOf e) = true) :
    ListedOnce flow.nodes (fun n => listOf n.id) e := by
  have hlisted : ∀ id, e ∈ listOf id ↔ endOf e = id := by
    intro id
    rw [hlist, List.mem_filter, beq_iff_eq]
    exact and_iff_right he
  obtain ⟨n, hfound⟩ := exists_node?_of_hasNode hend
  obtain ⟨hn, hid⟩ := node?_eq_some_iff.mp hfound
  refine ⟨n, hn, ?_, fun m hm hmem => ?_⟩
  · have hnodup : (listOf n.id).Nodup := hlist n.id ▸ nodup_edges.filter _
    exact List.count_eq_one_of_mem hnodup ((hlisted n.id).mpr hid.symm)
  · exact eq_of_id_eq hm hn (((hlisted m.id).mp hmem).symm.trans hid.symm)

/-- **What is looked up is what is listed.** A flow has the nodes and edges that it was built
from. An id finds a node exactly if it is the id of that node, and the defect of an id that finds
none names the id. Under an id are found, in authoring order, the edges that leave it and those
that lead to it, so that each edge is listed once at the node that it leaves, and once at the node
that it leads to. And the start node is the only node of its kind. -/
theorem lookups_agree {nodes : List Node} {edges : List Edge} {flow : Flow}
    (hflow : build nodes edges = .ok flow) :
    flow.nodes = nodes ∧ flow.edges = edges ∧
      (∀ id n, flow.node id = .ok n ↔ n ∈ nodes ∧ n.id = id) ∧
      (∀ id d, flow.node id = .error d ↔ d = .nodeNotFound id ∧ ∀ n ∈ nodes, n.id ≠ id) ∧
      (∀ id, flow.contains id = true ↔ ∃ n, flow.node id = .ok n) ∧
      (∀ id, flow.outgoing id = edges.filter (·.source == id)) ∧
      (∀ id, flow.incoming id = edges.filter (·.target == id)) ∧
      (∀ e ∈ edges, ListedOnce nodes (fun n => flow.outgoing n.id) e ∧
        ListedOnce nodes (fun n => flow.incoming n.id) e) ∧
      ∀ n, n = flow.start ↔ n ∈ nodes ∧ n.content = .start := by
  obtain ⟨rfl, rfl⟩ := build_eq_ok_iff.mp hflow
  have hnode : ∀ id n, flow.node id = .ok n ↔ n ∈ flow.nodes ∧ n.id = id :=
    fun id n => node_eq_ok_iff.trans node?_eq_some_iff
  refine ⟨rfl, rfl, hnode, fun id d => node_eq_error_iff, fun id => ?_, flow.outgoing_eq,
    fun id => rfl, fun e he => ⟨?_, ?_⟩, fun n => eq_start_iff⟩
  · rw [contains_iff]
    exact exists_congr fun n => (hnode id n).symm
  · exact listedOnce_of_end flow.outgoing_eq he (hasNode_of_mem_edges he).1
  · exact listedOnce_of_end (fun id => rfl) he (hasNode_of_mem_edges he).2

/-- A flow that goes round, by two edges with the same ends and one that leads back to where it
comes from. The edges are not listed in the order of the nodes. -/
def roundabout : Flow where
  nodes := [⟨"bye", .finish none⟩, ⟨"again", .message "Once more"⟩, ⟨"start", .start⟩]
  edges := [⟨"first", "again", "again", none⟩, ⟨"second", "start", "again", none⟩,
    ⟨"third", "again", "bye", none⟩, ⟨"fourth", "start", "again", none⟩]
  sound := by decide

/-- Parallel edges and a loop are listed once on either side, in authoring order. -/
theorem lookups_agree_roundabout :
    ∃ flow, build roundabout.nodes roundabout.edges = .ok flow ∧
      flow.node "again" = .ok ⟨"again", .message "Once more"⟩ ∧
      flow.node "nowhere" = .error (.nodeNotFound "nowhere") ∧
      (flow.outgoing "again").map (·.id) = ["first", "third"] ∧
      (flow.incoming "again").map (·.id) = ["first", "second", "fourth"] ∧
      ListedOnce roundabout.nodes (fun n => flow.outgoing n.id)
        ⟨"first", "again", "again", none⟩ ∧
      ⟨"start", .start⟩ = flow.start := by
  have hflow : build roundabout.nodes roundabout.edges = .ok roundabout :=
    build_eq_ok_iff.mpr ⟨rfl, rfl⟩
  obtain ⟨-, -, hnode, hmissing, -, houtgoing, hincoming, hlisted, hstart⟩ := lookups_agree hflow
  refine ⟨roundabout, hflow, (hnode _ _).mpr ⟨by decide, rfl⟩,
    (hmissing _ _).mpr ⟨rfl, by decide⟩, ?_, ?_, (hlisted _ (by decide)).1,
    (hstart _).mpr ⟨by decide, rfl⟩⟩
  · rw [houtgoing]
    decide
  · rw [hincoming]
    decide

end Flow

end Dialogue
