import Dialogue.Flow.Basic
import Dialogue.Proofs.Flow.Index
import Mathlib.Data.List.Nodup
import Mathlib.Data.List.Perm.Subperm

/-!
# What the checks of a flow guarantee

A flow carries the proof that `Dialogue.firstDefect` finds nothing. Here that proof is
taken apart into what a session relies on:

* the ids of the nodes are distinct (`Dialogue.Flow.nodup_ids`), so looking up an id
  finds the one node that has it (`Dialogue.Flow.node?_eq_some_iff`);
* the edges found under an id are those that leave it (`Dialogue.Flow.outgoing_eq`);
* no edge dangles (`Dialogue.Flow.exists_target`), so following an edge always arrives
  at a node;
* a condition has one edge at most for each handle (`Dialogue.Flow.eq_of_handle_eq`);
* the start node is a node of the flow, and of that kind (`Dialogue.Flow.start_mem`,
  `Dialogue.Flow.isStart_start`).
-/

namespace Dialogue

/-! ### The single checks -/

/-- Nothing repeats exactly when the ids are distinct from each other and from those
seen before. -/
theorem firstRepeat?_eq_none_iff {seen ids : List String} :
    firstRepeat? seen ids = none ↔ ids.Nodup ∧ ∀ id ∈ ids, id ∉ seen := by
  induction ids generalizing seen with
  | nil => simp [firstRepeat?]
  | cons id rest ih =>
    unfold firstRepeat?
    by_cases h : id ∈ seen
    · simp [h]
    · simp only [if_neg h, ih, List.nodup_cons, List.mem_cons, forall_eq_or_imp, not_or]
      constructor
      · rintro ⟨hnd, hrest⟩
        exact ⟨⟨fun hmem => (hrest id hmem).1 rfl, hnd⟩, h, fun i hi => (hrest i hi).2⟩
      · rintro ⟨⟨hid, hnd⟩, -, hrest⟩
        exact ⟨hnd, fun i hi => ⟨fun he => hid (he ▸ hi), hrest i hi⟩⟩

/-- The edges are in order exactly when their ids are distinct from each other and from
those seen before, and both ends of each are nodes. -/
theorem edgeDefect?_eq_none_iff {nodes : List Node} {seen : List String} {edges : List Edge} :
    edgeDefect? nodes seen edges = none ↔
      firstRepeat? seen (edges.map (·.id)) = none ∧
        ∀ e ∈ edges, hasNode nodes e.source = true ∧ hasNode nodes e.target = true := by
  induction edges generalizing seen with
  | nil => simp [edgeDefect?, firstRepeat?]
  | cons e rest ih =>
    rw [edgeDefect?, List.map_cons, firstRepeat?]
    -- the checks of one edge, in the order in which they are made
    by_cases hid : e.id ∈ seen
    · simp [hid]
    · rw [if_neg hid, if_neg hid]
      by_cases hs : hasNode nodes e.source = true
      · by_cases ht : hasNode nodes e.target = true
        · simp [hs, ht, ih]
        · simp [hs, ht]
      · simp [hs]

/-- The edges that leave a condition are in order exactly when their handles are distinct,
and each of them is allowed and was not used before. -/
theorem handleDefect?_eq_none_iff {node : String} {allowed used : List String}
    {edges : List Edge} :
    handleDefect? node allowed used edges = none ↔
      (edges.map (·.handle)).Nodup ∧
        ∀ e ∈ edges, ∃ h ∈ allowed, e.handle = some h ∧ h ∉ used := by
  induction edges generalizing used with
  | nil => simp [handleDefect?]
  | cons e rest ih =>
    rw [handleDefect?, List.map_cons, List.nodup_cons, List.forall_mem_cons]
    cases he : e.handle with
    | none => simp
    | some h =>
      -- the checks of one edge, in the order in which they are made
      by_cases hallowed : h ∈ allowed
      · by_cases hused : h ∈ used
        · simp [hallowed, hused]
        · simp only [hallowed, hused, not_true_eq_false, if_false, ih, List.mem_cons, not_or]
          constructor
          · rintro ⟨hnd, hrest⟩
            refine ⟨⟨?_, hnd⟩, ⟨h, hallowed, rfl, hused⟩, fun f hf => ?_⟩
            · intro hmem
              obtain ⟨f, hf, hfh⟩ := List.mem_map.mp hmem
              obtain ⟨h', -, hh', hne, -⟩ := hrest f hf
              exact hne (Option.some.inj (hh'.symm.trans hfh))
            · obtain ⟨h', hh', hfh, -, hnew⟩ := hrest f hf
              exact ⟨h', hh', hfh, hnew⟩
          · rintro ⟨⟨hnew, hnd⟩, -, hrest⟩
            refine ⟨hnd, fun f hf => ?_⟩
            obtain ⟨h', hh', hfh, hfresh⟩ := hrest f hf
            refine ⟨h', hh', hfh, ?_, hfresh⟩
            rintro rfl
            exact hnew (List.mem_map.mpr ⟨f, hf, hfh⟩)
      · simp [hallowed]

namespace Flow

variable (flow : Flow)

/-! ### Nodes -/

/-- **The ids of the nodes are distinct.** -/
theorem nodup_ids : (flow.nodes.map (·.id)).Nodup := by
  have h := flow.sound
  simp only [firstDefect, Option.or_eq_none_iff, nodeDefect?, Option.map_eq_none_iff] at h
  exact (firstRepeat?_eq_none_iff.mp h.1).1

variable {flow}

/-- Two nodes with one id are one node. -/
theorem eq_of_id_eq {m n : Node} (hm : m ∈ flow.nodes) (hn : n ∈ flow.nodes)
    (h : m.id = n.id) : m = n :=
  List.inj_on_of_nodup_map flow.nodup_ids hm hn h

/-- **Looking up an id finds the node that has it.** -/
theorem node?_eq_some_iff {id : String} {n : Node} :
    flow.node? id = some n ↔ n ∈ flow.nodes ∧ n.id = id := by
  have hplaces : ∀ i, flow.index.places.get? id = some i ↔ (flow.nodes.get i).id = id := by
    intro i
    rw [flow.indexed]
    exact Index.get?_places_eq_some_iff flow.nodup_ids
  rw [node?, Option.map_eq_some_iff]
  constructor
  · rintro ⟨i, hi, rfl⟩
    exact ⟨List.get_mem flow.nodes i, (hplaces i).mp hi⟩
  · rintro ⟨hn, hid⟩
    obtain ⟨i, rfl⟩ := List.mem_iff_get.mp hn
    exact ⟨i, (hplaces i).mpr hid, rfl⟩

theorem node_eq_ok_iff {id : String} {n : Node} :
    flow.node id = .ok n ↔ flow.node? id = some n := by
  unfold node
  cases flow.node? id <;> simp

theorem id_of_node? {id : String} {n : Node} (h : flow.node? id = some n) : n.id = id :=
  (node?_eq_some_iff.mp h).2

/-- A node that is found is found under its own id. -/
theorem node?_id {id : String} {n : Node} (h : flow.node? id = some n) :
    flow.node? n.id = some n := by
  rw [id_of_node? h]
  exact h

/-- The index knows the ids of the nodes. -/
theorem contains_iff {id : String} :
    flow.contains id = true ↔ ∃ n ∈ flow.nodes, n.id = id := by
  have hsome : flow.contains id = (flow.node? id).isSome := by
    rw [node?, Option.isSome_map]
    rfl
  rw [hsome, Option.isSome_iff_exists]
  exact exists_congr fun n => node?_eq_some_iff

theorem contains_eq_hasNode {id : String} : flow.contains id = hasNode flow.nodes id := by
  rw [Bool.eq_iff_iff, contains_iff, hasNode, List.any_eq_true]
  simp only [beq_iff_eq]

theorem exists_node?_of_hasNode {id : String} (h : hasNode flow.nodes id = true) :
    ∃ n, flow.node? id = some n := by
  obtain ⟨n, hn, hid⟩ := List.any_eq_true.mp h
  exact ⟨n, node?_eq_some_iff.mpr ⟨hn, by simpa using hid⟩⟩

/-- **Distinct ids of nodes** are no more than there are nodes. -/
theorem length_le_of_nodup {ids : List String} (hnodup : ids.Nodup)
    (hknown : ∀ id ∈ ids, ∃ n, flow.node? id = some n) : ids.length ≤ flow.nodes.length := by
  have hsub : ids ⊆ flow.nodes.map (·.id) := by
    intro id hid
    obtain ⟨n, hn⟩ := hknown id hid
    exact List.mem_map.mpr ⟨n, node?_eq_some_iff.mp hn⟩
  simpa using (List.subperm_of_subset hnodup hsub).length_le

/-! ### Edges -/

/-- **No edge dangles**: both its ends are nodes of the flow. -/
theorem hasNode_of_mem_edges {e : Edge} (he : e ∈ flow.edges) :
    hasNode flow.nodes e.source = true ∧ hasNode flow.nodes e.target = true := by
  have h := flow.sound
  simp only [firstDefect, Option.or_eq_none_iff] at h
  exact (edgeDefect?_eq_none_iff.mp h.2.2.1).2 e he

/-- **The edges that leave a node** are those with its id as their source. -/
theorem outgoing_eq (id : String) : flow.outgoing id = edgesFrom flow.edges id := by
  rw [outgoing, flow.indexed]
  exact Index.map_get_leaving id

theorem mem_outgoing_iff {id : String} {e : Edge} :
    e ∈ flow.outgoing id ↔ e ∈ flow.edges ∧ e.source = id := by
  rw [outgoing_eq, edgesFrom, List.mem_filter, beq_iff_eq]

/-- An edge that leaves a node leads to a node of the flow. -/
theorem exists_target {id : String} {e : Edge} (he : e ∈ flow.outgoing id) :
    ∃ n, flow.node? e.target = some n :=
  exists_node?_of_hasNode (hasNode_of_mem_edges (mem_outgoing_iff.mp he).1).2

/-- **A condition has one edge at most for each handle.** -/
theorem eq_of_handle_eq {n : Node} {c : Condition} {e e' : Edge} (hn : n ∈ flow.nodes)
    (hc : n.content = .condition c) (he : e ∈ flow.outgoing n.id) (he' : e' ∈ flow.outgoing n.id)
    (h : e.handle = e'.handle) : e = e' := by
  rw [outgoing_eq] at he he'
  have hsound := flow.sound
  simp only [firstDefect, Option.or_eq_none_iff] at hsound
  have hcondition : conditionDefect? flow.edges n = none :=
    List.findSome?_eq_none_iff.mp hsound.2.2.2.1 n hn
  rw [conditionDefect?, hc] at hcondition
  exact List.inj_on_of_nodup_map (handleDefect?_eq_none_iff.mp hcondition).1 he he' h

/-! ### The start node -/

variable (flow)

theorem find?_isStart : flow.nodes.find? Node.isStart = some flow.start := by
  have hread : flow.index.start?.map flow.nodes.get = flow.nodes.find? Node.isStart := by
    rw [flow.indexed]
    exact Index.map_get_start?
  rw [← hread, start, ← Option.map_some, Option.some_get]

theorem start_mem : flow.start ∈ flow.nodes :=
  List.mem_of_find?_eq_some flow.find?_isStart

theorem isStart_start : flow.start.isStart = true :=
  List.find?_some flow.find?_isStart

theorem content_start : flow.start.content = .start := by
  have h := flow.isStart_start
  unfold Node.isStart Node.kind at h
  cases hc : flow.start.content <;> simp_all

theorem node?_start : flow.node? flow.start.id = some flow.start :=
  node?_eq_some_iff.mpr ⟨flow.start_mem, rfl⟩

/-- A flow that says hello and asks for a name. -/
def greeting : Flow where
  nodes := [⟨"start", .start⟩, ⟨"hello", .message "Hello"⟩,
    ⟨"ask", .question ⟨"Your name?", [], "name", .empty⟩⟩]
  edges := [⟨"first", "start", "hello", none⟩, ⟨"second", "hello", "ask", none⟩]
  sound := by decide

/-- A flow that asks for a name only of those who are of age. -/
def gated : Flow where
  nodes := [⟨"start", .start⟩,
    ⟨"age", .question ⟨"Of age?", [⟨"y", "Yes", "yes"⟩, ⟨"n", "No", "no"⟩], "adult", .empty⟩⟩,
    ⟨"check", .condition (.simple ⟨.and, [⟨"adult", .equals, "yes"⟩]⟩)⟩,
    ⟨"name", .question ⟨"Your name?", [], "name", StringMap.empty.insert "check" "true"⟩⟩,
    ⟨"bye", .finish none⟩]
  edges := [⟨"first", "start", "age", none⟩, ⟨"second", "age", "check", none⟩,
    ⟨"third", "check", "name", some "true"⟩, ⟨"fourth", "check", "bye", some "false"⟩]
  sound := by decide

end Flow

end Dialogue
