import Dialogue.Proofs.Flow.Sound

/-!
# Well-formed nodes and edges

The checks of a flow find nothing exactly when its nodes and edges are well-formed
(`Dialogue.firstDefect_eq_none_iff`), which says what the checks ask for without saying how
they go about it. So it does not depend on the order in which nodes and edges are listed
(`Dialogue.WellFormed.perm`).
-/

namespace Dialogue

/-- **Nodes and edges are well-formed.** -/
structure WellFormed (nodes : List Node) (edges : List Edge) : Prop where
  nodeIds : (nodes.map (·.id)).Nodup
  oneStart : (nodes.filter Node.isStart).length = 1
  edgeIds : (edges.map (·.id)).Nodup
  joined : ∀ e ∈ edges, hasNode nodes e.source = true ∧ hasNode nodes e.target = true
  handles : ∀ n ∈ nodes, ∀ c, n.content = .condition c →
    ((edgesFrom edges n.id).map (·.handle)).Nodup ∧
      ∀ e ∈ edgesFrom edges n.id, ∃ h ∈ c.handles, e.handle = some h
  questions : ∀ n ∈ nodes, ∀ q, n.content = .question q →
    Text.trimmed q.variableName.toList ≠ [] ∧ ∀ id ∈ q.triggers.keys, hasNode nodes id = true

/-! ### The single checks -/

variable {nodes nodes' : List Node} {edges edges' : List Edge} {n : Node}

theorem nodeDefect?_eq_none_iff : nodeDefect? nodes = none ↔ (nodes.map (·.id)).Nodup := by
  simp [nodeDefect?, firstRepeat?_eq_none_iff]

theorem startDefect?_eq_none_iff :
    startDefect? nodes = none ↔ (nodes.filter Node.isStart).length = 1 := by
  unfold startDefect?
  generalize (nodes.filter Node.isStart).length = count
  match count with
  | 0 => simp
  | 1 => simp
  | count + 2 => simp

theorem conditionDefect?_eq_none_iff :
    conditionDefect? edges n = none ↔ ∀ c, n.content = .condition c →
      ((edgesFrom edges n.id).map (·.handle)).Nodup ∧
        ∀ e ∈ edgesFrom edges n.id, ∃ h ∈ c.handles, e.handle = some h := by
  unfold conditionDefect?
  cases hc : n.content with
  | condition c => simp [handleDefect?_eq_none_iff]
  | _ => simp

theorem questionDefect?_eq_none_iff :
    questionDefect? nodes n = none ↔ ∀ q, n.content = .question q →
      Text.trimmed q.variableName.toList ≠ [] ∧
        ∀ id ∈ q.triggers.keys, hasNode nodes id = true := by
  unfold questionDefect?
  cases hq : n.content with
  | question q =>
    by_cases hblank : Text.trimmed q.variableName.toList = []
    · simp [hblank]
    · simp [hblank]
  | _ => simp

/-- **The checks find nothing exactly in well-formed nodes and edges.** -/
theorem firstDefect_eq_none_iff : firstDefect nodes edges = none ↔ WellFormed nodes edges := by
  have hedges : edgeDefect? nodes [] edges = none ↔ (edges.map (·.id)).Nodup ∧
      ∀ e ∈ edges, hasNode nodes e.source = true ∧ hasNode nodes e.target = true := by
    simp [edgeDefect?_eq_none_iff, firstRepeat?_eq_none_iff]
  simp only [firstDefect, Option.or_eq_none_iff, nodeDefect?_eq_none_iff,
    startDefect?_eq_none_iff, hedges, List.findSome?_eq_none_iff, conditionDefect?_eq_none_iff,
    questionDefect?_eq_none_iff]
  constructor
  · rintro ⟨nodeIds, oneStart, ⟨edgeIds, joined⟩, handles, questions⟩
    exact ⟨nodeIds, oneStart, edgeIds, joined, handles, questions⟩
  · rintro ⟨nodeIds, oneStart, edgeIds, joined, handles, questions⟩
    exact ⟨nodeIds, oneStart, ⟨edgeIds, joined⟩, handles, questions⟩

/-- **Nodes and edges make the flow that holds them**, if they are well-formed. -/
theorem Flow.build_eq_ok_iff {flow : Flow} :
    Flow.build nodes edges = .ok flow ↔ flow.nodes = nodes ∧ flow.edges = edges := by
  unfold build
  split
  · next hsound =>
    constructor
    · intro h
      obtain rfl := Except.ok.inj h
      exact ⟨rfl, rfl⟩
    · rintro ⟨rfl, rfl⟩
      exact congrArg Except.ok (eq_of_lists rfl rfl)
  · next defect hdefect =>
    constructor
    · intro h
      simp at h
    · rintro ⟨rfl, rfl⟩
      simp [flow.sound] at hdefect

namespace Flow

variable (flow : Flow)

/-- **A flow is well-formed.** -/
theorem wellFormed : WellFormed flow.nodes flow.edges :=
  firstDefect_eq_none_iff.mp flow.sound

variable {flow}

/-- **There is only one start node.** -/
theorem eq_start {n : Node} (hn : n ∈ flow.nodes) (hstart : n.isStart = true) :
    n = flow.start := by
  obtain ⟨m, hm⟩ := List.length_eq_one_iff.mp flow.wellFormed.oneStart
  have honly : ∀ k ∈ flow.nodes, k.isStart = true → k = m := by
    intro k hk hkstart
    have hmem : k ∈ flow.nodes.filter Node.isStart := List.mem_filter.mpr ⟨hk, hkstart⟩
    rw [hm] at hmem
    exact List.mem_singleton.mp hmem
  rw [honly n hn hstart, honly flow.start flow.start_mem flow.isStart_start]

end Flow

/-! ### The order does not matter -/

theorem hasNode_perm (h : nodes'.Perm nodes) (id : String) :
    hasNode nodes' id = hasNode nodes id :=
  h.any_eq

theorem edgesFrom_perm (h : edges'.Perm edges) (id : String) :
    (edgesFrom edges' id).Perm (edgesFrom edges id) :=
  h.filter _

/-- **Well-formed nodes and edges stay so in any order.** -/
theorem WellFormed.perm (h : WellFormed nodes edges) (hnodes : nodes'.Perm nodes)
    (hedges : edges'.Perm edges) : WellFormed nodes' edges' where
  nodeIds := (hnodes.map _).nodup_iff.mpr h.nodeIds
  oneStart := (hnodes.filter _).length_eq.trans h.oneStart
  edgeIds := (hedges.map _).nodup_iff.mpr h.edgeIds
  joined e he := by
    rw [hasNode_perm hnodes, hasNode_perm hnodes]
    exact h.joined e (hedges.mem_iff.mp he)
  handles n hn c hc := by
    obtain ⟨hnodup, hallowed⟩ := h.handles n (hnodes.mem_iff.mp hn) c hc
    have hfrom := edgesFrom_perm hedges n.id
    exact ⟨(hfrom.map _).nodup_iff.mpr hnodup, fun e he => hallowed e (hfrom.mem_iff.mp he)⟩
  questions n hn q hq := by
    obtain ⟨hnamed, htriggers⟩ := h.questions n (hnodes.mem_iff.mp hn) q hq
    refine ⟨hnamed, fun id hid => ?_⟩
    rw [hasNode_perm hnodes]
    exact htriggers id hid

end Dialogue
