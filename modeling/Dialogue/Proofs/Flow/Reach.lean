import Dialogue.Flow.Reach
import Dialogue.Proofs.Flow.Sound

/-!
# Reachable nodes and the warnings about them

The search for reachable nodes leaves nothing out. The start node is reachable
(`Dialogue.Flow.start_mem_reachable`), and an edge leads from a reachable node to a
reachable one (`Dialogue.Flow.target_mem_reachable`). Nor does it find anything else
(`Dialogue.Flow.reachable_induction`). Two of the warnings can be read off
the outcome of the search: a node is reported exactly when it is not reachable
(`Dialogue.Flow.unreachableNode_mem_warnings`), and the lack of an end exactly when no end
is (`Dialogue.Flow.unreachableEnd_mem_warnings`).
-/

namespace Dialogue

/-! ### Breadth-first search -/

theorem mem_unseen {seen ids : List String} {id : String} :
    id ∈ unseen seen ids ↔ id ∈ ids ∧ id ∉ seen := by
  induction ids generalizing seen with
  | nil => simp [unseen]
  | cons i rest ih =>
    unfold unseen
    by_cases hi : i ∈ seen
    · rw [if_pos hi, ih, List.mem_cons]
      constructor
      · rintro ⟨hrest, hnew⟩
        exact ⟨Or.inr hrest, hnew⟩
      · rintro ⟨rfl | hrest, hnew⟩
        · exact absurd hi hnew
        · exact ⟨hrest, hnew⟩
    · rw [if_neg hi, List.mem_cons, ih, List.mem_cons, List.mem_cons, not_or]
      constructor
      · rintro (rfl | ⟨hrest, -, hnew⟩)
        · exact ⟨Or.inl rfl, hi⟩
        · exact ⟨Or.inr hrest, hnew⟩
      · rintro ⟨h, hnew⟩
        by_cases he : id = i
        · exact Or.inl he
        · exact Or.inr ⟨h.resolve_left he, he, hnew⟩

variable {edges : List Edge} {queue seen : List String} {id : String}

/-- The search reaches what is in its queue. -/
theorem mem_explore_of_mem (h : id ∈ queue) : id ∈ explore edges queue seen := by
  induction queue, seen using explore.induct edges with
  | case1 seen => simp at h
  | case2 seen first queue found ih =>
    rw [explore]
    rcases List.mem_cons.mp h with rfl | hrest
    · exact List.mem_cons_self
    · exact List.mem_cons_of_mem _ (ih (List.mem_append_left _ hrest))

/-- **The search follows every edge that leaves what it reaches**, unless the edge leads to
what it had seen before. -/
theorem target_mem_explore {e : Edge} (he : e ∈ edges)
    (h : e.source ∈ explore edges queue seen) :
    e.target ∈ explore edges queue seen ∨ e.target ∈ seen := by
  induction queue, seen using explore.induct edges with
  | case1 seen => simp [explore] at h
  | case2 seen first queue found ih =>
    rw [explore] at h ⊢
    -- what is found behind the first node joins the queue, and so is reached later
    have hfound : e.target ∈ found →
        e.target ∈ first :: explore edges (queue ++ found) (found ++ seen) := fun hmem =>
      List.mem_cons_of_mem _ (mem_explore_of_mem (List.mem_append_right _ hmem))
    rcases List.mem_cons.mp h with hfirst | hlater
    · have htarget : e.target ∈ (edgesFrom edges first).map (·.target) :=
        List.mem_map.mpr ⟨e, List.mem_filter.mpr ⟨he, by simpa using hfirst⟩, rfl⟩
      by_cases hseen : e.target ∈ seen
      · exact Or.inr hseen
      · exact Or.inl (hfound (mem_unseen.mpr ⟨htarget, hseen⟩))
    · rcases ih hlater with hmem | hmem
      · exact Or.inl (List.mem_cons_of_mem _ hmem)
      · exact (List.mem_append.mp hmem).imp_left hfound

/-- **What holds of the queue and is carried along edges holds of all that is reached.** -/
theorem explore_induction {P : String → Prop} (hedge : ∀ e ∈ edges, P e.source → P e.target)
    (hqueue : ∀ id ∈ queue, P id) : ∀ id ∈ explore edges queue seen, P id := by
  induction queue, seen using explore.induct edges with
  | case1 seen => simp [explore]
  | case2 seen first queue found ih =>
    obtain ⟨hfirst, hrest⟩ := List.forall_mem_cons.mp hqueue
    have hfound : ∀ id ∈ found, P id := by
      intro id hid
      obtain ⟨e, he, rfl⟩ := List.mem_map.mp (mem_unseen.mp hid).1
      obtain ⟨hmem, hsource⟩ := List.mem_filter.mp he
      exact hedge e hmem ((beq_iff_eq.mp hsource).symm ▸ hfirst)
    rw [explore]
    exact List.forall_mem_cons.mpr ⟨hfirst, ih (List.forall_mem_append.mpr ⟨hrest, hfound⟩)⟩

namespace Flow

variable (flow : Flow)

/-- **The start node is reachable.** -/
theorem start_mem_reachable : flow.start.id ∈ flow.reachable :=
  mem_explore_of_mem List.mem_cons_self

variable {flow}

/-- **An edge leads from a reachable node to a reachable one.** -/
theorem target_mem_reachable {e : Edge} (he : e ∈ flow.outgoing id) (h : id ∈ flow.reachable) :
    e.target ∈ flow.reachable := by
  obtain ⟨hmem, rfl⟩ := mem_outgoing_iff.mp he
  rcases target_mem_explore hmem h with htarget | hseen
  · exact htarget
  · rw [List.mem_singleton.mp hseen]
    exact flow.start_mem_reachable

/-- **Nothing else is reachable**: what holds of the start node and is carried along edges
holds of every reachable node. -/
theorem reachable_induction {P : String → Prop} (hstart : P flow.start.id)
    (hedge : ∀ e ∈ flow.edges, P e.source → P e.target) : ∀ id ∈ flow.reachable, P id :=
  explore_induction hedge (by simpa using hstart)

/-! ### Warnings -/

/-- **A node is reported exactly when it is not reachable.** -/
theorem unreachableNode_mem_warnings :
    .unreachableNode id ∈ flow.warnings ↔
      (∃ n ∈ flow.nodes, n.id = id) ∧ id ∉ flow.reachable := by
  simp only [warnings, List.mem_append, List.mem_map, List.mem_filter, reduceCtorEq, and_false,
    exists_false, false_or, Warning.unreachableNode.injEq, decide_eq_true_eq]
  constructor
  · rintro (⟨n, ⟨hn, hout⟩, rfl⟩ | hend)
    · exact ⟨⟨n, hn, rfl⟩, hout⟩
    · split at hend <;> simp at hend
  · rintro ⟨⟨n, hn, rfl⟩, hout⟩
    exact Or.inl ⟨n, ⟨hn, hout⟩, rfl⟩

/-- **The lack of an end is reported exactly when no end is reachable.** -/
theorem unreachableEnd_mem_warnings :
    .unreachableEnd ∈ flow.warnings ↔
      ∀ n ∈ flow.nodes, n.isEnd = true → n.id ∉ flow.reachable := by
  simp only [warnings, List.mem_append, List.mem_map, reduceCtorEq, and_false, exists_false,
    false_or]
  by_cases hany : flow.nodes.any fun n => n.isEnd && decide (n.id ∈ flow.reachable)
  · obtain ⟨n, hn, hboth⟩ := List.any_eq_true.mp hany
    obtain ⟨hend, hreached⟩ := by simpa using hboth
    rw [if_pos hany]
    exact iff_of_false (by simp) fun h => h n hn hend hreached
  · rw [if_neg hany]
    refine iff_of_true (by simp) fun n hn hend hreached => hany ?_
    exact List.any_eq_true.mpr ⟨n, hn, by simp [hend, hreached]⟩

end Flow

end Dialogue
