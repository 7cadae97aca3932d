import Dialogue.Proofs.Flow.Reach
import Mathlib.Data.Nat.Find

/-!
# How far nodes are from the start

A node is within reach if edges lead to it from the start node, one after the other
(`Dialogue.Way`), and its distance is the number of edges on the shortest way
(`Dialogue.Distance`). The search lists the nodes within reach, each of them once, and in
order of their distance; and the three kinds of warnings are read off it
(`Dialogue.Flow.reachable_and_warnings`).

What carries the order is the shape of the queue (`Dialogue.Frontier`). While the search is at
a distance, the queue holds nodes at that distance, followed by nodes one edge further; and all
nodes up to that distance have been seen. So a node that is not seen yet is further away, and
what is found behind the head of the queue belongs to its end.
-/

namespace Dialogue

/-! ### Ways and distances -/

/-- **A way along edges**, of the given length, from an id to another. It does not matter what
handles the edges have, nor what the nodes behind them ask for. -/
inductive Way (edges : List Edge) (origin : String) : Nat → String → Prop
  | here : Way edges origin 0 origin
  | along {k : Nat} {e : Edge} (way : Way edges origin k e.source) (mem : e ∈ edges) :
    Way edges origin (k + 1) e.target

/-- **The distance** of an id from another: the length of the shortest way. -/
def Distance (edges : List Edge) (origin id : String) (d : Nat) : Prop :=
  Way edges origin d id ∧ ∀ k, Way edges origin k id → d ≤ k

variable {edges : List Edge} {origin id : String} {d k : Nat}

/-- **An id is no further** than another, from where both are reached. -/
def NoFurther (edges : List Edge) (origin a b : String) : Prop :=
  ∀ j k, Distance edges origin a j → Distance edges origin b k → j ≤ k

theorem Way.exists_distance (h : Way edges origin k id) :
    ∃ d ≤ k, Distance edges origin id d := by
  classical
  have hexists : ∃ k, Way edges origin k id := ⟨k, h⟩
  exact ⟨Nat.find hexists, Nat.find_min' hexists h, Nat.find_spec hexists,
    fun _ hway => Nat.find_min' hexists hway⟩

namespace Distance

theorem unique (h : Distance edges origin id d) (h' : Distance edges origin id k) : d = k :=
  Nat.le_antisymm (h.2 k h'.1) (h'.2 d h.1)

theorem refl (edges : List Edge) (id : String) : Distance edges id id 0 :=
  ⟨Way.here, fun k _ => Nat.zero_le k⟩

/-- Right before the end of a shortest way stands an id that is one edge less far. -/
theorem exists_source (h : Distance edges origin id (d + 1)) :
    ∃ e ∈ edges, e.target = id ∧ Distance edges origin e.source d := by
  obtain ⟨hway, hshortest⟩ := h
  cases hway with
  | @along k e way mem =>
    exact ⟨e, mem, rfl, way, fun k hk => Nat.le_of_succ_le_succ (hshortest _ (hk.along mem))⟩

/-- **An edge leads at most one further.** -/
theorem exists_target {e : Edge} (h : Distance edges origin e.source d) (he : e ∈ edges) :
    ∃ k ≤ d + 1, Distance edges origin e.target k :=
  (h.1.along he).exists_distance

end Distance

/-! ### The order of the search -/

/-- **The frontier of the search** at the distance `d`: the queue holds the ids `near` at this
distance, and then the ids `far` one edge further. All ids up to this distance are seen; and
where an id is seen and has left the queue, the targets of its edges are seen. -/
structure Frontier (edges : List Edge) (origin : String) (d : Nat)
    (near far seen : List String) : Prop where
  here : ∀ id ∈ near, Distance edges origin id d
  further : ∀ id ∈ far, Distance edges origin id (d + 1)
  within : ∀ id, ∀ k ≤ d, Distance edges origin id k → id ∈ seen
  done : ∀ e ∈ edges, e.source ∈ seen → e.source ∉ near ++ far → e.target ∈ seen

namespace Frontier

variable {near far seen queue : List String} {first : String}

/-- The search begins at the distance 0. -/
theorem begin (edges : List Edge) (origin : String) :
    Frontier edges origin 0 [origin] [] [origin] where
  here id hid := by
    obtain rfl := List.mem_singleton.mp hid
    exact Distance.refl edges id
  further id hid := absurd hid List.not_mem_nil
  within id k hk hdistance := by
    obtain rfl : k = 0 := Nat.le_zero.mp hk
    obtain ⟨way, -⟩ := hdistance
    cases way with
    | here => exact List.mem_singleton_self _
  done e he hseen hleft := absurd hseen hleft

/-- **Where nothing near is left, what was far is near.** -/
theorem shift (h : Frontier edges origin d [] far seen) :
    Frontier edges origin (d + 1) far [] seen where
  here := h.further
  further id hid := absurd hid List.not_mem_nil
  within id k hk hdistance := by
    rcases Nat.lt_or_eq_of_le hk with hlt | rfl
    · exact h.within id k (Nat.le_of_lt_succ hlt) hdistance
    · -- what stands before it on a shortest way is seen, and no longer in the queue
      obtain ⟨e, he, rfl, hsource⟩ := hdistance.exists_source
      have hseen : e.source ∈ seen := h.within _ d (Nat.le_refl d) hsource
      refine h.done e he hseen fun hqueue => ?_
      have hsame := hsource.unique (h.further _ hqueue)
      omega
  done e he hseen hleft := h.done e he hseen (by simpa using hleft)

/-- **The step of the search**: what is found behind the head of the queue is far. -/
theorem step (h : Frontier edges origin d (first :: near) far seen) :
    let found := unseen seen ((edgesFrom edges first).map (·.target))
    Frontier edges origin d near (far ++ found) (found ++ seen) := by
  intro found
  have hfirst : Distance edges origin first d := h.here first List.mem_cons_self
  refine ⟨fun id hid => h.here id (List.mem_cons_of_mem _ hid), ?_, ?_, ?_⟩
  · refine List.forall_mem_append.mpr ⟨h.further, fun id hid => ?_⟩
    obtain ⟨htarget, hnew⟩ := mem_unseen.mp hid
    obtain ⟨e, he, rfl⟩ := List.mem_map.mp htarget
    obtain ⟨hmem, hsource⟩ := List.mem_filter.mp he
    obtain rfl : e.source = first := by simpa using hsource
    -- it is not nearer, because it would have been seen
    obtain ⟨k, hk, hdistance⟩ := hfirst.exists_target hmem
    obtain rfl : k = d + 1 := by
      by_contra hne
      exact hnew (h.within _ k (by omega) hdistance)
    exact hdistance
  · exact fun id k hk hdistance => List.mem_append_right _ (h.within id k hk hdistance)
  · intro e he hseen hleft
    simp only [List.mem_append, not_or] at hleft
    obtain ⟨hnear, hfar, hfound⟩ := hleft
    have hsource : e.source ∈ seen := (List.mem_append.mp hseen).resolve_left hfound
    by_cases hhead : e.source = first
    · by_cases htarget : e.target ∈ seen
      · exact List.mem_append_right _ htarget
      · have hleaves : e ∈ edgesFrom edges first :=
          List.mem_filter.mpr ⟨he, by simpa using hhead⟩
        exact List.mem_append_left _ (mem_unseen.mpr ⟨List.mem_map_of_mem hleaves, htarget⟩)
    · exact List.mem_append_right _ (h.done e he hsource (by simp [hhead, hnear, hfar]))

/-- The head of the queue may be taken to be near. -/
theorem exists_near (h : Frontier edges origin d near far seen)
    (hqueue : near ++ far = first :: queue) :
    ∃ k ≥ d, ∃ near far, near ++ far = queue ∧
      Frontier edges origin k (first :: near) far seen := by
  cases near with
  | nil =>
    obtain rfl : far = first :: queue := hqueue
    exact ⟨d + 1, Nat.le_succ d, queue, [], List.append_nil queue, h.shift⟩
  | cons head near =>
    obtain ⟨rfl, rfl⟩ := List.cons.inj hqueue
    exact ⟨d, Nat.le_refl d, near, far, rfl, h⟩

/-- **The search goes from the near to the far**: nothing that it lists is nearer than what it
has listed before, nor than the head of the queue. -/
theorem pairwise_explore (edges : List Edge) (origin : String) (queue seen : List String) :
    ∀ d near far, Frontier edges origin d near far seen → near ++ far = queue →
      (explore edges queue seen).Pairwise (NoFurther edges origin) ∧
      ∀ id ∈ explore edges queue seen, ∃ k ≥ d, Distance edges origin id k := by
  induction queue, seen using explore.induct edges with
  | case1 seen => simp [explore]
  | case2 seen first queue found ih =>
    intro d near far h hqueue
    obtain ⟨k, hk, near, far, rfl, hnear⟩ := h.exists_near hqueue
    have hfirst : Distance edges origin first k := hnear.here first List.mem_cons_self
    obtain ⟨hordered, hbeyond⟩ :=
      ih k near (far ++ found) hnear.step (List.append_assoc near far found).symm
    rw [explore]
    refine ⟨List.pairwise_cons.mpr ⟨fun id hid i j hi hj => ?_, hordered⟩, ?_⟩
    · obtain ⟨l, hl, hdistance⟩ := hbeyond id hid
      rw [hi.unique hfirst, hj.unique hdistance]
      exact hl
    · refine List.forall_mem_cons.mpr ⟨⟨k, hk, hfirst⟩, fun id hid => ?_⟩
      obtain ⟨l, hl, hdistance⟩ := hbeyond id hid
      exact ⟨l, Nat.le_trans hk hl, hdistance⟩

end Frontier

/-! ### Each once -/

theorem nodup_unseen (seen ids : List String) : (unseen seen ids).Nodup := by
  induction ids generalizing seen with
  | nil => exact List.nodup_nil
  | cons id rest ih =>
    unfold unseen
    split
    · exact ih seen
    · refine List.nodup_cons.mpr ⟨fun hmem => ?_, ih (id :: seen)⟩
      exact (mem_unseen.mp hmem).2 List.mem_cons_self

/-- **The search lists nothing twice.** What it lists was in the queue or had not been seen. -/
theorem nodup_explore {queue seen : List String} (hnodup : queue.Nodup)
    (hseen : ∀ id ∈ queue, id ∈ seen) :
    (explore edges queue seen).Nodup ∧
      ∀ id ∈ explore edges queue seen, id ∈ queue ∨ id ∉ seen := by
  induction queue, seen using explore.induct edges with
  | case1 seen => simp [explore]
  | case2 seen first queue found ih =>
    obtain ⟨hfirst, hrest⟩ := List.forall_mem_cons.mp hseen
    obtain ⟨hhead, hqueue⟩ := List.nodup_cons.mp hnodup
    have hnew : ∀ id ∈ found, id ∉ seen := fun id hid => (mem_unseen.mp hid).2
    have hlonger : (queue ++ found).Nodup :=
      List.nodup_append'.mpr ⟨hqueue, nodup_unseen _ _, fun id hid hfound =>
        hnew id hfound (hrest id hid)⟩
    have hmarked : ∀ id ∈ queue ++ found, id ∈ found ++ seen := fun id hid =>
      List.mem_append.mpr ((List.mem_append.mp hid).symm.imp_right (hrest id))
    obtain ⟨hnodup', hfresh⟩ := ih hlonger hmarked
    rw [explore]
    refine ⟨List.nodup_cons.mpr ⟨fun hmem => ?_, hnodup'⟩, ?_⟩
    · -- it has left the queue, and it was seen
      rcases hfresh first hmem with hlater | hunseen
      · rcases List.mem_append.mp hlater with hmem | hmem
        · exact hhead hmem
        · exact hnew first hmem hfirst
      · exact hunseen (List.mem_append_right _ hfirst)
    · refine List.forall_mem_cons.mpr ⟨Or.inl List.mem_cons_self, fun id hid => ?_⟩
      rcases hfresh id hid with hlater | hunseen
      · exact (List.mem_append.mp hlater).imp (List.mem_cons_of_mem _) (hnew id)
      · exact Or.inr fun hmem => hunseen (List.mem_append_right _ hmem)

/-! ### Defaults -/

/-- **A condition without a default**: it has several outputs, and each of them has rules. -/
def Node.WithoutDefault (n : Node) : Prop :=
  ∃ outputs, n.content = .condition (.multiOutput outputs) ∧
    ∀ output ∈ outputs, output.ruleSet.rules ≠ []

namespace Flow

theorem lacksDefault_iff {n : Node} : lacksDefault n = true ↔ n.WithoutDefault := by
  unfold lacksDefault Node.WithoutDefault
  cases n.content with
  | condition c => cases c <;> simp [RuleSet.isEmpty]
  | _ => simp

instance (n : Node) : Decidable n.WithoutDefault :=
  decidable_of_iff _ lacksDefault_iff

/-! ### What is within reach -/

variable (flow : Flow)

/-- **An id is within reach**: a way leads to it from the start node. -/
def Reaches (id : String) : Prop :=
  ∃ k, Way flow.edges flow.start.id k id

/-- **The search lists what is within reach.** -/
theorem mem_reachable_iff_reaches {id : String} : id ∈ flow.reachable ↔ flow.Reaches id := by
  constructor
  · refine reachable_induction ⟨0, Way.here⟩ (fun e he hsource => ?_) id
    obtain ⟨k, hway⟩ := hsource
    exact ⟨k + 1, hway.along he⟩
  · rintro ⟨k, hway⟩
    induction hway with
    | here => exact flow.start_mem_reachable
    | @along k e way mem ih =>
      have hleaves : e ∈ flow.outgoing e.source :=
        mem_outgoing_iff.mpr ⟨mem, rfl⟩
      exact target_mem_reachable hleaves ih

instance (id : String) : Decidable (flow.Reaches id) :=
  decidable_of_iff _ flow.mem_reachable_iff_reaches

/-- **What is within reach are nodes of the flow.** -/
theorem contains_of_mem_reachable : ∀ id ∈ flow.reachable, flow.contains id = true :=
  reachable_induction (contains_iff.mpr ⟨_, flow.start_mem, rfl⟩)
    fun _ he _ => contains_eq_hasNode ▸ (hasNode_of_mem_edges he).2

theorem nodup_reachable : flow.reachable.Nodup :=
  (nodup_explore (List.nodup_singleton _) fun _ hid => hid).1

/-- The search ends: it lists no more ids than there are nodes. -/
theorem length_reachable_le : flow.reachable.length ≤ flow.nodes.length :=
  length_le_of_nodup flow.nodup_reachable fun id hid =>
    exists_node?_of_hasNode (contains_eq_hasNode ▸ flow.contains_of_mem_reachable id hid)

/-- The search begins at the start node. -/
theorem head?_reachable : flow.reachable.head? = some flow.start.id := by
  rw [reachable, explore]
  rfl

/-- **The search goes from the near to the far.** -/
theorem pairwise_reachable : flow.reachable.Pairwise (NoFurther flow.edges flow.start.id) :=
  (Frontier.pairwise_explore _ _ _ _ 0 _ [] (Frontier.begin _ _) (List.append_nil _)).1

/-- **The search and the warnings are exact.** In every flow the search for reachable nodes
ends, and it lists the ids of the nodes within reach, and only these: the start node first,
each of them once, and none before another that is nearer to the start node. The flow carries
these warnings and no others: in the order of the nodes one for each condition without a
default, then in the order of the nodes one for each node that is not within reach, and at last
one if no end is within reach. -/
theorem reachable_and_warnings :
    (flow.reachable.length ≤ flow.nodes.length ∧
      (∀ id, id ∈ flow.reachable ↔ flow.contains id = true ∧ flow.Reaches id) ∧
      flow.reachable.Nodup ∧
      flow.reachable.head? = some flow.start.id ∧
      flow.reachable.Pairwise (NoFurther flow.edges flow.start.id)) ∧
    flow.warnings =
      (flow.nodes.filter fun n => n.WithoutDefault).map (.missingDefault ·.id) ++
      (flow.nodes.filter fun n => ¬ flow.Reaches n.id).map (.unreachableNode ·.id) ++
      (if ∃ n ∈ flow.nodes, n.isEnd = true ∧ flow.Reaches n.id then [] else [.unreachableEnd]) := by
  have hmem : ∀ id, id ∈ flow.reachable ↔ flow.contains id = true ∧ flow.Reaches id := by
    intro id
    rw [← mem_reachable_iff_reaches]
    exact ⟨fun h => ⟨flow.contains_of_mem_reachable id h, h⟩, fun h => h.2⟩
  refine ⟨⟨flow.length_reachable_le, hmem, flow.nodup_reachable, flow.head?_reachable,
    flow.pairwise_reachable⟩, ?_⟩
  have hdefault : lacksDefault = fun n => decide n.WithoutDefault :=
    funext fun n => Bool.eq_iff_iff.mpr (by simp [lacksDefault_iff])
  simp only [warnings, mem_reachable_iff_reaches, hdefault, List.any_eq_true, Bool.and_eq_true,
    decide_eq_true_eq]

end Flow

end Dialogue
