import Dialogue.Proofs.Flow.Reach
import Dialogue.Proofs.Flow.Resolve

/-!
# Complete flows

A flow is complete if its author has thought of every case (`Dialogue.Flow.Complete`): each
node within reach, the ends apart, has the edges that it may be left along, and no question
refuses to be entered along any of them. What this asks of a condition with several outputs
is in part a matter of the warnings: one output must be there that always matches.

In a complete flow a next node is found after every node within reach that is no end,
whatever is stored (`Dialogue.Flow.Complete.exists_next`). No rule needs to be evaluated to
see this. Of a simple condition both ways out are there; of one with several outputs the
search comes to an output that matches, at the latest to the default, and takes the first
one, because no target refuses.
-/

namespace Dialogue

/-- A set without rules always holds. -/
theorem RuleSet.holds_of_isEmpty {rules : RuleSet} (h : rules.isEmpty = true) (store : Store) :
    rules.holds store = true := by
  rw [holds, h, Bool.true_or]

namespace Flow

/-- **The lack of a default is reported** of a condition with several outputs if none of them
is without rules. -/
theorem missingDefault_mem_warnings {flow : Flow} {id : String} :
    .missingDefault id ∈ flow.warnings ↔ ∃ n ∈ flow.nodes, n.id = id ∧ lacksDefault n = true := by
  simp only [warnings, List.mem_append, List.mem_map, List.mem_filter, reduceCtorEq, and_false,
    exists_false, or_false, Warning.missingDefault.injEq]
  constructor
  · rintro (⟨n, ⟨hn, hlacks⟩, rfl⟩ | hend)
    · exact ⟨n, hn, rfl, hlacks⟩
    · split at hend <;> simp at hend
  · rintro ⟨n, hn, rfl, hlacks⟩
    exact Or.inl ⟨n, ⟨hn, hlacks⟩, rfl⟩

/-! ### Edges that provide for a node -/

variable (flow : Flow)

/-- The node `source` has an edge with the given handle. -/
def HasEdge (source handle : String) : Prop :=
  ∃ edge ∈ flow.outgoing source, edge.handle = some handle

/-- **The target of the edge admits** whoever comes from `source` through the handle: if it
asks for a handle, then for this one. -/
def Admits (source : String) (edge : Edge) (handle : Option String) : Prop :=
  ∀ target ∈ flow.node? edge.target, ∀ expected ∈ target.guard? source, handle = some expected

/-- **All targets admit** who comes along an edge with a handle, through this handle. -/
def AdmitsAll (source : String) : Prop :=
  ∀ edge ∈ flow.outgoing source, ∀ handle ∈ edge.handle, flow.Admits source edge (some handle)

/-- **The edges of a node provide** for all that its content can lead to. Who comes through no
handle is admitted only where none is asked for. -/
def Provides (id : String) : NodeContent → Prop
  | .start | .message _ | .question _ =>
    ∃ edge ∈ (flow.outgoing id).head?, flow.Admits id edge none
  | .condition (.simple _) =>
    flow.HasEdge id Condition.trueHandle ∧ flow.HasEdge id Condition.falseHandle ∧
      flow.AdmitsAll id
  | .condition (.multiOutput outputs) =>
    .missingDefault id ∉ flow.warnings ∧ (∀ output ∈ outputs, flow.HasEdge id output.value) ∧
      flow.AdmitsAll id
  | .finish _ => True

/-- **A complete flow**: the edges of each node within reach provide for it. -/
def Complete : Prop :=
  ∀ n ∈ flow.nodes, n.id ∈ flow.reachable → flow.Provides n.id n.content

instance (source handle : String) : Decidable (flow.HasEdge source handle) :=
  inferInstanceAs (Decidable (∃ edge ∈ flow.outgoing source, edge.handle = some handle))

instance (source : String) (edge : Edge) (handle : Option String) :
    Decidable (flow.Admits source edge handle) :=
  inferInstanceAs (Decidable (∀ target ∈ flow.node? edge.target,
    ∀ expected ∈ target.guard? source, handle = some expected))

instance (source : String) : Decidable (flow.AdmitsAll source) :=
  inferInstanceAs (Decidable (∀ edge ∈ flow.outgoing source, ∀ handle ∈ edge.handle,
    flow.Admits source edge (some handle)))

instance (id : String) : (content : NodeContent) → Decidable (flow.Provides id content)
  | .start | .message _ | .question _ =>
    inferInstanceAs (Decidable (∃ edge ∈ (flow.outgoing id).head?, flow.Admits id edge none))
  | .condition (.simple _) => inferInstanceAs (Decidable (_ ∧ _ ∧ _))
  | .condition (.multiOutput _) =>
    -- whether the lack of a default is reported needs no search
    haveI : Decidable (.missingDefault id ∈ flow.warnings) :=
      decidable_of_iff _ missingDefault_mem_warnings.symm
    inferInstanceAs (Decidable (_ ∧ _ ∧ _))
  | .finish _ => inferInstanceAs (Decidable True)

variable {flow} {n : Node} {store : Store} {edge : Edge} {handle : Option String} {id : String}

/-! ### Defaults -/

/-- **A default always matches.** -/
theorem exists_holds {outputs : List Output} (hn : n ∈ flow.nodes)
    (hc : n.content = .condition (.multiOutput outputs))
    (hdefault : .missingDefault n.id ∉ flow.warnings) (store : Store) :
    ∃ output ∈ outputs, output.ruleSet.holds store = true := by
  by_contra hnone
  refine hdefault (missingDefault_mem_warnings.mpr ⟨n, hn, rfl, ?_⟩)
  have hrules : ∀ output ∈ outputs, output.ruleSet.isEmpty = false := by
    intro output houtput
    by_contra hempty
    exact hnone ⟨output, houtput, RuleSet.holds_of_isEmpty (by simpa using hempty) store⟩
  simpa [lacksDefault, hc] using hrules

/-! ### Edges that are followed -/

/-- **An edge whose target admits is followed.** -/
theorem Admits.follow_eq {source : String} (h : flow.Admits source edge handle)
    (hmem : edge ∈ flow.outgoing source) :
    ∃ target, flow.follow source edge handle =
      (.ok (some target), [.edgeResolved source target.id handle]) := by
  obtain ⟨target, htarget⟩ := exists_target hmem
  have hok : flow.node edge.target = .ok target := node_eq_ok_iff.mpr htarget
  refine ⟨target, ?_⟩
  simp only [follow, hok]
  cases hguard : target.guard? source with
  | none => rfl
  | some expected => exact if_pos (h target htarget expected hguard)

theorem Admits.followOnly_eq {source : String} (h : flow.Admits source edge handle)
    (hmem : edge ∈ flow.outgoing source) :
    ∃ target, (flow.followOnly source edge handle).1 = .ok (.next target edge) := by
  obtain ⟨target, hfollow⟩ := h.follow_eq hmem
  exact ⟨target, by rw [followOnly, hfollow]⟩

/-- **Where an edge has the handle, the first such edge leads on**, if all targets admit. -/
theorem HasEdge.exists_edgeThrough? {source handle : String} (h : flow.HasEdge source handle)
    (hadmits : flow.AdmitsAll source) :
    ∃ edge, edgeThrough? (flow.outgoing source) handle = some edge ∧
      edge ∈ flow.outgoing source ∧ flow.Admits source edge (some handle) := by
  obtain ⟨e, he, hhandle⟩ := h
  have hsome : (edgeThrough? (flow.outgoing source) handle).isSome = true :=
    List.find?_isSome.mpr ⟨e, he, by simpa using hhandle⟩
  obtain ⟨edge, hthrough⟩ := Option.isSome_iff_exists.mp hsome
  have hmem := mem_of_edgeThrough? hthrough
  exact ⟨edge, hthrough, hmem, hadmits edge hmem handle (handle_of_edgeThrough? hthrough)⟩

/-! ### The next node -/

/-- A node that is no condition is left along its first edge. -/
theorem exists_next_of_first (hplain : ∀ c, n.content ≠ .condition c)
    (hfirst : edge ∈ (flow.outgoing n.id).head?) (hadmits : flow.Admits n.id edge none)
    (store : Store) : ∃ next edge, (flow.resolve n store).1 = .ok (.next next edge) := by
  obtain ⟨others, hout⟩ := List.head?_eq_some_iff.mp hfirst
  obtain ⟨target, hfollow⟩ := hadmits.followOnly_eq (List.mem_of_mem_head? hfirst)
  refine ⟨target, edge, ?_⟩
  unfold resolve
  rw [hout]
  cases hc : n.content with
  | condition c => exact absurd hc (hplain c)
  | _ => exact hfollow

/-- A simple condition is left through one of its two handles. -/
theorem exists_next_of_simple {rules : RuleSet} (hc : n.content = .condition (.simple rules))
    (htrue : flow.HasEdge n.id Condition.trueHandle)
    (hfalse : flow.HasEdge n.id Condition.falseHandle) (hadmits : flow.AdmitsAll n.id)
    (store : Store) : ∃ next edge, (flow.resolve n store).1 = .ok (.next next edge) := by
  obtain ⟨log, heval, -⟩ := rules.exists_evaluate store n.id none
  have hchosen : flow.HasEdge n.id
      (if rules.holds store then Condition.trueHandle else Condition.falseHandle) := by
    split
    · exact htrue
    · exact hfalse
  obtain ⟨edge, hthrough, hmem, hadmitted⟩ := hchosen.exists_edgeThrough? hadmits
  obtain ⟨target, hfollow⟩ := hadmitted.followOnly_eq hmem
  obtain ⟨first, others, hout⟩ := List.exists_cons_of_ne_nil (List.ne_nil_of_mem hmem)
  refine ⟨target, edge, ?_⟩
  unfold resolve
  rw [hout] at hthrough ⊢
  simp only [hc, heval, hthrough]
  exact hfollow

/-- **The search through the outputs comes to one that matches**, and the target behind it
admits. -/
theorem exists_next_of_outputs {source : String} (hadmits : flow.AdmitsAll source)
    {outputs : List Output} (hedges : ∀ output ∈ outputs, flow.HasEdge source output.value)
    (hholds : ∃ output ∈ outputs, output.ruleSet.holds store = true) (rejected : Bool) :
    ∃ next edge, (flow.tryOutputs source (flow.outgoing source) store outputs rejected).1 =
      .ok (.next next edge) := by
  induction outputs with
  | nil => simp at hholds
  | cons output rest ih =>
    obtain ⟨log, heval, -⟩ := output.ruleSet.exists_evaluate store source (some output.value)
    obtain ⟨hedge, hrest⟩ := List.forall_mem_cons.mp hedges
    rw [tryOutputs, heval]
    cases hhere : output.ruleSet.holds store with
    | true =>
      obtain ⟨edge, hthrough, hmem, hadmitted⟩ := hedge.exists_edgeThrough? hadmits
      obtain ⟨target, hfollow⟩ := hadmitted.follow_eq hmem
      exact ⟨target, edge, by simp [hthrough, hfollow]⟩
    | false =>
      have hlater : ∃ output ∈ rest, output.ruleSet.holds store = true := by
        simpa [hhere] using hholds
      obtain ⟨next, edge, hnext⟩ := ih hrest hlater
      exact ⟨next, edge, by simp [hnext]⟩

/-- A condition with several outputs is left through one that matches. -/
theorem exists_next_of_multiOutput {outputs : List Output}
    (hc : n.content = .condition (.multiOutput outputs))
    (hedges : ∀ output ∈ outputs, flow.HasEdge n.id output.value)
    (hadmits : flow.AdmitsAll n.id)
    (hholds : ∃ output ∈ outputs, output.ruleSet.holds store = true) :
    ∃ next edge, (flow.resolve n store).1 = .ok (.next next edge) := by
  obtain ⟨output, houtput, -⟩ := id hholds
  obtain ⟨edge, hmem, -⟩ := hedges output houtput
  obtain ⟨first, others, hout⟩ := List.exists_cons_of_ne_nil (List.ne_nil_of_mem hmem)
  obtain ⟨next, edge, hnext⟩ := exists_next_of_outputs hadmits hedges hholds false
  refine ⟨next, edge, ?_⟩
  unfold resolve
  rw [hout] at hnext ⊢
  simp only [hc]
  exact hnext

/-- **A node for which its edges provide is left**, whatever is stored. -/
theorem Provides.exists_next (h : flow.Provides n.id n.content) (hn : n ∈ flow.nodes)
    (hend : n.isEnd = false) (store : Store) :
    ∃ next edge, (flow.resolve n store).1 = .ok (.next next edge) := by
  cases hc : n.content with
  | condition c =>
    rw [hc] at h
    cases c with
    | simple rules =>
      obtain ⟨htrue, hfalse, hadmits⟩ := h
      exact exists_next_of_simple hc htrue hfalse hadmits store
    | multiOutput outputs =>
      obtain ⟨hdefault, hedges, hadmits⟩ := h
      exact exists_next_of_multiOutput hc hedges hadmits (exists_holds hn hc hdefault store)
  | finish message => simp [Node.isEnd, Node.kind, hc] at hend
  | start | message text | question q =>
    rw [hc] at h
    obtain ⟨edge, hfirst, hadmits⟩ := h
    exact exists_next_of_first (by simp [hc]) hfirst hadmits store

/-- **In a complete flow a next node is found after every node within reach**, the ends
apart. -/
theorem Complete.exists_next (h : flow.Complete) (hknown : flow.node? n.id = some n)
    (hreach : n.id ∈ flow.reachable) (hend : n.isEnd = false) (store : Store) :
    ∃ next edge, (flow.resolve n store).1 = .ok (.next next edge) := by
  have hn : n ∈ flow.nodes := (node?_eq_some_iff.mp hknown).1
  exact (h n hn hreach).exists_next hn hend store

/-- A flow that sorts an answer, asks those who want many whether they are sure, and begins
again if they are not. -/
def graded : Flow where
  nodes := [⟨"start", .start⟩, ⟨"ask", .question ⟨"How many?", [], "count", .empty⟩⟩,
    ⟨"size", .condition (.multiOutput [⟨"one", none, ⟨.and, [⟨"count", .equals, "1"⟩]⟩⟩,
      ⟨"many", none, .always⟩])⟩,
    ⟨"single", .message "Just one"⟩,
    ⟨"sure", .question ⟨"Sure?", [], "sure", StringMap.empty.insert "size" "many"⟩⟩,
    ⟨"agreed", .condition (.simple ⟨.and, [⟨"sure", .equals, "yes"⟩]⟩)⟩, ⟨"bye", .finish none⟩]
  edges := [⟨"first", "start", "ask", none⟩, ⟨"second", "ask", "size", none⟩,
    ⟨"third", "size", "single", some "one"⟩, ⟨"fourth", "size", "sure", some "many"⟩,
    ⟨"fifth", "single", "bye", none⟩, ⟨"sixth", "sure", "agreed", none⟩,
    ⟨"seventh", "agreed", "bye", some "true"⟩, ⟨"eighth", "agreed", "ask", some "false"⟩]
  sound := by decide

/-- Nothing has to be known of what is within reach: every node is provided for. -/
theorem complete_graded : graded.Complete := by
  have hall : ∀ n ∈ graded.nodes, graded.Provides n.id n.content := by decide
  exact fun n hn _ => hall n hn

end Flow

end Dialogue
