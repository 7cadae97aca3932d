import Dialogue.Routing
import Dialogue.Proofs.Flow.Sound
import Dialogue.Proofs.Rule.Evaluation

/-!
# What a resolution says

In a flow without defects, looking for the node after another always has an outcome
(`Dialogue.Flow.exists_resolution`), and the outcome fits the node it was found for
(`Dialogue.Resolution.Fits`): a next node stands at the end of an edge that leaves it,
the end of the flow is a node that no edge leaves, and what is not resolved is so for
one of two reasons, both of which name the node.

The way to a next node is told by `Dialogue.Flow.Takes`: a node that is no condition is
left along its first edge, a condition along the edge with a handle that it chooses
(`Dialogue.Flow.Exit`), and in either case the next node admits it. What is noted on the
way are rules evaluated and edges refused, and last the edge that is taken
(`Dialogue.Flow.Finds`).
-/

namespace Dialogue

/-- **A resolution fits the node `source` of a flow.** -/
def Resolution.Fits (flow : Flow) (source : String) : Resolution → Prop
  | .next node edge => edge ∈ flow.outgoing source ∧ flow.node? edge.target = some node
  | .endOfFlow => flow.outgoing source = []
  | .unresolved reason =>
    flow.outgoing source ≠ [] ∧
      (reason = .allRejected source ∨ ∃ handle, reason = .noEdge source handle)

/-- **A condition chooses a handle** for what is stored. A simple condition chooses the
one that tells whether its rules hold, a condition with several outputs the value of an
output whose rules hold; it may choose another such value if a node refuses the first. -/
def Condition.Chooses (store : Store) (handle : String) : Condition → Prop
  | .simple rules => handle = if rules.holds store then trueHandle else falseHandle
  | .multiOutput outputs => ∃ output ∈ outputs, output.value = handle ∧ output.ruleSet.holds store

theorem mem_of_edgeThrough? {edges : List Edge} {handle : String} {e : Edge}
    (h : edgeThrough? edges handle = some e) : e ∈ edges :=
  List.mem_of_find?_eq_some h

theorem handle_of_edgeThrough? {edges : List Edge} {handle : String} {e : Edge}
    (h : edgeThrough? edges handle = some e) : e.handle = some handle := by
  simpa using List.find?_some h

namespace Flow

/-! ### Ways out of a node -/

section Ways

variable (flow : Flow) (store : Store) (current : Node)

/-- **How a node is left**: along which edge, and through which handle, if any. -/
inductive Exit : Edge → Option String → Prop
  /-- A node that is no condition is left along its first edge. -/
  | first {edge : Edge} (plain : ∀ c, current.content ≠ .condition c)
      (first : (flow.outgoing current.id).head? = some edge) : Exit edge none
  /-- A condition is left along the edge with a handle that it chooses. -/
  | chosen {c : Condition} {edge : Edge} {handle : String}
      (decides : current.content = .condition c) (chooses : c.Chooses store handle)
      (through : edgeThrough? (flow.outgoing current.id) handle = some edge) :
      Exit edge (some handle)

/-- **The way to the next node**: how the current one is left, where the edge leads, and
that the node there does not ask for another handle. -/
structure Takes (next : Node) (edge : Edge) (handle : Option String) : Prop where
  exit : flow.Exit store current edge handle
  arrives : flow.node? edge.target = some next
  admits : ∀ expected, next.guard? current.id = some expected → handle = some expected

/-- **What is found after a node, and what is noted meanwhile.** -/
inductive Finds : Resolution → List TraceEvent → Prop
  | next {node : Node} {edge : Edge} {handle : Option String} {notes : List TraceEvent}
      (weighed : ∀ e ∈ notes, e.weighedAt? = some current.id)
      (takes : flow.Takes store current node edge handle) :
      Finds (.next node edge) (notes ++ [.edgeResolved current.id node.id handle])
  | endOfFlow (last : flow.outgoing current.id = []) : Finds .endOfFlow []
  | unresolved {reason : Abort} {notes : List TraceEvent}
      (weighed : ∀ e ∈ notes, e.weighedAt? = some current.id)
      (goesOn : flow.outgoing current.id ≠ [])
      (why : reason = .allRejected current.id ∨ ∃ handle, reason = .noEdge current.id handle) :
      Finds (.unresolved reason) notes

end Ways

variable {flow : Flow} {store : Store} {current next : Node} {edge : Edge}
  {handle : Option String} {r : Resolution} {notes log : List TraceEvent}

theorem Exit.mem (h : flow.Exit store current edge handle) : edge ∈ flow.outgoing current.id := by
  cases h with
  | first plain first => exact List.mem_of_mem_head? first
  | chosen decides chooses through => exact mem_of_edgeThrough? through

/-- What is found fits. -/
theorem Finds.fits (h : flow.Finds store current r log) : r.Fits flow current.id := by
  cases h with
  | next weighed takes => exact ⟨takes.exit.mem, takes.arrives⟩
  | endOfFlow last => exact last
  | unresolved weighed goesOn why => exact ⟨goesOn, why⟩

/-- Rules that are evaluated first add to what is noted. -/
theorem Finds.after (h : flow.Finds store current r log)
    (hnotes : ∀ e ∈ notes, e.weighedAt? = some current.id)
    (hne : flow.outgoing current.id ≠ []) : flow.Finds store current r (notes ++ log) := by
  cases h with
  | next weighed takes =>
    rw [← List.append_assoc]
    exact Finds.next (List.forall_mem_append.mpr ⟨hnotes, weighed⟩) takes
  | endOfFlow last => exact absurd last hne
  | unresolved weighed goesOn why =>
    exact Finds.unresolved (List.forall_mem_append.mpr ⟨hnotes, weighed⟩) goesOn why

/-! ### Following edges -/

/-- **An edge is followed or refused.** It leads to a node of the flow in either case,
and it is refused exactly when that node asks for another handle. -/
theorem follow_cases (h : flow.Exit store current edge handle) :
    (∃ target : Node, flow.follow current.id edge handle =
        (.ok (some target), [.edgeResolved current.id target.id handle]) ∧
      flow.Takes store current target edge handle) ∨
    ∃ (target : Node) (expected : String), flow.follow current.id edge handle =
        (.ok none, [.guardRejected current.id target.id handle expected]) ∧
      target.guard? current.id = some expected ∧ handle ≠ some expected := by
  obtain ⟨target, ht⟩ := exists_target h.mem
  have hok : flow.node edge.target = .ok target := node_eq_ok_iff.mpr ht
  simp only [follow, hok]
  cases hg : target.guard? current.id with
  | none => exact Or.inl ⟨target, rfl, h, ht, by simp [hg]⟩
  | some expected =>
    by_cases hh : handle = some expected
    · exact Or.inl ⟨target, if_pos hh, h, ht, fun e he => hh.trans (hg.symm.trans he)⟩
    · exact Or.inr ⟨target, expected, if_neg hh, hg, hh⟩

theorem finds_followOnly (h : flow.Exit store current edge handle) :
    ∃ r log, flow.followOnly current.id edge handle = (.ok r, log) ∧
      flow.Finds store current r log := by
  unfold followOnly
  obtain ⟨target, hfollow, htakes⟩ | ⟨target, expected, hfollow, -, -⟩ := follow_cases h
  · rw [hfollow]
    exact ⟨_, _, rfl, Finds.next (List.forall_mem_nil _) htakes⟩
  · rw [hfollow]
    exact ⟨_, _, rfl, Finds.unresolved (by simp [TraceEvent.weighedAt?])
      (List.ne_nil_of_mem h.mem) (Or.inl rfl)⟩

/-- Trying outputs of a condition finds something. -/
theorem finds_tryOutputs {all : List Output}
    (hc : current.content = .condition (.multiOutput all)) (hne : flow.outgoing current.id ≠ [])
    (outputs : List Output) (hsub : ∀ output ∈ outputs, output ∈ all) (rejected : Bool) :
    ∃ r log, flow.tryOutputs current.id (flow.outgoing current.id) store outputs rejected =
        (.ok r, log) ∧ flow.Finds store current r log := by
  induction outputs generalizing rejected with
  | nil =>
    refine ⟨_, _, rfl, Finds.unresolved (by simp) hne ?_⟩
    cases rejected with
    | true => exact Or.inl rfl
    | false => exact Or.inr ⟨none, rfl⟩
  | cons output rest ih =>
    have hrest := ih fun o ho => hsub o (List.mem_cons_of_mem _ ho)
    obtain ⟨log, heval, hweighed⟩ :=
      output.ruleSet.exists_evaluate store current.id (some output.value)
    rw [tryOutputs, heval]
    cases hholds : output.ruleSet.holds store with
    | false =>
      obtain ⟨r, later, hlater, hfinds⟩ := hrest rejected
      exact ⟨r, log ++ later, by simp [hlater], hfinds.after hweighed hne⟩
    | true =>
      cases hthrough : edgeThrough? (flow.outgoing current.id) output.value with
      | none => exact ⟨_, log, rfl, Finds.unresolved hweighed hne (Or.inr ⟨_, rfl⟩)⟩
      | some e =>
        have hexit : flow.Exit store current e (some output.value) :=
          Exit.chosen hc ⟨output, hsub output List.mem_cons_self, rfl, hholds⟩ hthrough
        obtain ⟨target, hfollow, htakes⟩ | ⟨target, expected, hfollow, -, -⟩ :=
          follow_cases hexit
        · exact ⟨_, _, by simp [hfollow], Finds.next hweighed htakes⟩
        · -- the target refuses, so the search goes on and remembers it
          obtain ⟨r, later, hlater, hfinds⟩ := hrest true
          have hweighed' : ∀ e ∈ log ++
              [.guardRejected current.id target.id (some output.value) expected],
              e.weighedAt? = some current.id := by
            simpa [or_imp, forall_and, TraceEvent.weighedAt?] using hweighed
          exact ⟨r, _, by simp only [hfollow, hlater, if_true], hfinds.after hweighed' hne⟩

/-- **Looking for the node after another always finds something.** The node need not belong
to the flow. -/
theorem finds_resolve (flow : Flow) (current : Node) (store : Store) :
    ∃ r log, flow.resolve current store = (.ok r, log) ∧ flow.Finds store current r log := by
  unfold resolve
  cases hout : flow.outgoing current.id with
  | nil => exact ⟨.endOfFlow, [], rfl, Finds.endOfFlow hout⟩
  | cons first others =>
    have hne : flow.outgoing current.id ≠ [] := by simp [hout]
    have honly : (∀ c, current.content ≠ .condition c) →
        flow.Exit store current first none := fun hc => Exit.first hc (by rw [hout]; rfl)
    cases hc : current.content with
    | condition c =>
      cases c with
      | simple rules =>
        obtain ⟨log, heval, hweighed⟩ := rules.exists_evaluate store current.id none
        simp only [heval]
        generalize hhandle : (if rules.holds store then Condition.trueHandle
          else Condition.falseHandle) = handle
        cases hthrough : edgeThrough? (first :: others) handle with
        | none => exact ⟨_, log, rfl, Finds.unresolved hweighed hne (Or.inr ⟨_, rfl⟩)⟩
        | some e =>
          have hchooses : (Condition.simple rules).Chooses store handle := hhandle.symm
          obtain ⟨r, tried, htried, hfinds⟩ :=
            finds_followOnly (Exit.chosen hc hchooses (hout.symm ▸ hthrough))
          exact ⟨r, log ++ tried, by simp [htried], hfinds.after hweighed hne⟩
      | multiOutput outputs =>
        simpa only [hout] using finds_tryOutputs hc hne outputs (fun _ ho => ho) false
    | _ => exact finds_followOnly (honly (by simp [hc]))

/-- What is found is what `Dialogue.Flow.resolve` returns. -/
theorem finds_of_resolve (h : (flow.resolve current store).1 = .ok r) :
    flow.Finds store current r (flow.resolve current store).2 := by
  obtain ⟨r', log, hresolve, hfinds⟩ := flow.finds_resolve current store
  rw [hresolve] at h ⊢
  obtain rfl := Except.ok.inj h
  exact hfinds

/-- **A next node is found by the way to it**, and this is noted last. -/
theorem takes_of_next (h : (flow.resolve current store).1 = .ok (.next next edge)) :
    ∃ handle notes, flow.Takes store current next edge handle ∧
      (∀ e ∈ notes, e.weighedAt? = some current.id) ∧
      (flow.resolve current store).2 = notes ++ [.edgeResolved current.id next.id handle] := by
  have hfinds := finds_of_resolve h
  generalize (flow.resolve current store).2 = log at hfinds
  cases hfinds with
  | next weighed takes => exact ⟨_, _, takes, weighed, rfl⟩

/-- What is noted while the next node is looked for weighs rules, refuses edges or takes
one. -/
theorem weighed_or_taken {e : TraceEvent} (he : e ∈ (flow.resolve current store).2) :
    e.weighedAt? = some current.id ∨
      ∃ target handle, e = .edgeResolved current.id target handle := by
  obtain ⟨r, log, hresolve, hfinds⟩ := flow.finds_resolve current store
  rw [hresolve] at he
  cases hfinds with
  | next weighed takes =>
    rcases List.mem_append.mp he with hnotes | hlast
    · exact Or.inl (weighed e hnotes)
    · exact Or.inr ⟨_, _, List.mem_singleton.mp hlast⟩
  | endOfFlow last => simp at he
  | unresolved weighed goesOn why => exact Or.inl (weighed e he)

/-- **Looking for the node after another always has an outcome**, and it fits. The node
need not belong to the flow. -/
theorem exists_resolution (flow : Flow) (current : Node) (store : Store) :
    ∃ r, (flow.resolve current store).1 = .ok r ∧ r.Fits flow current.id := by
  obtain ⟨r, log, hresolve, hfinds⟩ := flow.finds_resolve current store
  exact ⟨r, by rw [hresolve], hfinds.fits⟩

/-! ### Flows that route alike -/

/-- **Two flows route alike**: they have the same nodes under the same ids and the same start
node, and the same is found after each node. -/
structure RoutesLike (flow flow' : Flow) : Prop where
  start : flow'.start = flow.start
  node? : ∀ id, flow'.node? id = flow.node? id
  resolve : ∀ n, flow.node? n.id = some n → ∀ store, flow'.resolve n store = flow.resolve n store

theorem RoutesLike.refl (flow : Flow) : flow.RoutesLike flow :=
  ⟨rfl, fun _ => rfl, fun _ _ _ => rfl⟩

end Flow

end Dialogue
