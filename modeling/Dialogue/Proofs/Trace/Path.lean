import Dialogue.Proofs.Pass.Effect

/-!
# Traces as paths through a flow

What a session may note next depends on how far it has come, its stage
(`Dialogue.Stage`). `Dialogue.Flow.Step` lists the steps that lead from one stage to
another, each with the event that is noted, and `Dialogue.Flow.Log` the logs that lead from
one stage to another in any number of steps. A log that leads from the blank stage to one
at which a session rests is a faithful record of a path through the flow
(`Dialogue.Flow.Faithful`): this is `Dialogue.Flow.Log.faithful`.

The steps of a log are looked at one at a time. To say what stands right before an event
takes a second look, at the step before (`Dialogue.Flow.Log.snoc_cases`); what the earlier
steps have in common is carried by two invariants of the stage, that it is at the node
entered last and that its nodes belong to the flow.
-/

namespace Dialogue

/-! ### Stages -/

/-- How far a session has come in what it notes. -/
inductive Stage
  /-- Nothing is noted. -/
  | blank
  /-- The run has begun, and the start node comes next. -/
  | begun
  /-- A node is entered, or a question is answered, and the next node is looked for. -/
  | standing (node : Node)
  /-- The next node is found. -/
  | leaving (node next : Node)
  /-- A question is entered. -/
  | asking (node : Node)
  /-- The question waits. -/
  | waiting (node : Node)
  | completed (node : Node)
  | aborted (node : Node)

namespace Stage

/-- The state of a session at a stage. -/
def state : Stage → SessionState
  | blank => .idle
  | begun | standing _ | leaving .. | asking _ => .running
  | waiting _ => .awaitingInput
  | completed _ => .completed
  | aborted _ => .aborted

/-- The node entered last at a stage. -/
def node? : Stage → Option Node
  | blank | begun => none
  | standing n | leaving n _ | asking n | waiting n | completed n | aborted n => some n

/-- The stage to which an event leads that closes a pass at a node. -/
def closedBy (n : Node) : Event → Stage
  | .message .. => standing n
  | .question .. => waiting n
  | .completed .. => completed n
  | .aborted _ => aborted n

theorem node?_closedBy (n : Node) (e : Event) : (closedBy n e).node? = some n := by
  cases e <;> rfl

end Stage

/-- The node that is entered last in a log. -/
def lastEntered? (log : List TraceEvent) : Option String :=
  (log.filterMap TraceEvent.enteredNode?).getLast?

/-- An event after which nothing is noted. -/
def TraceEvent.Ends : TraceEvent → Prop
  | .completed _ | .aborted _ => True
  | _ => False

theorem lastEntered?_concat (log : List TraceEvent) (e : TraceEvent) :
    lastEntered? (log ++ [e]) = e.enteredNode?.or (lastEntered? log) := by
  unfold lastEntered?
  rw [List.filterMap_append, List.getLast?_append]
  cases h : e.enteredNode? <;> simp [h]

namespace Flow

/-! ### Steps and logs -/

/-- **What may be noted at a stage**, and the stage to which it leads. -/
inductive Step (flow : Flow) : Stage → TraceEvent → Stage → Prop
  | begin : Step flow .blank (.sessionStarted flow.start.id) .begun
  | enterStart :
    Step flow .begun (.nodeEntered flow.start.id flow.start.kind) (.standing flow.start)
  /-- A rule is evaluated, or an edge is refused. -/
  | weigh {m : Node} {e : TraceEvent} (weighed : e.weighedAt? = some m.id) :
    Step flow (.standing m) e (.standing m)
  /-- An edge is taken. -/
  | leave {m n : Node} {edge : Edge} {handle : Option String} {store : Store}
    (takes : flow.Takes store m n edge handle) :
    Step flow (.standing m) (.edgeResolved m.id n.id handle) (.leaving m n)
  | enter {m n : Node} (known : flow.node? n.id = some n) (asksNot : n.question? = none) :
    Step flow (.leaving m n) (.nodeEntered n.id n.kind) (.standing n)
  | ask {m n : Node} (known : flow.node? n.id = some n) (asks : n.question?.isSome = true) :
    Step flow (.leaving m n) (.nodeEntered n.id n.kind) (.asking n)
  | suspend {n : Node} : Step flow (.asking n) (.suspended n.id) (.waiting n)
  | answer {n : Node} {q : Question} {value : String} (asks : n.content = .question q) :
    Step flow (.waiting n) (.answerCommitted n.id q.variableName value) (.standing n)
  | complete {m : Node} {early : Bool} : Step flow (.standing m) (.completed early) (.completed m)
  | abort {m : Node} {reason : String} : Step flow (.standing m) (.aborted reason) (.aborted m)
  /-- The next node may not be entered. -/
  | stop {m n : Node} {reason : String} : Step flow (.leaving m n) (.aborted reason) (.aborted m)

/-- **The logs that lead from one stage to another.** -/
inductive Log (flow : Flow) : Stage → List TraceEvent → Stage → Prop
  | nil {a : Stage} : Log flow a [] a
  | cons {a b c : Stage} {e : TraceEvent} {log : List TraceEvent} (step : flow.Step a e b)
    (rest : Log flow b log c) : Log flow a (e :: log) c

variable {flow : Flow} {a b c stage : Stage} {e : TraceEvent} {log before after : List TraceEvent}

/-- A step leads to the node that it enters, and else stays at its node. -/
theorem Step.node?_eq (h : flow.Step a e b) :
    b.node?.map (·.id) = e.enteredNode?.or (a.node?.map (·.id)) := by
  cases h with
  | weigh weighed =>
    rw [TraceEvent.enteredNode?_of_weighed weighed]
    rfl
  | _ => rfl

/-- The stages are at nodes of the flow. -/
theorem Step.known (h : flow.Step a e b) (ha : ∀ n, a.node? = some n → flow.node? n.id = some n)
    {n : Node} (hn : b.node? = some n) : flow.node? n.id = some n := by
  cases h with
  | begin => simp [Stage.node?] at hn
  | enterStart =>
    obtain rfl := Option.some.inj hn
    exact flow.node?_start
  | enter known | ask known =>
    obtain rfl := Option.some.inj hn
    exact known
  | _ => exact ha n hn

/-- Nothing is noted after an end. -/
theorem Step.ends (h : flow.Step a e b) (he : e.Ends) :
    ∃ n, b = .completed n ∨ b = .aborted n := by
  cases h with
  | weigh weighed => cases e <;> simp [TraceEvent.weighedAt?, TraceEvent.Ends] at weighed he
  | complete => exact ⟨_, Or.inl rfl⟩
  | abort => exact ⟨_, Or.inr rfl⟩
  | stop => exact ⟨_, Or.inr rfl⟩
  | _ => exact he.elim

namespace Log

theorem append (h : flow.Log a before b) (h' : flow.Log b after c) :
    flow.Log a (before ++ after) c := by
  induction h with
  | nil => exact h'
  | cons step rest ih => exact cons step (ih h')

/-- A log may be cut anywhere. -/
theorem split (h : flow.Log a (before ++ after) c) :
    ∃ b, flow.Log a before b ∧ flow.Log b after c := by
  induction before generalizing a with
  | nil => exact ⟨a, nil, h⟩
  | cons e before ih =>
    cases h with
    | cons step rest =>
      obtain ⟨b, hbefore, hafter⟩ := ih rest
      exact ⟨b, cons step hbefore, hafter⟩

/-- **An event in a log** is noted in a step, after what is before it and before what is
after it. -/
theorem step_of_split (h : flow.Log a (before ++ e :: after) c) :
    ∃ b b', flow.Log a before b ∧ flow.Step b e b' ∧ flow.Log b' after c := by
  obtain ⟨b, hbefore, hafter⟩ := h.split
  cases hafter with
  | cons step rest => exact ⟨b, _, hbefore, step, rest⟩

/-- A log is empty, or its last event is noted in a step. -/
theorem snoc_cases (h : flow.Log a log c) :
    (log = [] ∧ a = c) ∨
      ∃ earlier e b, log = earlier ++ [e] ∧ flow.Log a earlier b ∧ flow.Step b e c := by
  rcases List.eq_nil_or_concat' log with rfl | ⟨earlier, e, rfl⟩
  · cases h with
    | nil => exact Or.inl ⟨rfl, rfl⟩
  · obtain ⟨b, b', hearlier, hstep, hnone⟩ := h.step_of_split
    cases hnone with
    | nil => exact Or.inr ⟨earlier, e, b, rfl, hearlier, hstep⟩

/-- **The stage is at the node that is entered last.** -/
theorem lastEntered?_append (h : flow.Log a log b)
    (ha : lastEntered? before = a.node?.map (·.id)) :
    lastEntered? (before ++ log) = b.node?.map (·.id) := by
  induction h generalizing before with
  | nil => rwa [List.append_nil]
  | @cons a b c e log step rest ih =>
    have hb : lastEntered? (before ++ [e]) = b.node?.map (·.id) := by
      rw [lastEntered?_concat, ha, step.node?_eq]
    rw [List.append_cons]
    exact ih hb

theorem lastEntered?_eq (h : flow.Log .blank log stage) :
    lastEntered? log = stage.node?.map (·.id) := by
  have hblank : lastEntered? [] = Stage.blank.node?.map (·.id) := rfl
  exact h.lastEntered?_append hblank

/-- The stages to which a log leads are at nodes of the flow. -/
theorem known (h : flow.Log a log b) (ha : ∀ n, a.node? = some n → flow.node? n.id = some n)
    {n : Node} (hn : b.node? = some n) : flow.node? n.id = some n := by
  induction h with
  | nil => exact ha n hn
  | cons step rest ih => exact ih (fun m hm => step.known ha hm) hn

/-- Nothing follows the end of a session. -/
theorem eq_nil_of_ended {n : Node} (h : flow.Log a log b) (ha : a = .completed n ∨ a = .aborted n) :
    log = [] ∧ b = a := by
  cases h with
  | nil => exact ⟨rfl, rfl⟩
  | cons step rest => rcases ha with rfl | rfl <;> cases step

end Log

/-! ### Faithful logs -/

/-- **An edge leads on as it is noted**, from one node to another. It is the first edge that
leaves its node, and no handle is noted; or, if the node is a condition, it is the one that
has the handle noted. -/
def Connects (flow : Flow) (source target : String) (handle : Option String) : Prop :=
  ∃ m edge, flow.node? source = some m ∧ edge ∈ flow.outgoing source ∧ edge.target = target ∧
    ((∀ c, m.content ≠ .condition c) ∧ (flow.outgoing source).head? = some edge ∧ handle = none ∨
      ∃ c h, m.content = .condition c ∧ handle = some h ∧ edge.handle = some h ∧
        ∀ e ∈ flow.outgoing source, e.handle = some h → e = edge)

/-- **A log is a faithful record of a path** through a flow, for a session in some state that
stands at some node.

It begins at the start node. Each other node is entered right after the edge that leads to
it was taken from the node entered before, and the edges that are taken are those of the
flow. An answer stands right after the question has been asked, and is stored in the variable
of that question; a question that is entered is asked at once. Nothing follows the end of the
session, which is noted exactly when it has ended. -/
structure Faithful (flow : Flow) (log : List TraceEvent) (state : SessionState)
    (cursor : Option String) : Prop where
  begins : ∃ rest,
    log = .sessionStarted flow.start.id :: .nodeEntered flow.start.id .start :: rest
  entered : ∀ {before after : List TraceEvent} {n : String} {kind : NodeKind},
    log = before ++ .nodeEntered n kind :: after →
      before = [.sessionStarted flow.start.id] ∨
        ∃ earlier p handle, before = earlier ++ [.edgeResolved p n handle] ∧
          lastEntered? earlier = some p
  kinds : ∀ {n : String} {kind : NodeKind}, .nodeEntered n kind ∈ log →
    ∃ node, flow.node? n = some node ∧ node.kind = kind
  resolved : ∀ {p t : String} {handle : Option String}, .edgeResolved p t handle ∈ log →
    flow.Connects p t handle
  committed : ∀ {before after : List TraceEvent} {n variableName value : String},
    log = before ++ .answerCommitted n variableName value :: after →
      (∃ earlier, before = earlier ++ [.suspended n]) ∧
        ∃ node q, flow.node? n = some node ∧ node.content = .question q ∧
          variableName = q.variableName
  asked : ∀ {before after : List TraceEvent} {n : String} {kind : NodeKind} {node : Node},
    log = before ++ .nodeEntered n kind :: after → flow.node? n = some node →
      node.question?.isSome = true → ∃ rest, after = .suspended n :: rest
  ends : ∀ {before after : List TraceEvent} {e : TraceEvent}, log = before ++ e :: after →
    e.Ends → after = []
  completed_iff : (∃ early, .completed early ∈ log) ↔ state = .completed
  aborted_iff : (∃ reason, .aborted reason ∈ log) ↔ state = .aborted
  cursor : cursor = lastEntered? log

namespace Log

/-- The start node is entered right after the beginning. -/
theorem eq_of_begun (h : flow.Log .blank log .begun) : log = [.sessionStarted flow.start.id] := by
  rcases h.snoc_cases with ⟨-, hblank⟩ | ⟨earlier, e, b, rfl, hearlier, hstep⟩
  · simp at hblank
  · cases hstep with
    | begin =>
      rcases hearlier.snoc_cases with ⟨rfl, -⟩ | ⟨_, _, _, -, -, hnone⟩
      · rfl
      · cases hnone

/-- An edge is taken right before a node is entered. -/
theorem eq_of_leaving {m n : Node} (h : flow.Log .blank log (.leaving m n)) :
    ∃ earlier handle, log = earlier ++ [.edgeResolved m.id n.id handle] ∧
      lastEntered? earlier = some m.id := by
  rcases h.snoc_cases with ⟨-, hblank⟩ | ⟨earlier, e, b, rfl, hearlier, hstep⟩
  · simp at hblank
  · cases hstep with
    | leave takes => exact ⟨earlier, _, rfl, hearlier.lastEntered?_eq⟩

/-- A question has been asked right before it waits. -/
theorem eq_of_waiting {n : Node} (h : flow.Log .blank log (.waiting n)) :
    ∃ earlier, log = earlier ++ [.suspended n.id] := by
  rcases h.snoc_cases with ⟨-, hblank⟩ | ⟨earlier, e, b, rfl, hearlier, hstep⟩
  · simp at hblank
  · cases hstep with
    | suspend => exact ⟨earlier, rfl⟩

variable (h : flow.Log .blank log stage)

include h

theorem begins (hidle : stage.state ≠ .idle) (hrunning : stage.state ≠ .running) :
    ∃ rest, log = .sessionStarted flow.start.id :: .nodeEntered flow.start.id .start :: rest := by
  have hkind : flow.start.kind = .start := beq_iff_eq.mp flow.isStart_start
  cases h with
  | nil => exact absurd rfl hidle
  | cons step rest =>
    cases step with
    | begin =>
      cases rest with
      | nil => exact absurd rfl hrunning
      | cons step rest =>
        cases step with
        | enterStart => exact ⟨_, by rw [hkind]⟩

theorem entered {n : String} {kind : NodeKind}
    (hlog : log = before ++ .nodeEntered n kind :: after) :
    before = [.sessionStarted flow.start.id] ∨
      ∃ earlier p handle, before = earlier ++ [.edgeResolved p n handle] ∧
        lastEntered? earlier = some p := by
  subst hlog
  obtain ⟨b, b', hbefore, hstep, -⟩ := h.step_of_split
  cases hstep with
  | enterStart => exact Or.inl hbefore.eq_of_begun
  | weigh weighed => simp [TraceEvent.weighedAt?] at weighed
  | enter | ask =>
    obtain ⟨earlier, handle, hlast, hentered⟩ := hbefore.eq_of_leaving
    exact Or.inr ⟨earlier, _, handle, hlast, hentered⟩

theorem kinds {n : String} {kind : NodeKind} (hmem : .nodeEntered n kind ∈ log) :
    ∃ node, flow.node? n = some node ∧ node.kind = kind := by
  obtain ⟨before, after, rfl⟩ := List.append_of_mem hmem
  obtain ⟨b, b', -, hstep, -⟩ := h.step_of_split
  cases hstep with
  | weigh weighed => simp [TraceEvent.weighedAt?] at weighed
  | enterStart => exact ⟨flow.start, flow.node?_start, rfl⟩
  | enter known | ask known => exact ⟨_, known, rfl⟩

theorem resolved {p t : String} {handle : Option String}
    (hmem : .edgeResolved p t handle ∈ log) : flow.Connects p t handle := by
  obtain ⟨before, after, rfl⟩ := List.append_of_mem hmem
  obtain ⟨b, b', hbefore, hstep, -⟩ := h.step_of_split
  cases hstep with
  | weigh weighed => simp [TraceEvent.weighedAt?] at weighed
  | @leave m n edge handle store takes =>
    have hknown : flow.node? m.id = some m := hbefore.known (by simp [Stage.node?]) rfl
    refine ⟨m, edge, hknown, takes.exit.mem, (id_of_node? takes.arrives).symm, ?_⟩
    cases takes.exit with
    | first plain first => exact Or.inl ⟨plain, first, rfl⟩
    | chosen decides chooses through =>
      have hhandle := handle_of_edgeThrough? through
      refine Or.inr ⟨_, _, decides, rfl, hhandle, fun e he heq => ?_⟩
      -- a condition has no second edge with this handle
      exact eq_of_handle_eq (node?_eq_some_iff.mp hknown).1 decides he takes.exit.mem
        (heq.trans hhandle.symm)

theorem committed {n variableName value : String}
    (hlog : log = before ++ .answerCommitted n variableName value :: after) :
    (∃ earlier, before = earlier ++ [.suspended n]) ∧
      ∃ node q, flow.node? n = some node ∧ node.content = .question q ∧
        variableName = q.variableName := by
  subst hlog
  obtain ⟨b, b', hbefore, hstep, -⟩ := h.step_of_split
  cases hstep with
  | weigh weighed => simp [TraceEvent.weighedAt?] at weighed
  | answer asks =>
    exact ⟨hbefore.eq_of_waiting, _, _, hbefore.known (by simp [Stage.node?]) rfl, asks, rfl⟩

theorem asked {n : String} {kind : NodeKind} {node : Node} (hrunning : stage.state ≠ .running)
    (hlog : log = before ++ .nodeEntered n kind :: after) (hn : flow.node? n = some node)
    (hasks : node.question?.isSome = true) : ∃ rest, after = .suspended n :: rest := by
  subst hlog
  obtain ⟨b, b', -, hstep, hafter⟩ := h.step_of_split
  cases hstep with
  | weigh weighed => simp [TraceEvent.weighedAt?] at weighed
  | enterStart =>
    obtain rfl := Option.some.inj (flow.node?_start.symm.trans hn)
    simp [Node.question?, flow.content_start] at hasks
  | enter known asksNot =>
    obtain rfl := Option.some.inj (known.symm.trans hn)
    simp [asksNot] at hasks
  | ask =>
    -- a session does not rest before the question is asked
    cases hafter with
    | nil => exact absurd rfl hrunning
    | cons step rest =>
      cases step with
      | suspend => exact ⟨_, rfl⟩

theorem ends (hlog : log = before ++ e :: after) (he : e.Ends) : after = [] := by
  subst hlog
  obtain ⟨b, b', -, hstep, hafter⟩ := h.step_of_split
  obtain ⟨n, hended⟩ := hstep.ends he
  exact (hafter.eq_nil_of_ended hended).1

/-- The end of the session is noted in the last step. -/
theorem step_of_ends (hmem : e ∈ log) (he : e.Ends) : ∃ b, flow.Step b e stage := by
  obtain ⟨before, after, rfl⟩ := List.append_of_mem hmem
  obtain ⟨b, b', -, hstep, hafter⟩ := h.step_of_split
  obtain ⟨n, hended⟩ := hstep.ends he
  obtain ⟨-, rfl⟩ := hafter.eq_nil_of_ended hended
  exact ⟨b, hstep⟩

theorem completed_iff : (∃ early, .completed early ∈ log) ↔ stage.state = .completed := by
  constructor
  · rintro ⟨early, hmem⟩
    obtain ⟨b, hstep⟩ := h.step_of_ends hmem trivial
    cases hstep with
    | weigh weighed => simp [TraceEvent.weighedAt?] at weighed
    | complete => rfl
  · intro hstate
    rcases h.snoc_cases with ⟨-, rfl⟩ | ⟨earlier, e, b, rfl, -, hstep⟩
    · simp [Stage.state] at hstate
    · cases hstep with
      | complete => exact ⟨_, List.mem_append_right _ (List.mem_singleton.mpr rfl)⟩
      | _ => simp [Stage.state] at hstate

theorem aborted_iff : (∃ reason, .aborted reason ∈ log) ↔ stage.state = .aborted := by
  constructor
  · rintro ⟨reason, hmem⟩
    obtain ⟨b, hstep⟩ := h.step_of_ends hmem trivial
    cases hstep with
    | weigh weighed => simp [TraceEvent.weighedAt?] at weighed
    | abort | stop => rfl
  · intro hstate
    rcases h.snoc_cases with ⟨-, rfl⟩ | ⟨earlier, e, b, rfl, -, hstep⟩
    · simp [Stage.state] at hstate
    · cases hstep with
      | abort | stop => exact ⟨_, List.mem_append_right _ (List.mem_singleton.mpr rfl)⟩
      | _ => simp [Stage.state] at hstate

/-- **A log of steps is faithful** when the session rests. -/
theorem faithful (hidle : stage.state ≠ .idle) (hrunning : stage.state ≠ .running) :
    flow.Faithful log stage.state (stage.node?.map (·.id)) where
  begins := h.begins hidle hrunning
  entered := h.entered
  kinds := h.kinds
  resolved := h.resolved
  committed := h.committed
  asked := h.asked hrunning
  ends := h.ends
  completed_iff := h.completed_iff
  aborted_iff := h.aborted_iff
  cursor := h.lastEntered?_eq.symm

end Log

end Flow

end Dialogue
