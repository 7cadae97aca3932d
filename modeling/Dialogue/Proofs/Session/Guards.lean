import Dialogue.Proofs.Session.Passes
import Mathlib.Data.List.Chain

/-!
# Guards hold in whole runs

A question may ask for a handle through which it has to be entered from some node. The
visits of a run are the nodes that its calls enter, in order (`Dialogue.Session.visits`).
Of any two visits that follow one another, within a pass or over an answer in between, the
later one respects what its question asks for (`Dialogue.Visit.MayFollow`): so it is in
every run of a session that began as a new one
(`Dialogue.Session.isChain_visits_performAll`).

Within a pass this is what the way to the next node says (`Dialogue.Flow.Takes`). Over an
answer it takes an invariant of the run: a session that stands at a node has visited it
last.
-/

namespace Dialogue

/-- A node that is entered in the course of a run, with the flow and the store at that
moment. -/
structure Visit where
  node : String
  flow : Option Flow
  store : Store
  deriving DecidableEq

/-- **One visit may follow another.** The node of the later one belongs to the flow. If it
is a question that asks for a handle from the node of the earlier one, then that node is a
condition which chooses this handle for what is stored, and the edge taken from it has this
handle. -/
def Visit.MayFollow (earlier later : Visit) : Prop :=
  ∃ flow n, later.flow = some flow ∧ flow.node? later.node = some n ∧
    ∀ q expected, n.content = .question q → q.triggers.get? earlier.node = some expected →
      ∃ m c edge, flow.node? earlier.node = some m ∧ m.content = .condition c ∧
        c.Chooses later.store expected ∧
        (flow.resolve m later.store).1 = .ok (.next n edge) ∧
        edge ∈ flow.outgoing earlier.node ∧ edge.handle = some expected

namespace Session

/-- The visit of a node that a call has entered. The store is the one that the session holds
after the call: no node is entered before the call has written it. -/
def visit (s : Session) (node : String) : Visit :=
  ⟨node, s.flow, s.store⟩

/-- **The visits of a run**: the nodes that some calls enter one after the other. -/
def visits (s : Session) : List (String × Call) → List Visit
  | [] => []
  | (now, c) :: rest =>
    (s.enteredBy now c).map (s.perform now c).1.visit ++ (s.perform now c).1.visits rest

variable {s : Session} {now : String} {c : Call} {flow : Flow} {m n : Node} {edge : Edge}

/-- The node that is found after another may be visited after it. -/
theorem mayFollow_of_next (hloaded : s.flow = some flow) (hm : flow.node? m.id = some m)
    (hfound : (flow.resolve m s.store).1 = .ok (.next n edge)) :
    Visit.MayFollow (s.visit m.id) (s.visit n.id) := by
  refine ⟨flow, n, hloaded, Flow.node?_of_next hfound, fun q expected hq hexpected => ?_⟩
  obtain ⟨handle, -, takes, -, -⟩ := Flow.takes_of_next hfound
  have hguard : n.guard? m.id = some expected := by
    rw [Node.guard?, Node.question?_eq_some_iff.mpr hq]
    exact hexpected
  obtain rfl := takes.admits expected hguard
  -- only a condition is left through a handle
  cases takes.exit with
  | chosen decides chooses through =>
    exact ⟨m, _, edge, hm, decides, chooses, hfound, mem_of_edgeThrough? through,
      handle_of_edgeThrough? through⟩

/-- The start node may be visited after any node: it is no question. -/
theorem mayFollow_start (hloaded : s.flow = some flow) (earlier : Visit) :
    earlier.MayFollow (s.visit flow.start.id) :=
  ⟨flow, flow.start, hloaded, flow.node?_start, by simp [flow.content_start]⟩

/-- **The nodes on a route may be visited one after the other.** -/
theorem isChain_visit_route {limit : Nat} {r : Route} (hloaded : s.flow = some flow)
    (hm : flow.node? m.id = some m) (h : flow.Leads s.store limit m r.transit r.ending) :
    ((m :: r.entered).map fun n => s.visit n.id).IsChain Visit.MayFollow := by
  have hknown : ∀ n ∈ m :: r.entered, flow.node? n.id = some n :=
    List.forall_mem_cons.mpr ⟨hm, h.node?_of_mem⟩
  refine (List.isChain_map _).mpr (List.IsChain.imp_of_mem_imp ?_ h.isChain)
  rintro a b ha - ⟨edge, hfound⟩
  exact mayFollow_of_next hloaded (hknown a ha) hfound

/-- A session that stands at a node has visited it last. -/
def StandsLast (s : Session) (visited : List Visit) : Prop :=
  ∀ id, s.cursor = some id → ∃ v, visited.getLast? = some v ∧ v.node = id

variable {out : Session × List Event} {entered : List String} {origin : Node} {counted : Bool}
  {r : Route} {visited : List Visit}

theorem Passes.visits_eq (h : Passes s c out entered flow origin counted r) :
    entered.map out.1.visit =
      (origin.seeds counted).map out.1.visit ++ r.entered.map fun n => out.1.visit n.id := by
  rw [h.entered, List.map_append, List.map_map]
  rfl

/-- **The visits of a pass may follow those before it.** -/
theorem Passes.isChain_append (h : Passes s c out entered flow origin counted r)
    (hchain : visited.IsChain Visit.MayFollow) (hlast : s.StandsLast visited) :
    (visited ++ entered.map out.1.visit).IsChain Visit.MayFollow := by
  have hroute := isChain_visit_route h.loaded h.departs.known h.leads
  rw [h.visits_eq]
  cases h.departs with
  | start begins =>
    refine hchain.append hroute fun v _ w hw => ?_
    obtain rfl : out.1.visit flow.start.id = w := Option.some.inj hw
    exact mayFollow_start h.loaded v
  | answer answers waits loaded stands known asks =>
    obtain ⟨last, hvisited, hnode⟩ := hlast origin.id stands
    rw [List.map_cons] at hroute
    refine hchain.append hroute.tail fun v hv w hw => ?_
    -- what may follow a visit depends only on the node that was visited
    obtain rfl : last = v := by simpa [hvisited] using hv
    have hfollows : Visit.MayFollow (out.1.visit origin.id) w := hroute.rel_head? hw
    unfold Visit.MayFollow at hfollows ⊢
    rw [hnode]
    exact hfollows

/-- After a pass the session stands at the node visited last, be it in the pass or before. -/
theorem Passes.standsLast_append (h : Passes s c out entered flow origin counted r)
    (hlast : s.StandsLast visited) :
    out.1.StandsLast (visited ++ entered.map out.1.visit) := by
  intro id hid
  obtain rfl := Option.some.inj (h.cursor.symm.trans hid)
  rw [h.visits_eq, List.getLast?_append, List.getLast?_append, List.getLast?_map, Route.last]
  cases hend : r.entered.getLast? with
  | some n => exact ⟨out.1.visit n.id, rfl, rfl⟩
  | none =>
    -- no node is entered after the one where the pass sets out
    cases h.departs with
    | start begins => exact ⟨out.1.visit flow.start.id, rfl, rfl⟩
    | answer answers waits loaded stands known asks => exact hlast origin.id stands

/-- **The step of a run**: the visits of one more call may follow those before it. -/
theorem isChain_append_visit (hchain : visited.IsChain Visit.MayFollow)
    (hlast : s.StandsLast visited) (now : String) (c : Call) :
    (visited ++ (s.enteredBy now c).map (s.perform now c).1.visit).IsChain Visit.MayFollow ∧
      (s.perform now c).1.StandsLast
        (visited ++ (s.enteredBy now c).map (s.perform now c).1.visit) := by
  cases hcall : s.call now c with
  | error refusal =>
    rw [perform_of_refused hcall, enteredBy_of_refused hcall, List.map_nil, List.append_nil]
    exact ⟨hchain, hlast⟩
  | ok out =>
    obtain ⟨s', events⟩ := out
    rw [perform_of_ok hcall]
    rcases passes_or_stays hcall with hstays | ⟨flow, origin, counted, r, hpasses⟩
    · rw [hstays.entered, List.map_nil, List.append_nil]
      refine ⟨hchain, fun id hid => ?_⟩
      rcases hstays.cursor with hnone | hsame
      · exact absurd (hnone.symm.trans hid) (by simp)
      · exact hlast id (hsame ▸ hid)
    · exact ⟨hpasses.isChain_append hchain hlast, hpasses.standsLast_append hlast⟩

/-- **What a question asks for is respected in every run.** Whatever calls are made to a new
session, each node is visited as the one visited before it allows. -/
theorem isChain_visits_performAll (settings : Settings) (id : SessionId)
    (calls : List (String × Call)) :
    ((Session.new settings id).visits calls).IsChain Visit.MayFollow := by
  have hrun : ∀ (calls : List (String × Call)) (s : Session) (visited : List Visit),
      visited.IsChain Visit.MayFollow → s.StandsLast visited →
      (visited ++ s.visits calls).IsChain Visit.MayFollow := by
    intro calls
    induction calls with
    | nil => exact fun s visited hchain _ => by simpa [visits] using hchain
    | cons entry rest ih =>
      intro s visited hchain hlast
      obtain ⟨hchain', hlast'⟩ := isChain_append_visit hchain hlast entry.1 entry.2
      simpa [visits] using ih _ _ hchain' hlast'
  exact hrun calls (Session.new settings id) [] List.isChain_nil (by simp [StandsLast, new])

example : ((Session.new default default).visits
    [("now", .start .gated), ("later", .submit "yes")]).map (·.node) =
      ["start", "age", "check", "name"] := by
  decide

end Session

end Dialogue
