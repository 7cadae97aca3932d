import Dialogue.Proofs.Flow.Resolve
import Dialogue.Proofs.Pass.Moves

/-!
# The route of a pass

Where a pass goes does not depend on the session but for its store and its step limit:
`Dialogue.Flow.route` computes the nodes on the way and how the pass ends, and
`Dialogue.Progress.travel` moves a session along them. A pass is just that
(`Dialogue.Progress.advance_eq_travel`), so what holds of all passes is shown once for
the routes and once for the moves.

A route is related to the flow by `Dialogue.Flow.Leads`, one case for each way in which
a pass goes on or ends. Proofs about passes are by induction on it.
-/

namespace Dialogue

/-! ### Routes -/

/-- How a pass ends. -/
inductive Ending
  /-- It enters a question or an end. -/
  | arrival (node : Node)
  /-- No edge leaves the node it has reached. -/
  | endOfFlow
  /-- Edges leave the node it has reached, but none can be followed. -/
  | unresolved (reason : Abort)
  /-- It is stopped before the next node. -/
  | stopped (reason : Abort)
  deriving DecidableEq

/-- Where a pass goes: the nodes on the way, none of which halts it, and its ending. -/
structure Route where
  transit : List Node
  ending : Ending
  deriving DecidableEq

/-- The node that an ending enters, if it does. -/
def Ending.arrived : Ending → List Node
  | .arrival node => [node]
  | _ => []

/-- The nodes that are entered on a route, in order. -/
def Route.entered (r : Route) : List Node :=
  r.transit ++ r.ending.arrived

/-- The node at which a route from the node `origin` comes to its end. -/
def Route.last (r : Route) (origin : Node) : Node :=
  r.entered.getLast?.getD origin

/-- A route comes to its end where the rest of it does. -/
theorem Route.last_cons (current next : Node) (transit : List Node) (ending : Ending) :
    (Route.mk (next :: transit) ending).last current = (Route.mk transit ending).last next := by
  simp only [last, entered, List.cons_append, List.getLast?_cons]
  rfl

theorem Route.last_mem (r : Route) (origin : Node) : r.last origin ∈ origin :: r.entered := by
  unfold last
  cases h : r.entered.getLast? with
  | none => exact List.mem_cons_self
  | some n => exact List.mem_cons_of_mem _ (List.mem_of_getLast? h)

/-- The ids that count as entered when a pass sets out from a node. -/
def Node.seeds (origin : Node) (counted : Bool) : List String :=
  if counted then [origin.id] else []

theorem Node.eq_of_mem_seeds {origin : Node} {counted : Bool} {id : String}
    (h : id ∈ origin.seeds counted) : id = origin.id := by
  unfold seeds at h
  split at h
  · exact List.mem_singleton.mp h
  · simp at h

namespace Flow

/-- The route from the node `current`, on which at most `steps` nodes are entered, none
of them among those `entered` before; `limit` is the number named if they are too few. -/
def route (flow : Flow) (store : Store) (limit : Nat) (current : Node) (entered : List String)
    (steps : Nat) : Route :=
  match (flow.resolve current store).1 with
  | .error defect => ⟨[], .stopped (.defect defect)⟩
  | .ok .endOfFlow => ⟨[], .endOfFlow⟩
  | .ok (.unresolved reason) => ⟨[], .unresolved reason⟩
  | .ok (.next next _) =>
    match steps with
    | 0 => ⟨[], .stopped (.stepLimit limit)⟩
    | steps + 1 =>
      if next.id ∈ entered then ⟨[], .stopped (.cycle next.id)⟩
      else if next.haltsPass then ⟨[], .arrival next⟩
      else
        let rest := flow.route store limit next (next.id :: entered) steps
        ⟨next :: rest.transit, rest.ending⟩

/-- The route of a pass that sets out from a node, which is `counted` as entered or not. -/
def passRoute (flow : Flow) (store : Store) (limit : Nat) (origin : Node) (counted : Bool) :
    Route :=
  flow.route store limit origin (origin.seeds counted) limit

/-- **A route of a flow**, from the node `current`: each node on the way is the one that
follows the node before it, and the ending is what is found after the last of them. -/
inductive Leads (flow : Flow) (store : Store) (limit : Nat) : Node → List Node → Ending → Prop
  | arrival {current next : Node} {edge : Edge}
      (found : (flow.resolve current store).1 = .ok (.next next edge))
      (halts : next.haltsPass = true) : Leads flow store limit current [] (.arrival next)
  | endOfFlow {current : Node} (found : (flow.resolve current store).1 = .ok .endOfFlow) :
      Leads flow store limit current [] .endOfFlow
  | unresolved {current : Node} {reason : Abort}
      (found : (flow.resolve current store).1 = .ok (.unresolved reason)) :
      Leads flow store limit current [] (.unresolved reason)
  | stepLimit {current next : Node} {edge : Edge}
      (found : (flow.resolve current store).1 = .ok (.next next edge)) :
      Leads flow store limit current [] (.stopped (.stepLimit limit))
  | cycle {current next : Node} {edge : Edge}
      (found : (flow.resolve current store).1 = .ok (.next next edge)) :
      Leads flow store limit current [] (.stopped (.cycle next.id))
  | onward {current next : Node} {edge : Edge} {transit : List Node} {ending : Ending}
      (found : (flow.resolve current store).1 = .ok (.next next edge))
      (passes : next.haltsPass = false) (rest : Leads flow store limit next transit ending) :
      Leads flow store limit current (next :: transit) ending

variable {flow : Flow} {store : Store} {limit steps : Nat} {current next : Node} {edge : Edge}
  {entered : List String}

/-! The equations of a route, by what is found after the current node. -/

theorem route_of_endOfFlow (h : (flow.resolve current store).1 = .ok .endOfFlow) :
    flow.route store limit current entered steps = ⟨[], .endOfFlow⟩ := by
  unfold route
  simp [h]

theorem route_of_unresolved {reason : Abort}
    (h : (flow.resolve current store).1 = .ok (.unresolved reason)) :
    flow.route store limit current entered steps = ⟨[], .unresolved reason⟩ := by
  unfold route
  simp [h]

theorem route_zero (h : (flow.resolve current store).1 = .ok (.next next edge)) :
    flow.route store limit current entered 0 = ⟨[], .stopped (.stepLimit limit)⟩ := by
  unfold route
  simp [h]

theorem route_of_mem (h : (flow.resolve current store).1 = .ok (.next next edge))
    (hmem : next.id ∈ entered) :
    flow.route store limit current entered (steps + 1) = ⟨[], .stopped (.cycle next.id)⟩ := by
  unfold route
  simp [h, hmem]

theorem route_of_halts (h : (flow.resolve current store).1 = .ok (.next next edge))
    (hmem : next.id ∉ entered) (hhalts : next.haltsPass = true) :
    flow.route store limit current entered (steps + 1) = ⟨[], .arrival next⟩ := by
  unfold route
  simp [h, hmem, hhalts]

theorem route_of_transit (h : (flow.resolve current store).1 = .ok (.next next edge))
    (hmem : next.id ∉ entered) (hpasses : next.haltsPass = false) :
    flow.route store limit current entered (steps + 1) =
      ⟨next :: (flow.route store limit next (next.id :: entered) steps).transit,
        (flow.route store limit next (next.id :: entered) steps).ending⟩ := by
  conv_lhs => unfold route
  simp [h, hmem, hpasses]

/-- **The route computed is a route of the flow.** -/
theorem leads_route (flow : Flow) (store : Store) (limit : Nat) (current : Node)
    (entered : List String) (steps : Nat) :
    flow.Leads store limit current (flow.route store limit current entered steps).transit
      (flow.route store limit current entered steps).ending := by
  obtain ⟨r, hr, -⟩ := flow.exists_resolution current store
  cases r with
  | endOfFlow => exact route_of_endOfFlow hr ▸ Leads.endOfFlow hr
  | unresolved reason => exact route_of_unresolved hr ▸ Leads.unresolved hr
  | next next edge =>
    cases steps with
    | zero => exact route_zero hr ▸ Leads.stepLimit hr
    | succ steps =>
      by_cases hmem : next.id ∈ entered
      · exact route_of_mem hr hmem ▸ Leads.cycle hr
      · cases hhalts : next.haltsPass with
        | true => exact route_of_halts hr hmem hhalts ▸ Leads.arrival hr hhalts
        | false =>
          rw [route_of_transit hr hmem hhalts]
          exact Leads.onward hr hhalts
            (leads_route flow store limit next (next.id :: entered) steps)

/-- A pass does not halt at the start node. -/
theorem haltsPass_start (flow : Flow) : flow.start.haltsPass = false := by
  simp [Node.haltsPass, flow.content_start]

/-- The node found after another is found under its id. -/
theorem node?_of_next (h : (flow.resolve current store).1 = .ok (.next next edge)) :
    flow.node? next.id = some next := by
  obtain ⟨r, hr, hfits⟩ := flow.exists_resolution current store
  obtain rfl : r = .next next edge := by simpa [h] using hr.symm
  exact node?_id hfits.2

/-- What is at the end of a route that arrives is a node of the flow that halts the
pass. -/
theorem Leads.arrival_node {n : Node} {transit : List Node}
    (h : flow.Leads store limit current transit (.arrival n)) :
    flow.node? n.id = some n ∧ n.haltsPass = true := by
  generalize hending : Ending.arrival n = ending at h
  induction h with
  | arrival found halts =>
    obtain rfl := Ending.arrival.inj hending
    exact ⟨node?_of_next found, halts⟩
  | onward found passes rest ih => exact ih hending
  | _ => simp at hending

/-- The nodes that are entered on a route are found under their ids. -/
theorem Leads.node?_of_mem {transit : List Node} {ending : Ending}
    (h : flow.Leads store limit current transit ending) :
    ∀ n ∈ transit ++ ending.arrived, flow.node? n.id = some n := by
  induction h with
  | arrival found halts =>
    intro n hn
    obtain rfl := List.mem_singleton.mp hn
    exact node?_of_next found
  | onward found passes rest ih =>
    intro n hn
    rcases List.mem_cons.mp hn with rfl | hrest
    · exact node?_of_next found
    · exact ih n hrest
  | _ => simp [Ending.arrived]

/-- **The nodes on a route follow one another.** -/
theorem Leads.isChain {transit : List Node} {ending : Ending}
    (h : flow.Leads store limit current transit ending) :
    (current :: (transit ++ ending.arrived)).IsChain
      fun m n => ∃ edge, (flow.resolve m store).1 = .ok (.next n edge) := by
  induction h with
  | arrival found halts =>
    exact List.isChain_cons_cons.mpr ⟨⟨_, found⟩, List.IsChain.singleton _⟩
  | onward found passes rest ih => exact List.isChain_cons_cons.mpr ⟨⟨_, found⟩, ih⟩
  | _ => exact List.IsChain.singleton _

/-- What is not resolved names one of two reasons. -/
theorem reason_of_unresolved {reason : Abort}
    (h : (flow.resolve current store).1 = .ok (.unresolved reason)) :
    reason = .allRejected current.id ∨ ∃ handle, reason = .noEdge current.id handle := by
  obtain ⟨r, hr, hfits⟩ := flow.exists_resolution current store
  obtain rfl : r = .unresolved reason := by simpa [h] using hr.symm
  exact hfits.2

end Flow

/-! ### Travelling along a route -/

namespace Progress

/-- Ends a pass at the node `current`. -/
def finish (now : String) (flow : Flow) (p : Progress) (current : Node) (ending : Ending) :
    Progress :=
  let p := p.record (flow.resolve current p.session.store).2
  match ending with
  | .arrival next => p.enter now next
  | .endOfFlow => p.complete now true none
  | .unresolved reason => p.deadEnd now reason
  | .stopped reason => p.abort now reason

/-- Moves along a route from the node `current`: enters the nodes on the way one after
the other, each with the steps by which it was found, and ends as the route does. -/
def travel (now : String) (flow : Flow) (p : Progress) (current : Node) :
    List Node → Ending → Progress
  | [], ending => p.finish now flow current ending
  | next :: transit, ending =>
    travel now flow ((p.record (flow.resolve current p.session.store).2).enter now next) next
      transit ending

/-- Entering a node on the way changes neither store nor settings. -/
theorem store_enter (p : Progress) (now : String) {n : Node} (h : n.haltsPass = false) :
    (p.enter now n).session.store = p.session.store ∧
      (p.enter now n).session.settings = p.session.settings := by
  rw [enter_of_transit _ _ h]
  exact ⟨rfl, rfl⟩

/-- **A pass travels along its route.** -/
theorem advance_eq_travel {flow : Flow} {current : Node}
    (h : flow.node? current.id = some current) (now : String) (entered : List String)
    (steps : Nat) (p : Progress) :
    let r := flow.route p.session.store p.session.settings.maxAutoSteps current entered steps
    p.advance now flow current.id entered steps = p.travel now flow current r.transit r.ending := by
  have hok : flow.node current.id = .ok current := Flow.node_eq_ok_iff.mpr h
  obtain ⟨r, hr, -⟩ := flow.exists_resolution current p.session.store
  obtain ⟨log, hlog⟩ : ∃ log, flow.resolve current p.session.store = (.ok r, log) :=
    ⟨_, Prod.ext hr rfl⟩
  cases r with
  | endOfFlow => simp [advance, hok, hlog, Flow.route_of_endOfFlow hr, travel, finish]
  | unresolved reason => simp [advance, hok, hlog, Flow.route_of_unresolved hr, travel, finish]
  | next next edge =>
    cases steps with
    | zero => simp [advance, hok, hlog, Flow.route_zero hr, travel, finish]
    | succ steps =>
      by_cases hmem : next.id ∈ entered
      · simp [advance, hok, hlog, Flow.route_of_mem hr hmem, hmem, travel, finish]
      · cases hhalts : next.haltsPass with
        | true =>
          simp [advance, hok, hlog, Flow.route_of_halts hr hmem hhalts, hmem, hhalts, travel,
            finish]
        | false =>
          -- the rest of the pass reads the same store and limit: entering left them alone
          have hrest := advance_eq_travel (Flow.node?_of_next hr) now (next.id :: entered) steps
            ((p.record log).enter now next)
          obtain ⟨hstore, hsettings⟩ := store_enter (p.record log) now hhalts
          rw [store_record] at hstore
          rw [settings_record] at hsettings
          rw [hstore, hsettings] at hrest
          rw [advance, Flow.route_of_transit hr hmem hhalts]
          simpa [hok, hlog, hmem, hhalts, travel] using hrest

end Progress

/-- **A pass does not tell flows apart that route alike.** -/
theorem Flow.RoutesLike.advance {flow flow' : Flow} (h : flow.RoutesLike flow') (now : String)
    {current : Node} (hknown : flow.node? current.id = some current) (entered : List String)
    (steps : Nat) (p : Progress) :
    p.advance now flow' current.id entered steps = p.advance now flow current.id entered steps := by
  have hok : flow.node current.id = .ok current := node_eq_ok_iff.mpr hknown
  have hok' : flow'.node current.id = .ok current :=
    node_eq_ok_iff.mpr ((h.node? current.id).trans hknown)
  have hresolve : flow'.resolve current p.session.store = flow.resolve current p.session.store :=
    h.resolve current hknown p.session.store
  obtain ⟨r, hr, -⟩ := flow.exists_resolution current p.session.store
  obtain ⟨log, hlog⟩ : ∃ log, flow.resolve current p.session.store = (.ok r, log) :=
    ⟨_, Prod.ext hr rfl⟩
  cases r with
  | endOfFlow => simp [Progress.advance, hok, hok', hresolve, hlog]
  | unresolved reason => simp [Progress.advance, hok, hok', hresolve, hlog]
  | next next edge =>
    cases steps with
    | zero => simp [Progress.advance, hok, hok', hresolve, hlog]
    | succ steps =>
      have hrest := h.advance now (node?_of_next hr) (next.id :: entered) steps
        ((p.record log).enter now next)
      rw [Progress.advance, Progress.advance]
      simp only [hok, hok', hresolve, hlog, hrest]

end Dialogue
