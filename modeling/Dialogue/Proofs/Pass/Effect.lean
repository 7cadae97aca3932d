import Dialogue.Proofs.Pass.Route

/-!
# What a pass does to a session

The effect of a whole pass in one equation (`Dialogue.Progress.travel_eq`): the session
is moved along its route (`Dialogue.Progress.along`), which writes the cursor, the trace
and the messages, and is then closed with one event (`Dialogue.Ending.closing`). The
equation is proved once, by induction on the route; what a pass leaves in each part of
the session is read off it.
-/

namespace Dialogue

/-- Weighing rules or an edge enters no node. -/
theorem TraceEvent.enteredNode?_of_weighed {e : TraceEvent} {node : String}
    (h : e.weighedAt? = some node) : e.enteredNode? = none := by
  cases e <;> simp_all [weighedAt?, enteredNode?]

/-- **Looking for the next node enters none.** -/
theorem Flow.enteredNode?_resolve {flow : Flow} {current : Node} {store : Store} {e : TraceEvent}
    (he : e ∈ (flow.resolve current store).2) : e.enteredNode? = none := by
  rcases weighed_or_taken he with hweighed | ⟨target, handle, rfl⟩
  · exact TraceEvent.enteredNode?_of_weighed hweighed
  · rfl

/-! ### The effect of a pass -/

/-- The event that closes a pass. -/
def Ending.closing (policy : DeadEndPolicy) (store : Store) : Ending → Event
  | .arrival node => node.closing store
  | .endOfFlow => .completed store.values true none
  | .unresolved reason =>
    match policy with
    | .complete => .completed store.values true none
    | .abort => .aborted reason
  | .stopped reason => .aborted reason

/-- What is shown on a route: the messages of its nodes, and the closing event. -/
def Route.shown (r : Route) (policy : DeadEndPolicy) (store : Store) : List Event :=
  r.entered.flatMap Node.messages ++ [r.ending.closing policy store]

/-- What is shown on a route and is no message closes it. -/
theorem Route.eq_closing_of_mem_shown {r : Route} {policy : DeadEndPolicy} {store : Store}
    {e : Event} (h : e ∈ r.shown policy store) (hmessage : ∀ node text, e ≠ .message node text) :
    e = r.ending.closing policy store := by
  rcases List.mem_append.mp h with hearlier | hlast
  · obtain ⟨n, -, hn⟩ := List.mem_flatMap.mp hearlier
    obtain ⟨text, htext⟩ := Node.eq_message_of_mem hn
    exact absurd htext (hmessage n.id text)
  · exact List.mem_singleton.mp hlast

/-- The step of the trace that enters a node. -/
def Node.entry (n : Node) : TraceEvent :=
  .nodeEntered n.id n.kind

/-- The steps noted on a route from the node `current`, up to its closing. -/
def Flow.wayLog (flow : Flow) (store : Store) (current : Node) :
    List Node → Ending → List TraceEvent
  | [], ending => (flow.resolve current store).2 ++ ending.arrived.map Node.entry
  | next :: transit, ending =>
    (flow.resolve current store).2 ++ next.entry :: flow.wayLog store next transit ending

/-- **The nodes that a route notes as entered are the nodes on it.** -/
theorem Flow.filterMap_wayLog (flow : Flow) (store : Store) (current : Node)
    (transit : List Node) (ending : Ending) :
    (flow.wayLog store current transit ending).filterMap TraceEvent.enteredNode? =
      (transit ++ ending.arrived).map (·.id) := by
  have hnone : ∀ n : Node, (flow.resolve n store).2.filterMap TraceEvent.enteredNode? = [] :=
    fun n => List.filterMap_eq_nil_iff.mpr fun _ he => Flow.enteredNode?_resolve he
  have hentry : TraceEvent.enteredNode? ∘ Node.entry = fun n => some n.id := rfl
  induction transit generalizing current with
  | nil =>
    rw [wayLog, List.filterMap_append, hnone, List.filterMap_map, hentry, List.filterMap_eq_map']
    rfl
  | cons next transit ih =>
    rw [wayLog, List.filterMap_append, hnone]
    exact congrArg (next.id :: ·) (ih next)

namespace Progress

/-- Moves a session along a route without closing the pass. -/
def along (p : Progress) (flow : Flow) (current : Node) (transit : List Node)
    (ending : Ending) : Progress where
  session :=
    { p.session with
      cursor := ((transit ++ ending.arrived).getLast?.map (·.id)).or p.session.cursor
      trace := p.session.settings.noted p.session.trace
        (flow.wayLog p.session.store current transit ending)
      observed :=
        p.session.observed.map (· ++ (transit ++ ending.arrived).flatMap Node.messages) }
  events := p.events ++ (transit ++ ending.arrived).flatMap Node.messages

variable {p : Progress} {flow : Flow} {current : Node} {transit : List Node} {ending : Ending}

/-- A session that arrives at a node stands there. -/
theorem cursor_along_arrival (p : Progress) (flow : Flow) (current : Node) (transit : List Node)
    (n : Node) : (p.along flow current transit (.arrival n)).session.cursor = some n.id := by
  simp [along, Ending.arrived]

/-- Without a node on the way, the session moves to where the pass arrives. -/
theorem along_nil_arrival (n : Node) :
    p.along flow current [] (.arrival n) =
      (p.record (flow.resolve current p.session.store).2).visit n := by
  simp [along, visit, record_eq, Settings.noted_append, Flow.wayLog, Ending.arrived, Node.entry]

/-- Without a node on the way and without an arrival, the session stays. -/
theorem along_nil (h : ending.arrived = []) :
    p.along flow current [] ending = p.record (flow.resolve current p.session.store).2 := by
  simp [along, record_eq, Flow.wayLog, h]

/-- The node next on the way is visited first. -/
theorem along_cons (next : Node) :
    p.along flow current (next :: transit) ending =
      ((p.record (flow.resolve current p.session.store).2).visit next).along flow next transit
        ending := by
  -- the cursor rests on the node next on the way only if no other comes after it
  have hcursor : ((next :: (transit ++ ending.arrived)).getLast?.map (·.id)).or p.session.cursor =
      ((transit ++ ending.arrived).getLast?.map (·.id)).or (some next.id) := by
    rw [List.getLast?_cons]
    cases (transit ++ ending.arrived).getLast? <;> rfl
  have hobserved : ∀ l : List Event, (p.session.observed.map (· ++ next.messages)).map (· ++ l) =
      p.session.observed.map (· ++ (next.messages ++ l)) := by
    intro l
    cases p.session.observed <;> simp
  simp [along, visit, record_eq, Settings.noted_append, Flow.wayLog, Node.entry, hcursor,
    hobserved]

/-- **The effect of a pass**: the session is moved along the route and closed. -/
theorem travel_eq {limit : Nat} {store : Store} (h : flow.Leads store limit current transit ending)
    (hstore : p.session.store = store) (now : String) :
    p.travel now flow current transit ending =
      (p.along flow current transit ending).close now
        (ending.closing p.session.settings.deadEnd p.session.store) := by
  induction h generalizing p with
  | @arrival current next edge found halts =>
    rw [along_nil_arrival, travel, finish]
    rw [enter_of_halts _ _ halts, store_record]
    rfl
  | endOfFlow found =>
    rw [along_nil rfl, travel, finish, complete_eq, store_record]
    rfl
  | @unresolved current reason found =>
    rw [along_nil rfl, travel, finish]
    simp only [deadEnd, settings_record, Ending.closing]
    cases p.session.settings.deadEnd with
    | complete => simp only [complete_eq, store_record]
    | abort => simp only [abort_eq]
  | stepLimit found => rw [along_nil rfl, travel, finish, abort_eq]; rfl
  | cycle found => rw [along_nil rfl, travel, finish, abort_eq]; rfl
  | @onward current next edge transit ending found passes rest ih =>
    -- the visit leaves alone what the closing event is made of
    have hvisit : ((p.record (flow.resolve current p.session.store).2).visit next).session.store =
        p.session.store := store_record p _
    rw [travel, along_cons, enter_of_transit _ _ passes, ih (hvisit.trans hstore)]
    rw [hvisit]
    have hsettings :
        ((p.record (flow.resolve current p.session.store).2).visit next).session.settings =
          p.session.settings := settings_record p _
    rw [hsettings]

/-- **Passes that read the same go the same way.** A pass reads nothing of a session but its
store and its settings. -/
theorem exists_pass_eq (hknown : flow.node? current.id = some current) (store : Store)
    (settings : Settings) (entered : List String) :
    ∃ r : Route, flow.Leads store settings.maxAutoSteps current r.transit r.ending ∧
      ∀ (p : Progress) (now : String), p.session.store = store → p.session.settings = settings →
        p.pass now flow current.id entered =
          (p.along flow current r.transit r.ending).close now
            (r.ending.closing settings.deadEnd store) := by
  refine ⟨_, flow.leads_route store settings.maxAutoSteps current entered settings.maxAutoSteps,
    ?_⟩
  rintro p now rfl rfl
  rw [pass, advance_eq_travel hknown, travel_eq (flow.leads_route ..) rfl]

/-! What a pass leaves in the events, with the observer and in the trace. -/

variable {limit : Nat} {store : Store} {r : Route}

theorem events_travel (h : flow.Leads store limit current r.transit r.ending)
    (hstore : p.session.store = store) (now : String) :
    (p.travel now flow current r.transit r.ending).events =
      p.events ++ r.shown p.session.settings.deadEnd store := by
  rw [travel_eq h hstore, ← hstore]
  exact List.append_assoc ..

theorem observed_travel (h : flow.Leads store limit current r.transit r.ending)
    (hstore : p.session.store = store) (now : String) :
    (p.travel now flow current r.transit r.ending).session.observed =
      p.session.observed.map (· ++ r.shown p.session.settings.deadEnd store) := by
  rw [travel_eq h hstore, ← hstore]
  simp only [close, Session.observed_closed, along]
  cases p.session.observed <;> simp [Route.shown, Route.entered]

theorem flow_travel (h : flow.Leads store limit current r.transit r.ending)
    (hstore : p.session.store = store) (now : String) :
    (p.travel now flow current r.transit r.ending).session.flow = p.session.flow := by
  rw [travel_eq h hstore]
  exact Session.flow_closed

theorem settings_travel (h : flow.Leads store limit current r.transit r.ending)
    (hstore : p.session.store = store) (now : String) :
    (p.travel now flow current r.transit r.ending).session.settings = p.session.settings := by
  rw [travel_eq h hstore]
  exact Session.settings_closed

theorem store_travel (h : flow.Leads store limit current r.transit r.ending)
    (hstore : p.session.store = store) (now : String) :
    (p.travel now flow current r.transit r.ending).session.store = store := by
  rw [travel_eq h hstore, ← hstore]
  exact Session.store_closed

/-- A pass leaves the session at the last node on its route. -/
theorem cursor_travel (h : flow.Leads store limit current r.transit r.ending)
    (hstore : p.session.store = store) (hcursor : p.session.cursor = some current.id)
    (now : String) :
    (p.travel now flow current r.transit r.ending).session.cursor =
      some (r.last current).id := by
  rw [travel_eq h hstore, Route.last, Route.entered]
  refine Session.cursor_closed.trans ?_
  simp only [along, hcursor]
  cases (r.transit ++ r.ending.arrived).getLast? <;> rfl

theorem traceEvents_travel (h : flow.Leads store limit current r.transit r.ending)
    (hstore : p.session.store = store) (now : String) :
    (p.travel now flow current r.transit r.ending).session.trace.events =
      p.session.trace.events ++ p.session.settings.recorded
        (flow.wayLog store current r.transit r.ending ++
          (r.ending.closing p.session.settings.deadEnd store).closingLog) := by
  rw [travel_eq h hstore, ← hstore]
  simp only [close, Session.traceEvents_closed, along, Settings.noted_append]
  exact Settings.events_noted ..

/-- What a pass notes as entered are the nodes on its route. -/
theorem enteredNodes_travel (h : flow.Leads store limit current r.transit r.ending)
    (hstore : p.session.store = store) (hrecord : p.session.settings.recordTrace = true)
    (now : String) :
    (p.travel now flow current r.transit r.ending).session.trace.enteredNodes =
      p.session.trace.enteredNodes ++ r.entered.map (·.id) := by
  rw [Trace.enteredNodes_eq, traceEvents_travel h hstore, Settings.recorded_eq hrecord,
    List.filterMap_append, List.filterMap_append, Flow.filterMap_wayLog,
    Event.filterMap_closingLog,
    List.append_nil, Trace.enteredNodes_eq]
  rfl

end Progress

end Dialogue
