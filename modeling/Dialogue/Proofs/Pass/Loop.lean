import Dialogue.Proofs.Pass.Walk

/-!
# Passes as loops

A pass is a loop with a counter. Each lap looks for the next node, counts one step more, and
ends the loop if that is too many or if the node was entered before; otherwise it enters the
node. So runs a loop that knows nothing of how often it will go round
(`Dialogue.Lap.iterate`, `Dialogue.Lap.Runs`), and it comes to what a pass comes to
(`Dialogue.Progress.exists_runs`).

The limit may be too great to be of use. What bounds the loop are the nodes of the flow, because
those that are entered are distinct (`Dialogue.Route.Guarded`). The node at which a pass sets out
makes one more: it is not on the way again if it is the start node, which counts as entered, nor
if it is a question, where the loop would be over (`Dialogue.Flow.Origin.length_transit_lt`).
-/

namespace Dialogue

/-! ### The loop -/

/-- **The loop at the beginning of a lap**: where it stands, what it has entered, and how many
steps it has counted. -/
structure Lap where
  current : String
  entered : List String
  counter : Nat
  progress : Progress

/-- How a lap ends: the loop is over before a node is entered, or a node is entered at which it
is over, or at which it goes on. -/
inductive Lap.Outcome
  | ends (p : Progress)
  | arrives (node : Node) (p : Progress)
  | onward (node : Node) (next : Lap)

namespace Lap

/-- A lap of the loop. -/
def iterate (now : String) (flow : Flow) (lap : Lap) : Outcome :=
  match flow.node lap.current with
  | .error defect => .ends (lap.progress.abort now (.defect defect))
  | .ok node =>
    let (outcome, log) := flow.resolve node lap.progress.session.store
    let p := lap.progress.record log
    match outcome with
    | .error defect => .ends (p.abort now (.defect defect))
    | .ok .endOfFlow => .ends (p.complete now true none)
    | .ok (.unresolved reason) => .ends (p.deadEnd now reason)
    | .ok (.next next _) =>
      let counter := lap.counter + 1
      if counter > p.session.settings.maxAutoSteps then
        .ends (p.abort now (.stepLimit p.session.settings.maxAutoSteps))
      else if next.id ∈ lap.entered then
        .ends (p.abort now (.cycle next.id))
      else
        let p := p.enter now next
        if next.haltsPass then .arrives next p
        else .onward next ⟨next.id, next.id :: lap.entered, counter, p⟩

/-- **The loop runs from a lap to its end**, through the laps listed, and enters the nodes
listed. -/
inductive Runs (now : String) (flow : Flow) : Lap → List Lap → List Node → Progress → Prop
  | ends {lap : Lap} {p : Progress} (h : lap.iterate now flow = .ends p) :
    Runs now flow lap [lap] [] p
  | arrives {lap : Lap} {node : Node} {p : Progress} (h : lap.iterate now flow = .arrives node p) :
    Runs now flow lap [lap] [node] p
  | onward {lap next : Lap} {node : Node} {laps : List Lap} {entered : List Node} {p : Progress}
      (h : lap.iterate now flow = .onward node next) (rest : Runs now flow next laps entered p) :
    Runs now flow lap (lap :: laps) (node :: entered) p

end Lap

/-- **The loop comes to what a pass comes to**: from each position it runs along the route, one
lap for each node on the way and one more, and it counts the laps. -/
theorem Progress.exists_runs {flow : Flow} {current : Node}
    (hknown : flow.node? current.id = some current) (now : String) (entered : List String)
    (counter steps : Nat) (p : Progress)
    (hlimit : counter + steps = p.session.settings.maxAutoSteps) :
    let r := flow.route p.session.store p.session.settings.maxAutoSteps current entered steps
    ∃ laps : List Lap, Lap.Runs now flow ⟨current.id, entered, counter, p⟩ laps r.entered
        (p.advance now flow current.id entered steps) ∧
      laps.map (·.counter) = List.range' counter (r.transit.length + 1) := by
  have hok : flow.node current.id = .ok current := Flow.node_eq_ok_iff.mpr hknown
  obtain ⟨r, hr, -⟩ := flow.exists_resolution current p.session.store
  obtain ⟨log, hlog⟩ : ∃ log, flow.resolve current p.session.store = (.ok r, log) :=
    ⟨_, Prod.ext hr rfl⟩
  have hlast : ∀ lap : Lap, lap.counter = counter →
      [lap].map (·.counter) = List.range' counter (([] : List Node).length + 1) :=
    fun lap hcounter => congrArg (· :: []) hcounter
  cases r with
  | endOfFlow =>
    rw [Flow.route_of_endOfFlow hr]
    refine ⟨_, Lap.Runs.ends ?_, hlast _ rfl⟩
    simp [Lap.iterate, advance, hok, hlog]
  | unresolved reason =>
    rw [Flow.route_of_unresolved hr]
    refine ⟨_, Lap.Runs.ends ?_, hlast _ rfl⟩
    simp [Lap.iterate, advance, hok, hlog]
  | next next edge =>
    cases steps with
    | zero =>
      have hover : counter + 1 > p.session.settings.maxAutoSteps := by omega
      rw [Flow.route_zero hr]
      refine ⟨_, Lap.Runs.ends ?_, hlast _ rfl⟩
      simp [Lap.iterate, advance, hok, hlog, hover]
    | succ steps =>
      have hwithin : ¬ counter + 1 > p.session.settings.maxAutoSteps := by omega
      by_cases hmem : next.id ∈ entered
      · rw [Flow.route_of_mem hr hmem]
        refine ⟨_, Lap.Runs.ends ?_, hlast _ rfl⟩
        simp [Lap.iterate, advance, hok, hlog, hwithin, hmem]
      · cases hhalts : next.haltsPass with
        | true =>
          rw [Flow.route_of_halts hr hmem hhalts]
          refine ⟨_, Lap.Runs.arrives ?_, hlast _ rfl⟩
          simp [Lap.iterate, advance, hok, hlog, hwithin, hmem, hhalts]
        | false =>
          -- the laps that follow read the same store and limit: entering left them alone
          obtain ⟨hstore, hsettings⟩ := store_enter (p.record log) now hhalts
          rw [store_record] at hstore
          rw [settings_record] at hsettings
          have hlimit' : counter + 1 + steps =
              ((p.record log).enter now next).session.settings.maxAutoSteps := by
            rw [hsettings]
            omega
          obtain ⟨laps, hruns, hcounters⟩ := exists_runs (Flow.node?_of_next hr) now
            (next.id :: entered) (counter + 1) steps ((p.record log).enter now next) hlimit'
          rw [hstore, hsettings] at hruns hcounters
          rw [Flow.route_of_transit hr hmem hhalts]
          refine ⟨⟨current.id, entered, counter, p⟩ :: laps, ?_, ?_⟩
          · have hadvance : p.advance now flow current.id entered (steps + 1) =
                ((p.record log).enter now next).advance now flow next.id (next.id :: entered)
                  steps := by
              conv_lhs => unfold advance
              simp [hok, hlog, hmem, hhalts]
            rw [hadvance]
            refine Lap.Runs.onward ?_ hruns
            simp [Lap.iterate, hok, hlog, hwithin, hmem, hhalts]
          · rw [List.map_cons, hcounters]
            rfl

/-! ### How much a route enters -/

/-- **What the guards of a pass see to** on a route, where at most `steps` nodes may be entered
and none of those `entered` before: the nodes that are entered are distinct and new, and only
where there are as many of them as may be the route is stopped for it. -/
structure Route.Guarded (entered : List String) (steps : Nat) (r : Route) : Prop where
  nodup : (r.entered.map (·.id)).Nodup
  fresh : ∀ n ∈ r.entered, n.id ∉ entered
  length_le : r.entered.length ≤ steps
  length_eq : ∀ limit, r.ending = .stopped (.stepLimit limit) → r.transit.length = steps

namespace Route.Guarded

variable {entered : List String} {steps : Nat} {next : Node} {ending : Ending} {r : Route}

/-- Where a route ends before another node, nothing is entered. -/
theorem nil (hending : ending.arrived = [])
    (hstopped : ∀ limit, ending = .stopped (.stepLimit limit) → 0 = steps) :
    Route.Guarded entered steps ⟨[], ending⟩ where
  nodup := by simp [Route.entered, hending]
  fresh := by simp [Route.entered, hending]
  length_le := by simp [Route.entered, hending]
  length_eq := hstopped

theorem arrival (hnew : next.id ∉ entered) :
    Route.Guarded entered (steps + 1) ⟨[], .arrival next⟩ where
  nodup := by simp [Route.entered, Ending.arrived]
  fresh := by simp [Route.entered, Ending.arrived, hnew]
  length_le := by simp [Route.entered, Ending.arrived]
  length_eq := by simp

/-- **A node on the way is new**, and those after it are others. -/
theorem onward (hnew : next.id ∉ entered) (hrest : Route.Guarded (next.id :: entered) steps r) :
    Route.Guarded entered (steps + 1) ⟨next :: r.transit, r.ending⟩ where
  nodup := by
    refine List.nodup_cons.mpr ⟨fun htwice => ?_, hrest.nodup⟩
    obtain ⟨n, hn, hsame⟩ := List.mem_map.mp htwice
    exact hrest.fresh n hn (hsame ▸ List.mem_cons_self)
  fresh := List.forall_mem_cons.mpr
    ⟨hnew, fun n hn hn' => hrest.fresh n hn (List.mem_cons_of_mem _ hn')⟩
  length_le := Nat.succ_le_succ hrest.length_le
  length_eq limit hlimit := congrArg (· + 1) (hrest.length_eq limit hlimit)

end Route.Guarded

namespace Flow

variable {flow : Flow} {store : Store} {limit : Nat} {origin current n : Node} {counted : Bool}

/-- **A route is guarded.** -/
theorem guarded_route (flow : Flow) (store : Store) (limit : Nat) (current : Node)
    (entered : List String) (steps : Nat) :
    (flow.route store limit current entered steps).Guarded entered steps := by
  obtain ⟨r, hr, -⟩ := flow.exists_resolution current store
  cases r with
  | endOfFlow => exact route_of_endOfFlow hr ▸ Route.Guarded.nil rfl (by simp)
  | unresolved reason => exact route_of_unresolved hr ▸ Route.Guarded.nil rfl (by simp)
  | next next edge =>
    cases steps with
    | zero => exact route_zero hr ▸ Route.Guarded.nil rfl (by simp)
    | succ steps =>
      by_cases hmem : next.id ∈ entered
      · exact route_of_mem hr hmem ▸ Route.Guarded.nil rfl (by simp)
      · cases hhalts : next.haltsPass with
        | true => exact route_of_halts hr hmem hhalts ▸ Route.Guarded.arrival hmem
        | false =>
          rw [route_of_transit hr hmem hhalts]
          exact (flow.guarded_route store limit next (next.id :: entered) steps).onward hmem

/-- The nodes on the way do not halt a pass. -/
theorem Leads.haltsPass_of_mem {transit : List Node} {ending : Ending}
    (h : flow.Leads store limit current transit ending) : ∀ n ∈ transit, n.haltsPass = false := by
  induction h with
  | onward found passes rest ih => exact List.forall_mem_cons.mpr ⟨passes, ih⟩
  | _ => exact List.forall_mem_nil _

/-! ### Passes -/

/-- The guards of a whole pass. -/
theorem guarded_passRoute (flow : Flow) (store : Store) (limit : Nat) (origin : Node)
    (counted : Bool) :
    (flow.passRoute store limit origin counted).Guarded (origin.seeds counted) limit :=
  flow.guarded_route store limit origin (origin.seeds counted) limit

/-- The nodes that a pass enters are nodes of the flow. -/
theorem node?_of_mem_passRoute (hn : n ∈ (flow.passRoute store limit origin counted).entered) :
    flow.node? n.id = some n :=
  (flow.leads_route store limit origin (origin.seeds counted) limit).node?_of_mem n hn

/-- **A pass enters no node twice**, the node included at which it sets out, if that counts. -/
theorem nodup_passRoute (flow : Flow) (store : Store) (limit : Nat) (origin : Node)
    (counted : Bool) :
    (origin.seeds counted ++
      (flow.passRoute store limit origin counted).entered.map (·.id)).Nodup := by
  have hguarded := flow.guarded_passRoute store limit origin counted
  refine List.nodup_append'.mpr ⟨?_, hguarded.nodup, fun id hid hentered => ?_⟩
  · cases counted <;> simp [Node.seeds]
  · obtain ⟨n, hn, rfl⟩ := List.mem_map.mp hentered
    exact hguarded.fresh n hn hid

/-- **A pass enters no more nodes than there are**, and than its limit. -/
theorem length_passRoute_le (flow : Flow) (store : Store) (limit : Nat) (origin : Node)
    (counted : Bool) :
    (flow.passRoute store limit origin counted).entered.length ≤ min limit flow.nodes.length := by
  have hguarded := flow.guarded_passRoute store limit origin counted
  have hlength := length_le_of_nodup hguarded.nodup
    (List.forall_mem_map.mpr fun n hn => ⟨n, node?_of_mem_passRoute hn⟩)
  exact Nat.le_min.mpr ⟨hguarded.length_le, by simpa using hlength⟩

/-- **The nodes on the way are fewer than there are.** The node at which the pass sets out is
none of them: it counts as entered, or else it would halt the pass. -/
theorem Origin.length_transit_lt (h : flow.Origin origin counted) (store : Store) (limit : Nat) :
    (flow.passRoute store limit origin counted).transit.length < flow.nodes.length := by
  have hguarded := flow.guarded_passRoute store limit origin counted
  have hleads := flow.leads_route store limit origin (origin.seeds counted) limit
  have hothers : ∀ n ∈ (flow.passRoute store limit origin counted).transit, n.id ≠ origin.id := by
    intro n hn hsame
    have hentered : n ∈ (flow.passRoute store limit origin counted).entered :=
      List.mem_append_left _ hn
    cases h with
    | start => exact hguarded.fresh n hentered (by simp [hsame, Node.seeds])
    | question known asks =>
      have hpasses := hleads.haltsPass_of_mem n hn
      have hknown := node?_of_mem_passRoute hentered
      rw [hsame, known] at hknown
      obtain rfl := Option.some.inj hknown
      simp [Node.haltsPass, asks] at hpasses
  have hdistinct :
      (origin.id :: (flow.passRoute store limit origin counted).transit.map (·.id)).Nodup := by
    refine List.nodup_cons.mpr ⟨fun hmem => ?_, ?_⟩
    · obtain ⟨n, hn, hsame⟩ := List.mem_map.mp hmem
      exact hothers n hn hsame
    · exact hguarded.nodup.sublist ((List.sublist_append_left _ _).map _)
  have hlength := length_le_of_nodup hdistinct (List.forall_mem_cons.mpr ⟨⟨origin, h.known⟩,
    List.forall_mem_map.mpr fun n hn => ⟨n, node?_of_mem_passRoute (List.mem_append_left _ hn)⟩⟩)
  rwa [List.length_cons, List.length_map] at hlength

/-- **A pass is not stopped for its limit** where this is as great as the number of nodes. -/
theorem Origin.ending_ne_stepLimit (h : flow.Origin origin counted) (store : Store)
    (hroom : flow.nodes.length ≤ limit) (named : Nat) :
    (flow.passRoute store limit origin counted).ending ≠ .stopped (.stepLimit named) := by
  intro hstopped
  have hfull := (flow.guarded_passRoute store limit origin counted).length_eq named hstopped
  have hless := h.length_transit_lt store limit
  omega

end Flow

end Dialogue
