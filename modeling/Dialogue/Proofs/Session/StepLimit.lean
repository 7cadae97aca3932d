import Dialogue.Proofs.Pass.Loop
import Dialogue.Proofs.Session.Policy
import Dialogue.Proofs.Session.Walks

/-!
# Passes end, whatever the limit

The limit is there for passes that go on for too long, but no pass does: the loop that makes it
goes round once for each node at most, even if the limit is the greatest number that a machine
word holds. So a limit as great as the number of nodes is never exceeded, and no session is
aborted for it (`Dialogue.Session.passes_end_performAll`).
-/

namespace Dialogue

/-- **What is found last is not that the limit is exceeded.** -/
theorem Flow.Leads.ending_ne_unresolved_stepLimit {flow : Flow} {store : Store} {limit : Nat}
    {current : Node} {transit : List Node} {ending : Ending}
    (h : flow.Leads store limit current transit ending) (named : Nat) :
    ending ≠ .unresolved (.stepLimit named) := by
  intro hunresolved
  have hlast := h.resolve_last.2 _ hunresolved
  rcases reason_of_unresolved hlast with hall | ⟨handle, hno⟩
  · simp at hall
  · simp at hno

/-- **The event that closes a pass is no abort for its limit**, where this is as great as the
number of nodes. -/
theorem Flow.Origin.closing_ne_stepLimit {flow : Flow} {origin : Node} {counted : Bool}
    {limit : Nat} (h : flow.Origin origin counted) (hroom : flow.nodes.length ≤ limit)
    (store : Store) (policy : DeadEndPolicy) (named : Nat) :
    (flow.passRoute store limit origin counted).ending.closing policy store ≠
      .aborted (.stepLimit named) := by
  intro hclosing
  rcases Ending.closing_eq_aborted_iff.mp hclosing with hstopped | ⟨-, hunresolved⟩
  · exact h.ending_ne_stepLimit store hroom named hstopped
  · exact (flow.leads_route ..).ending_ne_unresolved_stepLimit named hunresolved

/-- A flow that goes round and round between two messages. -/
def Flow.carousel : Flow where
  nodes := [⟨"start", .start⟩, ⟨"tick", .message "Tick"⟩, ⟨"tock", .message "Tock"⟩]
  edges := [⟨"first", "start", "tick", none⟩, ⟨"second", "tick", "tock", none⟩,
    ⟨"third", "tock", "tick", none⟩]
  sound := by decide

namespace Session

/-- **The session has room**: its limit is as great as the number of nodes of the flow that it
holds. -/
def Roomy (s : Session) : Prop :=
  ∀ flow, s.flow = some flow → flow.nodes.length ≤ s.settings.maxAutoSteps

/-- **The session is not aborted for its limit**: this is neither shown, nor is it the reason for
which the session is aborted, unless it was so before. -/
structure Spared (before after : Session) (shown : List Event) : Prop where
  shown : ∀ limit, .aborted (.stepLimit limit) ∉ shown
  reason : ∀ limit, after.abortReason = some (.stepLimit limit) →
    before.abortReason = some (.stepLimit limit)

variable {s : Session} {now : String} {c : Call} {flow : Flow} {p : Progress} {origin : Node}
  {counted : Bool} {out : Session × List Event}

/-! ### Calls -/

/-- The reason for which a session is aborted is not touched when a pass is opened, unless it is
forgotten. -/
theorem Opening.abortReason (h : Opening s now flow c p origin counted) {reason : Abort}
    (hreason : p.session.abortReason = some reason) : s.abortReason = some reason := by
  cases h with
  | start idle => simp [begun_eq] at hreason
  | answer waits loaded stands known asks =>
    rw [answered_eq] at hreason
    exact hreason

/-- **A pass that is opened does not exceed the limit** where there is room, and leaves room. -/
theorem Opening.spared (h : Opening s now flow c p origin counted)
    (hroom : flow.nodes.length ≤ s.settings.maxAutoSteps) :
    let out := ofProgress (p.pass now flow origin.id (origin.seeds counted))
    out.1.Roomy ∧ Spared s out.1 out.2 := by
  obtain ⟨hevents, -, hsettings, -⟩ := h.spec
  obtain ⟨hloaded, hkept⟩ := h.spec_pass
  have hmoved := Progress.advance_eq_travel h.node?_origin now (origin.seeds counted)
    p.session.settings.maxAutoSteps p
  have hleads := flow.leads_route p.session.store p.session.settings.maxAutoSteps origin
    (origin.seeds counted) p.session.settings.maxAutoSteps
  have hclosing := h.setsOut.closing_ne_stepLimit (hsettings.symm ▸ hroom) p.session.store
    p.session.settings.deadEnd
  refine ⟨fun flow' hflow' => ?_, fun limit hshown => ?_, fun limit hreason => ?_⟩
  · obtain rfl : flow = flow' := Option.some.inj (hloaded.symm.trans hflow')
    exact hkept.symm ▸ hroom
  · simp only [ofProgress, Progress.pass, hmoved, Progress.events_travel hleads rfl, hevents,
      List.nil_append] at hshown
    exact hclosing limit (Route.eq_closing_of_mem_shown hshown (by simp)).symm
  · simp only [ofProgress, Progress.pass, hmoved, Progress.travel_eq hleads rfl] at hreason
    rcases Progress.reason_of_close hreason with hnow | hbefore
    · exact absurd hnow (hclosing limit)
    · exact h.abortReason hbefore

/-- **A call does not exceed the limit** where there is room, and leaves room. -/
theorem Turn.spared (h : Turn s now c out) (hs : s.Roomy)
    (hc : ∀ flow, c = .start flow → flow.nodes.length ≤ s.settings.maxAutoSteps) :
    out.1.Roomy ∧ Spared s out.1 out.2 := by
  cases h with
  | reset =>
    have hnone : s.reset.abortReason = none := rfl
    exact ⟨hs, fun limit => List.not_mem_nil, fun limit hreason => by simp [hnone] at hreason⟩
  | direct opening =>
    refine opening.spared ?_
    cases opening with
    | start idle => exact hc _ rfl
    | answer waits loaded stands known asks => exact hs _ loaded
  | pick opening =>
    refine opening.spared ?_
    cases opening with
    | answer waits loaded stands known asks => exact hs _ loaded
  | again loaded opening =>
    have hnone : s.reset.abortReason = none := rfl
    obtain ⟨hroomy, hspared⟩ := opening.spared (hs _ loaded)
    refine ⟨hroomy, hspared.shown, fun limit hreason => ?_⟩
    simpa [hnone] using hspared.reason limit hreason
  | lost hlost =>
    rw [Progress.abort_eq]
    refine ⟨fun flow hflow => ?_, fun limit hshown => ?_, fun limit hreason => ?_⟩
    · simp only [ofProgress, Progress.close, flow_closed, settings_closed] at hflow ⊢
      exact hs flow hflow
    · simp [ofProgress, Progress.close] at hshown
    · simpa using Progress.reason_of_close hreason

/-- **The step of a run**: where there is room, no call exceeds the limit, and room is left. -/
theorem Roomy.perform (hs : s.Roomy) (now : String)
    (hc : ∀ flow, c = .start flow → flow.nodes.length ≤ s.settings.maxAutoSteps) :
    (s.perform now c).1.Roomy ∧
      Spared s (s.perform now c).1 ((s.perform now c).2.toOption.getD []) := by
  unfold Session.perform
  cases hcall : s.call now c with
  | error refusal => exact ⟨hs, by simp [Except.toOption], fun limit hreason => hreason⟩
  | ok out => exact (turn_of_call hcall).spared hs hc

/-- **Whatever is called, the limit is not exceeded** where there is room. -/
theorem Roomy.performAll (hs : s.Roomy) (calls : List (String × Call))
    (hcalls : ∀ entry ∈ calls, ∀ flow, entry.2 = .start flow →
      flow.nodes.length ≤ s.settings.maxAutoSteps) :
    Spared s (s.performAll calls).1 (returned (s.performAll calls).2) := by
  induction calls generalizing s with
  | nil => exact ⟨by simp [Session.performAll, returned], fun limit hreason => hreason⟩
  | cons entry rest ih =>
    obtain ⟨hfirst, hothers⟩ := List.forall_mem_cons.mp hcalls
    obtain ⟨hroomy, hnow⟩ := hs.perform entry.1 hfirst
    have hsettings : (s.perform entry.1 entry.2).1.settings = s.settings :=
      settings_performAll s [entry]
    have hlater := ih hroomy (hsettings.symm ▸ hothers)
    refine ⟨fun limit hshown => ?_, fun limit hreason => ?_⟩
    · rcases List.mem_append.mp hshown with hshown | hshown
      · exact hnow.shown limit hshown
      · exact hlater.shown limit hshown
    · exact hnow.reason limit (hlater.reason limit hreason)

/-- **Passes end, whatever the limit.** In every flow, from wherever passes set out, and with
every store and limit, the loop of a pass comes to its end in no more laps than there are nodes.
So its counter stays within the number of nodes, and within a machine word of 64 bits if that
does. No node is entered twice, and no more nodes are entered than there are or than the limit
says. And a session whose limit is as great as the number of nodes, be it of the flow that it
holds or of those on which it is started, is not aborted for its limit by any call. -/
theorem passes_end_performAll :
    (∀ (flow : Flow) (origin : Node) (counted : Bool), flow.Origin origin counted →
      ∀ (p : Progress) (now : String), ∃ (laps : List Lap) (entered : List Node),
        Lap.Runs now flow ⟨origin.id, origin.seeds counted, 0, p⟩ laps entered
          (p.pass now flow origin.id (origin.seeds counted)) ∧
        laps.length ≤ flow.nodes.length ∧
        (∀ lap ∈ laps, lap.counter + 1 ≤ flow.nodes.length ∧
          (flow.nodes.length < UInt64.size →
            (UInt64.ofNat lap.counter + 1).toNat = lap.counter + 1)) ∧
        (origin.seeds counted ++ entered.map (·.id)).Nodup ∧
        entered.length ≤ min p.session.settings.maxAutoSteps flow.nodes.length) ∧
    ∀ s : Session, s.Roomy → ∀ calls : List (String × Call),
      (∀ entry ∈ calls, ∀ flow, entry.2 = .start flow →
        flow.nodes.length ≤ s.settings.maxAutoSteps) →
      Spared s (s.performAll calls).1 (returned (s.performAll calls).2) := by
  refine ⟨fun flow origin counted horigin p now => ?_, fun s hs calls => hs.performAll calls⟩
  obtain ⟨laps, hruns, hcounters⟩ := p.exists_runs horigin.known now (origin.seeds counted) 0
    p.session.settings.maxAutoSteps (Nat.zero_add _)
  have hless := horigin.length_transit_lt p.session.store p.session.settings.maxAutoSteps
  have hlength : laps.length = (flow.passRoute p.session.store p.session.settings.maxAutoSteps
      origin counted).transit.length + 1 := by
    have hsame := congrArg List.length hcounters
    rwa [List.length_map, List.length_range'] at hsame
  refine ⟨laps, _, hruns, hlength ▸ hless, fun lap hlap => ?_, flow.nodup_passRoute ..,
    flow.length_passRoute_le ..⟩
  have hcounter : lap.counter ∈ laps.map (·.counter) := List.mem_map_of_mem hlap
  rw [hcounters, List.mem_range'_1, Nat.zero_add] at hcounter
  have hbound : lap.counter + 1 ≤ flow.nodes.length := Nat.le_trans hcounter.2 hless
  refine ⟨hbound, fun hword => ?_⟩
  have hfits : lap.counter + 1 < UInt64.size := Nat.lt_of_le_of_lt hbound hword
  rw [UInt64.toNat_add, UInt64.toNat_ofNat', UInt64.toNat_one]
  rw [Nat.mod_eq_of_lt (Nat.lt_of_succ_lt hfits), Nat.mod_eq_of_lt hfits]

/-- With the greatest limit there is, a session goes round once, in three laps. -/
theorem passes_end_performAll_carousel :
    let s := Session.new { (default : Settings) with maxAutoSteps := UInt64.size - 1 } default
    let p := s.begun "now" Flow.carousel
    Flow.carousel.Origin Flow.carousel.start true ∧ s.Roomy ∧
      (∃ (laps : List Lap) (entered : List Node),
        Lap.Runs "now" Flow.carousel ⟨"start", ["start"], 0, p⟩ laps entered
          (p.pass "now" Flow.carousel "start" ["start"]) ∧
        laps.length ≤ 3 ∧ entered.length ≤ 3) ∧
      (s.performAll [("now", .start .carousel)]).2 =
        [.ok [.message "tick" "Tick", .message "tock" "Tock", .aborted (.cycle "tick")]] ∧
      ∀ limit, .aborted (.stepLimit limit) ∉
        returned (s.performAll [("now", .start .carousel)]).2 := by
  intro s p
  have horigin : Flow.carousel.Origin Flow.carousel.start true := Flow.Origin.start
  have hroomy : s.Roomy := fun flow hflow => by simp [s, Session.new] at hflow
  have hfits : ∀ entry ∈ [("now", Call.start .carousel)], ∀ flow, entry.2 = .start flow →
      flow.nodes.length ≤ s.settings.maxAutoSteps := by
    intro entry hentry flow hflow
    obtain rfl := List.mem_singleton.mp hentry
    obtain rfl := Call.start.inj hflow
    decide
  obtain ⟨laps, entered, hruns, hlaps, -, -, hentered⟩ :=
    passes_end_performAll.1 Flow.carousel Flow.carousel.start true horigin p "now"
  refine ⟨horigin, hroomy, ⟨laps, entered, hruns, hlaps, Nat.le_trans hentered ?_⟩, rfl,
    (passes_end_performAll.2 s hroomy [("now", .start .carousel)] hfits).shown⟩
  exact Nat.min_le_right _ _

end Session

end Dialogue
