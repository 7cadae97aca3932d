import Dialogue.Proofs.Session.Afresh
import Dialogue.Proofs.Session.Findings
import Dialogue.Proofs.Session.Order
import Mathlib.Data.List.Induction

/-!
# The dead-end policy

What becomes of a session at a dead end, where edges leave a node but none can be followed,
is a matter of policy. It is the only thing that is. Let the same calls be made to two
sessions whose settings differ in the policy alone. As long as no call meets a dead end, both
get the same and stay the same but for this setting (`Dialogue.Session.Smooth.performAll_under`).
The first call that meets one takes both of them along the same route, and only the event
that closes it tells them apart (`Dialogue.Session.Outset.exists_parted`).

The two sessions need not have the same id, and their calls may come at different times. That
these do not matter is known already, of sessions with the same settings
(`Dialogue.Session.Matches`).
-/

namespace Dialogue

/-- The settings with another policy. -/
def Settings.under (policy : DeadEndPolicy) (s : Settings) : Settings :=
  { s with deadEnd := policy }

/-- A session with another policy. -/
def Session.under (policy : DeadEndPolicy) (s : Session) : Session :=
  { s with settings := s.settings.under policy }

/-- A session in the course of a call, with another policy. -/
def Progress.under (policy : DeadEndPolicy) (p : Progress) : Progress :=
  { p with session := p.session.under policy }

/-- A session moves along a route in the same way under each policy. -/
theorem Progress.along_under (policy : DeadEndPolicy) (p : Progress) (flow : Flow) (origin : Node)
    (transit : List Node) (ending : Ending) :
    (p.under policy).along flow origin transit ending =
      (p.along flow origin transit ending).under policy :=
  rfl

/-- And an event closes it in the same way. -/
theorem Progress.close_under (policy : DeadEndPolicy) (p : Progress) (now : String) (e : Event) :
    (p.under policy).close now e = (p.close now e).under policy := by
  cases e <;> rfl

/-- The reason of a session that an event closes is that of the event, or is left from
before. -/
theorem Progress.reason_of_close {p : Progress} {now : String} {e : Event} {reason : Abort}
    (h : (p.close now e).session.abortReason = some reason) :
    e = .aborted reason ∨ p.session.abortReason = some reason := by
  cases e with
  | aborted reason' =>
    obtain rfl : reason' = reason := Option.some.inj h
    exact Or.inl rfl
  | _ => exact Or.inr h

namespace Session

variable {s s' r : Session} {now now' : String} {c : Call} {flow : Flow} {p : Progress}
  {origin : Node} {counted : Bool} {reason : Abort} {out out' : Session × List Event}

/-! ### Calls without a dead end -/

/-- **None of the calls meets a dead end.** -/
def Smooth (s : Session) : List (String × Call) → Prop
  | [] => True
  | (now, c) :: rest => (∀ reason, ¬ s.MeetsDeadEnd c reason) ∧ Smooth (s.perform now c).1 rest

/-- What a call comes to does not depend on the policy. -/
theorem plan_under (policy : DeadEndPolicy) (s : Session) (c : Call) :
    (s.under policy).plan c = s.plan c :=
  plan_congr rfl rfl rfl c

/-- Nor does the outset of its pass. -/
theorem Outset.under (h : Outset s now c flow p origin counted) (policy : DeadEndPolicy) :
    Outset (s.under policy) now c flow (p.under policy) origin counted := by
  cases h with
  | begin h =>
    have hbegun : (s.under policy).begun now flow = (s.begun now flow).under policy := by
      rw [begun_eq, begun_eq]
      rfl
    exact hbegun ▸ Outset.begin ((s.plan_under policy c).trans h)
  | @answer _ q value h =>
    have hanswered : (s.under policy).answered origin.id q value =
        (s.answered origin.id q value).under policy := by
      rw [answered_eq, answered_eq]
      rfl
    exact hanswered ▸ Outset.answer ((s.plan_under policy c).trans h)

/-- **A call that meets no dead end does the same under each policy.** -/
theorem perform_under (hnone : ∀ reason, ¬ s.MeetsDeadEnd c reason) (policy : DeadEndPolicy)
    (now : String) :
    (s.under policy).perform now c = ((s.perform now c).1.under policy, (s.perform now c).2) := by
  have hpass : ∀ {flow p origin counted}, Outset s now c flow p origin counted →
      (s.under policy).perform now c =
        ((s.perform now c).1.under policy, (s.perform now c).2) := by
    intro flow p origin counted houtset
    have hending : ∀ reason, (Outset.route flow p origin counted).ending ≠ .unresolved reason :=
      fun reason hreason => hnone reason (houtset.meetsDeadEnd_iff.mpr hreason)
    have hroute : Outset.route flow (p.under policy) origin counted =
      Outset.route flow p origin counted := rfl
    have hstore : (p.under policy).session.store = p.session.store := rfl
    rw [perform_of_ok (houtset.under policy).call_eq, perform_of_ok houtset.call_eq, hroute,
      hstore, Ending.closing_congr hending, Progress.along_under, Progress.close_under]
    rfl
  rcases hplan : s.plan c with refusal | _ | flow | ⟨flow, node, q, value⟩ | cursor
  · simp only [perform, call_eq_carryOut, plan_under, hplan, Plan.carryOut]
  · simp only [perform, call_eq_carryOut, plan_under, hplan, Plan.carryOut]
    rfl
  · exact hpass (Outset.begin hplan)
  · exact hpass (Outset.answer hplan)
  · simp only [perform, call_eq_carryOut, plan_under, hplan, Plan.carryOut, Progress.abort_eq]
    rfl

/-- **Calls that meet no dead end do the same under each policy.** -/
theorem Smooth.performAll_under {calls : List (String × Call)} (h : s.Smooth calls)
    (policy : DeadEndPolicy) :
    (s.under policy).performAll calls =
      ((s.performAll calls).1.under policy, (s.performAll calls).2) := by
  induction calls generalizing s with
  | nil => rfl
  | cons entry rest ih =>
    obtain ⟨hnone, hrest⟩ := h
    simp only [performAll, perform_under hnone policy entry.1, ih hrest]

/-! ### The call that meets a dead end -/

/-- **Two sessions part at a dead end**: the messages shown and the steps noted are the same
up to where the one completes early and the other is aborted for the reason. -/
structure Parted (reason : Abort) (out out' : Session × List Event) : Prop where
  shown : ∃ messages : List Event, (∀ e ∈ messages, ∃ node text, e = .message node text) ∧
    out.2 = messages ++ [.completed out.1.store.values true none] ∧
    out'.2 = messages ++ [.aborted reason]
  noted : ∃ t : Trace,
    out.1.trace.entries = (out.1.settings.noted t [.completed true]).entries ∧
    out'.1.trace.entries = (out.1.settings.noted t [.aborted reason.message]).entries
  completed : out.1.state = .completed ∧ out.1.endedEarly = true
  aborted : out'.1.state = .aborted ∧ out'.1.abortReason = some reason
  flow : out'.1.flow = out.1.flow
  cursor : out'.1.cursor = out.1.cursor
  store : out'.1.store = out.1.store

/-- **A call that meets a dead end parts the policies.** -/
theorem Outset.exists_parted (h : Outset s now c flow p origin counted)
    (hcomplete : s.settings.deadEnd = .complete) (hmeets : s.MeetsDeadEnd c reason) :
    ∃ out out', s.call now c = .ok out ∧ (s.under .abort).call now c = .ok out' ∧
      Parted reason out out' := by
  have hending := h.meetsDeadEnd_iff.mp hmeets
  refine ⟨_, _, h.call_eq, (h.under .abort).call_eq, ?_⟩
  have hroute : route flow (p.under .abort) origin counted = route flow p origin counted := rfl
  have habort : (s.under .abort).settings.deadEnd = .abort := rfl
  rw [hroute, hending, hcomplete, habort]
  generalize (route flow p origin counted).transit = transit
  refine ⟨⟨transit.flatMap Node.messages, ?_, ?_, ?_⟩,
    ⟨(p.along flow origin transit (.unresolved reason)).session.trace, rfl, rfl⟩, ⟨rfl, rfl⟩,
    ⟨rfl, rfl⟩, rfl, rfl, rfl⟩
  · intro e he
    obtain ⟨n, -, hn⟩ := List.mem_flatMap.mp he
    obtain ⟨text, htext⟩ := Node.eq_message_of_mem hn
    exact ⟨n.id, text, htext⟩
  · simp [ofProgress, Progress.close, Progress.along, h.spec.2.1, Ending.arrived, Ending.closing,
      store_closed]
  · simp [ofProgress, Progress.close, Progress.along, Progress.under, h.spec.2.1, Ending.arrived,
      Ending.closing]

/-- A replica of the one that is aborted has parted as well. -/
theorem Parted.of_replica (h : Parted reason out out') (hr : Replica out'.1 r) :
    Parted reason out (r, out'.2) := by
  obtain ⟨t, hout, hout'⟩ := h.noted
  exact
    { shown := h.shown
      noted := ⟨t, hout, hr.entries.trans hout'⟩
      completed := h.completed
      aborted := ⟨hr.state.trans h.aborted.1, hr.abortReason.trans h.aborted.2⟩
      flow := hr.flow.trans h.flow
      cursor := hr.cursor.trans h.cursor
      store := hr.store.trans h.store }

/-- Traces with the same entries enter the same nodes. -/
theorem enteredNodes_congr {t t' : Trace} (h : t'.entries = t.entries) :
    t'.enteredNodes = t.enteredNodes := by
  rw [Trace.enteredNodes, h, Trace.enteredNodes]

/-- Sessions that part have entered the same nodes. -/
theorem Parted.enteredNodes_eq (h : Parted reason out out') :
    out'.1.trace.enteredNodes = out.1.trace.enteredNodes := by
  obtain ⟨t, hout, hout'⟩ := h.noted
  have hclosing : ∀ e : Event,
      (out.1.settings.noted t e.closingLog).enteredNodes = t.enteredNodes := by
    intro e
    rw [Trace.enteredNodes_eq, Settings.events_noted, List.filterMap_append, Trace.enteredNodes_eq]
    refine List.append_right_eq_self.mpr (List.filterMap_eq_nil_iff.mpr fun step hstep => ?_)
    exact List.filterMap_eq_nil_iff.mp e.filterMap_closingLog step
      (Settings.mem_of_mem_recorded hstep)
  rw [enteredNodes_congr hout, enteredNodes_congr hout']
  exact (hclosing (.aborted reason)).trans (hclosing (.completed .empty true none)).symm

/-- Sessions that match do so with their traces emptied. -/
theorem Matches.traced {R : Flow → Flow → Prop} (h : Matches R s r) :
    Matches R s.traced r.traced := by
  have hsettings : r.traced.settings = s.traced.settings :=
    congrArg (fun settings : Settings => { settings with recordTrace := true }) h.replica.settings
  exact ⟨h.flows, { h.replica with settings := hsettings, entries := rfl }⟩

/-- **A call to sessions that match enters the same nodes.** -/
theorem Matches.enteredBy_eq (h : Matches Eq s r) (now now' : String) (c : Call) :
    r.enteredBy now' c = s.enteredBy now c := by
  have hlike : c.Like Eq c := Call.Like.refl (fun _ => rfl) c
  exact enteredNodes_congr
    (h.traced.perform routesLike_of_eq hlike now now').2.replica_of_eq.entries

/-- A session whose trace is emptied finds the same. -/
theorem findings_traced (s : Session) (c : Call) : s.traced.findings c = s.findings c := by
  have hplan : s.traced.plan c = s.plan c := plan_congr rfl rfl rfl c
  rw [findings, hplan, findings]
  rfl

/-- **A call that meets a dead end enters the same nodes under each policy.** -/
theorem enteredBy_under (hcomplete : s.settings.deadEnd = .complete)
    (hmeets : s.MeetsDeadEnd c reason) (now : String) :
    (s.under .abort).enteredBy now c = s.enteredBy now c := by
  have hmeets' : s.traced.MeetsDeadEnd c reason := by
    rw [MeetsDeadEnd, findings_traced]
    exact hmeets
  obtain ⟨flow, p, origin, counted, houtset⟩ := exists_outset hmeets' now
  obtain ⟨out, out', hcall, hcall', hparted⟩ := houtset.exists_parted hcomplete hmeets'
  have hentered : s.enteredBy now c = out.1.trace.enteredNodes := by
    rw [enteredBy, perform_of_ok hcall]
  have hentered' : (s.under .abort).enteredBy now c = out'.1.trace.enteredNodes := by
    have htraced : (s.under .abort).traced = s.traced.under .abort := rfl
    rw [enteredBy, htraced, perform_of_ok hcall']
  rw [hentered, hentered', hparted.enteredNodes_eq]

/-- **Sessions that have not parted yet part at a dead end.** -/
theorem Matches.exists_parted (h : Matches Eq (s.under .abort) r)
    (hcomplete : s.settings.deadEnd = .complete) (hmeets : s.MeetsDeadEnd c reason)
    (now now' : String) :
    ∃ out out', s.call now c = .ok out ∧ r.call now' c = .ok out' ∧ Parted reason out out' ∧
      r.enteredBy now' c = s.enteredBy now c := by
  obtain ⟨flow, p, origin, counted, houtset⟩ := exists_outset hmeets now
  obtain ⟨out, out', hcall, hcall', hparted⟩ := houtset.exists_parted hcomplete hmeets
  have hlike : c.Like Eq c := Call.Like.refl (fun _ => rfl) c
  obtain ⟨hresult, hnext⟩ := h.perform routesLike_of_eq hlike now now'
  rw [perform_of_ok hcall'] at hresult hnext
  exact ⟨out, _, hcall, call_of_perform hresult, hparted.of_replica hnext.replica_of_eq,
    (h.enteredBy_eq now now' c).trans (enteredBy_under hcomplete hmeets now)⟩

/-! ### Aborts where dead ends complete -/

/-- **A session that completes at dead ends is aborted only by being stopped.** -/
theorem stops_of_abortReason {settings : Settings} (hcomplete : settings.deadEnd = .complete)
    (id : SessionId) (calls : List (String × Call)) :
    let s := ((Session.new settings id).performAll calls).1
    s.settings = settings ∧ ∀ reason, s.abortReason = some reason → reason.Stops := by
  refine passes_induction (P := fun s => s.settings = settings ∧
    ∀ reason, s.abortReason = some reason → reason.Stops) ⟨rfl, by simp [Session.new]⟩
    (fun s h => ⟨h.1, by simp [Session.reset]⟩) ?_ calls
  rintro s now flow c p origin counted hopening ⟨hsettings, hbefore⟩
  obtain ⟨-, -, hkept, -⟩ := hopening.spec
  obtain ⟨r, hleads, hmoved⟩ := hopening.exists_route
  refine ⟨hopening.spec_pass.2.trans hsettings, fun reason hreason => ?_⟩
  rw [hmoved, Progress.travel_eq hleads rfl] at hreason
  rcases Progress.reason_of_close hreason with hclosing | hleft
  · rw [hkept, hsettings, hcomplete] at hclosing
    rcases Ending.closing_eq_aborted_iff.mp hclosing with hstopped | ⟨habort, -⟩
    · exact Flow.Leads.stops (hstopped ▸ hleads)
    · simp at habort
  · cases hopening with
    | start idle => simp [begun_eq, Progress.along] at hleft
    | answer waits loaded stands known asks =>
      rw [answered_eq] at hleft
      exact hbefore reason hleft

/-- What calls return is what the first of them return, and then the others. -/
theorem returned_append (results results' : List (Except Refusal (List Event))) :
    returned (results ++ results') = returned results ++ returned results' :=
  List.flatMap_append

/-- **No other abort is shown.** -/
theorem stops_of_mem_returned {settings : Settings} (hcomplete : settings.deadEnd = .complete)
    (id : SessionId) {calls : List (String × Call)}
    (h : .aborted reason ∈ returned ((Session.new settings id).performAll calls).2) :
    reason.Stops := by
  induction calls using List.reverseRecOn with
  | nil => simp [performAll, returned] at h
  | append_singleton before entry ih =>
    have hlast := stops_of_abortReason hcomplete id (before ++ [entry])
    rw [performAll_append, returned_append] at h
    rw [performAll_append] at hlast
    rcases List.mem_append.mp h with hearlier | hnow
    · exact ih hearlier
    · generalize ((Session.new settings id).performAll before).1 = t at hnow hlast
      simp only [performAll, returned, List.flatMap_singleton] at hnow hlast
      rcases hcall : t.call entry.1 entry.2 with refusal | out
      · simp [perform_of_refused hcall, Except.toOption] at hnow
      · rw [perform_of_ok hcall] at hnow hlast
        exact hlast.2 reason ((turn_of_call hcall).closedBy_of_mem hnow (by simp)).2

/-- **The dead-end policy changes nothing but the ending at a dead end.** Let the same calls,
be it at different times, be made to two new sessions, with settings that differ in the
policy alone. As long as none of the calls meets a dead end, both get the same, and the one
becomes a replica of the other but for this setting. A call that then meets a dead end enters
the same nodes and shows the same messages in both; after that the one session completes
early, and the other is aborted for the reason that was found. A session that completes at
dead ends is aborted for no other reason than that its passes are stopped. -/
theorem policies_part_at_dead_ends (settings : Settings) (id id' : SessionId)
    {calls calls' : List (String × Call)} (hsame : calls.map (·.2) = calls'.map (·.2)) :
    let new := Session.new (settings.under .complete) id
    let new' := Session.new (settings.under .abort) id'
    let s := (new.performAll calls).1
    let r := (new'.performAll calls').1
    (new.Smooth calls →
      (new'.performAll calls').2 = (new.performAll calls).2 ∧ Replica (s.under .abort) r ∧
        ∀ c reason, s.MeetsDeadEnd c reason → ∀ now now',
          ∃ out out', s.call now c = .ok out ∧ r.call now' c = .ok out' ∧
            Parted reason out out' ∧ r.enteredBy now' c = s.enteredBy now c) ∧
      ∀ reason, .aborted reason ∈ returned (new.performAll calls).2 ∨ s.abortReason = some reason →
        reason.Stops := by
  intro new new' s r
  have hcomplete : (settings.under .complete).deadEnd = .complete := rfl
  obtain ⟨hkept, hreasons⟩ := stops_of_abortReason hcomplete id calls
  refine ⟨fun hsmooth => ?_, ?_⟩
  · have hnew : Matches Eq (new.under .abort) new' := matches_new Eq (settings.under .abort) id id'
    obtain ⟨hresults, hmatches⟩ := hnew.performAll routesLike_of_eq (like_of_eq hsame)
    rw [hsmooth.performAll_under .abort] at hresults hmatches
    have hpolicy : s.settings.deadEnd = .complete := congrArg Settings.deadEnd hkept
    exact ⟨hresults, hmatches.replica_of_eq, fun c reason hmeets now now' =>
      hmatches.exists_parted hpolicy hmeets now now'⟩
  · rintro reason (hshown | hreason)
    · exact stops_of_mem_returned hcomplete id hshown
    · exact hreasons reason hreason

/-- The answer for which `Dialogue.Flow.oneSided` has no edge. Both sessions show the
message before the condition; then they part. -/
theorem policies_part_at_dead_ends_oneSided :
    let s := ((Session.new ((default : Settings).under .complete) default).performAll
      [("0", .start .oneSided)]).1
    let r := ((Session.new ((default : Settings).under .abort) default).performAll
      [("1", .start .oneSided)]).1
    ∃ out out', s.call "2" (.submit "no") = .ok out ∧ r.call "3" (.submit "no") = .ok out' ∧
      out.2 = [.message "noted" "Noted",
        .completed (StringMap.empty.insert "go" "no") true none] ∧
      out'.2 = [.message "noted" "Noted", .aborted (.noEdge "check" (some "false"))] ∧
      Parted (.noEdge "check" (some "false")) out out' ∧
      s.enteredBy "2" (.submit "no") = ["noted", "check"] ∧
      r.enteredBy "3" (.submit "no") = ["noted", "check"] := by
  intro s r
  have hsame : [("0", Call.start .oneSided)].map (·.2) = [("1", .start .oneSided)].map (·.2) := rfl
  have hstart : (Session.new ((default : Settings).under .complete) default).findings
      (.start .oneSided) = [.ok (.next ⟨"ask", .question ⟨"Go on?", [], "go", .empty⟩⟩
        ⟨"first", "start", "ask", none⟩)] := by
    decide
  have hsmooth : (Session.new ((default : Settings).under .complete) default).Smooth
      [("0", .start .oneSided)] :=
    ⟨fun reason hmeets => by simp [MeetsDeadEnd, hstart] at hmeets, trivial⟩
  have hmeets : s.MeetsDeadEnd (.submit "no") (.noEdge "check" (some "false")) := by
    unfold MeetsDeadEnd
    decide
  obtain ⟨hsplit, -⟩ := policies_part_at_dead_ends default default default hsame
  obtain ⟨out, out', hcall, hcall', hparted, hentered⟩ :=
    (hsplit hsmooth).2.2 _ _ hmeets "2" "3"
  have hnodes : s.enteredBy "2" (.submit "no") = ["noted", "check"] := by decide
  refine ⟨out, out', hcall, hcall', ?_, ?_, hparted, hnodes, hentered.trans hnodes⟩
  · obtain rfl := Except.ok.inj hcall
    rfl
  · obtain rfl := Except.ok.inj hcall'
    rfl

end Session

end Dialogue
