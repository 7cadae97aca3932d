import Dialogue.Proofs.Session.Turn

/-!
# Sessions that differ only in what they note

What a session does is not decided by its trace, nor by whether it keeps one, nor by
its observer. Two sessions that differ in nothing else are twins
(`Dialogue.Session.Twins`). Whatever call is made to both, it is refused by both or by
neither, shows the same events, and leaves twins; and if both keep a trace, it adds the
same steps to both (`Dialogue.Session.Twins.perform`).
-/

namespace Dialogue

/-- The steps of a trace that a call keeps if it is not refused. A new run begins a new
trace, and a reset leaves an empty one. -/
def Call.keptSteps : Call → List TraceEvent → List TraceEvent
  | .submit _, steps | .select _, steps => steps
  | .start _, _ | .reset, _ | .restart, _ => []

/-- The steps of a trace that a call keeps, given what the caller gets for it. -/
def Call.keptAfter (c : Call) (result : Except Refusal (List Event)) (steps : List TraceEvent) :
    List TraceEvent :=
  match result with
  | .ok _ => c.keptSteps steps
  | .error _ => steps

namespace Session

/-- A session with another trace, which is kept or not, and another observer. -/
def relogged (s : Session) (keep : Bool) (trace : Trace) (observed : Option (List Event)) :
    Session :=
  { s with settings.recordTrace := keep, trace := trace, observed := observed }

/-- **Twins** are sessions that differ only in what they note, and for whom. -/
def Twins (s s' : Session) : Prop :=
  ∃ keep trace observed, s' = s.relogged keep trace observed

theorem Twins.refl (s : Session) : Twins s s :=
  ⟨s.settings.recordTrace, s.trace, s.observed, rfl⟩

/-- **Two outcomes of twins are the same**: the sessions are twins again, the events
shown are the same, and so are the steps that are noted after those that were `kept`. -/
structure SameStep (s s' : Session) (kept kept' : List TraceEvent)
    (out out' : Session × List Event) : Prop where
  twins : Twins out.1 out'.1
  events : out'.2 = out.2
  settings : out.1.settings = s.settings
  settings' : out'.1.settings = s'.settings
  notes : ∃ steps : List TraceEvent,
    out.1.trace.events = kept ++ s.settings.recorded steps ∧
      out'.1.trace.events = kept' ++ s'.settings.recorded steps

variable {s s' : Session} {p p' : Progress} {now : String} {flow : Flow} {c : Call}
  {origin : Node} {counted : Bool} {kept kept' : List TraceEvent}

/-- What is the same up to a point and from there on is the same throughout. -/
theorem SameStep.trans {out out' : Session × List Event}
    (h : SameStep s s' kept kept' (ofProgress p) (ofProgress p'))
    (h' : SameStep p.session p'.session p.session.trace.events p'.session.trace.events out out') :
    SameStep s s' kept kept' out out' := by
  have hsettings : p.session.settings = s.settings := h.settings
  have hsettings' : p'.session.settings = s'.settings := h.settings'
  obtain ⟨steps, hsteps, hsteps'⟩ := h.notes
  obtain ⟨more, hmore, hmore'⟩ := h'.notes
  refine ⟨h'.twins, h'.events, h'.settings.trans hsettings, h'.settings'.trans hsettings',
    steps ++ more, ?_, ?_⟩
  · rw [hmore, hsettings, Settings.recorded_append, ← List.append_assoc, ← hsteps]
    rfl
  · rw [hmore', hsettings', Settings.recorded_append, ← List.append_assoc, ← hsteps']
    rfl

theorem Twins.closed (h : Twins s s') (now : String) (e : Event) :
    Twins (s.closed now e) (s'.closed now e) := by
  obtain ⟨keep, trace, observed, rfl⟩ := h
  cases e <;> exact ⟨keep, _, observed, rfl⟩

/-- **Twins travel alike** along a route. -/
theorem sameStep_travel {limit : Nat} {r : Route}
    (h : flow.Leads p.session.store limit origin r.transit r.ending) (now : String) (keep : Bool)
    (trace : Trace) (observed : Option (List Event)) :
    let p' : Progress := ⟨p.session.relogged keep trace observed, p.events⟩
    SameStep p.session p'.session p.session.trace.events p'.session.trace.events
      (ofProgress (p.travel now flow origin r.transit r.ending))
      (ofProgress (p'.travel now flow origin r.transit r.ending)) := by
  intro p'
  have hstore : p'.session.store = p.session.store := rfl
  have htravel := Progress.travel_eq h rfl now
  have htravel' := Progress.travel_eq h hstore now
  refine ⟨?_, ?_, ?_, ?_, _, Progress.traceEvents_travel h rfl now,
    Progress.traceEvents_travel h hstore now⟩
  · rw [htravel, htravel']
    exact Twins.closed ⟨keep, _, _, rfl⟩ now _
  · rw [htravel, htravel']
    rfl
  · rw [htravel]
    exact settings_closed
  · rw [htravel']
    exact settings_closed

/-- **Twins pass alike.** -/
theorem Twins.sameStep_pass (h : Twins p.session p'.session) (hevents : p'.events = p.events)
    (hknown : flow.node? origin.id = some origin) :
    SameStep p.session p'.session p.session.trace.events p'.session.trace.events
      (ofProgress (p.pass now flow origin.id (origin.seeds counted)))
      (ofProgress (p'.pass now flow origin.id (origin.seeds counted))) := by
  obtain ⟨keep, trace, observed, hs'⟩ := h
  obtain rfl : p' = ⟨p.session.relogged keep trace observed, p.events⟩ := by
    rw [← hs', ← hevents]
  have hmoved := fun p : Progress => Progress.advance_eq_travel hknown now
    (origin.seeds counted) p.session.settings.maxAutoSteps p
  rw [Progress.pass, hmoved, Progress.pass, hmoved]
  exact sameStep_travel (flow.leads_route ..) now keep trace observed

/-! ### Calls to twins -/

/-- **A call has the same outcome for twins**: it is refused by both for the same reason,
or it does the same to both. -/
inductive SameOutcome (s s' : Session) (c : Call) : Outcome → Outcome → Prop
  | refused (refusal : Refusal) : SameOutcome s s' c (.error refusal) (.error refusal)
  | done {out out' : Session × List Event}
      (same : SameStep s s' (c.keptSteps s.trace.events) (c.keptSteps s'.trace.events) out out') :
      SameOutcome s s' c (.ok out) (.ok out')

/-- Twins begin a run alike. -/
theorem Twins.sameStep_begun (h : Twins s s') (now : String) (flow : Flow) :
    SameStep s s' [] [] (ofProgress (s.begun now flow)) (ofProgress (s'.begun now flow)) := by
  obtain ⟨keep, trace, observed, rfl⟩ := h
  rw [begun_eq, begun_eq]
  exact ⟨⟨keep, _, observed, rfl⟩, rfl, rfl, rfl, _, Settings.events_noted ..,
    Settings.events_noted ..⟩

/-- Twins store an answer alike. -/
theorem Twins.sameStep_answered (h : Twins s s') (node : String) (q : Question) (value : String) :
    SameStep s s' s.trace.events s'.trace.events (ofProgress (s.answered node q value))
      (ofProgress (s'.answered node q value)) := by
  obtain ⟨keep, trace, observed, rfl⟩ := h
  rw [answered_eq, answered_eq]
  exact ⟨⟨keep, _, observed, rfl⟩, rfl, rfl, rfl, _, Settings.events_noted ..,
    Settings.events_noted ..⟩

/-- Twins abort alike. -/
theorem Twins.sameStep_abort (h : Twins s s') (now : String) (reason : Abort) :
    SameStep s s' s.trace.events s'.trace.events
      (ofProgress ((Progress.mk s []).abort now reason))
      (ofProgress ((Progress.mk s' []).abort now reason)) := by
  obtain ⟨keep, trace, observed, rfl⟩ := h
  rw [Progress.abort_eq, Progress.abort_eq]
  exact ⟨⟨keep, _, _, rfl⟩, rfl, rfl, rfl, _, Settings.events_noted .., Settings.events_noted ..⟩

/-- A pass that twins open alike they also make alike. -/
theorem SameStep.pass (h : SameStep s s' kept kept' (ofProgress p) (ofProgress p'))
    (hknown : flow.node? origin.id = some origin) (now : String) (counted : Bool) :
    SameStep s s' kept kept'
      (ofProgress (p.pass now flow origin.id (origin.seeds counted)))
      (ofProgress (p'.pass now flow origin.id (origin.seeds counted))) :=
  h.trans (Twins.sameStep_pass h.twins h.events hknown)

/-- An answer keeps the steps of the trace. -/
theorem keptSteps_of_answers (h : c.Answers) (steps : List TraceEvent) :
    c.keptSteps steps = steps := by
  cases c with
  | submit | select => rfl
  | _ => exact h.elim

/-- **Every call has the same outcome for twins**: it comes to the same plan for both. -/
theorem Twins.call (h : Twins s s') (now : String) (c : Call) :
    SameOutcome s s' c (s.call now c) (s'.call now c) := by
  have hplan : s'.plan c = s.plan c := by
    obtain ⟨keep, trace, observed, rfl⟩ := h
    exact plan_congr rfl rfl rfl c
  have hbegin : ∀ flow, SameStep s s' [] [] (ofProgress _) (ofProgress _) :=
    fun flow => (h.sameStep_begun now flow).pass flow.node?_start now true
  rw [call_eq_carryOut, call_eq_carryOut, hplan]
  have hplanned := s.planned c
  generalize s.plan c = plan at hplanned
  cases hplanned with
  | refuse c refusal => exact SameOutcome.refused refusal
  | forget =>
    obtain ⟨keep, trace, observed, rfl⟩ := h
    have hnone : ∀ settings : Settings, [] = [] ++ settings.recorded [] := by
      simp [Settings.recorded]
    exact SameOutcome.done ⟨⟨keep, _, observed, rfl⟩, rfl, rfl, rfl, [], hnone _, hnone _⟩
  | start idle => exact SameOutcome.done (hbegin _)
  | restart loaded => exact SameOutcome.done (hbegin _)
  | answer place gives =>
    have hkept := keptSteps_of_answers (Call.answers_of_answerTo? gives)
    refine SameOutcome.done ?_
    rw [hkept, hkept]
    exact (h.sameStep_answered _ _ _).pass place.known now false
  | giveUp answers lost =>
    have hkept := keptSteps_of_answers answers
    refine SameOutcome.done ?_
    rw [hkept, hkept]
    exact h.sameStep_abort now _

/-- **Whatever is called, twins get the same, stay twins and note the same.** -/
theorem Twins.perform (h : Twins s s') (now : String) (c : Call) :
    (s'.perform now c).2 = (s.perform now c).2 ∧
      Twins (s.perform now c).1 (s'.perform now c).1 ∧
      (s.perform now c).1.settings = s.settings ∧
      ∃ added : List TraceEvent,
        (s.perform now c).1.trace.events =
          c.keptAfter (s.perform now c).2 s.trace.events ++ s.settings.recorded added ∧
        (s'.perform now c).1.trace.events =
          c.keptAfter (s.perform now c).2 s'.trace.events ++ s'.settings.recorded added := by
  have hcall := h.call now c
  unfold Session.perform
  generalize s.call now c = o at hcall
  generalize s'.call now c = o' at hcall
  cases hcall with
  | refused refusal =>
    have hnone : ∀ (settings : Settings) (steps : List TraceEvent),
        steps = steps ++ settings.recorded [] := by
      simp [Settings.recorded]
    exact ⟨rfl, h, rfl, [], hnone _ _, hnone _ _⟩
  | done same =>
    obtain ⟨steps, hsteps, hsteps'⟩ := same.notes
    exact ⟨congrArg Except.ok same.events, same.twins, same.settings, steps, hsteps, hsteps'⟩

/-- Calls leave the settings as they are. -/
theorem settings_performAll (s : Session) (calls : List (String × Call)) :
    (s.performAll calls).1.settings = s.settings := by
  induction calls generalizing s with
  | nil => rfl
  | cons entry rest ih =>
    exact (ih _).trans ((Twins.refl s).perform entry.1 entry.2).2.2.1

/-- **After all calls twins have got the same, and are still twins.** -/
theorem Twins.performAll (h : Twins s s') (calls : List (String × Call)) :
    (s'.performAll calls).2 = (s.performAll calls).2 ∧
      Twins (s.performAll calls).1 (s'.performAll calls).1 := by
  induction calls generalizing s s' with
  | nil => exact ⟨rfl, h⟩
  | cons entry rest ih =>
    obtain ⟨hresult, htwins, -⟩ := h.perform entry.1 entry.2
    obtain ⟨hresults, hlast⟩ := ih htwins
    exact ⟨List.cons_eq_cons.mpr ⟨hresult, hresults⟩, hlast⟩

/-- **Two sessions look alike** to a caller that does not ask for the trace. -/
structure Alike (s s' : Session) : Prop where
  id : s'.id = s.id
  flow : s'.flow = s.flow
  state : s'.state = s.state
  cursor : s'.cursor = s.cursor
  store : s'.store = s.store
  endedEarly : s'.endedEarly = s.endedEarly
  abortReason : s'.abortReason = s.abortReason

end Session

end Dialogue
