import Dialogue.Proofs.Session.Afresh
import Dialogue.Proofs.Session.Answers
import Dialogue.Proofs.Session.Blanks
import Dialogue.Proofs.Session.Order

/-!
# What is recorded changes nothing

A session may keep a trace of its steps and a history of its answers. Both are written and
never read: if all records are taken away from a session (`Dialogue.Session.unrecorded`),
what is left does the same as before, and becomes what the session becomes but for its
records (`Dialogue.Session.perform_unrecorded`). So sessions whose settings differ in nothing
but what they ask to record leave, without records, one and the same session, and cannot be
told apart by their users (`Dialogue.Session.performAll_recording`).

The one place where records and the course of a session come close is the store, which holds
the history beside the values. A pass reads the values alone, which is what
`Dialogue.Flow.route_congr` says.
-/

namespace Dialogue

/-- The settings, with other choices of what to record. -/
def Settings.recording (trace history : Bool) (s : Settings) : Settings :=
  { s with recordTrace := trace, recordHistory := history }

/-- A store without its history. -/
def Store.unrecorded (s : Store) : Store :=
  { s with history := none }

/-- A trace without its steps. The times stay. -/
def Trace.unrecorded (t : Trace) : Trace :=
  { t with entries := [] }

/-- **A session without its records**, which does not ask to record any. -/
def Session.unrecorded (s : Session) : Session :=
  { s with
    settings := s.settings.recording false false
    store := s.store.unrecorded
    trace := s.trace.unrecorded }

/-- A session in the course of a call, without its records. -/
def Progress.unrecorded (p : Progress) : Progress :=
  { p with session := p.session.unrecorded }

/-! ### Records are not read -/

/-- Rules read a store the same without its history. -/
theorem Store.readsLike_unrecorded (rules : List Rule) (s : Store) :
    s.ReadsLike rules s.unrecorded :=
  fun _ _ => rfl

/-- The history takes no part in what a variable holds. -/
theorem Store.unrecorded_set (s : Store) (name value node : String) :
    (s.set name value node).unrecorded = s.unrecorded.set name value node :=
  rfl

/-- A new store holds nothing but an empty history. -/
theorem Settings.unrecorded_newStore (s : Settings) (trace : Bool) :
    (s.recording trace false).newStore = s.newStore.unrecorded := by
  have hkept : s.newStore.unrecorded = .empty := by
    unfold newStore
    split <;> rfl
  rw [hkept]
  rfl

/-- Steps that are noted leave the rest of a trace as it is. -/
theorem Trace.unrecorded_extend (t : Trace) (steps : List TraceEvent) :
    (t.extend steps).unrecorded = t.unrecorded := by
  induction steps generalizing t with
  | nil => rfl
  | cons step rest ih => exact ih (t.push step)

theorem Settings.unrecorded_noted (s : Settings) (t : Trace) (steps : List TraceEvent) :
    (s.noted t steps).unrecorded = t.unrecorded := by
  unfold noted
  split
  · exact t.unrecorded_extend steps
  · rfl

/-- The event that closes a pass shows the values alone. -/
theorem Ending.closing_unrecorded (ending : Ending) (policy : DeadEndPolicy) (store : Store) :
    ending.closing policy store.unrecorded = ending.closing policy store := by
  cases ending <;> rfl

/-- An event closes a session in the same way without its records. -/
theorem Session.closed_unrecorded (s : Session) (now : String) (e : Event) :
    s.unrecorded.closed now e = (s.closed now e).unrecorded := by
  cases e <;> rfl

namespace Progress

variable (p : Progress) (now : String)

/-- A session moves along a route in the same way without its records. -/
theorem along_unrecorded (flow : Flow) (origin : Node) (transit : List Node) (ending : Ending) :
    p.unrecorded.along flow origin transit ending =
      (p.along flow origin transit ending).unrecorded := by
  simp only [along, unrecorded, Session.unrecorded, Settings.unrecorded_noted]
  rfl

theorem close_unrecorded (e : Event) :
    p.unrecorded.close now e = (p.close now e).unrecorded := by
  simp only [close, unrecorded, ← Session.closed_unrecorded]
  simp only [Session.unrecorded, Settings.unrecorded_noted]
  rfl

/-- **A session passes in the same way without its records.** -/
theorem pass_unrecorded {flow : Flow} {origin : Node}
    (hknown : flow.node? origin.id = some origin) (entered : List String) :
    p.unrecorded.pass now flow origin.id entered =
      (p.pass now flow origin.id entered).unrecorded := by
  have hsettings : p.unrecorded.session.settings.maxAutoSteps = p.session.settings.maxAutoSteps :=
    rfl
  have hpolicy : p.unrecorded.session.settings.deadEnd = p.session.settings.deadEnd := rfl
  have hstore : p.unrecorded.session.store = p.session.store.unrecorded := rfl
  have hroute := Flow.route_congr (p.session.store.readsLike_unrecorded flow.rules) hknown
    p.session.settings.maxAutoSteps entered p.session.settings.maxAutoSteps
  have hleads := flow.leads_route p.session.store p.session.settings.maxAutoSteps origin entered
    p.session.settings.maxAutoSteps
  have hleads' := flow.leads_route p.session.store.unrecorded p.session.settings.maxAutoSteps
    origin entered p.session.settings.maxAutoSteps
  -- one route, so one ending: only what is shown of the store is left to compare
  rw [hroute] at hleads'
  rw [pass, pass, advance_eq_travel hknown, advance_eq_travel hknown, hsettings, hstore, hroute,
    travel_eq hleads rfl, travel_eq hleads' hstore, along_unrecorded, close_unrecorded, hpolicy,
    hstore, Ending.closing_unrecorded]

end Progress

namespace Session

variable {s r : Session} {settings : Settings}

/-! ### Calls without records -/

/-- What a call comes to does not depend on the records. -/
theorem plan_unrecorded (s : Session) (c : Call) : s.unrecorded.plan c = s.plan c :=
  plan_congr rfl rfl rfl c

theorem begun_unrecorded (s : Session) (now : String) (flow : Flow) :
    s.unrecorded.begun now flow = (s.begun now flow).unrecorded := by
  rw [begun_eq, begun_eq]
  simp only [Progress.unrecorded, unrecorded, Settings.unrecorded_noted,
    ← Settings.unrecorded_newStore s.settings false]
  rfl

theorem answered_unrecorded (s : Session) (node : String) (q : Question) (value : String) :
    s.unrecorded.answered node q value = (s.answered node q value).unrecorded := by
  rw [answered_eq, answered_eq]
  simp only [Progress.unrecorded, unrecorded, Settings.unrecorded_noted, Store.unrecorded_set]
  rfl

theorem reset_unrecorded (s : Session) : s.unrecorded.reset = s.reset.unrecorded := by
  simp only [reset, unrecorded, ← Settings.unrecorded_newStore s.settings false]
  rfl

/-- **A call does the same without the records**, whether it is refused or not. -/
theorem perform_unrecorded (s : Session) (now : String) (c : Call) :
    s.unrecorded.perform now c = ((s.perform now c).1.unrecorded, (s.perform now c).2) := by
  have hdone : ∀ {plan : Plan} {out : Session × List Event}, plan.carryOut s now = .ok out →
      plan.carryOut s.unrecorded now = .ok (out.1.unrecorded, out.2) → s.plan c = plan →
      s.unrecorded.perform now c = ((s.perform now c).1.unrecorded, (s.perform now c).2) := by
    rintro plan out hout hout' rfl
    rw [← call_eq_carryOut] at hout
    rw [← plan_unrecorded, ← call_eq_carryOut] at hout'
    rw [perform_of_ok hout, perform_of_ok hout']
  have hplanned := s.planned c
  generalize hplan : s.plan c = plan at hplanned
  cases hplanned with
  | refuse c refusal =>
    simp only [perform, call_eq_carryOut, plan_unrecorded, hplan, Plan.carryOut]
  | forget => exact hdone rfl (by rw [Plan.carryOut, reset_unrecorded]) hplan
  | start | restart =>
    refine hdone rfl ?_ hplan
    rw [Plan.carryOut, begun_unrecorded, Progress.pass_unrecorded _ _ (Flow.node?_start _)]
    rfl
  | answer place gives =>
    refine hdone rfl ?_ hplan
    rw [Plan.carryOut, answered_unrecorded, Progress.pass_unrecorded _ _ place.known]
    rfl
  | giveUp answers lost =>
    refine hdone rfl ?_ hplan
    have hopen : Progress.mk s.unrecorded [] = (Progress.mk s []).unrecorded := rfl
    rw [Plan.carryOut, hopen, Progress.abort_eq, Progress.close_unrecorded, ← Progress.abort_eq]
    rfl

/-- **And so do all calls.** -/
theorem performAll_unrecorded (s : Session) (calls : List (String × Call)) :
    s.unrecorded.performAll calls =
      ((s.performAll calls).1.unrecorded, (s.performAll calls).2) := by
  induction calls generalizing s with
  | nil => rfl
  | cons entry rest ih => simp only [performAll, perform_unrecorded, ih]

theorem new_unrecorded (settings : Settings) (id : SessionId) :
    (Session.new settings id).unrecorded = Session.new (settings.recording false false) id := by
  simp only [Session.new, unrecorded, ← Settings.unrecorded_newStore settings false]
  rfl

/-! ### Nothing is recorded unasked -/

/-- **A session keeps no records but those that the settings ask for.** -/
structure Discreet (settings : Settings) (s : Session) : Prop where
  steps : settings.recordTrace = false → s.trace.entries = []
  writes : settings.recordHistory = false → s.store.history = none

/-- A call takes up no step where no trace is kept. -/
theorem traceEvents_perform (hoff : s.settings.recordTrace = false) (hnone : s.trace.events = [])
    (now : String) (c : Call) : (s.perform now c).1.trace.events = [] := by
  obtain ⟨-, -, -, added, hadded, -⟩ := (Twins.refl s).perform now c
  have hkept : c.keptAfter (s.perform now c).2 [] = [] := by
    unfold Call.keptAfter
    split
    · cases c <;> rfl
    · rfl
  have hadds : s.settings.recorded added = [] := if_neg (by simp [hoff])
  rw [hadded, hnone, hkept, hadds, List.nil_append]

/-- **Calls to a new session record nothing unasked.** -/
theorem discreet_performAll (settings : Settings) (id : SessionId)
    (calls : List (String × Call)) :
    Discreet settings ((Session.new settings id).performAll calls).1 := by
  constructor
  · intro hoff
    have hnone : ((Session.new settings id).performAll calls).1.settings.recordTrace = false ∧
        ((Session.new settings id).performAll calls).1.trace.events = [] := by
      refine performAll_induction
        (P := fun s => s.settings.recordTrace = false ∧ s.trace.events = []) ?_ ⟨hoff, rfl⟩ calls
      rintro s now c ⟨hkept, hnone⟩
      have hsettings := ((Twins.refl s).perform now c).2.2.1
      exact ⟨hsettings ▸ hkept, traceEvents_perform hkept hnone now c⟩
    exact List.map_eq_nil_iff.mp hnone.2
  · intro hoff
    have hsettings : ((Session.new settings id).performAll calls).1.settings = settings :=
      settings_performAll _ calls
    have hstores := (stores_nil (s := Session.new settings id) rfl).performAll calls
    rw [hstores.history, hsettings, if_neg (by simp [hoff])]

/-! ### Sessions that record differently -/

/-- **Two sessions are the same but for their records**, their ids and their times. -/
structure SameCourse (s r : Session) : Prop where
  flow : r.flow = s.flow
  state : r.state = s.state
  cursor : r.cursor = s.cursor
  values : r.store.values = s.store.values
  abortReason : r.abortReason = s.abortReason
  endedEarly : r.endedEarly = s.endedEarly
  started : r.trace.startedAt.isSome = s.trace.startedAt.isSome
  finished : r.trace.finishedAt.isSome = s.trace.finishedAt.isSome

/-- Sessions at rest that match without their records are the same but for these. -/
theorem Matches.sameCourse (h : Matches Eq s.unrecorded r.unrecorded) (hs : Rests s)
    (hr : Rests r) : SameCourse s r := by
  have hreplica := h.replica_of_eq
  have hstate : r.state = s.state := hreplica.state
  have hvalues : r.unrecorded.store.values = s.unrecorded.store.values :=
    congrArg Store.values hreplica.store
  refine
    { flow := hreplica.flow
      state := hstate
      cursor := hreplica.cursor
      values := hvalues
      abortReason := hreplica.abortReason
      endedEarly := hreplica.endedEarly
      started := ?_
      finished := ?_ }
  -- the times themselves may differ, but the state tells whether there are any
  · rw [Bool.eq_iff_iff, hs.coherent.startedAt_iff, hr.coherent.startedAt_iff, hstate]
  · rw [Bool.eq_iff_iff, hs.coherent.finishedAt_iff, hr.coherent.finishedAt_iff, hstate]

/-- **Recording never changes what a session does.** Let the same calls, be it at different
times, be made to two new sessions, whose settings differ in what they ask to record at most.
Both get the same for each call, and after each call they are the same but for their records.
Neither keeps a step or a write that its settings do not ask for. -/
theorem performAll_recording (settings : Settings) (trace history : Bool) (id id' : SessionId)
    {calls calls' : List (String × Call)} (hsame : calls.map (·.2) = calls'.map (·.2)) :
    let settings' := settings.recording trace history
    let s k := ((Session.new settings id).performAll (calls.take k)).1
    let r k := ((Session.new settings' id').performAll (calls'.take k)).1
    ((Session.new settings' id').performAll calls').2 =
        ((Session.new settings id).performAll calls).2 ∧
      ∀ k, SameCourse (s k) (r k) ∧ Discreet settings (s k) ∧ Discreet settings' (r k) := by
  intro settings' s r
  have hnew : Matches Eq (Session.new settings id).unrecorded
      (Session.new settings' id').unrecorded := by
    rw [new_unrecorded, new_unrecorded]
    exact matches_new Eq (settings.recording false false) id id'
  -- for any two lists of calls, because the first calls of each are taken below
  have hruns : ∀ {calls calls' : List (String × Call)}, calls.map (·.2) = calls'.map (·.2) →
      ((Session.new settings' id').performAll calls').2 =
          ((Session.new settings id).performAll calls).2 ∧
        Matches Eq ((Session.new settings id).performAll calls).1.unrecorded
          ((Session.new settings' id').performAll calls').1.unrecorded := by
    intro calls calls' hsame
    have hmatches := hnew.performAll routesLike_of_eq (like_of_eq hsame)
    rwa [performAll_unrecorded, performAll_unrecorded] at hmatches
  refine ⟨(hruns hsame).1, fun k => ?_⟩
  have htake : (calls.take k).map (·.2) = (calls'.take k).map (·.2) := by
    rw [List.map_take, hsame, List.map_take]
  exact ⟨(hruns htake).2.sameCourse (rests_performAll ..) (rests_performAll ..),
    discreet_performAll .., discreet_performAll ..⟩

/-- `Dialogue.Flow.gated` is run to its end twice, once with all records and once with none. -/
theorem performAll_recording_gated :
    let settings := (default : Settings).recording true true
    let calls : List (String × Call) :=
      [("1", .start .gated), ("2", .submit "yes"), ("3", .submit "Ada")]
    let calls' : List (String × Call) :=
      [("4", .start .gated), ("5", .submit "yes"), ("6", .submit "Ada")]
    let full := (Session.new settings default).performAll calls
    let bare := (Session.new (settings.recording false false) default).performAll calls'
    full.1.state = .completed ∧ full.1.trace.entries ≠ [] ∧
      full.1.store.history.isSome = true ∧ bare.2 = full.2 ∧ SameCourse full.1 bare.1 ∧
      Discreet (settings.recording false false) bare.1 := by
  intro settings calls calls' full bare
  have hsame : calls.map (·.2) = calls'.map (·.2) := rfl
  obtain ⟨hresults, hafter⟩ := performAll_recording settings false false default default hsame
  obtain ⟨hcourse, -, hdiscreet⟩ := hafter 3
  have hcalls : calls.take 3 = calls := rfl
  have hcalls' : calls'.take 3 = calls' := rfl
  simp only [hcalls, hcalls'] at hcourse hdiscreet
  exact ⟨by decide, by decide, by decide, hresults, hcourse, hdiscreet⟩

end Session

end Dialogue
