import Dialogue.Proofs.Session.Matching
import Dialogue.Proofs.Session.Coherence
import Dialogue.Session.Snapshot

/-!
# Beginning afresh

A reset leaves nothing of the run before it, and a run that begins leaves nothing of what
was there either. So a session that is reset and started, or started again at once, becomes
a replica of a new session that is started on the same flow, with the same settings, and
does the same from then on (`Dialogue.Session.reset_restart_afresh`). This holds of every
session in whatever state it is, however it was made.
-/

namespace Dialogue

namespace Session

/-- **Nothing is left of a run**: the session is idle, stands nowhere, and stores and notes
nothing. -/
structure Blank (s : Session) : Prop where
  state : s.state = .idle
  cursor : s.cursor = none
  store : s.store = s.settings.newStore
  values : s.store.values = .empty
  entries : s.trace.entries = []
  reason : s.abortReason = none
  early : s.endedEarly = false

/-- **Two sessions do the same** from now on: whatever is called, they get the same, and one
is a replica of the other afterwards. The times of the calls may differ. -/
def DoSame (s r : Session) : Prop :=
  ∀ later later' : List (String × Call), later.map (·.2) = later'.map (·.2) →
    (r.performAll later').2 = (s.performAll later).2 ∧
      Replica (s.performAll later).1 (r.performAll later').1

/-- **A call begins a run as in a new session** with the same settings: it shows the same, and
both sessions do the same from then on. -/
def BeginsAfresh (s : Session) (c : Call) (flow : Flow) : Prop :=
  ∀ (id : SessionId) (now now' : String), ∃ s' r events, s.call now c = .ok (s', events) ∧
    (Session.new s.settings id).call now' (.start flow) = .ok (r, events) ∧
    Replica s' r ∧ DoSame s' r

variable {s r : Session}

/-- Sessions that match and hold the same flow are replicas. -/
theorem Matches.replica_of_eq (h : Matches Eq s r) : Replica s r := by
  have hflow : r.flow = s.flow := by
    have hflows := h.flows
    generalize s.flow = held at hflows
    generalize r.flow = held' at hflows
    cases hflows with
    | none => rfl
    | some same => rw [same]
  have hheld : s.holding r.flow = s := by
    rw [hflow]
    rfl
  exact hheld ▸ h.replica

theorem routesLike_of_eq {flow flow' : Flow} (h : flow = flow') : flow.RoutesLike flow' :=
  h ▸ Flow.RoutesLike.refl flow

/-- Calls are alike if they are the same. -/
theorem like_of_eq {calls calls' : List (String × Call)}
    (h : calls.map (·.2) = calls'.map (·.2)) :
    List.Forall₂ (Call.Like Eq) (calls.map (·.2)) (calls'.map (·.2)) := by
  rw [h]
  exact List.forall₂_same.mpr fun c _ => Call.Like.refl (fun _ => rfl) c

/-- **Sessions that match and hold the same flow do the same.** -/
theorem Matches.doSame (h : Matches Eq s r) : DoSame s r := by
  intro later later' hcalls
  obtain ⟨hresults, hmatches⟩ := h.performAll routesLike_of_eq (like_of_eq hcalls)
  exact ⟨hresults, hmatches.replica_of_eq⟩

/-- **A call that comes to a new run begins it afresh.** -/
theorem beginsAfresh_of_plan {c : Call} {flow : Flow} (hplan : s.plan c = .begin flow) :
    s.BeginsAfresh c flow := by
  intro id now now'
  have hnew : (Session.new s.settings id).plan (.start flow) = .begin flow := by
    simp [plan, Session.new]
  have hsettings : (Session.new s.settings id).settings = s.settings := rfl
  have hstep := matchStep_begin routesLike_of_eq hsettings (Eq.refl flow) now now'
  obtain ⟨out, hout⟩ : ∃ out, (Plan.begin flow).carryOut s now = .ok out := ⟨_, rfl⟩
  rw [hout] at hstep
  obtain ⟨r, hr, hmatches⟩ := hstep.exists_of_ok
  refine ⟨out.1, r, out.2, ?_, ?_, hmatches.replica_of_eq, hmatches.doSame⟩
  · rw [call_eq_carryOut, hplan, hout]
  · rw [call_eq_carryOut, hnew, hr]

/-- **A reset forgets the run.** -/
theorem blank_reset (s : Session) : s.reset.Blank where
  state := rfl
  cursor := rfl
  store := rfl
  values := values_newStore s.settings
  entries := rfl
  reason := rfl
  early := rfl

/-- **Nothing of a run is left by a reset or a new start.** A session that is reset is blank;
to reset it again changes nothing; and when it is started then, it begins the run as a new
session does. A session that holds a flow begins a run on it in the same way when it is
started again. -/
theorem reset_restart_afresh (s : Session) :
    s.reset.Blank ∧ s.reset.reset = s.reset ∧
      (∀ flow, s.reset.BeginsAfresh (.start flow) flow) ∧
      ∀ flow, s.flow = some flow → s.BeginsAfresh .restart flow := by
  refine ⟨blank_reset s, rfl, fun flow => ?_, fun flow hloaded => ?_⟩
  · have hplan : s.reset.plan (.start flow) = .begin flow := by
      simp [plan, reset]
    exact beginsAfresh_of_plan hplan
  · have hplan : s.plan .restart = .begin flow := by
      simp [plan, hloaded]
    exact beginsAfresh_of_plan hplan

/-- A session is made from a snapshot whose store keeps a history, which its settings do not
ask for. Started again on `Dialogue.Flow.gated`, it does the same as a new session: its store
is empty and keeps no history. -/
theorem reset_restart_afresh_gated :
    let snap : Snapshot := ⟨default, .completed, some "bye",
      ⟨StringMap.empty.insert "adult" "no", some []⟩, true, none⟩
    ∃ s s' r : Session, ∃ events, Session.restore default .gated snap = .ok s ∧
      s.flow = some .gated ∧ s.store.history = some [] ∧
      s.call "now" .restart = .ok (s', events) ∧
      (Session.new default default).call "later" (.start .gated) = .ok (r, events) ∧
      s'.store = .empty ∧ DoSame s' r := by
  intro snap
  obtain ⟨s, hs⟩ : ∃ s, Session.restore default .gated snap = .ok s := ⟨_, rfl⟩
  have hloaded : s.flow = some .gated := by
    obtain rfl := Except.ok.inj hs
    rfl
  have hsettings : s.settings = default := by
    obtain rfl := Except.ok.inj hs
    rfl
  have hempty : (s.perform "now" .restart).1.store = .empty := by
    obtain rfl := Except.ok.inj hs
    decide
  obtain ⟨-, -, -, hrestart⟩ := reset_restart_afresh s
  obtain ⟨s', r, events, hcall, hnew, -, hsame⟩ := hrestart .gated hloaded default "now" "later"
  rw [perform_of_ok hcall] at hempty
  rw [hsettings] at hnew
  refine ⟨s, s', r, events, hs, hloaded, ?_, hcall, hnew, hempty, hsame⟩
  obtain rfl := Except.ok.inj hs
  rfl

end Session

end Dialogue
