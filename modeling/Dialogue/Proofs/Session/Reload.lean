import Dialogue.Proofs.Session.Afresh
import Dialogue.Proofs.Session.Restore
import Dialogue.Proofs.Session.Twins

/-!
# Going on from an idle snapshot

A session that is reset keeps its flow, to be started again on it. Its snapshot is one of an
idle session, and what is made from that is made without a flow, even though the flow is at
hand. So the two part at the first call to start again, if no run has begun before: the one
begins a run on its flow, the other refuses.

This is all that is lost. If the caller starts the restored session on the flow in the place
of that call (`Dialogue.Session.reloading`), both get the same, then and from then on
(`Dialogue.Session.restore_reset`). The flow that is held tells idle sessions apart only
until a run begins, because a run begins in the same way whatever was held before
(`Dialogue.Session.carryOut_begin_holding`).
-/

namespace Dialogue

namespace Session

/-- **The calls with the flow loaded again**: if the first call that is to begin a run starts
again on the flow that is held, it starts on `flow` instead. -/
def reloading (flow : Flow) : List (String × Call) → List (String × Call)
  | [] => []
  | (now, .restart) :: rest => (now, .start flow) :: rest
  | (now, .start other) :: rest => (now, .start other) :: rest
  | (now, .submit value) :: rest => (now, .submit value) :: reloading flow rest
  | (now, .select picked) :: rest => (now, .select picked) :: reloading flow rest
  | (now, .reset) :: rest => (now, .reset) :: reloading flow rest

/-- **Two sessions do alike**, each with its own calls: the results are the same, and so is
what is kept of them afterwards. -/
structure DoAlike (s r : Session) (calls calls' : List (String × Call)) : Prop where
  results : (r.performAll calls').2 = (s.performAll calls).2
  snapshot : (r.performAll calls').1.snapshot = (s.performAll calls).1.snapshot

variable {s r : Session} {flow : Flow} {now : String} {c c' : Call}
  {calls calls' : List (String × Call)}

/-- After a call with the same result, sessions do alike if they go on so. -/
theorem DoAlike.cons (hresult : (r.perform now c').2 = (s.perform now c).2)
    (h : DoAlike (s.perform now c).1 (r.perform now c').1 calls calls') :
    DoAlike s r ((now, c) :: calls) ((now, c') :: calls') :=
  ⟨List.cons_eq_cons.mpr ⟨hresult, h.results⟩, h.snapshot⟩

/-- Sessions that calls make the same go on alike. -/
theorem doAlike_of_call {out : Session × List Event} (h : s.call now c = .ok out)
    (h' : r.call now c' = .ok out) (rest : List (String × Call)) :
    DoAlike s r ((now, c) :: rest) ((now, c') :: rest) := by
  have hs := perform_of_ok h
  have hr := perform_of_ok h'
  refine DoAlike.cons (by rw [hs, hr]) ?_
  rw [hs, hr]
  exact ⟨rfl, rfl⟩

/-- Twins that do alike with a third do so with each other. -/
theorem DoAlike.of_twins {r' : Session} (h : DoAlike s r calls calls') (htwins : Twins r r') :
    DoAlike s r' calls calls' := by
  obtain ⟨hresults, hlast⟩ := htwins.performAll calls'
  refine ⟨hresults.trans h.results, ?_⟩
  obtain ⟨keep, trace, observed, hsame⟩ := hlast
  rw [hsame]
  exact h.snapshot

/-! ### Without the flow -/

/-- **A run begins in the same way whatever flow was held before.** -/
theorem carryOut_begin_holding (s : Session) (held : Option Flow) (now : String) (flow : Flow) :
    (Plan.begin flow).carryOut (s.holding held) now = (Plan.begin flow).carryOut s now := by
  have hbegun : (s.holding held).begun now flow = s.begun now flow := by
    rw [begun_eq, begun_eq]
    rfl
  rw [Plan.carryOut, Plan.carryOut, hbegun]

/-- **A session that is reset begins a run on any flow**, whatever it holds; and it starts
again on the flow that it holds as it starts on it. -/
theorem exists_call_of_reset (s : Session) (now : String) (flow : Flow) :
    ∃ out, (∀ held, (s.reset.holding held).call now (.start flow) = .ok out) ∧
      (s.flow = some flow → s.reset.call now .restart = .ok out) := by
  obtain ⟨out, hout⟩ : ∃ out, (Plan.begin flow).carryOut s.reset now = .ok out := ⟨_, rfl⟩
  refine ⟨out, fun held => ?_, fun hloaded => ?_⟩
  · have hplan : (s.reset.holding held).plan (.start flow) = .begin flow := rfl
    rw [call_eq_carryOut, hplan, carryOut_begin_holding, hout]
  · have hheld : s.reset.flow = some flow := hloaded
    rw [call_eq_carryOut, plan, hheld, hout]

/-- **A session that is reset does the same without its flow**, if the flow is loaded
again. -/
theorem doAlike_reloading (hloaded : s.flow = some flow) (calls : List (String × Call)) :
    DoAlike s.reset (s.reset.holding none) calls (reloading flow calls) := by
  induction calls with
  | nil => exact ⟨rfl, rfl⟩
  | cons entry rest ih =>
    obtain ⟨now, c⟩ := entry
    cases c with
    | start other =>
      obtain ⟨out, hstart, -⟩ := exists_call_of_reset s now other
      exact doAlike_of_call (hstart s.flow) (hstart none) rest
    | restart =>
      obtain ⟨out, hstart, hrestart⟩ := exists_call_of_reset s now flow
      exact doAlike_of_call (hrestart hloaded) (hstart none) rest
    -- what is left is refused or resets, and both are as before
    | submit | select | reset => exact DoAlike.cons rfl ih

/-- Calls that do not start again stay as they are. -/
theorem reloading_eq_self (flow : Flow) (h : ∀ entry ∈ calls, entry.2 ≠ .restart) :
    reloading flow calls = calls := by
  induction calls with
  | nil => rfl
  | cons entry rest ih =>
    obtain ⟨now, c⟩ := entry
    obtain ⟨hfirst, hrest⟩ := List.forall_mem_cons.mp h
    cases c with
    | start other => rfl
    | restart => exact absurd rfl hfirst
    | _ => simp only [reloading, ih hrest]

/-- **A session that was reset is restored without its flow.** So it refuses to start again,
while the session that was reset does so as if it were started on its flow. For the rest it
does alike, whatever calls follow, once the flow is loaded again; and with the very same calls
as long as none of them starts again. -/
theorem restore_reset (s : Session) (hloaded : s.flow = some flow) :
    ∃ r, Session.restore s.settings flow s.reset.snapshot = .ok r ∧ r.flow = none ∧
      (∀ now, r.perform now .restart = (r, .error (.wrongState .restart .idle))) ∧
      (∀ now, ∃ out, s.reset.call now .restart = .ok out ∧
        s.reset.call now (.start flow) = .ok out) ∧
      (∀ later, DoAlike s.reset r later (reloading flow later)) ∧
      ∀ later, (∀ entry ∈ later, entry.2 ≠ .restart) → DoAlike s.reset r later later := by
  -- but for its observer, whom no snapshot mentions, a reset session without its flow is a new one
  have htwins : Twins (s.reset.holding none) (Session.new s.settings s.id) := ⟨_, _, _, rfl⟩
  have halike : ∀ later, DoAlike s.reset (Session.new s.settings s.id) later
      (reloading flow later) :=
    fun later => (doAlike_reloading hloaded later).of_twins htwins
  refine ⟨Session.new s.settings s.id, rfl, rfl, fun now => rfl, fun now => ?_, halike,
    fun later hnone => ?_⟩
  · obtain ⟨out, hstart, hrestart⟩ := exists_call_of_reset s now flow
    exact ⟨out, hrestart hloaded, hstart s.flow⟩
  · have hlater := halike later
    rwa [reloading_eq_self flow hnone] at hlater

/-- A session on `Dialogue.Flow.greeting` is reset. What is restored from it asks for the name
once it is started on the flow, as the session itself does when it starts again. -/
theorem restore_reset_greeting :
    let s := ((Session.new default default).performAll [("now", .start Flow.greeting)]).1
    s.flow = some Flow.greeting ∧
      ∃ r, Session.restore s.settings Flow.greeting s.reset.snapshot = .ok r ∧
        (r.performAll [("then", .submit "Ada"), ("later", .start Flow.greeting)]).2 =
          (s.reset.performAll [("then", .submit "Ada"), ("later", .restart)]).2 := by
  intro s
  have hloaded : s.flow = some Flow.greeting := by decide
  obtain ⟨r, hr, -, -, -, hlater, -⟩ := restore_reset s hloaded
  exact ⟨hloaded, r, hr, (hlater [("then", .submit "Ada"), ("later", .restart)]).results⟩

/-- With the very same calls it does not: it refuses to start again, which the session itself
does not. -/
theorem not_doAlike_restart_greeting :
    let s := ((Session.new default default).performAll
      [("now", .start Flow.greeting), ("then", .reset)]).1
    s.state = .idle ∧ s.flow = some Flow.greeting ∧
      ∃ r, Session.restore default Flow.greeting s.snapshot = .ok r ∧
        (r.performAll [("later", .restart)]).2 = [.error (.wrongState .restart .idle)] ∧
        (s.performAll [("later", .restart)]).2 =
          ((Session.new default default).performAll [("later", .start Flow.greeting)]).2 ∧
        (r.performAll [("later", .restart)]).2 ≠ (s.performAll [("later", .restart)]).2 :=
  ⟨by decide, by decide, _, rfl, by decide, by decide, by decide⟩

end Session

end Dialogue
