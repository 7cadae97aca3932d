import Dialogue.Proofs.Session.Turn

/-!
# Where a session rests

Between two calls a session that began as a new one is in one of four places
(`Dialogue.Session.Rests`): it is idle, it waits at a question of its flow, it has
completed at a node of its flow, or it was aborted at one. Each call leads from one of
these places to another (`Dialogue.Session.Rests.perform`), because a pass that sets out
from a node of the flow always comes to rest.

All sessions that calls can lead to from a new one are so
(`Dialogue.Session.rests_performAll`). What else holds of them is shown for resets and
passes alone (`Dialogue.Session.passes_induction`).
-/

namespace Dialogue

namespace Session

/-! ### Runs of calls -/

/-- What a call keeps if it is not refused, it keeps. -/
theorem perform_induction {P : Session → Prop} {s : Session} {now : String} {c : Call} (h : P s)
    (hturn : ∀ out, Turn s now c out → P out.1) : P (s.perform now c).1 := by
  unfold perform
  cases hc : s.call now c with
  | error refusal => exact h
  | ok out => exact hturn out (turn_of_call hc)

/-- **What each call keeps, every sequence of calls keeps.** -/
theorem performAll_induction {P : Session → Prop}
    (hstep : ∀ s now c, P s → P (s.perform now c).1) {s : Session} (h : P s)
    (calls : List (String × Call)) : P (s.performAll calls).1 := by
  induction calls generalizing s with
  | nil => exact h
  | cons entry rest ih => exact ih (hstep s entry.1 entry.2 h)

/-! ### Places -/

/-- A started session stands at a node of its flow. -/
structure Stands (flow : Flow) (n : Node) (s : Session) : Prop where
  loaded : s.flow = some flow
  cursor : s.cursor = some n.id
  known : flow.node? n.id = some n
  started : s.trace.startedAt.isSome = true

/-- A session that is not over stands at a node of its flow. -/
structure Moves (flow : Flow) (n : Node) (s : Session) : Prop extends Stands flow n s where
  reason : s.abortReason = none
  early : s.endedEarly = false
  unfinished : s.trace.finishedAt = none

/-- **The places where a session rests between two calls.** -/
inductive Rests (s : Session) : Prop
  | idle (state : s.state = .idle) (cursor : s.cursor = none)
      (store : s.store = s.settings.newStore) (reason : s.abortReason = none)
      (early : s.endedEarly = false) (unstarted : s.trace.startedAt = none)
      (unfinished : s.trace.finishedAt = none)
  | waiting {flow : Flow} {n : Node} {q : Question} (moves : Moves flow n s)
      (state : s.state = .awaitingInput) (asks : n.content = .question q)
  | completed {flow : Flow} {n : Node} (stands : Stands flow n s) (state : s.state = .completed)
      (early : s.endedEarly = !n.isEnd) (reason : s.abortReason = none)
      (finished : s.trace.finishedAt.isSome = true)
  | aborted {flow : Flow} {n : Node} (stands : Stands flow n s) (state : s.state = .aborted)
      (passed : n.isEnd = false) (early : s.endedEarly = false)
      (reason : s.abortReason.isSome = true) (finished : s.trace.finishedAt.isSome = true)

variable {flow : Flow} {m n : Node} {p : Progress} {now : String}

/-- Noting steps does not move a session. -/
theorem Moves.record (h : Moves flow n p.session) (steps : List TraceEvent) :
    Moves flow n (p.record steps).session := by
  rw [Progress.record_eq]
  exact ⟨⟨h.loaded, h.cursor, h.known, by simpa using h.started⟩, h.reason, h.early,
    by simpa using h.unfinished⟩

/-- Visiting a node moves a session there. -/
theorem Moves.visit (h : Moves flow m p.session) (hn : flow.node? n.id = some n) :
    Moves flow n (p.visit n).session := by
  unfold Progress.visit
  exact ⟨⟨h.loaded, rfl, hn, by simpa using h.started⟩, h.reason, h.early,
    by simpa using h.unfinished⟩

/-! ### Passes come to rest -/

theorem Moves.rests_completed (h : Moves flow n p.session) {early : Bool}
    (hearly : early = !n.isEnd) (values : StringMap String) (endNode : Option String) :
    Rests (p.close now (.completed values early endNode)).session :=
  Rests.completed ⟨h.loaded, h.cursor, h.known, by simpa using h.started⟩ rfl hearly h.reason rfl

theorem Moves.rests_aborted (h : Moves flow n p.session) (hn : n.isEnd = false) (reason : Abort) :
    Rests (p.close now (.aborted reason)).session :=
  Rests.aborted ⟨h.loaded, h.cursor, h.known, by simpa using h.started⟩ rfl hn h.early rfl rfl

/-- A node that halts the pass brings the session to rest. -/
theorem Moves.rests_enter (h : Moves flow m p.session) (hn : flow.node? n.id = some n)
    (hhalts : n.haltsPass = true) : Rests (p.enter now n).session := by
  have hvisit := h.visit hn
  rw [Progress.enter_of_halts _ _ hhalts]
  obtain ⟨q, hq⟩ | ⟨message, hm⟩ := Node.haltsPass_cases hhalts
  · have hunfinished : (p.session.settings.noted (p.visit n).session.trace
        [.suspended n.id]).finishedAt = none := by
      simpa using hvisit.unfinished
    rw [Node.closing, hq]
    exact Rests.waiting ⟨⟨hvisit.loaded, hvisit.cursor, hn, by simpa using hvisit.started⟩,
      hvisit.reason, hvisit.early, hunfinished⟩ rfl hq
  · rw [Node.closing, hm]
    exact hvisit.rests_completed (by simp [Node.isEnd_iff.mpr ⟨message, hm⟩]) _ (some n.id)

/-- **A pass comes to rest.** It sets out from a node that is no end. -/
theorem Moves.rests_travel {store : Store} {limit : Nat} {current : Node} {transit : List Node}
    {ending : Ending} (hroute : flow.Leads store limit current transit ending)
    (h : Moves flow current p.session) (hstore : p.session.store = store)
    (hend : current.isEnd = false) :
    Rests (p.travel now flow current transit ending).session := by
  induction hroute generalizing p with
  | arrival found halts => exact (h.record _).rests_enter (Flow.node?_of_next found) halts
  | endOfFlow found =>
    simp only [Progress.travel, Progress.finish, Progress.complete_eq]
    exact (h.record _).rests_completed (by simp [hend]) _ none
  | unresolved found =>
    simp only [Progress.travel, Progress.finish, Progress.deadEnd, Progress.complete_eq,
      Progress.abort_eq]
    split
    · exact (h.record _).rests_completed (by simp [hend]) _ none
    · exact (h.record _).rests_aborted hend _
  | stepLimit found | cycle found =>
    simp only [Progress.travel, Progress.finish, Progress.abort_eq]
    exact (h.record _).rests_aborted hend _
  | @onward current next edge transit ending found passes rest ih =>
    -- the next node is no end either, so the pass sets out from there in the same way
    rw [Progress.travel, Progress.enter_of_transit _ _ passes]
    refine ih ((h.record _).visit (Flow.node?_of_next found)) ?_ (next.isEnd_eq_false passes)
    exact (Progress.store_record p _).trans hstore

/-! ### Calls lead from rest to rest -/

theorem rests_new (settings : Settings) (id : SessionId) : Rests (Session.new settings id) :=
  Rests.idle rfl rfl rfl rfl rfl rfl rfl

theorem Rests.reset (s : Session) : Rests s.reset :=
  Rests.idle rfl rfl rfl rfl rfl rfl rfl

/-- A new run sets out from the start node. -/
theorem moves_begun (s : Session) (now : String) (flow : Flow) :
    Moves flow flow.start (s.begun now flow).session := by
  rw [begun_eq]
  exact ⟨⟨rfl, rfl, flow.node?_start, by simp⟩, rfl, rfl, by simp [Trace.new]⟩

/-- **A pass that is opened in a session at rest sets out from a node that is no
end.** -/
theorem Rests.moves_of_opening {s : Session} {c : Call} {origin : Node} {counted : Bool}
    (h : Rests s) (hopening : Opening s now flow c p origin counted) :
    Moves flow origin p.session ∧ origin.isEnd = false := by
  cases hopening with
  | start idle => exact ⟨moves_begun s now flow, flow.start.isEnd_eq_false flow.haltsPass_start⟩
  | @answer _ q value waits loaded stands known asks =>
    refine ⟨?_, by simp [Node.isEnd, Node.kind, asks]⟩
    -- only a session that waits can be answered, and it is not over yet
    cases h with
    | waiting moves state asks' =>
      rw [answered_eq]
      exact ⟨⟨loaded, stands, known, by simpa using moves.started⟩, moves.reason, moves.early,
        by simpa using moves.unfinished⟩
    | idle state => simp [state] at waits
    | completed stands' state => simp [state] at waits
    | aborted stands' state => simp [state] at waits

/-- A session at rest is not lost. -/
theorem Rests.not_lost {s : Session} (h : Rests s) (cursor : String) : ¬ Lost s cursor := by
  rintro ⟨waits, stands, flow', loaded, hno⟩
  cases h with
  | @waiting flow n q moves state asks =>
    obtain rfl : flow = flow' := by simpa [moves.loaded] using loaded
    obtain rfl : n.id = cursor := by simpa [moves.cursor] using stands
    exact hno n q moves.known asks
  | idle state => simp [state] at waits
  | completed stands' state => simp [state] at waits
  | aborted stands' state => simp [state] at waits

/-- **A call leads from rest to rest.** -/
theorem Rests.perform {s : Session} (h : Rests s) (now : String) (c : Call) :
    Rests (s.perform now c).1 := by
  have hpass : ∀ {s₀ : Session} {c₀ : Call} {flow : Flow} {p : Progress} {origin : Node}
      {counted : Bool}, Rests s₀ → Opening s₀ now flow c₀ p origin counted →
      Rests (ofProgress (p.pass now flow origin.id (origin.seeds counted))).1 := by
    intro s₀ c₀ flow p origin counted hs₀ hopening
    obtain ⟨hmoves, hend⟩ := hs₀.moves_of_opening hopening
    obtain ⟨r, hleads, hmoved⟩ := hopening.exists_route
    rw [hmoved]
    exact hmoves.rests_travel hleads rfl hend
  refine perform_induction h fun out hturn => ?_
  cases hturn with
  | reset => exact Rests.reset s
  | direct opening => exact hpass h opening
  | pick opening => exact hpass h opening
  | again loaded opening => exact hpass (Rests.reset s) opening
  | lost hlost => exact absurd hlost (h.not_lost _)

/-- **Calls lead a new session from rest to rest.** -/
theorem rests_performAll (settings : Settings) (id : SessionId) (calls : List (String × Call)) :
    Rests ((Session.new settings id).performAll calls).1 :=
  performAll_induction (P := Rests) (fun _ now c h => h.perform now c) (rests_new settings id) calls

/-- **What holds of a new session, and is kept by each reset and by each pass that is opened,
holds after all calls.** Nothing else can happen to a session that began as a new one. -/
theorem passes_induction {P : Session → Prop} {settings : Settings} {id : SessionId}
    (hnew : P (Session.new settings id)) (hreset : ∀ s, P s → P s.reset)
    (hpass : ∀ {s : Session} {now : String} {flow : Flow} {c : Call} {p : Progress} {origin : Node}
      {counted : Bool}, Opening s now flow c p origin counted → P s →
        P (ofProgress (p.pass now flow origin.id (origin.seeds counted))).1)
    (calls : List (String × Call)) : P ((Session.new settings id).performAll calls).1 := by
  have hstep : ∀ (s : Session) (now : String) (c : Call), Rests s ∧ P s →
      Rests (s.perform now c).1 ∧ P (s.perform now c).1 := by
    rintro s now c ⟨hrests, h⟩
    refine ⟨hrests.perform now c, perform_induction h fun out hturn => ?_⟩
    cases hturn with
    | reset => exact hreset s h
    | direct opening => exact hpass opening h
    | pick opening => exact hpass opening h
    | again loaded opening => exact hpass opening (hreset s h)
    | lost hlost => exact absurd hlost (hrests.not_lost _)
  exact (performAll_induction hstep ⟨rests_new settings id, hnew⟩ calls).2

end Session

end Dialogue
