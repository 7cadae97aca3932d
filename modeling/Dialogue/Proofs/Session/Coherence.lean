import Dialogue.Proofs.Session.Rest

/-!
# State, cursor and the rest of a session agree

A caller sees a session through its state, its cursor, the pending question, the flags
of its ending and the times of its trace. `Dialogue.Session.Coherent` says how they hang
together, and `Dialogue.Session.coherent_performAll` that they do after every call, be
it refused or not, in every session that began as a new one.
-/

namespace Dialogue

namespace Session

/-- The cursor names the node `n` of the flow that the session holds. -/
def At (s : Session) (n : Node) : Prop :=
  ∃ flow, s.flow = some flow ∧ n ∈ flow.nodes ∧ s.cursor = some n.id

/-- **State, cursor and the rest of a session agree.** A session that is over may stand
at a question as well, if no edge could be followed from there; so a question is pending
only in the state in which the session waits. -/
structure Coherent (s : Session) : Prop where
  not_running : s.state ≠ .running
  idle_iff : s.state = .idle ↔ s.cursor = none
  empty_of_idle : s.state = .idle → s.store = s.settings.newStore ∧ s.store.values = .empty
  awaitingInput_iff : s.state = .awaitingInput ↔ s.pendingQuestion?.isSome = true
  pendingQuestion_iff : ∀ q, s.pendingQuestion? = some q ↔
    s.state = .awaitingInput ∧ ∃ n, s.At n ∧ n.content = .question q
  atEnd_iff : (∃ n, s.At n ∧ n.isEnd = true) ↔ s.state = .completed ∧ s.endedEarly = false
  completed_of_early : s.endedEarly = true → s.state = .completed
  abortReason_iff : s.abortReason.isSome = true ↔ s.state = .aborted
  startedAt_iff : s.trace.startedAt.isSome = true ↔ s.state ≠ .idle
  finishedAt_iff : s.trace.finishedAt.isSome = true ↔ s.state = .completed ∨ s.state = .aborted

variable {s : Session} {flow : Flow} {n : Node}

/-- A started session stands at one node only. -/
theorem Stands.at_iff (h : Stands flow n s) {m : Node} : s.At m ↔ m = n := by
  constructor
  · rintro ⟨flow', loaded, hm, hcursor⟩
    obtain rfl : flow = flow' := by simpa [h.loaded] using loaded
    have hid : n.id = m.id := by simpa [h.cursor] using hcursor
    exact Flow.eq_of_id_eq hm (Flow.node?_eq_some_iff.mp h.known).1 hid.symm
  · rintro rfl
    exact ⟨flow, h.loaded, (Flow.node?_eq_some_iff.mp h.known).1, h.cursor⟩

theorem Stands.currentNode? (h : Stands flow n s) : s.currentNode? = some n := by
  simp [Session.currentNode?, h.loaded, h.cursor, h.known]

theorem values_newStore (settings : Settings) : settings.newStore.values = .empty := by
  unfold Settings.newStore
  split <;> rfl

/-- **A session at rest is coherent.** -/
theorem Rests.coherent (h : Rests s) : s.Coherent := by
  cases h with
  | idle state cursor store reason early unstarted unfinished =>
    have hnowhere : ∀ m, ¬ s.At m := by simp [At, cursor]
    constructor <;> simp [state, cursor, store, reason, early, unstarted, unfinished,
      pendingQuestion?, values_newStore, hnowhere]
  | @waiting flow n q moves state asks =>
    have hcurrent := moves.currentNode?
    have hq : n.question? = some q := Node.question?_eq_some_iff.mpr asks
    have hend : n.isEnd = false := by simp [Node.isEnd, Node.kind, asks]
    constructor <;> simp [state, moves.cursor, moves.reason, moves.early, moves.started,
      moves.unfinished, pendingQuestion?, hcurrent, hq, moves.at_iff, asks, hend]
  | @completed flow n stands state early reason finished =>
    constructor <;> simp [state, stands.cursor, reason, early, stands.started, finished,
      pendingQuestion?, stands.at_iff]
  | @aborted flow n stands state passed early reason finished =>
    constructor <;> simp [state, stands.cursor, reason, early, stands.started, finished,
      pendingQuestion?, stands.at_iff, passed]

/-- **After every sequence of calls to a new session, refused or not, its state, cursor,
store, flags and trace agree.** -/
theorem coherent_performAll (settings : Settings) (id : SessionId)
    (calls : List (String × Call)) : ((Session.new settings id).performAll calls).1.Coherent :=
  (rests_performAll settings id calls).coherent

end Session

end Dialogue
