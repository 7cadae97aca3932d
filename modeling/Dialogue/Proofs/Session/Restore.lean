import Dialogue.Proofs.Flow.Sound
import Dialogue.Session.Snapshot

/-!
# What restoring makes

Whether a session can be made from a snapshot, and which one it is, is told by
`Dialogue.Session.Restores` (`Dialogue.Session.restore_eq_ok_iff`). Of the flow this takes
nothing but the node at which the snapshot stands.
-/

namespace Dialogue

namespace Session

/-- **The session that is made from a snapshot**: a new one, or one that stands where the
snapshot does, in a state that fits the node there. -/
inductive Restores (settings : Settings) (flow : Flow) (snap : Snapshot) : Session → Prop
  | idle (idle : snap.state = .idle) :
      Restores settings flow snap (Session.new settings snap.sessionId)
  | standing {cursor : String} {node : Node} {state : SessionState} (started : snap.state ≠ .idle)
      (stands : snap.cursor = some cursor) (known : flow.node? cursor = some node)
      (fits : restoredState snap.state node = .ok state) :
      Restores settings flow snap
        { Session.new settings snap.sessionId with
          flow := some flow
          state := state
          cursor := some cursor
          store := snap.store
          endedEarly := snap.endedEarly
          abortReason := if state = .aborted then snap.abortReason else none }

variable {settings : Settings} {flow : Flow} {snap : Snapshot} {s : Session}

/-- **Restoring makes a session if the snapshot fits the flow.** -/
theorem restore_eq_ok_iff :
    Session.restore settings flow snap = .ok s ↔ Restores settings flow snap s := by
  unfold Session.restore
  constructor
  · intro h
    by_cases idle : snap.state = .idle
    · rw [if_pos idle] at h
      obtain rfl := Except.ok.inj h
      exact Restores.idle idle
    · rw [if_neg idle] at h
      cases hcursor : snap.cursor with
      | none => simp [hcursor] at h
      | some cursor =>
        cases hnode : flow.node cursor with
        | error d => simp [hcursor, hnode] at h
        | ok node =>
          cases hstate : restoredState snap.state node with
          | error e => simp [hcursor, hnode, hstate] at h
          | ok state =>
            simp only [hcursor, hnode, hstate, Except.ok.injEq] at h
            rw [← h]
            exact Restores.standing idle hcursor (Flow.node_eq_ok_iff.mp hnode) hstate
  · intro h
    cases h with
    | idle idle => rw [if_pos idle]
    | standing started stands known fits =>
      simp only [if_neg started, stands, Flow.node_eq_ok_iff.mpr known, fits]

end Session

end Dialogue
