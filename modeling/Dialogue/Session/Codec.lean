import Dialogue.Flow.Codec
import Dialogue.Session.Snapshot

/-!
# Settings and snapshots in JSON

How settings, stores, reasons to abort and snapshots are written and read.
-/

namespace Dialogue

open Json (Record Decoder)

/-! ### Settings -/

/-- Reads a policy by its name. -/
def DeadEndPolicy.decode : Decoder DeadEndPolicy :=
  Json.decodeName (DeadEndPolicy.all.map fun policy => (policy.name, policy))

namespace Settings

/-- Writes settings. -/
def toJson (s : Settings) : Json :=
  .obj [("max_auto_steps", .int s.maxAutoSteps), ("record_history", .bool s.recordHistory),
    ("record_trace", .bool s.recordTrace), ("dead_end_policy", .str s.deadEnd.name)]

/-- The fields of settings, any of which may be left out. -/
def record : Record (Nat × Bool × Bool × DeadEndPolicy) :=
  (Record.defaulted "max_auto_steps" Json.decodeNat64 default.maxAutoSteps).and <|
  (Record.defaulted "record_history" Json.decodeBool default.recordHistory).and <|
  (Record.defaulted "record_trace" Json.decodeBool default.recordTrace).and <|
  Record.defaulted "dead_end_policy" DeadEndPolicy.decode default.deadEnd

/-- Reads settings. -/
def decode : Decoder Settings :=
  record.into fun (maxAutoSteps, recordHistory, recordTrace, deadEnd) =>
    ⟨maxAutoSteps, recordHistory, recordTrace, deadEnd⟩

end Settings

/-! ### Stores -/

namespace Write

/-- Writes a recorded write. -/
def toJson (w : Write) : Json :=
  .obj [("name", .str w.name), ("value", .str w.value), ("previous", .ofOption w.previous),
    ("node_id", .str w.node)]

/-- The fields of a recorded write. -/
def record : Record (String × String × Option String × String) :=
  (Record.text "name").and <|
  (Record.text "value").and <|
  (Record.optionalText "previous").and <|
  Record.text "node_id"

/-- Reads a recorded write. -/
def decode : Decoder Write :=
  record.into fun (name, value, previous, node) => ⟨name, value, previous, node⟩

end Write

namespace Store

/-- Writes a store. -/
def toJson (s : Store) : Json :=
  .obj (("values", s.values.toJson)
    :: Json.optionalField "history" (fun writes => .arr (writes.map Write.toJson)) s.history)

/-- The fields of a store. -/
def record : Record (StringMap String × Option (List Write)) :=
  (Record.required "values" StringMap.decode .empty).and <|
  Record.defaulted "history" (Json.decodeOption (Json.decodeList Write.decode)) none

/-- Reads a store. -/
def decode : Decoder Store :=
  record.into fun (values, history) => ⟨values, history⟩

end Store

/-! ### Reasons to abort -/

namespace Abort

/-- Writes a reason. -/
def toJson : Abort → Json
  | noEdge node handle =>
    Defect.keyed "no_edge_resolved" [("node_id", .str node), ("handle", .ofOption handle)]
  | allRejected node => Defect.keyed "guard_rejected_all_candidates" [("node_id", .str node)]
  | cycle node => Defect.keyed "cycle_without_input" [("node_id", .str node)]
  | stepLimit limit => Defect.keyed "step_limit_exceeded" [("limit", .int limit)]
  | defect d => .obj [("graph", d.toJson)]

/-- The reasons and how each is read. -/
def variants : List (Json.Variant Abort) := [
  ⟨"no_edge_resolved",
    .record ((Defect.nodeField.and (.optionalText "handle")).into
      fun (node, handle) => noEdge node handle)⟩,
  ⟨"guard_rejected_all_candidates", .record (Defect.nodeField.into allRejected)⟩,
  ⟨"cycle_without_input", .record (Defect.nodeField.into cycle)⟩,
  ⟨"step_limit_exceeded",
    .record ((Record.required "limit" Json.decodeNat64 0).into stepLimit)⟩,
  ⟨"graph", .single fun source r => (Defect.decode source r).map defect⟩]

/-- Reads a reason. -/
def decode : Decoder Abort :=
  Json.decodeChoice variants

end Abort

/-! ### Snapshots -/

/-- Reads a session id. -/
def SessionId.decode : Decoder SessionId := fun source r => do
  let s ← Json.decodeString source r
  match SessionId.read? s with
  | some id => return id
  | none => .error .invalidSessionId

/-- Reads the state of a session by its name. -/
def SessionState.decode : Decoder SessionState :=
  Json.decodeName (SessionState.all.map fun state => (state.name, state))

namespace Snapshot

/-- Writes a snapshot. -/
def toJson (s : Snapshot) : Json :=
  .obj ([("session_id", .str s.sessionId.text), ("state", .str s.state.name),
      ("cursor", .ofOption s.cursor), ("variables", s.store.toJson),
      ("early_termination", .bool s.endedEarly)]
    ++ Json.optionalField "abort_reason" Abort.toJson s.abortReason)

/-- The fields of a snapshot. -/
def record :
    Record (SessionId × SessionState × Option String × Store × Bool × Option Abort) :=
  (Record.required "session_id" SessionId.decode default).and <|
  (Record.required "state" SessionState.decode .idle).and <|
  (Record.optionalText "cursor").and <|
  (Record.required "variables" Store.decode .empty).and <|
  (Record.required "early_termination" Json.decodeBool false).and <|
  Record.defaulted "abort_reason" (Json.decodeOption Abort.decode) none

/-- Reads a snapshot. -/
def decode : Decoder Snapshot :=
  record.into fun (sessionId, state, cursor, store, endedEarly, abortReason) =>
    ⟨sessionId, state, cursor, store, endedEarly, abortReason⟩

end Snapshot

end Dialogue
