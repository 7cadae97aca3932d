import Dialogue.Json.Choice
import Dialogue.Trace.Basic

/-!
# Traces in JSON

How traces are written and read. An entry is one object that holds its step number
beside the fields of its event, and the name of the event in a field of its own.
-/

namespace Dialogue

open Json (Record Decoder)

/-- Reads the kind of a node by its name. -/
def NodeKind.decode : Decoder NodeKind :=
  Json.decodeName (NodeKind.all.map fun kind => (kind.name, kind))

namespace TraceEvent

/-- The key of an event's name. -/
def tag : String :=
  "event"

/-- The name of an event. -/
def name : TraceEvent → String
  | sessionStarted _ => "session_started"
  | nodeEntered .. => "node_entered"
  | ruleEvaluated .. => "rule_evaluated"
  | ruleSetEvaluated .. => "rule_set_evaluated"
  | guardRejected .. => "guard_rejected"
  | edgeResolved .. => "edge_resolved"
  | answerCommitted .. => "answer_committed"
  | suspended _ => "suspended"
  | completed _ => "completed"
  | aborted _ => "aborted"

/-- The fields of an event, its name apart. -/
def details : TraceEvent → List (String × Json)
  | sessionStarted startNode => [("start_node_id", .str startNode)]
  | nodeEntered node kind => [("node_id", .str node), ("kind", .str kind.name)]
  | ruleEvaluated node field operator operand actual result =>
    [("node_id", .str node), ("field", .str field), ("operator", .str operator),
      ("operand", .str operand), ("actual", .ofOption actual), ("result", .bool result)]
  | ruleSetEvaluated node output result =>
    [("node_id", .str node), ("output", .ofOption output), ("result", .bool result)]
  | guardRejected source target handle expected =>
    [("source_id", .str source), ("target_id", .str target), ("handle", .ofOption handle),
      ("expected", .str expected)]
  | edgeResolved source target handle =>
    [("source_id", .str source), ("target_id", .str target), ("handle", .ofOption handle)]
  | answerCommitted node variableName value =>
    [("node_id", .str node), ("variable", .str variableName), ("value", .str value)]
  | suspended node => [("node_id", .str node)]
  | completed early => [("early_termination", .bool early)]
  | aborted reason => [("reason", .str reason)]

/-- The fields of an event, its name first. -/
def toFields (e : TraceEvent) : List (String × Json) :=
  (tag, .str e.name) :: e.details

/-- Writes an event. -/
def toJson (e : TraceEvent) : Json :=
  .obj e.toFields

/-- The field of a node. -/
def nodeField : Record String :=
  .text "node_id"

/-- The fields of an edge's ends. -/
def endFields : Record (String × String) :=
  (Record.text "source_id").and (.text "target_id")

/-- A truth value that must be there. -/
def flag (name : String) : Record Bool :=
  .required name Json.decodeBool false

/-- The events and how each is read. -/
def variants : List (Json.Variant TraceEvent) := [
  ⟨"session_started", .record ((Record.text "start_node_id").into sessionStarted)⟩,
  ⟨"node_entered",
    .record ((nodeField.and (.required "kind" NodeKind.decode .start)).into
      fun (node, kind) => nodeEntered node kind)⟩,
  ⟨"rule_evaluated",
    .record ((nodeField.and <| (Record.text "field").and <| (Record.text "operator").and <|
        (Record.text "operand").and <| (Record.optionalText "actual").and (flag "result")).into
      fun (node, field, operator, operand, actual, result) =>
        ruleEvaluated node field operator operand actual result)⟩,
  ⟨"rule_set_evaluated",
    .record ((nodeField.and ((Record.optionalText "output").and (flag "result"))).into
      fun (node, output, result) => ruleSetEvaluated node output result)⟩,
  ⟨"guard_rejected",
    .record ((endFields.and ((Record.optionalText "handle").and (.text "expected"))).into
      fun ((source, target), handle, expected) => guardRejected source target handle expected)⟩,
  ⟨"edge_resolved",
    .record ((endFields.and (.optionalText "handle")).into
      fun ((source, target), handle) => edgeResolved source target handle)⟩,
  ⟨"answer_committed",
    .record ((nodeField.and ((Record.text "variable").and (.text "value"))).into
      fun (node, variableName, value) => answerCommitted node variableName value)⟩,
  ⟨"suspended", .record (nodeField.into suspended)⟩,
  ⟨"completed", .record ((flag "early_termination").into completed)⟩,
  ⟨"aborted", .record ((Record.text "reason").into aborted)⟩]

end TraceEvent

namespace TraceEntry

/-- Writes an entry. -/
def toJson (e : TraceEntry) : Json :=
  .obj (("step", .int e.step) :: e.event.toFields)

/-- The own field of an entry. -/
def record : Record Nat :=
  .required "step" Json.decodeNat32 0

/-- Reads an entry, whose object also holds the fields of its event. -/
def decode : Decoder TraceEntry :=
  record.split fun step others => do
    let event ← Json.decodeTaggedFields TraceEvent.tag TraceEvent.variants .aside .closed others
    return ⟨step, event⟩

end TraceEntry

namespace Trace

/-- Writes a trace. -/
def toJson (t : Trace) : Json :=
  .obj [("version", .int t.version), ("session_id", .str t.sessionId),
    ("started_at", .ofOption t.startedAt), ("finished_at", .ofOption t.finishedAt),
    ("entries", .arr (t.entries.map TraceEntry.toJson))]

/-- The fields of a trace. -/
def record : Record (Nat × String × Option String × Option String × List TraceEntry) :=
  (Record.required "version" Json.decodeNat32 0).and <|
  (Record.text "session_id").and <|
  (Record.optionalText "started_at").and <|
  (Record.optionalText "finished_at").and <|
  Record.required "entries" (Json.decodeList TraceEntry.decode) []

/-- Reads a trace. -/
def decode : Decoder Trace :=
  record.into fun (version, sessionId, startedAt, finishedAt, entries) =>
    ⟨version, sessionId, startedAt, finishedAt, entries⟩

end Trace

end Dialogue
