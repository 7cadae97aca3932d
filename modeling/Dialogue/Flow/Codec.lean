import Dialogue.Flow.Defect
import Dialogue.Rule.Codec

/-!
# Nodes, edges and defects in JSON

How questions and edges are written and read, in documents and elsewhere, and how
defects are kept in the snapshot of a session.
-/

namespace Dialogue

open Json (Record Decoder)

/-! ### Maps of texts -/

/-- Writes a map of texts, its keys in ascending order. -/
def StringMap.toJson (m : StringMap String) : Json :=
  .obj (m.entries.map fun (key, value) => (key, .str value))

/-- Reads a map of texts. -/
def StringMap.decode : Decoder (StringMap String) :=
  Json.decodeMap Json.decodeString

/-! ### Questions -/

namespace QuestionOption

/-- Writes an option. -/
def toJson (o : QuestionOption) : Json :=
  .obj [("id", .str o.id), ("label", .str o.label), ("value", .str o.value)]

/-- The fields of an option. -/
def record : Record (String × String × String) :=
  (Record.text "id").and ((Record.text "label").and (Record.text "value"))

/-- Reads an option. -/
def decode : Decoder QuestionOption :=
  record.into fun (id, label, value) => ⟨id, label, value⟩

end QuestionOption

namespace Question

/-- Writes a question. -/
def toJson (q : Question) : Json :=
  .obj [("text", .str q.text), ("options", .arr (q.options.map QuestionOption.toJson)),
    ("variableName", .str q.variableName), ("conditionTriggers", q.triggers.toJson)]

/-- The fields of a question. Its text may also be called its question or its label. -/
def record : Record (String × List QuestionOption × String × StringMap String) :=
  ((Record.text "text").orAs ["question", "label"]).and <|
  (Record.defaulted "options" (Json.decodeList QuestionOption.decode) []).and <|
  (Record.defaulted "variableName" Json.decodeString "").and <|
  Record.defaulted "conditionTriggers" StringMap.decode .empty

/-- Reads a question. -/
def decode : Decoder Question :=
  record.into fun (text, options, variableName, triggers) =>
    ⟨text, options, variableName, triggers⟩

end Question

/-! ### Edges -/

namespace Edge

/-- Writes an edge. -/
def toJson (e : Edge) : Json :=
  .obj ([("id", .str e.id), ("source", .str e.source), ("target", .str e.target)]
    ++ Json.optionalField "sourceHandle" .str e.handle)

/-- The fields of an edge. -/
def record : Record (String × String × String × Option String) :=
  (Record.text "id").and <|
  (Record.text "source").and <|
  (Record.text "target").and <|
  Record.defaulted "sourceHandle" (Json.decodeOption Json.decodeString) none

/-- Reads an edge. -/
def decode : Decoder Edge :=
  record.into fun (id, source, target, handle) => ⟨id, source, target, handle⟩

end Edge

/-! ### Defects -/

namespace Defect

/-- A defect under its name, with the fields that belong to it. -/
def keyed (name : String) (fields : List (String × Json)) : Json :=
  .obj [(name, .obj fields)]

/-- Writes a defect. -/
def toJson : Defect → Json
  | missingStart => .str "missing_start_node"
  | multipleStarts count => keyed "multiple_start_nodes" [("count", .int count)]
  | duplicateNode node => keyed "duplicate_node_id" [("node_id", .str node)]
  | duplicateEdge edge => keyed "duplicate_edge_id" [("edge_id", .str edge)]
  | danglingEdge edge node =>
    keyed "dangling_edge" [("edge_id", .str edge), ("node_id", .str node)]
  | invalidHandle node edge handle =>
    keyed "invalid_handle"
      [("node_id", .str node), ("edge_id", .str edge), ("handle", .ofOption handle)]
  | duplicateHandle node handle =>
    keyed "duplicate_handle" [("node_id", .str node), ("handle", .str handle)]
  | missingVariable node => keyed "missing_variable_name" [("node_id", .str node)]
  | unknownTrigger node source =>
    keyed "unknown_trigger_source" [("node_id", .str node), ("source_id", .str source)]
  | nodeNotFound node => keyed "node_not_found" [("node_id", .str node)]

/-- The field of a node. -/
def nodeField : Record String :=
  .text "node_id"

/-- The field of an edge. -/
def edgeField : Record String :=
  .text "edge_id"

/-- The defects and how each is read. -/
def variants : List (Json.Variant Defect) := [
  ⟨"missing_start_node", .unit missingStart⟩,
  ⟨"multiple_start_nodes",
    .record ((Record.required "count" Json.decodeNat64 0).into multipleStarts)⟩,
  ⟨"duplicate_node_id", .record (nodeField.into duplicateNode)⟩,
  ⟨"duplicate_edge_id", .record (edgeField.into duplicateEdge)⟩,
  ⟨"dangling_edge",
    .record ((edgeField.and nodeField).into fun (edge, node) => danglingEdge edge node)⟩,
  ⟨"invalid_handle",
    .record ((nodeField.and (edgeField.and (.optionalText "handle"))).into
      fun (node, edge, handle) => invalidHandle node edge handle)⟩,
  ⟨"duplicate_handle",
    .record ((nodeField.and (.text "handle")).into
      fun (node, handle) => duplicateHandle node handle)⟩,
  ⟨"missing_variable_name", .record (nodeField.into missingVariable)⟩,
  ⟨"unknown_trigger_source",
    .record ((nodeField.and (.text "source_id")).into
      fun (node, source) => unknownTrigger node source)⟩,
  ⟨"node_not_found", .record (nodeField.into nodeNotFound)⟩]

/-- Reads a defect. -/
def decode : Decoder Defect :=
  Json.decodeChoice variants

end Defect

end Dialogue
