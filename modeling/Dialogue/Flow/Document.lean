import Dialogue.File
import Dialogue.Flow.Codec
import Dialogue.Flow.Reach

/-!
# Flow documents

A flow is authored as a JSON document with a list of nodes and a list of edges. A
node has an id, a type, and data whose shape depends on the type. The document is
read in three steps: first as a whole, with the data of the nodes as free values
(`Dialogue.FlowDocument`), then each node by its type (`Dialogue.NodeDraft.toNode`),
and at last nodes and edges together as a flow (`Dialogue.Flow.ofDocument`).

`Dialogue.FlowDocument.toJson` writes nodes and edges as such a document.
-/

namespace Dialogue

open Json (Record Decoder)

/-- Why a document does not hold a flow. -/
inductive LoadError
  | unreadable (reason : FileError)
  | notFlow (reason : Json.DecodeError)
  | unknownKind (node type : String)
  | invalidData (node : String) (reason : Json.DecodeError)
  | defect (defect : Defect)
  deriving DecidableEq, Repr

/-- The text of a load error. -/
def LoadError.message : LoadError → String
  | unreadable reason => "Failed to read flow document: " ++ reason.message
  | notFlow reason => "Failed to parse flow JSON: " ++ reason.message
  | unknownKind node type => "Node '" ++ node ++ "' has unknown type '" ++ type ++ "'"
  | invalidData node reason => "Node '" ++ node ++ "' has invalid data: " ++ reason.message
  | defect d => d.message

/-- A node as it is authored. -/
structure NodeDraft where
  id : String
  type : String
  data : Json

/-- A flow as it is authored. -/
structure FlowDocument where
  nodes : List NodeDraft
  edges : List Edge

/-! ### Reading nodes -/

namespace NodeContent

/-- Reads what a message node holds. Its text may also be called its message or its
content. -/
def decodeMessage : Decoder NodeContent :=
  ((Record.text "text").orAs ["message", "content"]).into message

/-- Reads what a question node holds. -/
def decodeQuestion : Decoder NodeContent := fun source r =>
  (Question.decode source r).map question

/-- The key of the condition in the data of a condition node. -/
def conditionKey : String :=
  "conditionSpec"

/-- Reads what a condition node holds. -/
def decodeCondition : Decoder NodeContent :=
  (Record.required conditionKey Condition.decode (.multiOutput [])).into condition

/-- Reads what an end node holds. Its message may also be called its text. -/
def decodeFinish : Decoder NodeContent :=
  ((Record.defaulted "message" (Json.decodeOption Json.decodeString) none).orAs ["text"]).into
    finish

/-- Reads what a node of the given kind holds. A start node holds nothing, whatever its
data. -/
def decode (kind : NodeKind) : Decoder NodeContent :=
  match kind with
  | .start => fun _ _ => .ok start
  | .message => decodeMessage
  | .question => decodeQuestion
  | .condition => decodeCondition
  | .finish => decodeFinish

/-- Writes what a node holds. -/
def toJson : NodeContent → Json
  | start => .obj []
  | message text => .obj [("text", .str text)]
  | question q => q.toJson
  | condition c => .obj [(conditionKey, c.toJson)]
  | finish text => .obj (Json.optionalField "message" .str text)

end NodeContent

namespace NodeDraft

/-- The fields of an authored node. Any other fields, such as its place in a drawing, do
not matter. -/
def record : Record (String × String × Json) :=
  (Record.text "id").and <|
  (Record.text "type").and <|
  Record.defaulted "data" Json.decodeValue .null

/-- Reads an authored node. -/
def decode : Decoder NodeDraft :=
  record.into fun (id, type, data) => ⟨id, type, data⟩

/-- Writes an authored node. -/
def toJson (d : NodeDraft) : Json :=
  .obj [("id", .str d.id), ("type", .str d.type), ("data", d.data)]

/-- The data of a node as an object; missing data are an empty one. -/
def payload (d : NodeDraft) : Json :=
  match d.data with
  | .null => .obj []
  | data => data

/-- Reads a node by its type. -/
def toNode (d : NodeDraft) : Except LoadError Node :=
  match NodeKind.ofType? d.type with
  | none => .error (.unknownKind d.id d.type)
  | some kind =>
    match Json.decode d.payload (NodeContent.decode kind) with
    | .ok content => .ok ⟨d.id, content⟩
    | .error reason => .error (.invalidData d.id reason)

/-- A node as it is authored. -/
def ofNode (n : Node) : NodeDraft :=
  ⟨n.id, n.kind.name, n.content.toJson⟩

end NodeDraft

/-! ### Reading and writing flows -/

namespace FlowDocument

/-- The fields of a flow document. -/
def record : Record (List NodeDraft × List Edge) :=
  (Record.defaulted "nodes" (Json.decodeList NodeDraft.decode) []).and <|
  Record.defaulted "edges" (Json.decodeList Edge.decode) []

/-- Reads a flow document. -/
def decode : Decoder FlowDocument :=
  record.into fun (nodes, edges) => ⟨nodes, edges⟩

/-- Writes nodes and edges as a flow document. -/
def toJson (nodes : List Node) (edges : List Edge) : Json :=
  .obj [("nodes", .arr (nodes.map fun n => (NodeDraft.ofNode n).toJson)),
    ("edges", .arr (edges.map Edge.toJson))]

/-- The flow that a document describes. -/
def toFlow (d : FlowDocument) : Except LoadError Flow := do
  let nodes ← d.nodes.mapM NodeDraft.toNode
  match Flow.build nodes d.edges with
  | .ok flow => return flow
  | .error defect => .error (.defect defect)

end FlowDocument

namespace Flow

/-- The flow that a JSON document holds. -/
def ofDocument (d : Json.Document) : Except LoadError Flow :=
  match d.decode FlowDocument.decode with
  | .error reason => .error (.notFlow reason)
  | .ok document => document.toFlow

/-- The flow that a text holds. -/
def ofText (text : String) : Except LoadError Flow :=
  ofDocument (.ofText text)

/-- The flow that a file holds. -/
def load : FileContent → Except LoadError Flow
  | .error reason => .error (.unreadable reason)
  | .ok bytes =>
    match String.fromUTF8? ⟨bytes.toArray⟩ with
    | none => .error (.unreadable .invalidText)
    | some text => ofText text

end Flow

end Dialogue
