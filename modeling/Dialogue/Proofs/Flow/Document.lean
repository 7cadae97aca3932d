import Dialogue.Flow.Document
import Dialogue.Proofs.Flow.Sound
import Dialogue.Proofs.Rule.Codec

/-!
# Documents read as they were written

Reading a document undoes writing it: whatever nodes and edges are written, as soon as the text
is read as the document that was written, it holds the flow that the nodes and edges make, or is
refused for the defect for which they make none (`Dialogue.Flow.ofText_toJson`). Both printed
texts of the document are read as it.

The edges and the frames of the nodes are decoded as they were written. The data of a node are
kept as a value first, and decoded by the type of the node from their sorted form
(`Dialogue.NodeContent.decode_sorted`).
-/

namespace Dialogue

open Json (Decodes Record)

/-! ### Maps of texts -/

namespace StringMap

variable (m : StringMap String)

theorem plain_toJson : m.toJson.Plain :=
  Json.plainFields_iff.mpr (List.forall_mem_map.mpr fun _ _ => trivial)

theorem depth_toJson : m.toJson.depth ≤ 1 :=
  Nat.succ_le_succ (Json.fieldsDepth_le_iff.mpr (List.forall_mem_map.mpr fun _ _ => Nat.le_refl 0))

/-- A map is written in the order of its keys. -/
theorem sorted_toJson : m.toJson.sorted = m.toJson := by
  rw [toJson, Json.sorted, Json.sortedFields_eq, List.map_map]
  exact congrArg Json.obj (entries_ofList (List.pairwise_map.mpr m.ascending))

/-- **A map is read as it was written.** -/
theorem decodes_toJson : Decodes StringMap.decode m.toJson m :=
  Json.decodes_map fun e _ => Json.decodes_string e.2

end StringMap

/-! ### Questions -/

namespace QuestionOption

variable (o : QuestionOption)

theorem plain_toJson : o.toJson.Plain := by
  simp [toJson, Json.Plain, Json.PlainFields]

theorem depth_toJson : o.toJson.depth = 1 :=
  rfl

theorem sorted_toJson : o.toJson.sorted = o.toJson :=
  Json.sorted_obj (.refl _) (show ["id", "label", "value"].Pairwise (· < ·) by decide)

/-- **An option is read as it was written.** -/
theorem decodes_toJson : Decodes QuestionOption.decode o.toJson o := by
  refine Record.Reads.into (a := (o.id, o.label, o.value)) ?_ _
  refine .and ?_ (.and ?_ ?_ (by decide)) (by decide) <;> exact Record.reads_text rfl

end QuestionOption

namespace Question

variable (q : Question)

theorem plain_toJson : q.toJson.Plain := by
  have hoptions : Json.PlainItems (q.options.map QuestionOption.toJson) :=
    Json.plainItems_map fun o _ => o.plain_toJson
  simp [toJson, Json.Plain, Json.PlainFields, hoptions, q.triggers.plain_toJson]

theorem depth_toJson : q.toJson.depth ≤ 3 := by
  have hoptions : Json.itemsDepth (q.options.map QuestionOption.toJson) ≤ 1 :=
    Json.itemsDepth_map_le fun o _ => Nat.le_of_eq o.depth_toJson
  have htriggers := q.triggers.depth_toJson
  simp only [toJson, Json.depth, Json.fieldsDepth]
  omega

/-- In sorted form the triggers of a question come first. -/
theorem sorted_toJson : q.toJson.sorted =
    .obj [("conditionTriggers", q.triggers.toJson),
      ("options", .arr (q.options.map QuestionOption.toJson)), ("text", .str q.text),
      ("variableName", .str q.variableName)] := by
  have hoptions : Json.sortedItems (q.options.map QuestionOption.toJson) =
      q.options.map QuestionOption.toJson :=
    Json.sortedItems_map fun o _ => o.sorted_toJson
  refine Json.sorted_obj ?_
    (show ["conditionTriggers", "options", "text", "variableName"].Pairwise (· < ·) by decide)
  simp only [Json.sortedFields, Json.sorted, hoptions, q.triggers.sorted_toJson]
  exact (List.perm_append_singleton _ [_, _, _]).trans ((List.Perm.swap ..).cons _)

/-- **A question is read as it was written.** -/
theorem decodes_sorted : Decodes Question.decode q.toJson.sorted q := by
  rw [sorted_toJson]
  refine Record.Reads.into (a := (q.text, q.options, q.variableName, q.triggers)) ?_ _
  refine .and ?_ (.and ?_ (.and ?_ ?_ (by decide)) (by decide)) (by decide)
  · exact Record.reads_of_found rfl (Json.decodes_string q.text)
  · exact Record.reads_defaulted rfl (Json.decodes_list fun o _ => o.decodes_toJson)
  · exact Record.reads_defaulted rfl (Json.decodes_string q.variableName)
  · exact Record.reads_defaulted rfl q.triggers.decodes_toJson

end Question

/-! ### Edges -/

namespace Edge

variable (e : Edge)

theorem plain_toJson : e.toJson.Plain := by
  cases hhandle : e.handle <;>
    simp [toJson, hhandle, Json.optionalField, Json.Plain, Json.PlainFields]

theorem depth_toJson : e.toJson.depth = 1 := by
  cases hhandle : e.handle <;>
    simp [toJson, hhandle, Json.optionalField, Json.depth, Json.fieldsDepth]

/-- **An edge is read as it was written.** -/
theorem decodes_toJson : Decodes Edge.decode e.toJson e := by
  obtain ⟨id, source, target, handle⟩ := e
  refine Record.Reads.into (a := (id, source, target, handle)) ?_ _
  refine .and ?_ (.and ?_ (.and ?_ ?_ (by decide)) (by decide)) (by decide)
  · cases handle <;> exact Record.reads_text rfl
  · cases handle <;> exact Record.reads_text rfl
  · cases handle <;> exact Record.reads_text rfl
  · cases handle with
    | none => exact Record.reads_of_missing rfl nofun
    | some h => exact Record.reads_defaulted rfl ((Json.decodes_string h).option nofun)

end Edge

/-! ### Nodes -/

namespace NodeContent

theorem plain_toJson (c : NodeContent) : c.toJson.Plain := by
  cases c with
  | question q => exact q.plain_toJson
  | condition c => exact ⟨c.plain_toJson, trivial⟩
  | finish text => cases text <;> simp [toJson, Json.optionalField, Json.Plain, Json.PlainFields]
  | _ => simp [toJson, Json.Plain, Json.PlainFields]

theorem depth_toJson (c : NodeContent) : c.toJson.depth ≤ 6 := by
  cases c with
  | question q => exact Nat.le_trans q.depth_toJson (by decide)
  | condition c =>
    have hdepth := c.depth_toJson
    simp only [toJson, Json.depth, Json.fieldsDepth]
    omega
  | finish text =>
    cases text <;> simp [toJson, Json.optionalField, Json.depth, Json.fieldsDepth]
  | _ => simp [toJson, Json.depth, Json.fieldsDepth]

/-- **What a node holds is read by the type of the node as it was written.** -/
theorem decode_sorted (n : Node) :
    Json.decode n.content.toJson.sorted (NodeContent.decode n.kind) = .ok n.content := by
  obtain ⟨id, content⟩ := n
  cases content with
  | start => rfl
  | message text => rfl
  | question q => exact (q.decodes_sorted.map question).value
  | condition c =>
    have hread : (Record.required conditionKey Condition.decode (.multiOutput [])).Reads
        [(conditionKey, c.toJson.sorted)] c := Record.reads_required rfl c.decodes_sorted
    exact (hread.into condition).value
  | finish text => cases text <;> rfl

end NodeContent

/-- A kind is named by its name. -/
theorem NodeKind.ofType?_name (kind : NodeKind) : ofType? kind.name = some kind := by
  cases kind <;> decide

namespace NodeDraft

/-- A node as it is authored, and its data as they are kept. -/
def kept (n : Node) : NodeDraft :=
  ⟨n.id, n.kind.name, n.content.toJson.sorted⟩

theorem plain_toJson (n : Node) : (ofNode n).toJson.Plain := by
  simp [toJson, ofNode, Json.Plain, Json.PlainFields, n.content.plain_toJson]

theorem depth_toJson (n : Node) : (ofNode n).toJson.depth ≤ 7 := by
  have hdepth := n.content.depth_toJson
  simp only [toJson, ofNode, Json.depth, Json.fieldsDepth]
  omega

/-- **A node is read as it was written**, its data in sorted form. -/
theorem decodes_toJson (n : Node) : Decodes NodeDraft.decode (ofNode n).toJson (kept n) := by
  have hdata : n.content.toJson.depth ≤ Json.depthLimit :=
    Nat.le_trans n.content.depth_toJson (by decide)
  refine Record.Reads.into (a := (n.id, n.kind.name, n.content.toJson.sorted)) ?_ _
  refine .and ?_ (.and ?_ ?_ (by decide)) (by decide)
  · exact Record.reads_text rfl
  · exact Record.reads_text rfl
  · exact Record.reads_defaulted rfl (Json.decodes_value hdata)

/-- **What is kept of a node is the node.** -/
theorem toNode_kept (n : Node) : (kept n).toNode = .ok n := by
  have hpayload : (kept n).payload = n.content.toJson.sorted := by
    obtain ⟨id, content⟩ := n
    cases content with
    | finish text => cases text <;> rfl
    | condition c => cases c <;> rfl
    | _ => rfl
  have hkind : NodeKind.ofType? (kept n).type = some n.kind := n.kind.ofType?_name
  rw [toNode, hkind, hpayload]
  simp only [NodeContent.decode_sorted n]
  rfl

end NodeDraft

/-! ### Flows -/

namespace FlowDocument

variable (nodes : List Node) (edges : List Edge)

theorem plain_toJson : (toJson nodes edges).Plain := by
  have hnodes : Json.PlainItems (nodes.map fun n => (NodeDraft.ofNode n).toJson) :=
    Json.plainItems_map fun n _ => NodeDraft.plain_toJson n
  have hedges : Json.PlainItems (edges.map Edge.toJson) :=
    Json.plainItems_map fun e _ => e.plain_toJson
  exact ⟨hnodes, hedges, trivial⟩

theorem depth_toJson : (toJson nodes edges).depth ≤ 9 := by
  have hnodes : Json.itemsDepth (nodes.map fun n => (NodeDraft.ofNode n).toJson) ≤ 7 :=
    Json.itemsDepth_map_le fun n _ => NodeDraft.depth_toJson n
  have hedges : Json.itemsDepth (edges.map Edge.toJson) ≤ 1 :=
    Json.itemsDepth_map_le fun e _ => Nat.le_of_eq e.depth_toJson
  simp only [toJson, Json.depth, Json.fieldsDepth]
  omega

/-- **A document is read as it was written**, the data of its nodes in sorted form. -/
theorem decodes_toJson :
    Decodes FlowDocument.decode (toJson nodes edges) ⟨nodes.map NodeDraft.kept, edges⟩ := by
  refine Record.Reads.into (a := (nodes.map NodeDraft.kept, edges)) (.and ?_ ?_ (by decide)) _
  · exact Record.reads_defaulted rfl (Json.decodes_listOf fun n _ => NodeDraft.decodes_toJson n)
  · exact Record.reads_defaulted rfl (Json.decodes_list fun e _ => e.decodes_toJson)

/-- What is kept of the nodes are the nodes. -/
theorem mapM_toNode : (nodes.map NodeDraft.kept).mapM NodeDraft.toNode = .ok nodes := by
  induction nodes with
  | nil => rfl
  | cons n rest ih =>
    rw [List.map_cons, List.mapM_cons, NodeDraft.toNode_kept, ih]
    rfl

end FlowDocument

namespace Flow

/-- **Reading a document undoes writing it.** From a text that is read as the document of some
nodes and edges the loader gets what these make: the same flow, or the same defect. The text may
be the document as it is printed, compact or indented. -/
theorem ofText_toJson (nodes : List Node) (edges : List Edge) :
    let written := FlowDocument.toJson nodes edges
    let made := (build nodes edges).mapError LoadError.defect
    (∀ text, Json.Document.ofText text = Json.document written → ofText text = made) ∧
      ofText written.compact = made ∧ ofText written.pretty = made := by
  intro written made
  have hread : ∀ text, Json.Document.ofText text = Json.document written →
      ofText text = made := by
    intro text htext
    have hdepth : written.depth ≤ Json.depthLimit :=
      Nat.le_trans (FlowDocument.depth_toJson nodes edges) (by decide)
    have hdocument := (FlowDocument.decodes_toJson nodes edges).document hdepth
    rw [ofText, htext, ofDocument, hdocument]
    simp only [FlowDocument.toFlow, FlowDocument.mapM_toNode, bind, Except.bind]
    cases hmade : build nodes edges <;> simp only [made, hmade] <;> rfl
  have hplain := FlowDocument.plain_toJson nodes edges
  exact ⟨hread, hread _ (Json.ofText_compact hplain), hread _ (Json.ofText_pretty hplain)⟩

/-- The flow that asks for a name is loaded from its document, and without its start node it is
refused for that defect. -/
theorem ofText_toJson_gated :
    let written := FlowDocument.toJson Flow.gated.nodes Flow.gated.edges
    let headless := FlowDocument.toJson Flow.gated.nodes.tail Flow.gated.edges
    Json.Document.ofText written.pretty = Json.document written ∧
      ofText written.pretty = .ok .gated ∧ ofText written.compact = .ok .gated ∧
      ofText headless.compact = .error (.defect .missingStart) := by
  intro written headless
  have hread : Json.Document.ofText written.pretty = Json.document written :=
    Json.ofText_pretty (FlowDocument.plain_toJson _ _)
  have hmade : build Flow.gated.nodes Flow.gated.edges = .ok .gated := rfl
  have hrefused : build Flow.gated.nodes.tail Flow.gated.edges = .error .missingStart := rfl
  obtain ⟨hall, hcompact, -⟩ := ofText_toJson Flow.gated.nodes Flow.gated.edges
  obtain ⟨-, hheadless, -⟩ := ofText_toJson Flow.gated.nodes.tail Flow.gated.edges
  rw [hmade] at hall hcompact
  rw [hrefused] at hheadless
  exact ⟨hread, hall _ hread, hcompact, hheadless⟩

end Flow

end Dialogue
