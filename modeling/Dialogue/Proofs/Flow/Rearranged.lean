import Dialogue.Flow.Document
import Dialogue.Proofs.Json.Print
import Dialogue.Proofs.Rule.Rearranged

/-!
# Rearranged documents

A flow document may be saved with the fields of its objects in any order, and with fields that
the loader does not read: the place of a node in a drawing, colours, notes. None of this matters
for the flow that it holds (`Dialogue.Flow.ofText_eq_ok_of_alike`).

What may differ is told object by object: in documents, nodes, edges, and the data of each kind
of node (`Dialogue.FlowDocument.Alike`, `Dialogue.NodeContent.Alike`). Of a start node all data
may differ, and of the triggers of a question only the order of the keys. What the loader does
not read must be there to be passed over; data are kept as values before they are read, so they
must have a value, within the levels that the document leaves them.

Where the name of an operator or a combinator is written as an object, nothing may be added to it,
nor to an empty object that stands behind the name (`Dialogue.Flow.ofText_extended_name`).
-/

namespace Dialogue

open Json (Carries Likeness ListAlike MapAlike Reading Record RecordAlike IsText)

/-! ### Questions -/

namespace QuestionOption

/-- Two options that may differ in the order of their fields and in what nobody reads. -/
def Alike : Likeness :=
  RecordAlike record (fun _ => Eq) fun _ => True

theorem kept_alike : Alike.Kept :=
  Likeness.kept_record record fun _ => Likeness.kept_eq

theorem carries_alike : Carries .value Alike decode Eq := by
  have hrecord : record.Carries .value (fun _ => Eq) Eq := by
    refine .and_eq (Record.carries_same rfl) (.and_eq ?_ ?_ (by decide)) (by decide) <;>
      exact Record.carries_same rfl
  exact hrecord.into_eq rfl (fun _ _ => rfl) _

end QuestionOption

namespace Question

/-- How the fields of a question may differ. -/
def likes : String → Likeness
  | "options" => ListAlike QuestionOption.Alike
  | "conditionTriggers" => MapAlike
  | _ => Eq

/-- Two questions that may differ in the order of their fields, of their options and triggers
too, and in what nobody reads. Of the triggers every key is read. -/
def Alike : Likeness :=
  RecordAlike record likes fun _ => True

theorem kept_likes (name : String) : (likes name).Kept := by
  unfold likes
  split
  · exact QuestionOption.kept_alike.list
  · exact Likeness.kept_map
  · exact Likeness.kept_eq

theorem carries_alike : Carries .value Alike decode Eq := by
  have hoptions : Carries .value (ListAlike QuestionOption.Alike)
      (Json.decodeList QuestionOption.decode) Eq :=
    QuestionOption.carries_alike.list_eq rfl
  have htriggers : Carries .value MapAlike StringMap.decode Eq := Json.carries_map _ rfl
  have hrecord : record.Carries .value likes Eq := by
    refine .and_eq (Record.carries_same rfl) (.and_eq ?_ (.and_eq ?_ ?_ (by decide)) (by decide))
      (by decide)
    · exact Record.carries_single hoptions fun _ => rfl
    · exact Record.carries_same rfl
    · exact Record.carries_single htriggers fun _ => rfl
  exact hrecord.into_eq rfl (fun _ _ => rfl) _

end Question

/-! ### What nodes hold -/

namespace NodeContent

/-- The data of two nodes of a kind that may differ in the order of fields and in what is not
read for that kind. For a start node nothing is. -/
def Alike (kind : NodeKind) : Likeness :=
  match kind with
  | .start => fun _ _ => True
  | .message => RecordAlike ((Record.text "text").orAs ["message", "content"]) (fun _ => Eq)
      fun _ => True
  | .question => Question.Alike
  | .condition => RecordAlike (Record.required conditionKey Condition.decode (.multiOutput []))
      (fun _ => Condition.Alike) fun _ => True
  | .finish => RecordAlike
      ((Record.defaulted "message" (Json.decodeOption Json.decodeString) none).orAs ["text"])
      (fun _ => Eq) fun _ => True

theorem kept_alike (kind : NodeKind) : (Alike kind).Kept := by
  cases kind with
  | start => exact fun _ _ _ _ _ _ _ _ => trivial
  | message | finish => exact Likeness.kept_record _ fun _ => Likeness.kept_eq
  | question => exact Likeness.kept_record _ Question.kept_likes
  | condition => exact Likeness.kept_record _ fun _ => Condition.kept_alike

/-- **What a node holds is the same however its data are arranged.** -/
theorem carries_alike (kind : NodeKind) : Carries .value (Alike kind) (decode kind) Eq := by
  cases kind with
  | start => exact fun _ _ c _ hc => ⟨c, hc, rfl⟩
  | message => exact (Record.carries_same rfl).into_eq rfl (fun _ _ => rfl) _
  | question => exact Question.carries_alike.map fun _ _ => congrArg question
  | condition =>
    exact (Record.carries_single Condition.carries_alike fun _ => rfl).into_eq rfl
      (fun _ _ => rfl) _
  | finish => exact (Record.carries_same rfl).into_eq rfl (fun _ _ => rfl) _

/-- Data that are like others are there, unless the node is a start node. -/
theorem ne_null_of_alike {kind : NodeKind} (hkind : kind ≠ .start) {r r' : Reading}
    (h : Alike kind r r') : r ≠ .null ∧ r' ≠ .null := by
  cases kind with
  | start => exact absurd rfl hkind
  | message | question | condition | finish => exact RecordAlike.ne_null h

end NodeContent

/-! ### Nodes -/

/-- Whatever can be skipped is passed over in a text. -/
theorem Json.skip_text {r : Reading} (depth : Nat) (h : r.skipFault = none) :
    (Json.Source.text depth).skip r = .ok () := by
  rw [Json.Source.skip, h]
  rfl

namespace NodeDraft

/-- The levels that are left for the data of a node: a document, its list of nodes and a node
lie around them. -/
def dataDepth : Nat :=
  Json.depthLimit - 3

/-- The data of two nodes of an authored type, which may be missing in both. -/
def DataAlike (type : String) : Likeness := fun r r' =>
  ∀ kind, NodeKind.ofType? type = some kind →
    (r = .null ∧ r' = .null) ∨ NodeContent.Alike kind r r'

/-- How the fields of an authored node of a type may differ. -/
def likes (type : String) : String → Likeness
  | "type" => IsText type
  | "data" => fun r r' => DataAlike type r r' ∧ ∃ v', r'.value? dataDepth = .ok v'
  | _ => Eq

/-- Two authored nodes of one type that may differ in the order of their fields and of their
data, and in what is not read. The data are kept before they are read, so they must have a
value. -/
def Alike : Likeness := fun r r' =>
  ∃ type, RecordAlike record (likes type) (fun r => r.skipFault = none) r r'

theorem kept_dataAlike (type : String) : (DataAlike type).Kept := by
  intro r r' depth v v' h hv hv' kind hkind
  rcases h kind hkind with ⟨rfl, rfl⟩ | h
  · obtain rfl := Except.ok.inj hv
    obtain rfl := Except.ok.inj hv'
    exact .inl ⟨rfl, rfl⟩
  · exact .inr (NodeContent.kept_alike kind h hv hv')

/-- Data that are there are read as they are. -/
theorem payload_eq {d : NodeDraft} (h : d.data ≠ .null) : d.payload = d.data := by
  rw [payload]
  split
  · next hnull => exact absurd hnull h
  · rfl

theorem reading_eq_null {v : Json} (h : v.reading = .null) : v = .null := by
  cases v <;> first | rfl | cases h

/-- What two nodes of one kind hold is the same if their data are alike or missing. -/
theorem decode_payload_of_alike {d d' : NodeDraft} {kind : NodeKind} {c : NodeContent}
    (hdata : (d.data.reading = .null ∧ d'.data.reading = .null) ∨
      NodeContent.Alike kind d.data.reading d'.data.reading)
    (h : Json.decode d.payload (NodeContent.decode kind) = .ok c) :
    Json.decode d'.payload (NodeContent.decode kind) = .ok c := by
  rcases hdata with ⟨hnull, hnull'⟩ | halike
  · rw [payload, reading_eq_null hnull] at h
    rw [payload, reading_eq_null hnull']
    exact h
  · by_cases hkind : kind = .start
    · -- nothing is read for a start node, so its data may be missing in one of the two only
      subst hkind
      exact h
    · obtain ⟨hdata, hdata'⟩ := NodeContent.ne_null_of_alike hkind halike
      rw [payload_eq (mt (congrArg Json.reading) hdata)] at h
      rw [payload_eq (mt (congrArg Json.reading) hdata')]
      obtain ⟨_, h', rfl⟩ := NodeContent.carries_alike kind halike h
      exact h'

/-- **Authored nodes of one type with like data** are read to the same node. -/
theorem toNode_of_alike {d d' : NodeDraft} {n : Node} (hid : d.id = d'.id)
    (htype : d.type = d'.type) (hdata : DataAlike d.type d.data.reading d'.data.reading)
    (h : d.toNode = .ok n) : d'.toNode = .ok n := by
  rw [toNode] at h ⊢
  rw [← hid, ← htype]
  cases hkind : NodeKind.ofType? d.type with
  | none =>
    rw [hkind] at h
    cases h
  | some kind =>
    rw [hkind] at h
    cases hcontent : Json.decode d.payload (NodeContent.decode kind) with
    | error reason => simp [hcontent] at h
    | ok c => simpa [hcontent, decode_payload_of_alike (hdata kind hkind) hcontent] using h

/-- The drafts of two authored nodes that are alike have one id and one type, and like data. -/
theorem carries_record (type : String) :
    record.Carries (.text dataDepth) (likes type) fun p p' =>
      p.1 = p'.1 ∧ (p.2.1 = type ∧ p'.2.1 = type) ∧
        DataAlike type p.2.2.reading p'.2.2.reading := by
  have hid : (Record.text "id").Carries (.text dataDepth) (likes type) Eq :=
    Record.carries_same rfl
  have htype : (Record.text "type").Carries (.text dataDepth) (likes type)
      fun s s' => s = type ∧ s' = type :=
    Record.carries_single (Json.carries_isText _ type) fun h => absurd rfl h
  have hdata : (Record.defaulted "data" Json.decodeValue .null).Carries (.text dataDepth)
      (likes type) fun v v' => DataAlike type v.reading v'.reading :=
    Record.carries_single (Json.carries_value (kept_dataAlike type) dataDepth)
      fun _ _ _ => .inl ⟨rfl, rfl⟩
  exact hid.and (htype.and hdata (by decide)) (by decide)

/-- **An authored node is the same however it is arranged.** -/
theorem carries_alike : Carries (.text (dataDepth + 1)) Alike decode
    fun d d' => ∀ n, d.toNode = .ok n → d'.toNode = .ok n := by
  rintro r r' d ⟨type, hlike⟩ hd
  have hdraft : Carries (.text (dataDepth + 1))
      (RecordAlike record (likes type) fun r => r.skipFault = none) decode
      fun d d' => ∀ n, d.toNode = .ok n → d'.toNode = .ok n := by
    refine (carries_record type).into rfl (fun _ => Json.skip_text dataDepth) ?_
    rintro ⟨id, name, data⟩ ⟨id', name', data'⟩ ⟨hid, ⟨htype, htype'⟩, hdata⟩ n hn
    replace htype : name = type := htype
    replace htype' : name' = type := htype'
    subst htype htype'
    exact @toNode_of_alike ⟨id, _, data⟩ ⟨id', _, data'⟩ n hid rfl hdata hn
  exact hdraft hlike hd

end NodeDraft

/-! ### Documents -/

/-- Two edges that may differ in the order of their fields and in what nobody reads. -/
def Edge.Alike : Likeness :=
  RecordAlike record (fun _ => Eq) fun r => r.skipFault = none

theorem Edge.carries_alike (depth : Nat) : Carries (.text (depth + 1)) Alike decode Eq := by
  have hrecord : record.Carries (.text depth) (fun _ => Eq) Eq := by
    refine .and_eq (Record.carries_same rfl) (.and_eq ?_ (.and_eq ?_ ?_ (by decide)) (by decide))
      (by decide) <;> exact Record.carries_same rfl
  exact hrecord.into_eq rfl (fun _ => Json.skip_text depth) _

namespace FlowDocument

/-- How the fields of a document may differ. -/
def likes : String → Likeness
  | "nodes" => ListAlike NodeDraft.Alike
  | "edges" => ListAlike Edge.Alike
  | _ => Eq

/-- **Two documents are alike** if they may differ in the order of the fields of any object, in
what is not read, and in the data of start nodes. -/
def Alike : Likeness :=
  RecordAlike record likes fun r => r.skipFault = none

/-- Drafts that are read to the same nodes one by one are so all together. -/
theorem mapM_toNode_of_alike {ds ds' : List NodeDraft}
    (h : List.Forall₂ (fun d d' => ∀ n, d.toNode = .ok n → d'.toNode = .ok n) ds ds')
    {nodes : List Node} (hnodes : ds.mapM NodeDraft.toNode = .ok nodes) :
    ds'.mapM NodeDraft.toNode = .ok nodes := by
  induction h generalizing nodes with
  | nil => exact hnodes
  | cons hd _ ih =>
    rw [List.mapM_cons] at hnodes ⊢
    obtain ⟨n, hn, hnodes⟩ := Json.bind_eq_ok_iff.mp hnodes
    obtain ⟨ns, hns, hnodes⟩ := Json.bind_eq_ok_iff.mp hnodes
    exact Json.bind_eq_ok_iff.mpr ⟨n, hd n hn, Json.bind_eq_ok_iff.mpr ⟨ns, ih hns, hnodes⟩⟩

/-- **A document describes the same flow however it is arranged.** -/
theorem carries_alike : Carries (.text Json.depthLimit) Alike decode
    fun d d' => ∀ flow, d.toFlow = .ok flow → d'.toFlow = .ok flow := by
  have hnodes : Carries (.text (NodeDraft.dataDepth + 2)) (ListAlike NodeDraft.Alike)
      (Json.decodeList NodeDraft.decode)
      (List.Forall₂ fun d d' => ∀ n, d.toNode = .ok n → d'.toNode = .ok n) :=
    NodeDraft.carries_alike.list rfl
  have hedges : Carries (.text (NodeDraft.dataDepth + 2)) (ListAlike Edge.Alike)
      (Json.decodeList Edge.decode) Eq :=
    (Edge.carries_alike NodeDraft.dataDepth).list_eq rfl
  have hrecord : record.Carries (.text (NodeDraft.dataDepth + 2)) likes _ :=
    (Record.carries_single hnodes fun _ => .nil).and
      (Record.carries_single hedges fun _ => rfl) (by decide)
  refine hrecord.into rfl (fun _ => Json.skip_text _) ?_
  rintro ⟨drafts, edges⟩ ⟨drafts', _⟩ ⟨hdrafts, rfl⟩ flow hflow
  obtain ⟨nodes, hnodes, hbuild⟩ := Json.bind_eq_ok_iff.mp hflow
  exact Json.bind_eq_ok_iff.mpr ⟨nodes, mapM_toNode_of_alike hdrafts hnodes, hbuild⟩

end FlowDocument

/-! ### A document and its rearrangements -/

namespace FlowDocument

/-- A condition with one rule, which names its combinator and its operator in the given ways. -/
def condition (combinator operator : Json) : Json :=
  .obj [("mode", .str "simple"), ("operator", combinator),
    ("rules", .arr [.obj [("field", .str "go"), ("operator", operator), ("value", .str "yes")]])]

/-- A start node that leads to that condition. -/
def deciding (combinator operator : Json) : Json :=
  .obj [("nodes", .arr [
      .obj [("id", .str "start"), ("type", .str "start"), ("data", .obj [])],
      .obj [("id", .str "check"), ("type", .str "condition"),
        ("data", .obj [("conditionSpec", condition combinator operator)])]]),
    ("edges", .arr [.obj [("id", .str "first"), ("source", .str "start"),
      ("target", .str "check")]])]

/-- The condition with its fields in another order, its mode last, and with fields that are not
read. -/
def drawnCondition : Json :=
  .obj [("rules", .arr [.obj [("value", .str "yes"), ("note", .null), ("operator", .str "equals"),
      ("field", .str "go")]]),
    ("outputs", .null), ("operator", .str "and"), ("mode", .str "simple")]

/-- The same document as an editor may save it, with fields of its own. -/
def drawn : Json :=
  .obj [("version", .int 2),
    ("edges", .arr [.obj [("target", .str "check"), ("animated", .bool true),
      ("source", .str "start"), ("id", .str "first")]]),
    ("nodes", .arr [
      .obj [("position", .arr [.int 0, .int 0]), ("data", .arr [.str "unread"]),
        ("type", .str "start"), ("id", .str "start")],
      .obj [("data", .obj [("label", .str "Go on?"), ("conditionSpec", drawnCondition)]),
        ("id", .str "check"), ("type", .str "condition")]])]

theorem plain_deciding {combinator operator : Json} (hcombinator : combinator.Plain)
    (hoperator : operator.Plain) : (deciding combinator operator).Plain := by
  simp [deciding, condition, Json.Plain, Json.PlainItems, Json.PlainFields, hcombinator, hoperator]

theorem plain_drawn : drawn.Plain := by
  simp [drawn, drawnCondition, Json.Plain, Json.PlainItems, Json.PlainFields]

theorem alike_condition :
    Condition.Alike (condition (.str "and") (.str "equals")).reading drawnCondition.reading := by
  have hspare {α : Type} (rec : Record α) (fields : List (String × Json)) :
      rec.Spares (fun _ => True) (Json.fieldReadings fields) :=
    rec.spares_fieldReadings fun _ _ => trivial
  refine .simple (.fields ⟨?_, hspare _ _⟩)
  refine Record.foundAlike_and_iff.mpr ⟨?_, Record.foundAlike_and_iff.mpr ⟨?_, ?_⟩⟩
  · exact Record.foundAlike_single rfl (.cons ⟨rfl, rfl⟩ .nil)
  · exact Record.foundAlike_single rfl (.cons rfl .nil)
  · refine Record.foundAlike_single rfl (.cons (.items (.cons ?_ .nil)) .nil)
    refine .fields ⟨?_, hspare _ _⟩
    refine Record.foundAlike_and_iff.mpr ⟨?_, Record.foundAlike_and_iff.mpr ⟨?_, ?_⟩⟩ <;>
      exact Record.foundAlike_single rfl (.cons rfl .nil)

theorem alike_drawn :
    Alike (deciding (.str "and") (.str "equals")).reading drawn.reading := by
  have hspare {α : Type} (rec : Record α) (fields : List (String × Json)) :
      rec.Spares (fun r => r.skipFault = none) (Json.fieldReadings fields) :=
    rec.spares_fieldReadings fun e _ => Json.skipFault_reading e.2
  refine .fields ⟨Record.foundAlike_and_iff.mpr ⟨?_, ?_⟩, hspare _ _⟩
  · refine Record.foundAlike_single rfl (.cons (.items ?_) .nil)
    refine .cons ⟨"start", .fields ⟨?_, hspare _ _⟩⟩
      (.cons ⟨"condition", .fields ⟨?_, hspare _ _⟩⟩ .nil) <;>
      refine Record.foundAlike_and_iff.mpr ⟨Record.foundAlike_single rfl (.cons rfl .nil),
        Record.foundAlike_and_iff.mpr ⟨Record.foundAlike_single rfl (.cons ⟨rfl, rfl⟩ .nil),
          Record.foundAlike_single rfl (.cons ⟨?_, _, rfl⟩ .nil)⟩⟩
    · intro kind hkind
      obtain rfl : NodeKind.start = kind := Option.some.inj hkind
      exact .inr trivial
    · intro kind hkind
      obtain rfl : NodeKind.condition = kind := Option.some.inj hkind
      refine .inr (.fields ⟨?_, Record.spares_fieldReadings _ fun _ _ => trivial⟩)
      exact Record.foundAlike_single rfl (.cons alike_condition .nil)
  · refine Record.foundAlike_single rfl (.cons (.items (.cons ?_ .nil)) .nil)
    refine .fields ⟨?_, hspare _ _⟩
    refine Record.foundAlike_and_iff.mpr ⟨?_, Record.foundAlike_and_iff.mpr ⟨?_,
      Record.foundAlike_and_iff.mpr ⟨?_, Record.foundAlike_single rfl .nil⟩⟩⟩ <;>
      exact Record.foundAlike_single rfl (.cons rfl .nil)

end FlowDocument

/-- The flow that these documents hold. -/
def Flow.deciding : Flow where
  nodes := [⟨"start", .start⟩,
    ⟨"check", .condition (.simple ⟨.and, [⟨"go", .equals, "yes"⟩]⟩)⟩]
  edges := [⟨"first", "start", "check", none⟩]
  sound := by decide

namespace Flow

/-- **Neither the order of fields nor what is not read matters**: from a text that is like one
which holds a flow, the loader gets the same flow. -/
theorem ofText_eq_ok_of_alike {text text' : String} {flow : Flow} (h : ofText text = .ok flow)
    (halike : FlowDocument.Alike (Json.Document.ofText text).root
      (Json.Document.ofText text').root)
    (hend : (Json.Document.ofText text').trailing = false) : ofText text' = .ok flow := by
  rw [ofText, ofDocument] at h ⊢
  cases hd : (Json.Document.ofText text).decode FlowDocument.decode with
  | error reason =>
    rw [hd] at h
    cases h
  | ok d =>
    rw [hd] at h
    obtain ⟨root, hroot, hdone⟩ := Json.bind_eq_ok_iff.mp hd
    obtain ⟨d', hd', hflow⟩ := FlowDocument.carries_alike halike hroot
    have hsame : root = d := by
      split at hdone
      · cases hdone
      · exact Except.ok.inj hdone
    have hdocument : (Json.Document.ofText text').decode FlowDocument.decode = .ok d' := by
      refine Json.bind_eq_ok_iff.mpr ⟨d', hd', ?_⟩
      rw [hend]
      rfl
    rw [hdocument]
    exact hflow flow (hsame ▸ h)

/-- The document with its fields in another order, and with others among them, holds the same
flow. -/
theorem ofText_eq_ok_of_alike_deciding :
    let tidy := FlowDocument.deciding (.str "and") (.str "equals")
    let drawn := FlowDocument.drawn
    ofText tidy.compact = .ok deciding ∧
      FlowDocument.Alike (Json.Document.ofText tidy.compact).root
        (Json.Document.ofText drawn.compact).root ∧
      (Json.Document.ofText drawn.compact).trailing = false ∧
      ofText drawn.compact = .ok deciding := by
  intro tidy drawn
  have hplain : tidy.Plain := FlowDocument.plain_deciding trivial trivial
  have htidy := Json.ofText_compact hplain
  have hdrawn := Json.ofText_compact FlowDocument.plain_drawn
  have hread : ofText tidy.compact = .ok deciding := by
    rw [ofText, htidy]
    rfl
  have halike : FlowDocument.Alike (Json.Document.ofText tidy.compact).root
      (Json.Document.ofText drawn.compact).root := by
    rw [htidy, hdrawn]
    exact FlowDocument.alike_drawn
  have hend : (Json.Document.ofText drawn.compact).trailing = false := by
    rw [hdrawn]
    rfl
  exact ⟨hread, halike, hend, ofText_eq_ok_of_alike hread halike hend⟩

/-- **Nothing may be added to an object that stands for a name**, be it that of an operator or of a
combinator: not beside the name, and not to the empty object that may stand behind it. With another
field in either of them the document is refused. -/
theorem ofText_extended_name :
    let byOperator := fun operator => ofText (FlowDocument.deciding (.str "and") operator).compact
    let byCombinator := fun combinator =>
      ofText (FlowDocument.deciding combinator (.str "equals")).compact
    (byOperator (.obj [("equals", .null)]) = .ok deciding ∧
      byOperator (.obj [("equals", .null), ("note", .null)]) =
        .error (.invalidData "check" .invalidValue)) ∧
    (byOperator (.obj [("equals", .obj [])]) = .ok deciding ∧
      byOperator (.obj [("equals", .obj [("note", .null)])]) =
        .error (.invalidData "check" .invalidType)) ∧
    (byCombinator (.obj [("and", .null)]) = .ok deciding ∧
      byCombinator (.obj [("and", .null), ("note", .null)]) =
        .error (.invalidData "check" .invalidValue)) ∧
    byCombinator (.obj [("and", .obj [])]) = .ok deciding ∧
      byCombinator (.obj [("and", .obj [("note", .null)])]) =
        .error (.invalidData "check" .invalidType) := by
  intro byOperator byCombinator
  have hoperator : ∀ operator : Json, operator.Plain → byOperator operator =
      ofDocument (Json.document (FlowDocument.deciding (.str "and") operator)) :=
    fun operator h => congrArg ofDocument
      (Json.ofText_compact (FlowDocument.plain_deciding trivial h))
  have hcombinator : ∀ combinator : Json, combinator.Plain → byCombinator combinator =
      ofDocument (Json.document (FlowDocument.deciding combinator (.str "equals"))) :=
    fun combinator h => congrArg ofDocument
      (Json.ofText_compact (FlowDocument.plain_deciding h trivial))
  refine ⟨⟨(hoperator _ ?_).trans rfl, (hoperator _ ?_).trans rfl⟩,
    ⟨(hoperator _ ?_).trans rfl, (hoperator _ ?_).trans rfl⟩,
    ⟨(hcombinator _ ?_).trans rfl, (hcombinator _ ?_).trans rfl⟩,
    (hcombinator _ ?_).trans rfl, (hcombinator _ ?_).trans rfl⟩ <;>
    simp [Json.Plain, Json.PlainFields]

end Flow

end Dialogue
