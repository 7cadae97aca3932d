import Dialogue.Trace.Codec
import Dialogue.Proofs.Json.Print
import Dialogue.Proofs.Json.Record

/-!
# Traces read as they were written

An entry of a trace is one object with the number of its step, the name of its event and the
fields of the event, and it decodes to the entry (`Dialogue.TraceEntry.decodes_toJson`): the
number is taken out first, then the name, and the variant with that name reads what is left
(`Dialogue.TraceEvent.exists_variant`).

Version and steps are numbers of 32 bits in a trace that is read, so they have to be so in one
that is written.
-/

namespace Dialogue

open Json (Decodes Record)

theorem NodeKind.decodes_name (kind : NodeKind) : Decodes NodeKind.decode (.str kind.name) kind :=
  Json.decodes_name (by cases kind <;> rfl)

namespace TraceEvent

variable (e : TraceEvent)

/-- **Every event has a variant with its name, which reads its fields as they were written.** -/
theorem exists_variant :
    ∃ decode, variants.find? (·.name == e.name) = some ⟨e.name, .record decode⟩ ∧
      Decodes decode (.obj e.details) e := by
  cases e with
  | sessionStarted startNode =>
    exact ⟨_, rfl, Record.Reads.into (a := startNode) (Record.reads_text rfl) _⟩
  | nodeEntered node kind =>
    refine ⟨_, rfl, Record.Reads.into (a := (node, kind)) (.and ?_ ?_ (by decide)) _⟩
    · exact Record.reads_text rfl
    · exact Record.reads_required rfl kind.decodes_name
  | ruleEvaluated node field operator operand actual result =>
    refine ⟨_, rfl, Record.Reads.into (a := (node, field, operator, operand, actual, result)) ?_ _⟩
    refine .and ?_ (.and ?_ (.and ?_ (.and ?_ (.and ?_ ?_ (by decide)) (by decide)) (by decide))
      (by decide)) (by decide)
    · exact Record.reads_text rfl
    · exact Record.reads_text rfl
    · exact Record.reads_text rfl
    · exact Record.reads_text rfl
    · exact Record.reads_optionalText rfl
    · exact Record.reads_required rfl (Json.decodes_bool result)
  | ruleSetEvaluated node output result =>
    refine ⟨_, rfl, Record.Reads.into (a := (node, output, result)) ?_ _⟩
    refine .and ?_ (.and ?_ ?_ (by decide)) (by decide)
    · exact Record.reads_text rfl
    · exact Record.reads_optionalText rfl
    · exact Record.reads_required rfl (Json.decodes_bool result)
  | guardRejected source target handle expected =>
    refine ⟨_, rfl, Record.Reads.into (a := ((source, target), handle, expected)) ?_ _⟩
    refine .and (.and ?_ ?_ (by decide)) (.and ?_ ?_ (by decide)) (by decide)
    · exact Record.reads_text rfl
    · exact Record.reads_text rfl
    · exact Record.reads_optionalText rfl
    · exact Record.reads_text rfl
  | edgeResolved source target handle =>
    refine ⟨_, rfl, Record.Reads.into (a := ((source, target), handle)) ?_ _⟩
    refine .and (.and ?_ ?_ (by decide)) ?_ (by decide)
    · exact Record.reads_text rfl
    · exact Record.reads_text rfl
    · exact Record.reads_optionalText rfl
  | answerCommitted node variableName value =>
    refine ⟨_, rfl, Record.Reads.into (a := (node, variableName, value)) ?_ _⟩
    refine .and ?_ (.and ?_ ?_ (by decide)) (by decide) <;> exact Record.reads_text rfl
  | suspended node =>
    exact ⟨_, rfl, Record.Reads.into (a := node) (Record.reads_text rfl) _⟩
  | completed early =>
    refine ⟨_, rfl, Record.Reads.into (a := early) ?_ _⟩
    exact Record.reads_required rfl (Json.decodes_bool early)
  | aborted reason =>
    exact ⟨_, rfl, Record.Reads.into (a := reason) (Record.reads_text rfl) _⟩

/-- No field of an event is called like its tag. -/
theorem untagged_toFields : Json.untagged tag e.toFields = e.details := by
  cases e <;> rfl

theorem filter_toFields : e.toFields.filter (·.1 == tag) = [(tag, .str e.name)] := by
  cases e <;> rfl

/-- **The fields of an event that were set aside are read as the event.** -/
theorem decodeTaggedFields_toFields :
    Json.decodeTaggedFields tag variants .aside .closed (Json.fieldReadings e.toFields) =
      .ok e := by
  obtain ⟨decode, hfind, hdecodes⟩ := e.exists_variant
  refine Json.decodeTaggedFields_eq_ok e.filter_toFields hfind ?_ trivial
  rw [untagged_toFields]
  exact hdecodes .aside trivial

theorem plain_toFields : Json.PlainFields e.toFields := by
  cases e <;> simp [toFields, details, Json.PlainFields, Json.Plain]

theorem depth_toFields : Json.fieldsDepth e.toFields = 0 := by
  cases e <;> simp [toFields, details, Json.fieldsDepth, Json.depth]

end TraceEvent

namespace TraceEntry

variable (e : TraceEntry)

theorem plain_toJson {e : TraceEntry} (h : e.step < 2 ^ 32) : e.toJson.Plain :=
  ⟨Json.plain_nat (Nat.lt_trans h (by decide)), e.event.plain_toFields⟩

theorem depth_toJson : e.toJson.depth = 1 := by
  simp [toJson, Json.depth, Json.fieldsDepth, e.event.depth_toFields]

/-- **An entry is read as it was written.** -/
theorem decodes_toJson {e : TraceEntry} (h : e.step < 2 ^ 32) :
    Decodes TraceEntry.decode e.toJson e := by
  obtain ⟨step, event⟩ := e
  have hothers : record.others (("step", .int step) :: event.toFields) = event.toFields := by
    cases event <;> rfl
  have hstep : record.Reads (("step", .int step) :: event.toFields) step := by
    refine Record.reads_required ?_ (Json.decodes_nat32 h)
    cases event <;> rfl
  refine hstep.split ?_
  rw [hothers, TraceEvent.decodeTaggedFields_toFields]
  rfl

end TraceEntry

namespace Trace

/-- The version and the steps of a trace are numbers of 32 bits. -/
structure Counted (t : Trace) : Prop where
  version : t.version < 2 ^ 32
  step : ∀ e ∈ t.entries, e.step < 2 ^ 32

variable {t : Trace}

theorem plain_toJson (h : t.Counted) : t.toJson.Plain := by
  have hentries : Json.PlainItems (t.entries.map TraceEntry.toJson) :=
    Json.plainItems_map fun e he => TraceEntry.plain_toJson (h.step e he)
  have hversion : (Json.int t.version).Plain :=
    Json.plain_nat (Nat.lt_trans h.version (by decide))
  exact ⟨hversion, trivial, Json.plain_ofOption _, Json.plain_ofOption _, hentries, trivial⟩

theorem depth_toJson (t : Trace) : t.toJson.depth ≤ 3 := by
  have hentries : Json.itemsDepth (t.entries.map TraceEntry.toJson) ≤ 1 :=
    Json.itemsDepth_map_le fun e _ => Nat.le_of_eq e.depth_toJson
  simp only [toJson, Json.depth, Json.fieldsDepth, Json.depth_ofOption]
  omega

/-- **A trace is read as it was written**, whatever its version and however its entries are
numbered. -/
theorem decodes_toJson (h : t.Counted) : Decodes Trace.decode t.toJson t := by
  obtain ⟨version, sessionId, startedAt, finishedAt, entries⟩ := t
  refine Record.Reads.into (a := (version, sessionId, startedAt, finishedAt, entries)) ?_ _
  refine .and ?_ (.and ?_ (.and ?_ (.and ?_ ?_ (by decide)) (by decide)) (by decide)) (by decide)
  · exact Record.reads_required rfl (Json.decodes_nat32 h.version)
  · exact Record.reads_text rfl
  · exact Record.reads_optionalText rfl
  · exact Record.reads_optionalText rfl
  · refine Record.reads_required rfl (Json.decodes_list fun e he => ?_)
    exact TraceEntry.decodes_toJson (h.step e he)

end Trace

end Dialogue
