import Dialogue.Rule.Codec
import Dialogue.Proofs.Json.Print
import Dialogue.Proofs.Json.Record

/-!
# Conditions read as they were written

Rules, rule sets, outputs and conditions decode to what they were written for. Conditions stand
in the data of nodes, which are kept as values before they are decoded; so what is decoded is
the sorted form of what was written (`Dialogue.Condition.decodes_sorted`).
-/

namespace Dialogue

open Json (Decodes Record)

theorem Operator.decodes_name (op : Operator) : Decodes Operator.decode (.str op.name) op :=
  Json.decodes_name (by cases op <;> rfl)

theorem Combinator.decodes_name (c : Combinator) : Decodes Combinator.decode (.str c.name) c :=
  Json.decodes_name (by cases c <;> rfl)

/-! ### Rules -/

namespace Rule

variable (r : Rule)

/-- The fields of a rule are written in the order of their keys. -/
theorem sorted_toJson : r.toJson.sorted = r.toJson :=
  Json.sorted_obj (.refl _) (show ["field", "operator", "value"].Pairwise (· < ·) by decide)

theorem plain_toJson : r.toJson.Plain := by
  simp [toJson, Json.Plain, Json.PlainFields]

theorem depth_toJson : r.toJson.depth = 1 :=
  rfl

/-- **A rule is read as it was written.** -/
theorem decodes_toJson : Decodes Rule.decode r.toJson r := by
  refine Record.Reads.into (a := (r.field, r.operator, r.operand)) ?_ _
  refine .and (Record.reads_text rfl) (.and ?_ ?_ (by decide)) (by decide)
  · exact Record.reads_required rfl r.operator.decodes_name
  · exact Record.reads_defaulted rfl (Json.decodes_string r.operand)

end Rule

/-! ### Rule sets -/

namespace RuleSet

variable (s : RuleSet)

theorem plain_toFields : Json.PlainFields s.toFields := by
  have hrules : Json.PlainItems (s.rules.map Rule.toJson) :=
    Json.plainItems_map fun r _ => r.plain_toJson
  simp [toFields, Json.PlainFields, Json.Plain, hrules]

theorem depth_toFields : Json.fieldsDepth s.toFields ≤ 2 := by
  have hrules : Json.itemsDepth (s.rules.map Rule.toJson) ≤ 1 :=
    Json.itemsDepth_map_le fun r _ => Nat.le_of_eq r.depth_toJson
  simp [toFields, Json.fieldsDepth, Json.depth, hrules]

/-- The fields of a rule set are written in sorted form. -/
theorem sortedFields_toFields : Json.sortedFields s.toFields = s.toFields := by
  have hrules : Json.sortedItems (s.rules.map Rule.toJson) = s.rules.map Rule.toJson :=
    Json.sortedItems_map fun r _ => r.sorted_toJson
  simp only [toFields, Json.sortedFields, Json.sorted, hrules]

/-- **A rule set is read as it was written**, wherever its fields stand. -/
theorem reads_of_found {fields : List (String × Json)}
    (hcombinator : fields.filter ("operator" == ·.1) = [("operator", .str s.combinator.name)])
    (hrules : fields.filter ("rules" == ·.1) = [("rules", .arr (s.rules.map Rule.toJson))]) :
    record.Reads fields (s.combinator, s.rules) := by
  refine .and ?_ ?_ (by decide)
  · exact Record.reads_defaulted hcombinator s.combinator.decodes_name
  · exact Record.reads_defaulted hrules (Json.decodes_list fun r _ => r.decodes_toJson)

end RuleSet

/-! ### Outputs -/

namespace Output

variable (o : Output)

theorem plain_toJson : o.toJson.Plain := by
  have hset := o.ruleSet.plain_toFields
  cases hlabel : o.label <;>
    simpa [toJson, hlabel, Json.optionalField, Json.Plain, Json.PlainFields] using hset

theorem depth_toJson : o.toJson.depth ≤ 3 := by
  have hset := o.ruleSet.depth_toFields
  cases hlabel : o.label <;>
    simp only [toJson, hlabel, Json.optionalField, Json.depth, Json.fieldsDepth,
      List.nil_append, List.cons_append] <;>
    omega

/-- In sorted form the value of an output comes last. -/
theorem sorted_toJson : o.toJson.sorted =
    .obj (Json.optionalField "label" .str o.label ++
      (o.ruleSet.toFields ++ [("value", .str o.value)])) := by
  obtain ⟨value, label, ruleSet⟩ := o
  have hset := ruleSet.sortedFields_toFields
  have hlast (fields : List (String × Json)) :
      (("value", .str value) :: fields).Perm (fields ++ [("value", .str value)]) :=
    (List.perm_append_singleton ..).symm
  cases label with
  | none =>
    refine Json.sorted_obj ?_ (show ["operator", "rules", "value"].Pairwise (· < ·) by decide)
    rw [Json.optionalField, List.nil_append, Json.sortedFields, hset]
    exact hlast _
  | some label =>
    refine Json.sorted_obj ?_
      (show ["label", "operator", "rules", "value"].Pairwise (· < ·) by decide)
    rw [Json.optionalField, List.singleton_append, Json.sortedFields, Json.sortedFields, hset]
    exact hlast _

/-- **An output is read as it was written.** -/
theorem decodes_sorted : Decodes Output.decode o.toJson.sorted o := by
  obtain ⟨value, label, ruleSet⟩ := o
  rw [sorted_toJson]
  have hset : RuleSet.record.Reads ruleSet.toFields (ruleSet.combinator, ruleSet.rules) :=
    ruleSet.reads_of_found rfl rfl
  cases label with
  | none =>
    refine Record.Reads.split (a := (value, none)) (.and ?_ ?_ (by decide)) ?_
    · exact Record.reads_text rfl
    · exact Record.reads_of_missing rfl nofun
    · exact congrArg (Except.bind · _) hset.decodeAside
  | some label =>
    refine Record.Reads.split (a := (value, some label)) (.and ?_ ?_ (by decide)) ?_
    · exact Record.reads_text rfl
    · exact Record.reads_defaulted rfl ((Json.decodes_string label).option nofun)
    · exact congrArg (Except.bind · _) hset.decodeAside

end Output

/-! ### Conditions -/

namespace Condition

theorem plain_toJson (c : Condition) : c.toJson.Plain := by
  cases c with
  | simple s => simpa [toJson, Json.Plain, Json.PlainFields] using s.plain_toFields
  | multiOutput outputs =>
    have houtputs : Json.PlainItems (outputs.map Output.toJson) :=
      Json.plainItems_map fun o _ => o.plain_toJson
    simp [toJson, Json.Plain, Json.PlainFields, houtputs]

theorem depth_toJson (c : Condition) : c.toJson.depth ≤ 5 := by
  cases c with
  | simple s =>
    have hset := s.depth_toFields
    simp only [toJson, Json.depth, Json.fieldsDepth]
    omega
  | multiOutput outputs =>
    have houtputs : Json.itemsDepth (outputs.map Output.toJson) ≤ 3 :=
      Json.itemsDepth_map_le fun o _ => o.depth_toJson
    simp only [toJson, Json.depth, Json.fieldsDepth]
    omega

/-- **A condition is read as it was written.** -/
theorem decodes_sorted (c : Condition) : Decodes Condition.decode c.toJson.sorted c := by
  cases c with
  | simple s =>
    have hsorted : (simple s).toJson.sorted = .obj ((modeKey, .str "simple") :: s.toFields) := by
      refine Json.sorted_obj ?_ (show ["mode", "operator", "rules"].Pairwise (· < ·) by decide)
      rw [Json.sortedFields, s.sortedFields_toFields]
      exact .refl _
    have hset : RuleSet.record.Reads s.toFields (s.combinator, s.rules) :=
      s.reads_of_found rfl rfl
    rw [hsorted]
    refine Json.decodes_tagged rfl rfl ?_
    exact ((hset.into _).map simple) .aside trivial
  | multiOutput outputs =>
    have hsorted : (multiOutput outputs).toJson.sorted =
        .obj [(modeKey, .str "multi_output"),
          ("outputs", .arr (outputs.map fun o => o.toJson.sorted))] := by
      refine Json.sorted_obj ?_ (show ["mode", "outputs"].Pairwise (· < ·) by decide)
      simp only [Json.sortedFields, Json.sorted, Json.sortedItems_eq, List.map_map]
      exact .refl _
    rw [hsorted]
    refine Json.decodes_tagged rfl rfl ?_
    refine Record.Reads.into (a := outputs) ?_ _ .aside trivial
    exact Record.reads_required rfl (Json.decodes_list fun o _ => o.decodes_sorted)

end Condition

end Dialogue
