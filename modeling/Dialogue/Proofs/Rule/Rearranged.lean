import Dialogue.Rule.Codec
import Dialogue.Proofs.Json.Rearranged

/-!
# Rearranged conditions

The conditions in the data of a node are read from values that were kept. How the fields of
rules, rule sets, outputs and conditions are ordered does not matter there, nor what else
their objects hold. Of a condition the mode says which fields are read at all
(`Dialogue.Condition.Alike`, `Dialogue.Condition.carries_alike`).

An operator and a combinator may be written as an object too, with nothing behind the name or an
empty object. Nothing may be added to either object, so these two are told apart in every detail.
-/

namespace Dialogue

open Json (Carries Likeness ListAlike Record RecordAlike IsText)

/-! ### Rules -/

namespace Rule

/-- Two rules that may differ in the order of their fields and in what nobody reads. -/
def Alike : Likeness :=
  RecordAlike record (fun _ => Eq) fun _ => True

theorem kept_alike : Alike.Kept :=
  Likeness.kept_record record fun _ => Likeness.kept_eq

theorem carries_alike : Carries .aside Alike decode Eq := by
  have hrecord : record.Carries .aside (fun _ => Eq) Eq := by
    refine .and_eq (Record.carries_same rfl) (.and_eq ?_ ?_ (by decide)) (by decide) <;>
      exact Record.carries_same rfl
  exact hrecord.into_eq rfl (fun _ _ => rfl) _

end Rule

/-! ### Rule sets -/

/-- The fields of two rule sets are alike if their rules are. -/
theorem RuleSet.carries_record {likes : String → Likeness} (hoperator : likes "operator" = Eq)
    (hrules : likes "rules" = ListAlike Rule.Alike) : record.Carries .aside likes Eq := by
  refine .and_eq (Record.carries_same hoperator) (Record.carries_single ?_ fun _ => rfl) (by decide)
  exact hrules ▸ Rule.carries_alike.list_eq rfl

/-! ### Outputs -/

namespace Output

/-- How the fields of an output may differ. -/
def likes : String → Likeness
  | "rules" => ListAlike Rule.Alike
  | _ => Eq

/-- Two outputs that may differ in the order of their fields, those of their rule sets among
them, and in what nobody reads. -/
def Alike : Likeness :=
  RecordAlike (record.and RuleSet.record) likes fun _ => True

theorem kept_likes (name : String) : (likes name).Kept := by
  unfold likes
  split
  · exact Rule.kept_alike.list
  · exact Likeness.kept_eq

theorem kept_alike : Alike.Kept :=
  Likeness.kept_record _ kept_likes

theorem carries_alike : Carries .aside Alike decode Eq := by
  have hown : record.Carries .aside likes Eq :=
    .and_eq (Record.carries_same rfl) (Record.carries_same rfl) (by decide)
  refine hown.split rfl (fun _ => rfl) (by decide) ?_
  rintro ⟨value, label⟩ _ others others' o rfl hothers ho
  have hset : Carries .aside (RecordAlike RuleSet.record likes fun _ => True)
      RuleSet.record.decode Eq :=
    (RuleSet.carries_record rfl rfl).decode rfl fun _ _ => rfl
  obtain ⟨_, hrules, ho⟩ := Json.bind_eq_ok_iff.mp ho
  obtain ⟨_, hrules', rfl⟩ := hset (.fields hothers) hrules
  exact ⟨o, Json.bind_eq_ok_iff.mpr ⟨_, hrules', ho⟩, rfl⟩

end Output

/-! ### Conditions -/

namespace Condition

/-- How the fields of a condition with the given mode may differ. -/
def likes (mode : String) : String → Likeness
  | "mode" => IsText mode
  | "rules" => ListAlike Rule.Alike
  | "outputs" => ListAlike Output.Alike
  | _ => Eq

/-- Two conditions of one mode that may differ in the order of their fields, in the place of the
mode among them, and in what is not read in that mode. -/
inductive Alike : Likeness
  | simple {r r' : Json.Reading} (h : RecordAlike ((Record.text modeKey).and RuleSet.record)
      (likes "simple") (fun _ => True) r r') : Alike r r'
  | multiOutput {r r' : Json.Reading} (h : RecordAlike ((Record.text modeKey).and outputsRecord)
      (likes "multi_output") (fun _ => True) r r') : Alike r r'

theorem kept_likes (mode name : String) : (likes mode name).Kept := by
  unfold likes
  split
  · exact Likeness.kept_isText mode
  · exact Rule.kept_alike.list
  · exact Output.kept_alike.list
  · exact Likeness.kept_eq

theorem kept_alike : Alike.Kept := by
  rintro r r' depth v v' (h | h) hv hv'
  · exact .simple (Likeness.kept_record _ (kept_likes "simple") h hv hv')
  · exact .multiOutput (Likeness.kept_record _ (kept_likes "multi_output") h hv hv')

theorem carries_simple : Carries .value
    (RecordAlike ((Record.text modeKey).and RuleSet.record) (likes "simple") fun _ => True)
    decode Eq := by
  have hset : Carries .aside (RecordAlike RuleSet.record (likes "simple") fun _ => True)
      RuleSet.decode Eq :=
    (RuleSet.carries_record rfl rfl).into_eq rfl (fun _ _ => rfl) _
  have htext : likes "simple" modeKey = IsText "simple" := rfl
  exact Json.carries_tagged rfl (fun _ => rfl) (by decide) htext rfl
    (hset.map fun _ _ => congrArg simple)

theorem carries_multiOutput : Carries .value
    (RecordAlike ((Record.text modeKey).and outputsRecord) (likes "multi_output") fun _ => True)
    decode Eq := by
  have houtputs : outputsRecord.Carries .aside (likes "multi_output") Eq :=
    Record.carries_single (Output.carries_alike.list_eq rfl) fun _ => rfl
  have htext : likes "multi_output" modeKey = IsText "multi_output" := rfl
  exact Json.carries_tagged rfl (fun _ => rfl) (by decide) htext rfl
    (houtputs.into_eq rfl (fun _ _ => rfl) multiOutput)

/-- **A condition is the same however it is arranged.** -/
theorem carries_alike : Carries .value Alike decode Eq := by
  rintro r r' c (h | h) hc
  · exact carries_simple h hc
  · exact carries_multiOutput h hc

end Condition

end Dialogue
