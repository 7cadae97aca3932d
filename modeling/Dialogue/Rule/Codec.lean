import Dialogue.Json.Choice
import Dialogue.Rule.Basic

/-!
# Rules in JSON

How rules, rule sets and conditions are written and read. The fields of an output
and those of its rule set share one object, and so do the mode of a condition and
the fields that go with it.
-/

namespace Dialogue

open Json (Record Decoder)

/-! ### Rules -/

/-- Reads an operator by its name. -/
def Operator.decode : Decoder Operator :=
  Json.decodeName (Operator.all.map fun op => (op.name, op))

namespace Rule

/-- Writes a rule. -/
def toJson (r : Rule) : Json :=
  .obj [("field", .str r.field), ("operator", .str r.operator.name), ("value", .str r.operand)]

/-- The fields of a rule. Without an operand it is compared with the empty text. -/
def record : Record (String × Operator × String) :=
  (Record.text "field").and <|
  (Record.required "operator" Operator.decode .equals).and <|
  Record.defaulted "value" Json.decodeString ""

/-- Reads a rule. -/
def decode : Decoder Rule :=
  record.into fun (field, operator, operand) => ⟨field, operator, operand⟩

end Rule

/-! ### Rule sets -/

/-- Reads a combinator by its name. -/
def Combinator.decode : Decoder Combinator :=
  Json.decodeName [("and", .and), ("or", .or)]

namespace RuleSet

/-- The fields of a rule set, as they are written. -/
def toFields (s : RuleSet) : List (String × Json) :=
  [("operator", .str s.combinator.name), ("rules", .arr (s.rules.map Rule.toJson))]

/-- Writes a rule set. -/
def toJson (s : RuleSet) : Json :=
  .obj s.toFields

/-- The fields of a rule set. Both may be left out, which gives the set that always
holds. -/
def record : Record (Combinator × List Rule) :=
  (Record.defaulted "operator" Combinator.decode .and).and <|
  Record.defaulted "rules" (Json.decodeList Rule.decode) []

/-- Reads a rule set. -/
def decode : Decoder RuleSet :=
  record.into fun (combinator, rules) => ⟨combinator, rules⟩

end RuleSet

/-! ### Outputs and conditions -/

namespace Output

/-- Writes an output. -/
def toJson (o : Output) : Json :=
  .obj (("value", .str o.value) :: (Json.optionalField "label" .str o.label ++ o.ruleSet.toFields))

/-- The own fields of an output. -/
def record : Record (String × Option String) :=
  (Record.text "value").and <|
  Record.defaulted "label" (Json.decodeOption Json.decodeString) none

/-- Reads an output, whose object also holds the fields of its rule set. -/
def decode : Decoder Output :=
  record.split fun (value, label) others => do
    let (combinator, rules) ← RuleSet.record.decodeAside others
    return ⟨value, label, ⟨combinator, rules⟩⟩

end Output

namespace Condition

/-- The key of the mode. -/
def modeKey : String :=
  "mode"

/-- Writes a condition. -/
def toJson : Condition → Json
  | simple s => .obj ((modeKey, .str "simple") :: s.toFields)
  | multiOutput outputs =>
    .obj [(modeKey, .str "multi_output"), ("outputs", .arr (outputs.map Output.toJson))]

/-- The fields of a condition with several outputs. -/
def outputsRecord : Record (List Output) :=
  Record.required "outputs" (Json.decodeList Output.decode) []

/-- The modes of a condition. -/
def variants : List (Json.Variant Condition) :=
  [⟨"simple", .single fun source r => (RuleSet.decode source r).map simple⟩,
    ⟨"multi_output", .record (outputsRecord.into multiOutput)⟩]

/-- Reads a condition. -/
def decode : Decoder Condition :=
  Json.decodeTagged modeKey variants

end Condition

end Dialogue
