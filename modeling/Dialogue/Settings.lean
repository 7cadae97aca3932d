import Dialogue.Number.Digits
import Dialogue.Text.Blank
import Dialogue.Text.Lowercase

/-!
# Settings

The settings of a session, their defaults, and how variables of the environment
override them (`Dialogue.Settings.override`).
-/

namespace Dialogue

/-- What a session does when edges leave a node but none can be followed. -/
inductive DeadEndPolicy
  /-- It completes early. -/
  | complete
  /-- It aborts with the reason why no edge could be followed. -/
  | abort
  deriving DecidableEq, Repr

namespace DeadEndPolicy

/-- The name of a policy. -/
def name : DeadEndPolicy → String
  | complete => "complete"
  | abort => "abort"

/-- All policies, in the order of declaration. -/
def all : List DeadEndPolicy :=
  [complete, abort]

/-- A name as it is compared: in lower case and without outer blanks. -/
def folded (s : String) : String :=
  Text.lowercase (Text.trim s)

/-- The policy that a text names, whatever its letter case and outer blanks. -/
def ofName? (s : String) : Option DeadEndPolicy :=
  all.find? (·.name == folded s)

/-- The text of the error that a name is unknown. -/
def unknownMessage (s : String) : String :=
  "unknown dead-end policy '" ++ folded s ++ "'"

end DeadEndPolicy

/-- The settings of a session. -/
structure Settings where
  /-- The most nodes that are entered without an answer in between. -/
  maxAutoSteps : Nat
  /-- Whether the history of writes is kept. -/
  recordHistory : Bool
  /-- Whether the trace is kept. -/
  recordTrace : Bool
  deadEnd : DeadEndPolicy
  deriving DecidableEq, Repr

namespace Settings

/-- The settings if nothing else is said. -/
def default : Settings where
  maxAutoSteps := 1000
  recordHistory := false
  recordTrace := true
  deadEnd := .complete

instance : Inhabited Settings :=
  ⟨default⟩

/-- A switch that is written as a word, whatever its letter case and outer blanks. -/
def flag? (s : String) : Option Bool :=
  match Text.lowercase (Text.trim s) with
  | "1" | "true" | "yes" | "on" => some true
  | "0" | "false" | "no" | "off" => some false
  | _ => none

/-- A number of steps, which must be positive. -/
def steps? (s : String) : Option Nat :=
  (Number.count? (Text.trimmed s.toList)).filter (0 < ·)

/-- What the names of all variables of the environment begin with. -/
def keyStem : String :=
  "CONVOFLOW_"

/-- The variable of the environment for `Dialogue.Settings.maxAutoSteps`. -/
def maxStepsKey : String :=
  keyStem ++ "MAX_STEPS"

/-- The variable of the environment for `Dialogue.Settings.recordHistory`. -/
def recordHistoryKey : String :=
  keyStem ++ "RECORD_HISTORY"

/-- The variable of the environment for `Dialogue.Settings.recordTrace`. -/
def recordTraceKey : String :=
  keyStem ++ "RECORD_TRACE"

/-- The variable of the environment for `Dialogue.Settings.deadEnd`. -/
def deadEndKey : String :=
  keyStem ++ "DEAD_END"

/-- Settings overridden by the variables of an environment. A value that does not make
sense changes nothing. -/
def override (s : Settings) (environment : String → Option String) : Settings where
  maxAutoSteps := ((environment maxStepsKey).bind steps?).getD s.maxAutoSteps
  recordHistory := ((environment recordHistoryKey).bind flag?).getD s.recordHistory
  recordTrace := ((environment recordTraceKey).bind flag?).getD s.recordTrace
  deadEnd := ((environment deadEndKey).bind DeadEndPolicy.ofName?).getD s.deadEnd

end Settings

end Dialogue
