import Dialogue.Flow.Defect

/-!
# Reasons to abort

Why a running session stops without having reached an end.
-/

namespace Dialogue

/-- Why a session was aborted. -/
inductive Abort
  /-- No edge leaves the node through the handle it chose, or it chose none. -/
  | noEdge (node : String) (handle : Option String)
  /-- The nodes behind all candidate edges refuse to be entered from here. -/
  | allRejected (node : String)
  /-- The node was entered twice without an answer in between. -/
  | cycle (node : String)
  /-- More nodes than allowed were entered without an answer in between. -/
  | stepLimit (limit : Nat)
  /-- The flow has a defect after all. -/
  | defect (defect : Defect)
  deriving DecidableEq, Repr

/-- The text of a reason to abort. -/
def Abort.message : Abort → String
  | noEdge node handle =>
    "No outgoing edge of node '" ++ node ++ "' matches handle " ++ Text.quotedOption handle
  | allRejected node =>
    "Every candidate edge of node '" ++ node ++ "' was rejected by a target guard"
  | cycle node => "Node '" ++ node ++ "' was entered twice without waiting for input"
  | stepLimit limit =>
    "More than " ++ toString limit ++ " nodes entered without waiting for input"
  | defect d => d.message

end Dialogue
