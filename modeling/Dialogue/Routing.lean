import Dialogue.Abort
import Dialogue.Flow.Basic
import Dialogue.Rule.Evaluation

/-!
# Routing

Which node comes after the current one (`Dialogue.Flow.resolve`). A node that is no
condition is left through its first edge. A simple condition is left through the
handle that tells whether its rules hold, a condition with several outputs through
the first output whose rules hold. A question may refuse to be entered through the
edge chosen; then a condition with several outputs tries the outputs after that one.
Together with the outcome comes a log of the rules evaluated and of the edges tried.
-/

namespace Dialogue

/-- Where a session goes after a node. -/
inductive Resolution
  /-- To a node, along an edge. -/
  | next (node : Node) (edge : Edge)
  /-- Nowhere: no edge leaves the node. -/
  | endOfFlow
  /-- Nowhere, although edges leave the node. -/
  | unresolved (reason : Abort)
  deriving DecidableEq

/-- The node that follows, if there is one. -/
def Resolution.node? : Resolution → Option Node
  | next node _ => some node
  | _ => none

/-- The first edge in a list that has the given handle. -/
def edgeThrough? (edges : List Edge) (handle : String) : Option Edge :=
  edges.find? (·.handle == some handle)

namespace Flow

/-- Follows an edge to its target, unless the target refuses to be entered from
`source` through `handle`; then the outcome is `none`. -/
def follow (flow : Flow) (source : String) (edge : Edge) (handle : Option String) :
    Except Defect (Option Node) × List TraceEvent :=
  match flow.node edge.target with
  | .error defect => (.error defect, [])
  | .ok target =>
    match target.guard? source with
    | some expected =>
      if handle = some expected then
        (.ok (some target), [.edgeResolved source target.id handle])
      else
        (.ok none, [.guardRejected source target.id handle expected])
    | none => (.ok (some target), [.edgeResolved source target.id handle])

/-- Follows an edge from a node that has no other to try. -/
def followOnly (flow : Flow) (source : String) (edge : Edge) (handle : Option String) :
    Except Defect Resolution × List TraceEvent :=
  match flow.follow source edge handle with
  | (.error defect, log) => (.error defect, log)
  | (.ok none, log) => (.ok (.unresolved (.allRejected source)), log)
  | (.ok (some target), log) => (.ok (.next target edge), log)

/-- Tries the outputs of a condition in order, up to the first whose rules hold and
behind whose edge the target does not refuse; `rejected` tells whether a target has
refused so far. An output whose rules hold but which has no edge ends the search. -/
def tryOutputs (flow : Flow) (source : String) (edges : List Edge) (store : Store) :
    List Output → (rejected : Bool) → Except Defect Resolution × List TraceEvent
  | [], rejected =>
    (.ok (.unresolved (if rejected then .allRejected source else .noEdge source none)), [])
  | output :: rest, rejected =>
    let (holds, log) := output.ruleSet.evaluate store source (some output.value)
    if holds then
      match edgeThrough? edges output.value with
      | none => (.ok (.unresolved (.noEdge source (some output.value))), log)
      | some edge =>
        match flow.follow source edge (some output.value) with
        | (.error defect, tried) => (.error defect, log ++ tried)
        | (.ok (some target), tried) => (.ok (.next target edge), log ++ tried)
        | (.ok none, tried) =>
          let (outcome, later) := tryOutputs flow source edges store rest true
          (outcome, log ++ tried ++ later)
    else
      let (outcome, later) := tryOutputs flow source edges store rest rejected
      (outcome, log ++ later)

/-- Where a session goes from a node, with a log of how that was found. Of the node
only its content is used, and its id to find the edges; it need not belong to the
flow. The outcome is a defect if an edge leads to a missing node. -/
def resolve (flow : Flow) (current : Node) (store : Store) :
    Except Defect Resolution × List TraceEvent :=
  match flow.outgoing current.id with
  | [] => (.ok .endOfFlow, [])
  | edge :: others =>
    match current.content with
    | .condition (.simple ruleSet) =>
      let (holds, log) := ruleSet.evaluate store current.id none
      let handle := if holds then Condition.trueHandle else Condition.falseHandle
      match edgeThrough? (edge :: others) handle with
      | none => (.ok (.unresolved (.noEdge current.id (some handle))), log)
      | some chosen =>
        let (outcome, tried) := flow.followOnly current.id chosen (some handle)
        (outcome, log ++ tried)
    | .condition (.multiOutput outputs) =>
      flow.tryOutputs current.id (edge :: others) store outputs false
    | _ => flow.followOnly current.id edge none

/-- The node that comes after another, if any. -/
def next? (flow : Flow) (current : Node) (store : Store) : Option Node :=
  match (flow.resolve current store).1 with
  | .ok resolution => resolution.node?
  | .error _ => none

end Flow

end Dialogue
