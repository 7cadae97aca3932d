import Dialogue.Flow.Node
import Dialogue.Text.Quoted

/-!
# Defects of a flow

The reasons why nodes and edges do not make a flow, and `Dialogue.firstDefect`, which
finds the first of them. The checks run in a fixed order: the ids of the nodes, the
number of start nodes, the edges one by one, the handles of the edges that leave each
condition, and the questions one by one.
-/

namespace Dialogue

/-- A reason why nodes and edges do not make a flow, or why a node is not found in
one. -/
inductive Defect
  | missingStart
  | multipleStarts (count : Nat)
  | duplicateNode (node : String)
  | duplicateEdge (edge : String)
  | danglingEdge (edge node : String)
  | invalidHandle (node edge : String) (handle : Option String)
  | duplicateHandle (node handle : String)
  | missingVariable (node : String)
  | unknownTrigger (node source : String)
  | nodeNotFound (node : String)
  deriving DecidableEq, Repr

/-- The text of a defect. -/
def Defect.message : Defect → String
  | missingStart => "Flow must have exactly one start node, found none"
  | multipleStarts count =>
    "Flow must have exactly one start node, found " ++ toString count
  | duplicateNode node => "Node id '" ++ node ++ "' is used more than once"
  | duplicateEdge edge => "Edge id '" ++ edge ++ "' is used more than once"
  | danglingEdge edge node =>
    "Edge '" ++ edge ++ "' references missing node '" ++ node ++ "'"
  | invalidHandle node edge handle =>
    "Edge '" ++ edge ++ "' leaves condition node '" ++ node ++ "' with invalid handle "
      ++ Text.quotedOption handle
  | duplicateHandle node handle =>
    "Condition node '" ++ node ++ "' has more than one edge on handle '" ++ handle ++ "'"
  | missingVariable node => "Question node '" ++ node ++ "' has no variable name"
  | unknownTrigger node source =>
    "Question node '" ++ node ++ "' has a trigger on unknown node '" ++ source ++ "'"
  | nodeNotFound node => "Node '" ++ node ++ "' not found"

/-! ### The checks -/

/-- The first text that also stands earlier in the list or among those `seen`. -/
def firstRepeat? (seen : List String) : List String → Option String
  | [] => none
  | s :: rest => if s ∈ seen then some s else firstRepeat? (s :: seen) rest

/-- The edges that leave a node, in authoring order. -/
def edgesFrom (edges : List Edge) (node : String) : List Edge :=
  edges.filter (·.source == node)

/-- Whether a node has the given id. -/
def hasNode (nodes : List Node) (id : String) : Bool :=
  nodes.any (·.id == id)

/-- The first node whose id was used before. -/
def nodeDefect? (nodes : List Node) : Option Defect :=
  (firstRepeat? [] (nodes.map (·.id))).map .duplicateNode

/-- No start node, or more than one. -/
def startDefect? (nodes : List Node) : Option Defect :=
  match (nodes.filter Node.isStart).length with
  | 0 => some .missingStart
  | 1 => none
  | count => some (.multipleStarts count)

/-- The first edge whose id was used before or one of whose ends is missing; `seen` are
the ids used before. -/
def edgeDefect? (nodes : List Node) (seen : List String) : List Edge → Option Defect
  | [] => none
  | e :: rest =>
    if e.id ∈ seen then some (.duplicateEdge e.id)
    else if !hasNode nodes e.source then some (.danglingEdge e.id e.source)
    else if !hasNode nodes e.target then some (.danglingEdge e.id e.target)
    else edgeDefect? nodes (e.id :: seen) rest

/-- The first edge leaving the condition `node` whose handle is not allowed or was used
before; `used` are the handles used before. -/
def handleDefect? (node : String) (allowed used : List String) : List Edge → Option Defect
  | [] => none
  | e :: rest =>
    match e.handle with
    | none => some (.invalidHandle node e.id none)
    | some h =>
      if h ∉ allowed then some (.invalidHandle node e.id (some h))
      else if h ∈ used then some (.duplicateHandle node h)
      else handleDefect? node allowed (h :: used) rest

/-- What is wrong with the edges that leave a node, if it is a condition. -/
def conditionDefect? (edges : List Edge) (n : Node) : Option Defect :=
  match n.content with
  | .condition c => handleDefect? n.id c.handles [] (edgesFrom edges n.id)
  | _ => none

/-- What is wrong with a node, if it is a question: its variable has a blank name, or a
trigger names no node. -/
def questionDefect? (nodes : List Node) (n : Node) : Option Defect :=
  match n.content with
  | .question q =>
    if (Text.trimmed q.variableName.toList).isEmpty then some (.missingVariable n.id)
    else (q.triggers.keys.find? (!hasNode nodes ·)).map (.unknownTrigger n.id)
  | _ => none

/-- The first reason why nodes and edges do not make a flow. -/
def firstDefect (nodes : List Node) (edges : List Edge) : Option Defect :=
  (nodeDefect? nodes).or <|
  (startDefect? nodes).or <|
  (edgeDefect? nodes [] edges).or <|
  (nodes.findSome? (conditionDefect? edges)).or <|
  nodes.findSome? (questionDefect? nodes)

end Dialogue
