import Dialogue.Rule.Basic

/-!
# Nodes and edges

A conversation is drawn as nodes with edges between them. A node shows a message,
asks a question, decides by a condition, or marks the start or an end.
-/

namespace Dialogue

/-- The kinds of nodes. -/
inductive NodeKind
  | start
  | message
  | question
  | condition
  | finish
  deriving DecidableEq, Repr

namespace NodeKind

/-- The name of a kind in documents and traces. -/
def name : NodeKind → String
  | start => "start"
  | message => "message"
  | question => "question"
  | condition => "condition"
  | finish => "end"

/-- All kinds, in the order of declaration. -/
def all : List NodeKind :=
  [start, message, question, condition, finish]

/-- The ending that an authored type may carry. -/
def suffix : List Char :=
  ['n', 'o', 'd', 'e']

/-- The kind that an authored type names. Outer blanks and letter case do not matter,
and the name may end in `node`. -/
def ofType? (type : String) : Option NodeKind :=
  let cs := Text.lowered (Text.trimmed type.toList)
  let stem := if suffix.isSuffixOf cs then cs.take (cs.length - suffix.length) else cs
  all.find? (·.name == String.ofList stem)

end NodeKind

/-- One of the answers offered by a question. -/
structure QuestionOption where
  id : String
  label : String
  value : String
  deriving DecidableEq, Repr

/-- What a question node holds. -/
structure Question where
  text : String
  options : List QuestionOption
  /-- The variable that the answer is stored in. -/
  variableName : String
  /-- For some nodes, the handle through which the question must be entered from
  there. -/
  triggers : StringMap String
  deriving DecidableEq

/-- The option that a text picks: the first one with that value, or else the first one
with that id. -/
def Question.findOption? (q : Question) (picked : String) : Option QuestionOption :=
  (q.options.find? (·.value == picked)).or (q.options.find? (·.id == picked))

/-- What a node holds beside its id. -/
inductive NodeContent
  | start
  | message (text : String)
  | question (question : Question)
  | condition (condition : Condition)
  | finish (message : Option String)
  deriving DecidableEq

/-- A node of a flow. -/
structure Node where
  id : String
  content : NodeContent
  deriving DecidableEq

/-- A directed edge between two nodes. -/
structure Edge where
  id : String
  source : String
  target : String
  /-- The branch of the condition that the edge leaves through. -/
  handle : Option String
  deriving DecidableEq, Repr

namespace Node

/-- The kind of a node. -/
def kind (n : Node) : NodeKind :=
  match n.content with
  | .start => .start
  | .message _ => .message
  | .question _ => .question
  | .condition _ => .condition
  | .finish _ => .finish

/-- Whether the node is a start node. -/
def isStart (n : Node) : Bool :=
  n.kind == .start

/-- Whether the node is an end node. -/
def isEnd (n : Node) : Bool :=
  n.kind == .finish

/-- What the node asks, if it is a question. -/
def question? (n : Node) : Option Question :=
  match n.content with
  | .question q => some q
  | _ => none

/-- What the node decides by, if it is a condition. -/
def condition? (n : Node) : Option Condition :=
  match n.content with
  | .condition c => some c
  | _ => none

/-- The handle that the node must be entered through from `source`, if it asks for
one. -/
def guard? (n : Node) (source : String) : Option String :=
  n.question?.bind (·.triggers.get? source)

end Node

end Dialogue
