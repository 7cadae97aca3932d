import Dialogue.Flow.Node

/-!
# Where nodes and edges stand

A conversation is drawn as two lists. To find a node by its id, or the edges that leave it,
the lists are gone through once, and it is noted at which place each of them stands
(`Dialogue.Index.ofLists`). A place is a number below the length of its list: whatever an
index holds can be read back from the list that it was made of.
-/

namespace Dialogue

/-- The places of nodes and edges in their lists. -/
structure Index (nodes : List Node) (edges : List Edge) where
  /-- The place of the node with an id. -/
  places : StringMap (Fin nodes.length)
  /-- The places of the edges that leave a node, in authoring order. -/
  leaving : StringMap (List (Fin edges.length))
  /-- The place of the first start node. -/
  start? : Option (Fin nodes.length)

namespace Index

/-- Notes at which place each node and each edge stands, from the first place to the last. -/
def ofLists (nodes : List Node) (edges : List Edge) : Index nodes edges where
  places := .ofList ((List.finRange nodes.length).map fun i => ((nodes.get i).id, i))
  leaving := (List.finRange edges.length).foldl (fun m i => m.push (edges.get i).source i) .empty
  start? := (List.finRange nodes.length).find? fun i => (nodes.get i).isStart

end Index

end Dialogue
