import Dialogue.Flow.Defect
import Dialogue.Flow.Index
import Dialogue.Proofs.StringMap
import Mathlib.Data.List.Nodup

/-!
# What an index holds

An index notes places, and nodes and edges are read back at them. That a place is in range is
part of its type; here the places are shown to be the right ones, and all of them:

* if no id is used twice, an id is bound to the one place of the node that has it
  (`Dialogue.Index.get?_places_eq_some_iff`);
* under an id are the places of the edges that leave it, from the first to the last, whether or
  not a node has the id (`Dialogue.Index.getD_get?_leaving`);
* the place of the start is that of the first start node (`Dialogue.Index.map_get_start?`).
-/

namespace Dialogue

namespace Index

variable {nodes : List Node} {edges : List Edge}

/-! ### Nodes -/

/-- No two places hold nodes with one id. -/
theorem eq_of_id_get_eq (hids : (nodes.map (·.id)).Nodup) {i j : Fin nodes.length}
    (h : (nodes.get i).id = (nodes.get j).id) : i = j := by
  have hsame : nodes.get i = nodes.get j :=
    List.inj_on_of_nodup_map hids (List.get_mem nodes i) (List.get_mem nodes j) h
  exact List.nodup_iff_injective_get.mp (List.Nodup.of_map _ hids) hsame

/-- The places noted under an id are those of the nodes that have it. -/
theorem mem_bindings_iff {id : String} {i : Fin nodes.length} :
    i ∈ StringMap.bindings id ((List.finRange nodes.length).map fun i => ((nodes.get i).id, i)) ↔
      (nodes.get i).id = id := by
  simp [StringMap.bindings]

/-- **An id is bound to the place of the node that has it**, if no id is used twice. -/
theorem get?_places_eq_some_iff (hids : (nodes.map (·.id)).Nodup) {id : String}
    {i : Fin nodes.length} :
    (ofLists nodes edges).places.get? id = some i ↔ (nodes.get i).id = id := by
  rw [ofLists, StringMap.get?_ofList]
  constructor
  · intro h
    exact mem_bindings_iff.mp (List.mem_of_getLast? h)
  · intro hid
    have hnoted := mem_bindings_iff.mpr hid
    obtain ⟨j, hj⟩ := Option.isSome_iff_exists.mp
      (List.getLast?_isSome.mpr (List.ne_nil_of_mem hnoted))
    -- the place noted last may be another one, but the node there has the same id
    have hlast : (nodes.get j).id = id := mem_bindings_iff.mp (List.mem_of_getLast? hj)
    rw [hj, eq_of_id_get_eq hids (hid.trans hlast.symm)]

/-- **Read back, the place of the start is the first start node.** -/
theorem map_get_start? :
    (ofLists nodes edges).start?.map nodes.get = nodes.find? Node.isStart := by
  have hnodes : nodes.find? Node.isStart =
      ((List.finRange nodes.length).map nodes.get).find? Node.isStart := by
    rw [List.map_get_finRange]
  rw [hnodes, List.find?_map]
  rfl

/-! ### Edges -/

/-- **Under an id are the places of the edges that leave it**, from the first to the last. -/
theorem getD_get?_leaving (id : String) :
    ((ofLists nodes edges).leaving.get? id).getD [] =
      (List.finRange edges.length).filter fun i => (edges.get i).source == id := by
  rw [ofLists, StringMap.getD_foldl_push fun i => (edges.get i).source]
  rfl

/-- **Read back, they are the edges that leave it**, in authoring order. -/
theorem map_get_leaving (id : String) :
    (((ofLists nodes edges).leaving.get? id).getD []).map edges.get = edgesFrom edges id := by
  have hedges : edgesFrom edges id =
      ((List.finRange edges.length).map edges.get).filter (·.source == id) := by
    rw [List.map_get_finRange, edgesFrom]
  rw [getD_get?_leaving, hedges, List.filter_map]
  rfl

end Index

end Dialogue
