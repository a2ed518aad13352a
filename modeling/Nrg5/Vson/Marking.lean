import Nrg5.Vson.Deletion

/-!
# Marking nodes

The first loop of a tick takes the nodes one after the other: it marks those that are
alive and collects the others, which the second loop deletes.  Both loops visit the keys that
the dictionary has at the start, each key once, so that the result does not depend on the order
of the keys: a node is marked or collected according to its mark before the loop.
-/

namespace Nrg5

namespace Vson

open TopologyGraph

/-- A node that has been collected or marked is no longer alive. -/
def Node.marked (n : Node) : Node := { n with alive := false }

theorem lookup_markNode (state : Nodes × List PyInt) (ID a : PyInt) :
    (markNode state ID).1.lookup a =
      (state.1.lookup a).map fun n => if a = ID then n.marked else n := by
  rw [markNode]
  cases found : state.1.lookup ID with
  | none =>
      rcases eq_or_ne a ID with rfl | isOther
      · simp [found]
      · simp [isOther]
  | some node =>
      rcases eq_or_ne a ID with rfl | isOther
      · simp only [found, Option.map_some, if_true]
        split
        · rw [ObjectDict.lookup_insert_eq, if_pos rfl]
          rfl
        · rename_i silent
          rw [found, Node.marked, ← Bool.eq_false_iff.mpr silent]
      · simp only [isOther, if_false, Option.map_id']
        split
        · rw [ObjectDict.lookup_insert_eq, if_neg isOther]
        · rfl

theorem lookup_markNodes (order : List PyInt) (state : Nodes × List PyInt) (a : PyInt) :
    (order.foldl markNode state).1.lookup a =
      (state.1.lookup a).map fun n => if a ∈ order then n.marked else n := by
  induction order generalizing state with
  | nil => simp
  | cons ID rest ih =>
      rw [List.foldl_cons, ih, lookup_markNode, Option.map_map]
      congr 1
      funext n
      rcases eq_or_ne a ID with rfl | isOther
      · simp [Node.marked]
      · simp [isOther]

/-- The node has not been alive since the last tick. -/
def silent (nodes : Nodes) (ID : PyInt) : Bool := (nodes.lookup ID).any fun n => !n.alive

/-- The first loop collects the silent nodes in the order of the dictionary. -/
theorem collected_markNodes (order : List PyInt) (nodup : order.Nodup)
    (state : Nodes × List PyInt) (ownID : ∀ a n, state.1.lookup a = some n → n.ID = a) :
    (order.foldl markNode state).2 = state.2 ++ order.filter (silent state.1) := by
  induction order generalizing state with
  | nil => simp
  | cons ID rest ih =>
      rw [List.nodup_cons] at nodup
      have keepsID : ∀ a n, (markNode state ID).1.lookup a = some n → n.ID = a := by
        intro a n found
        rw [lookup_markNode] at found
        rcases Option.map_eq_some_iff.mp found with ⟨m, isFound, rfl⟩
        have own := ownID a m isFound
        split
        · exact own
        · exact own
      have others : rest.filter (silent (markNode state ID).1) =
          rest.filter (silent state.1) := by
        apply List.filter_congr
        intro a isLater
        have isOther : a ≠ ID := fun same => nodup.1 (same ▸ isLater)
        simp only [silent, lookup_markNode, isOther, if_false, Option.map_id']
      rw [List.foldl_cons, ih nodup.2 _ keepsID, others, List.filter_cons]
      cases found : state.1.lookup ID with
      | none => simp [markNode, silent, found]
      | some node =>
          simp only [markNode, silent, found, Option.any_some]
          cases isAlive : node.alive with
          | true => simp
          | false => simp [ownID ID node found]

end Vson

end Nrg5
