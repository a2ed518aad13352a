import Nrg5.Vson.Integrity

/-!
# Deleting nodes

In a graph with integrity `delete_node` finds every node it looks up, and what it
leaves is the graph without the node: the other nodes lose their links to and from
it and keep all others.  A tick of the device monitor is a sequence of such
deletions, so integrity is an invariant of all the operations.
-/

namespace Nrg5

namespace Vson

open TopologyGraph

/-- A node without its links to and from another one. -/
def Node.without (ID : PyInt) (n : Node) : Node := (n.removeLinkFromID ID).removeLinkToID ID

/-- The graph after a deletion. -/
def Deleted (ID : PyInt) (nodes after : Nodes) : Prop :=
  ∀ a, after.lookup a = if a = ID then none else (nodes.lookup a).map (Node.without ID)

theorem removeLinkFromID_idempotent (ID : PyInt) (n : Node) :
    (n.removeLinkFromID ID).removeLinkFromID ID = n.removeLinkFromID ID := by
  simp [Node.removeLinkFromID]

theorem removeLinkToID_idempotent (ID : PyInt) (n : Node) :
    (n.removeLinkToID ID).removeLinkToID ID = n.removeLinkToID ID := by
  simp [Node.removeLinkToID]

theorem removeLinkFromID_of_none {ID : PyInt} {n : Node}
    (noneFrom : ∀ link ∈ n.iLinks, link.beginID ≠ ID) : n.removeLinkFromID ID = n := by
  have kept : n.iLinks.filter (fun x => x.beginID != ID) = n.iLinks :=
    List.filter_eq_self.mpr fun link linkMem => by simpa using noneFrom link linkMem
  simp only [Node.removeLinkFromID, kept]

theorem removeLinkToID_of_none {ID : PyInt} {n : Node}
    (noneTo : ∀ link ∈ n.oLinks, link.endID ≠ ID) : n.removeLinkToID ID = n := by
  have kept : n.oLinks.filter (fun x => x.endID != ID) = n.oLinks :=
    List.filter_eq_self.mpr fun link linkMem => by simpa using noneTo link linkMem
  simp only [Node.removeLinkToID, kept]

section Delete

variable {nodes : Nodes} {ID : PyInt} {node : Node}

/-- The first loop: every other node loses its links from the deleted one. -/
theorem removeFrom_ok (integrity : Integrity nodes) (found : nodes.lookup ID = some node) :
    ∃ withoutIn,
      nodes.callEach (node.oLinks.map Link.endID) (Node.removeLinkFromID ID) = .ok withoutIn ∧
        ∀ a, withoutIn.lookup a = (nodes.lookup a).map (Node.removeLinkFromID ID) := by
  have registered : ∀ a ∈ node.oLinks.map Link.endID, (nodes.lookup a).isSome = true := by
    intro a isEnd
    rcases List.mem_map.mp isEnd with ⟨link, linkMem, rfl⟩
    exact (integrity.outgoing ID node found link linkMem).2
  rcases ObjectDict.callEach_ok (removeLinkFromID_idempotent ID) _ registered with
    ⟨withoutIn, calls, lookups⟩
  refine ⟨withoutIn, calls, ?_⟩
  intro a
  rw [lookups]
  cases isFound : nodes.lookup a with
  | none => rfl
  | some n =>
      simp only [Option.map_some]
      split
      · rfl
      · rename_i notAnEnd
        rw [removeLinkFromID_of_none]
        -- a link from the deleted node would be one of its outgoing links
        intro link linkMem isFrom
        have isEnd := (integrity.incoming a n isFound link linkMem).1
        have mirrored := integrity.mirrored link node n (by rwa [isFrom]) (by rwa [isEnd])
        exact notAnEnd (List.mem_map.mpr ⟨link, mirrored.mpr linkMem, isEnd⟩)

/-- The second loop: every other node loses its links to the deleted one. -/
theorem removeTo_ok (integrity : Integrity nodes) {withoutIn : Nodes}
    (found : nodes.lookup ID = some node)
    (lookups : ∀ a, withoutIn.lookup a = (nodes.lookup a).map (Node.removeLinkFromID ID)) :
    ∃ withoutOut,
      withoutIn.callEach ((node.removeLinkFromID ID).iLinks.map Link.beginID)
          (Node.removeLinkToID ID) = .ok withoutOut ∧
        ∀ a, a ≠ ID → withoutOut.lookup a = (nodes.lookup a).map (Node.without ID) := by
  have registered : ∀ a ∈ (node.removeLinkFromID ID).iLinks.map Link.beginID,
      (withoutIn.lookup a).isSome = true := by
    intro a isBegin
    rcases List.mem_map.mp isBegin with ⟨link, linkMem, rfl⟩
    rw [lookups, Option.isSome_map]
    exact (integrity.incoming ID node found link (List.mem_of_mem_filter linkMem)).2
  rcases ObjectDict.callEach_ok (removeLinkToID_idempotent ID) _ registered with
    ⟨withoutOut, calls, after⟩
  refine ⟨withoutOut, calls, ?_⟩
  intro a isOther
  rw [after, lookups]
  cases isFound : nodes.lookup a with
  | none => rfl
  | some n =>
      simp only [Option.map_some, Node.without]
      split
      · rfl
      · rename_i notABegin
        rw [removeLinkToID_of_none]
        -- a link to the deleted node would be one of its incoming links
        intro link linkMem isTo
        have isBegin := (integrity.outgoing a n isFound link linkMem).1
        have mirrored := integrity.mirrored link n node (by rwa [isBegin]) (by rwa [isTo])
        apply notABegin
        apply List.mem_map.mpr
        refine ⟨link, List.mem_filter.mpr ⟨mirrored.mp linkMem, ?_⟩, isBegin⟩
        rw [isBegin]
        simpa using isOther

theorem deleteNode_ok (integrity : Integrity nodes) (found : nodes.lookup ID = some node) :
    ∃ after, deleteNode ID nodes = .ok (.success, after) ∧ Deleted ID nodes after := by
  rcases removeFrom_ok integrity found with ⟨withoutIn, removesFrom, lookups⟩
  rcases removeTo_ok integrity found lookups with ⟨withoutOut, removesTo, after⟩
  have self : withoutIn.lookup ID = some (node.removeLinkFromID ID) := by
    rw [lookups, found, Option.map_some]
  refine ⟨withoutOut.erase ID, ?_, ?_⟩
  · simp only [deleteNode, found, removesFrom, self, bind, Except.bind, removesTo]
  · intro a
    rw [ObjectDict.lookup_erase_eq]
    split
    · rfl
    · rename_i isOther
      exact after a isOther

theorem deleteNode_missing (missing : nodes.lookup ID = none) :
    deleteNode ID nodes = .ok (.nodeNotFound, nodes) := by
  simp only [deleteNode, missing]

theorem nodup_filter_keys {links : List Link} (keep : Link → Bool)
    (nodup : (links.map Link.key).Nodup) : ((links.filter keep).map Link.key).Nodup :=
  nodup.sublist (List.filter_sublist.map Link.key)

theorem Integrity.deleted (integrity : Integrity nodes) {after : Nodes}
    (deleted : Deleted ID nodes after) : Integrity after := by
  have origin : ∀ a n, after.lookup a = some n →
      a ≠ ID ∧ ∃ m, nodes.lookup a = some m ∧ n = m.without ID := by
    intro a n found
    rw [deleted] at found
    by_cases same : a = ID
    · simp [same] at found
    · rw [if_neg same] at found
      rcases Option.map_eq_some_iff.mp found with ⟨m, isFound, rfl⟩
      exact ⟨same, m, isFound, rfl⟩
  have remains : ∀ a, a ≠ ID → (nodes.lookup a).isSome = true →
      (after.lookup a).isSome = true := by
    intro a isOther isThere
    rwa [deleted, if_neg isOther, Option.isSome_map]
  have memOut : ∀ (m : Node) link, link ∈ (m.without ID).oLinks ↔
      link ∈ m.oLinks ∧ link.endID ≠ ID := by
    intro m link
    simp [Node.without, Node.removeLinkToID, Node.removeLinkFromID]
  have memIn : ∀ (m : Node) link, link ∈ (m.without ID).iLinks ↔
      link ∈ m.iLinks ∧ link.beginID ≠ ID := by
    intro m link
    simp [Node.without, Node.removeLinkToID, Node.removeLinkFromID]
  constructor
  · intro a n found
    rcases origin a n found with ⟨_, m, isFound, rfl⟩
    exact integrity.ownID a m isFound
  · intro a n found link linkMem
    rcases origin a n found with ⟨_, m, isFound, rfl⟩
    rcases (memOut m link).mp linkMem with ⟨isOut, notTo⟩
    rcases integrity.outgoing a m isFound link isOut with ⟨isBegin, hasEnd⟩
    exact ⟨isBegin, remains _ notTo hasEnd⟩
  · intro a n found link linkMem
    rcases origin a n found with ⟨_, m, isFound, rfl⟩
    rcases (memIn m link).mp linkMem with ⟨isIn, notFrom⟩
    rcases integrity.incoming a m isFound link isIn with ⟨isEnd, hasBegin⟩
    exact ⟨isEnd, remains _ notFrom hasBegin⟩
  · intro link b e foundBegin foundEnd
    rcases origin _ b foundBegin with ⟨notFrom, m, isFoundBegin, rfl⟩
    rcases origin _ e foundEnd with ⟨notTo, m', isFoundEnd, rfl⟩
    rw [memOut, memIn, integrity.mirrored link m m' isFoundBegin isFoundEnd]
    simp [notFrom, notTo]
  · intro a n found
    rcases origin a n found with ⟨_, m, isFound, rfl⟩
    exact nodup_filter_keys _ (integrity.outKeys a m isFound)
  · intro a n found
    rcases origin a n found with ⟨_, m, isFound, rfl⟩
    exact nodup_filter_keys _ (integrity.inKeys a m isFound)

end Delete

/-! ## Ticks of the device monitor -/

theorem integrity_markNode {state : Nodes × List PyInt} (integrity : Integrity state.1)
    (ID : PyInt) : Integrity (markNode state ID).1 := by
  unfold markNode
  cases found : state.1.lookup ID with
  | none => exact integrity
  | some node =>
      dsimp only
      split
      · apply integrity.congr
        intro a
        rw [ObjectDict.lookup_insert_eq]
        split
        · rename_i same
          subst same
          rw [found]
          rfl
        · rfl
      · exact integrity

theorem integrity_markNodes (order : List PyInt) {state : Nodes × List PyInt}
    (integrity : Integrity state.1) : Integrity (order.foldl markNode state).1 := by
  induction order generalizing state with
  | nil => exact integrity
  | cons ID rest ih => exact ih (integrity_markNode integrity ID)

/-- A sequence of deletions goes through. -/
theorem deleteNodes_ok (toDelete : List PyInt) {nodes : Nodes} (integrity : Integrity nodes) :
    ∃ after,
      toDelete.foldlM (fun nodes ID => (deleteNode ID nodes).map Prod.snd) nodes = .ok after ∧
        Integrity after := by
  induction toDelete generalizing nodes with
  | nil => exact ⟨nodes, rfl, integrity⟩
  | cons ID rest ih =>
      have deletes : ∃ status next, deleteNode ID nodes = .ok (status, next) ∧
          Integrity next := by
        cases found : nodes.lookup ID with
        | none => exact ⟨_, nodes, deleteNode_missing found, integrity⟩
        | some node =>
            rcases deleteNode_ok integrity found with ⟨next, returns, deleted⟩
            exact ⟨_, next, returns, integrity.deleted deleted⟩
      rcases deletes with ⟨status, next, returns, nextIntegrity⟩
      rcases ih nextIntegrity with ⟨after, returnsRest, afterIntegrity⟩
      refine ⟨after, ?_, afterIntegrity⟩
      rw [List.foldlM_cons, returns]
      exact returnsRest

theorem deviceMonitor_ok (order : List PyInt) {nodes : Nodes} (integrity : Integrity nodes) :
    ∃ after, deviceMonitor order nodes = .ok after ∧ Integrity after :=
  deleteNodes_ok _ (integrity_markNodes order integrity)

/-! ## Reachable graphs -/

theorem integrity_reachable {nodes : Nodes} (reachable : Reachable nodes) : Integrity nodes := by
  induction reachable with
  | init => exact integrity_empty
  | pushNode before ID sign reg bs ih => exact integrity_pushNode ih ID sign reg bs
  | putNodeInfo before ID report fromID ih => exact integrity_putNodeInfo ih ID report
  | @deleteNode nodes after status before ID returns ih =>
      cases found : nodes.lookup ID with
      | none =>
          rw [deleteNode_missing found] at returns
          simp only [Except.ok.injEq, Prod.mk.injEq] at returns
          rw [← returns.2]
          exact ih
      | some node =>
          rcases deleteNode_ok ih found with ⟨next, returnsNext, deleted⟩
          rw [returnsNext] at returns
          simp only [Except.ok.injEq, Prod.mk.injEq] at returns
          rw [← returns.2]
          exact ih.deleted deleted
  | @deviceMonitor nodes after before order iterates returns ih =>
      rcases deviceMonitor_ok order ih with ⟨next, returnsNext, integrity⟩
      rw [returnsNext] at returns
      rw [← Except.ok.inj returns]
      exact integrity

/-- What a deletion is to do: the node is gone, nobody holds a link to or from it, and the
links between other nodes are the ones they were. -/
structure LinksRemoved (ID : PyInt) (nodes after : Nodes) : Prop where
  gone : after.lookup ID = none
  noLink : ∀ a n, after.lookup a = some n →
    (∀ link ∈ n.oLinks, link.beginID ≠ ID ∧ link.endID ≠ ID) ∧
      ∀ link ∈ n.iLinks, link.beginID ≠ ID ∧ link.endID ≠ ID
  sameNodes : ∀ a, a ≠ ID → (after.lookup a).isSome = (nodes.lookup a).isSome
  sameLinks : ∀ a n m, nodes.lookup a = some n → after.lookup a = some m →
    ∀ link : Link, link.beginID ≠ ID → link.endID ≠ ID →
      (link ∈ m.oLinks ↔ link ∈ n.oLinks) ∧ (link ∈ m.iLinks ↔ link ∈ n.iLinks)

theorem linksRemoved_of_deleted {nodes after : Nodes} {ID : PyInt} (integrity : Integrity nodes)
    (deleted : Deleted ID nodes after) : LinksRemoved ID nodes after := by
  have afterIntegrity := integrity.deleted deleted
  have gone : after.lookup ID = none := by rw [deleted, if_pos rfl]
  have notGone : ∀ a, (after.lookup a).isSome = true → a ≠ ID := by
    rintro a isThere rfl
    rw [gone] at isThere
    exact absurd isThere (by simp)
  constructor
  · exact gone
  · intro a n found
    have isOther : a ≠ ID := notGone a (Option.isSome_of_eq_some found)
    constructor
    · intro link linkMem
      rcases afterIntegrity.outgoing a n found link linkMem with ⟨isBegin, hasEnd⟩
      exact ⟨by rwa [isBegin], notGone _ hasEnd⟩
    · intro link linkMem
      rcases afterIntegrity.incoming a n found link linkMem with ⟨isEnd, hasBegin⟩
      exact ⟨notGone _ hasBegin, by rwa [isEnd]⟩
  · intro a isOther
    rw [deleted, if_neg isOther, Option.isSome_map]
  · intro a n m found foundAfter link notFrom notTo
    rw [deleted, found] at foundAfter
    split at foundAfter
    · simp at foundAfter
    · rcases Option.some.inj foundAfter with rfl
      simp [Node.without, Node.removeLinkToID, Node.removeLinkFromID, notFrom, notTo]

theorem linksRemoved_of_missing {nodes : Nodes} {ID : PyInt} (integrity : Integrity nodes)
    (missing : nodes.lookup ID = none) : LinksRemoved ID nodes nodes := by
  have isOther : ∀ a, (nodes.lookup a).isSome = true → a ≠ ID := by
    rintro a isThere rfl
    rw [missing] at isThere
    exact absurd isThere (by simp)
  constructor
  · exact missing
  · intro a n found
    have aOther : a ≠ ID := isOther a (Option.isSome_of_eq_some found)
    constructor
    · intro link linkMem
      rcases integrity.outgoing a n found link linkMem with ⟨isBegin, hasEnd⟩
      exact ⟨by rwa [isBegin], isOther _ hasEnd⟩
    · intro link linkMem
      rcases integrity.incoming a n found link linkMem with ⟨isEnd, hasBegin⟩
      exact ⟨isOther _ hasBegin, by rwa [isEnd]⟩
  · exact fun _ _ => rfl
  · intro a n m found foundAfter link _ _
    rw [found] at foundAfter
    rcases Option.some.inj foundAfter with rfl
    exact ⟨Iff.rfl, Iff.rfl⟩

/-- Links lie between registered nodes and are in the lists of both ends, once; and so a
deletion and a tick never miss a key, and a deletion removes exactly the links of the
deleted node. -/
theorem topology_integrity (nodes : Nodes) (reachable : Reachable nodes) :
    (∀ a n, nodes.lookup a = some n → ∀ link ∈ n.oLinks,
      link.beginID = a ∧ (nodes.lookup link.endID).isSome = true) ∧
    (∀ a n, nodes.lookup a = some n → ∀ link ∈ n.iLinks,
      link.endID = a ∧ (nodes.lookup link.beginID).isSome = true) ∧
    (∀ (link : Link) b e, nodes.lookup link.beginID = some b →
      nodes.lookup link.endID = some e →
        ((∃ x ∈ b.oLinks, x.key = link.key) ↔ ∃ x ∈ e.iLinks, x.key = link.key)) ∧
    (∀ a n, nodes.lookup a = some n →
      (n.oLinks.map Link.key).Nodup ∧ (n.iLinks.map Link.key).Nodup) ∧
    (∀ ID, ∃ status after, deleteNode ID nodes = .ok (status, after) ∧
      LinksRemoved ID nodes after) ∧
    ∀ order, ∃ after, deviceMonitor order nodes = .ok after := by
  have integrity := integrity_reachable reachable
  refine ⟨integrity.outgoing, integrity.incoming, ?_, ?_, ?_, ?_⟩
  · exact fun link b e foundBegin foundEnd => integrity.hasKey_iff foundBegin foundEnd
  · exact fun a n found => ⟨integrity.outKeys a n found, integrity.inKeys a n found⟩
  · intro ID
    cases found : nodes.lookup ID with
    | none =>
        exact ⟨_, nodes, deleteNode_missing found, linksRemoved_of_missing integrity found⟩
    | some node =>
        rcases deleteNode_ok integrity found with ⟨after, returns, deleted⟩
        exact ⟨_, after, returns, linksRemoved_of_deleted integrity deleted⟩
  · intro order
    rcases deviceMonitor_ok order integrity with ⟨after, returns, _⟩
    exact ⟨after, returns⟩

/-! ### Two nodes that see each other -/

/-- Node 1 has reported its link to node 2. -/
def linkedNodes : Nodes :=
  (putNodeInfo 1 ⟨some 90, some [⟨0, 0⟩], some [⟨1, 2, 5, 0⟩]⟩
    (pushNode 2 "" true false (pushNode 1 "" true true ∅).2).2).2

theorem linkedNodes_reachable : Reachable linkedNodes :=
  .putNodeInfo (.pushNode (.pushNode .init 1 "" true true) 2 "" true false) 1 _ (by simp)

theorem linkedNodes_delete :
    (∃ status after, deleteNode 2 linkedNodes = .ok (status, after) ∧
      LinksRemoved 2 linkedNodes after) ∧
    (linkedNodes.lookup 1).map Node.oLinks = some [⟨1, 2, 5, 0⟩] :=
  ⟨(topology_integrity linkedNodes linkedNodes_reachable).2.2.2.2.1 2, by decide⟩

end Vson

end Nrg5
