import Nrg5.Vson.Export
import Nrg5.Vson.Merging

/-!
# Reports in any order

A report that is applied again finds its interfaces and links known.  The reports of two
nodes change the fields of different nodes, and what they add to one list has different
begin nodes, so their order shows only in the order of the incoming links.
-/

namespace Nrg5

namespace Vson

open TopologyGraph

/-! ## Interfaces that are reported again -/

/-- The interface under an index after some reports for it. -/
def refreshedAll (new : List Interface) (found : Option Interface) : Option Interface :=
  new.foldl (fun found intf => some (refreshed intf found)) found

theorem lookup_mergeInterfaces (new : List Interface) (intfs : ObjectDict PyInt Interface)
    (index : PyInt) : (new.foldl mergeInterface intfs).lookup index =
      refreshedAll (new.filter fun intf => index = intf.index) (intfs.lookup index) := by
  induction new generalizing intfs with
  | nil => rfl
  | cons intf rest ih =>
      rw [List.foldl_cons, ih, lookup_mergeInterface, List.filter_cons]
      rcases em (index = intf.index) with same | isOther
      · rw [if_pos same, if_pos (decide_eq_true same), refreshedAll, refreshedAll,
          List.foldl_cons]
      · rw [if_neg isOther, if_neg (by simpa using isOther)]

/-- The object of a known index stays, with the quality of the last report. -/
theorem refreshedAll_some (new : List Interface) (known : Interface) :
    refreshedAll new (some known) =
      some { known with quality := (new.map Interface.quality).getLastD known.quality } := by
  induction new generalizing known with
  | nil => rfl
  | cons intf rest ih =>
      rw [refreshedAll, List.foldl_cons, ← refreshedAll, ih, refreshed, List.map_cons,
        List.getLastD_cons]

theorem refreshedAll_idempotent (new : List Interface) (found : Option Interface) :
    refreshedAll new (refreshedAll new found) = refreshedAll new found := by
  cases new with
  | nil => rfl
  | cons intf rest =>
      have first : refreshedAll (intf :: rest) found =
          refreshedAll rest (some (refreshed intf found)) := rfl
      have quality : (refreshed intf found).quality = intf.quality := by
        cases found <;> rfl
      rw [first, refreshedAll_some, refreshedAll_some, quality, List.map_cons,
        List.getLastD_cons]

/-! ## Graphs that differ in the order of their lists -/

/-- Two nodes with the same fields and interfaces, and with links that are the same. -/
structure Node.Alike (sameLinks : List Link → List Link → Prop) (left right : Node) : Prop where
  fields : right =
    { left with intfs := right.intfs, oLinks := right.oLinks, iLinks := right.iLinks }
  intfs : ∀ index, left.intfs.lookup index = right.intfs.lookup index
  outgoing : sameLinks left.oLinks right.oLinks
  incoming : sameLinks left.iLinks right.iLinks

/-- The graphs have the same nodes, and nodes that are alike under each identifier. -/
def GraphsAlike (sameLinks : List Link → List Link → Prop) (left right : Nodes) : Prop :=
  ∀ a, Option.Rel (Node.Alike sameLinks) (left.lookup a) (right.lookup a)

theorem graphsAlike_of_maps {sameLinks : List Link → List Link → Prop} {nodes left right : Nodes}
    {f g : PyInt → Node → Node} (isLeft : ∀ a, left.lookup a = (nodes.lookup a).map (f a))
    (isRight : ∀ a, right.lookup a = (nodes.lookup a).map (g a))
    (alike : ∀ a n, (f a n).Alike sameLinks (g a n)) : GraphsAlike sameLinks left right := by
  intro a
  rw [isLeft, isRight]
  cases nodes.lookup a with
  | none => exact .none
  | some n => exact .some (alike a n)

theorem reported_withLinks (report : Report) (out incoming : List Link) (n : Node) :
    reported report (n.withLinks out incoming) = (reported report n).withLinks out incoming := by
  rw [reported_eq, reported_eq]
  rfl

theorem reported_twice (report : Report) (n : Node) :
    (reported report (reported report n)).Alike Eq (reported report n) := by
  have fields : reported report n =
      { reported report (reported report n) with intfs := (reported report n).intfs } := by
    rcases report with ⟨battery, intfs, nbrs⟩
    rw [reported_eq, reported_eq]
    cases battery <;> cases intfs <;> cases nbrs <;> rfl
  have links : (reported report (reported report n)).oLinks = (reported report n).oLinks ∧
      (reported report (reported report n)).iLinks = (reported report n).iLinks := by
    rw [reported_eq, reported_eq]
    exact ⟨rfl, rfl⟩
  refine ⟨?_, ?_, links.1, links.2⟩
  · rw [← links.1, ← links.2]
    exact fields
  · intro index
    rw [reported_eq, reported_eq]
    dsimp only
    rw [lookup_mergeInterfaces, lookup_mergeInterfaces, refreshedAll_idempotent]

theorem Node.Alike.withLinks {left right : Node} (alike : left.Alike Eq right)
    (out incoming : List Link) :
    (left.withLinks out incoming).Alike Eq (right.withLinks out incoming) := by
  refine ⟨?_, alike.intfs, ?_, ?_⟩
  · rw [alike.fields]
    rfl
  · exact congrArg (KeyedList.addAll Link.key out) alike.outgoing
  · exact congrArg (KeyedList.addAll Link.key incoming) alike.incoming

theorem withLinks_idempotent (out incoming : List Link) (n : Node) :
    (n.withLinks out incoming).withLinks out incoming = n.withLinks out incoming := by
  rw [Node.withLinks, Node.withLinks, Node.mk.injEq]
  simp only [KeyedList.addAll_idempotent, and_self]

/-- Two links that begin at different nodes have different keys. -/
theorem key_ne {first second : Link} (different : first.beginID ≠ second.beginID) :
    first.key ≠ second.key := fun same => different (congrArg Prod.fst same)

/-- Links that begin at different nodes are added in either order. -/
theorem withLinks_comm {out incoming moreOut moreIn : List Link} (n : Node)
    (outDiffer : ∀ link ∈ out, ∀ other ∈ moreOut, link.beginID ≠ other.beginID)
    (inDiffer : ∀ link ∈ incoming, ∀ other ∈ moreIn, link.beginID ≠ other.beginID) :
    ((n.withLinks out incoming).withLinks moreOut moreIn).Alike List.Perm
      ((n.withLinks moreOut moreIn).withLinks out incoming) := by
  refine ⟨rfl, fun _ => rfl, ?_, ?_⟩
  · apply KeyedList.addAll_comm
    exact fun other isMore link isOut => key_ne (outDiffer link isOut other isMore).symm
  · apply KeyedList.addAll_comm
    exact fun other isMore link isIn => key_ne (inDiffer link isIn other isMore).symm

/-! ## One report twice, and two reports -/

section Reports

variable {nodes : Nodes} {a b : PyInt} {Ra Rb : Report}

/-- The effect of a report depends on which nodes are registered, and on nothing else. -/
theorem afterReport_congr {after : Nodes}
    (same : ∀ c, (after.lookup c).isSome = (nodes.lookup c).isSome) (report : Report) :
    Node.afterReport a report after = Node.afterReport a report nodes := by
  funext c n
  rw [Node.afterReport, Node.afterReport, outgoingOf_congr same, incomingOf_congr same]

/-- Two reports that are applied one after the other. -/
theorem lookup_putNodeInfo_both (aRegistered : (nodes.lookup a).isSome = true)
    (bRegistered : (nodes.lookup b).isSome = true) (c : PyInt) :
    (putNodeInfo b Rb (putNodeInfo a Ra nodes).2).2.lookup c = (nodes.lookup c).map fun n =>
      Node.afterReport b Rb nodes c (Node.afterReport a Ra nodes c n) := by
  rcases Option.isSome_iff_exists.mp aRegistered with ⟨node, found⟩
  have same := registered_putNodeInfo found Ra
  rw [lookup_putNodeInfo ((same b).trans bRegistered), lookup_putNodeInfo aRegistered,
    Option.map_map, afterReport_congr same]
  rfl

theorem putNodeInfo_twice (aRegistered : (nodes.lookup a).isSome = true) :
    GraphsAlike Eq (putNodeInfo a Ra (putNodeInfo a Ra nodes).2).2 (putNodeInfo a Ra nodes).2 := by
  apply graphsAlike_of_maps (lookup_putNodeInfo_both aRegistered aRegistered)
    (lookup_putNodeInfo aRegistered Ra)
  intro c n
  simp only [Node.afterReport]
  rcases eq_or_ne c a with rfl | isOther
  · rw [if_pos rfl, if_pos rfl, reported_withLinks, withLinks_idempotent]
    exact (reported_twice Ra n).withLinks _ _
  · rw [if_neg isOther, if_neg isOther, withLinks_idempotent]
    exact ⟨rfl, fun _ => rfl, rfl, rfl⟩

theorem putNodeInfo_comm (aRegistered : (nodes.lookup a).isSome = true)
    (bRegistered : (nodes.lookup b).isSome = true) (different : a ≠ b)
    (fromA : ∀ link ∈ Ra.nbrs.getD [], link.beginID = a)
    (fromB : ∀ link ∈ Rb.nbrs.getD [], link.beginID = b) :
    GraphsAlike List.Perm (putNodeInfo b Rb (putNodeInfo a Ra nodes).2).2
      (putNodeInfo a Ra (putNodeInfo b Rb nodes).2).2 := by
  have beginsDiffer : ∀ link ∈ Ra.nbrs.getD [], ∀ other ∈ Rb.nbrs.getD [],
      link.beginID ≠ other.beginID := by
    intro link isOfA other isOfB
    rw [fromA link isOfA, fromB other isOfB]
    exact different
  apply graphsAlike_of_maps (lookup_putNodeInfo_both aRegistered bRegistered)
    (lookup_putNodeInfo_both bRegistered aRegistered)
  intro c n
  have commute := fun m => @withLinks_comm (outgoingOf nodes c (Ra.nbrs.getD []))
    (incomingOf nodes c (Ra.nbrs.getD [])) (outgoingOf nodes c (Rb.nbrs.getD []))
    (incomingOf nodes c (Rb.nbrs.getD [])) m
    (fun link isOfA other isOfB =>
      beginsDiffer link (List.mem_of_mem_filter isOfA) other (List.mem_of_mem_filter isOfB))
    (fun link isOfA other isOfB =>
      beginsDiffer link (List.mem_of_mem_filter isOfA) other (List.mem_of_mem_filter isOfB))
  simp only [Node.afterReport]
  -- at most one of the reports is about the node itself
  rcases eq_or_ne c a with rfl | notA
  · rw [if_pos rfl, if_neg different, if_pos rfl, if_neg different, reported_withLinks]
    exact commute (reported Ra n)
  · rw [if_neg notA, if_neg notA]
    rcases eq_or_ne c b with rfl | notB
    · rw [if_pos rfl, if_pos rfl, reported_withLinks]
      exact commute (reported Rb n)
    · rw [if_neg notB, if_neg notB]
      exact commute n

end Reports

namespace Topo

variable {host : ByteOrder} {self : Topo}

/-- Whether or not the export file is written, a report that is applied twice leaves the same
nodes as one that is applied once, and the reports of two nodes may be applied in either
order, up to the order of the links in the lists. -/
theorem reports_commute {a : PyInt} (aRegistered : (self.nodes.lookup a).isSome = true)
    {Ra : Report} (fromA : ∀ link ∈ Ra.nbrs.getD [], link.beginID = a) :
    (∀ once again : Write,
      GraphsAlike Eq ((self.putNodeInfo host once a Ra).2.putNodeInfo host again a Ra).2.nodes
        (self.putNodeInfo host once a Ra).2.nodes) ∧
    ∀ b : PyInt, b ≠ a → (self.nodes.lookup b).isSome = true →
      ∀ Rb : Report, (∀ link ∈ Rb.nbrs.getD [], link.beginID = b) →
        ∀ aFirst bSecond bFirst aSecond : Write, GraphsAlike List.Perm
          ((self.putNodeInfo host aFirst a Ra).2.putNodeInfo host bSecond b Rb).2.nodes
          ((self.putNodeInfo host bFirst b Rb).2.putNodeInfo host aSecond a Ra).2.nodes := by
  simp only [nodes_putNodeInfo]
  constructor
  · intro _ _
    exact putNodeInfo_twice aRegistered
  · intro b isOther bRegistered Rb fromB _ _ _ _
    exact putNodeInfo_comm aRegistered bRegistered isOther.symm fromA fromB

/-! ### Two nodes that report each other -/

def pairOfNodes : Topo := (oneNode.pushNode .little .completes [1, 2] 2 "" true false).2

def reportOf1 : Report := ⟨some 90, some [⟨0, 3⟩, ⟨0, 4⟩], some [⟨1, 2, 5, 0⟩, ⟨1, 3, 5, 0⟩]⟩

def reportOf2 : Report := ⟨none, none, some [⟨2, 1, 7, 0⟩, ⟨2, 1, 6, 1⟩]⟩

theorem pairOfNodes_commute :
    GraphsAlike Eq
        ((pairOfNodes.putNodeInfo .little .completes 1 reportOf1).2.putNodeInfo .little .openFails 1
          reportOf1).2.nodes
        (pairOfNodes.putNodeInfo .little .completes 1 reportOf1).2.nodes ∧
      GraphsAlike List.Perm
        ((pairOfNodes.putNodeInfo .little .completes 1 reportOf1).2.putNodeInfo .little .completes 2
          reportOf2).2.nodes
        ((pairOfNodes.putNodeInfo .little .dumpFails 2 reportOf2).2.putNodeInfo .little .completes 1
          reportOf1).2.nodes := by
  have commute := @reports_commute .little pairOfNodes 1 (by decide) reportOf1 (by decide)
  refine ⟨commute.1 .completes .openFails, ?_⟩
  exact commute.2 2 (by decide) (by decide) reportOf2 (by decide) .completes .completes .dumpFails
    .completes

end Topo

end Vson

end Nrg5
