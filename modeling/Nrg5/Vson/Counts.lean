import Nrg5.Vson.Expiry
import Nrg5.Vson.Merging

/-!
# The published counts

A node keeps the numbers of its interfaces and of its neighbours beside the lists, and both
documents show them beside the lists.  A report sets the numbers to its own lengths, while
the lists take only what is new in it, and only links between registered nodes; a deletion
takes links out of lists of other nodes and leaves their numbers.
-/

namespace Nrg5

namespace Vson

open TopologyGraph

/-! ## The full documents -/

structure InterfaceDoc where
  index : String
  quality : PyInt
deriving DecidableEq

structure FullLinkDoc where
  beginID : String
  endID : String
  linkQuality : PyInt
  interface : String
deriving DecidableEq

structure FullNodeDoc where
  ID : String
  registered : Bool
  signature : String
  description : Option String
  battery : Option PyInt
  nIntfs : Nat
  intfs : List InterfaceDoc
  nNbrs : Nat
  oLinks : List FullLinkDoc
  iLinks : List FullLinkDoc
  baseStation : Bool
deriving DecidableEq

/-- `Interface.tojson`. -/
def Interface.tojson (self : Interface) : InterfaceDoc :=
  { index := hex self.index, quality := self.quality }

/-- `Link.tojson('full')`. -/
def Link.tojsonFull (self : Link) : FullLinkDoc :=
  { beginID := hex self.beginID, endID := hex self.endID, linkQuality := self.lq,
    interface := hex self.intfIdx }

/-- `Node.tojson('full')`. -/
def Node.tojsonFull (self : Node) : FullNodeDoc :=
  { ID := hex self.ID, registered := self.reg, signature := self.sign, description := none,
    battery := self.batt, nIntfs := self.N,
    intfs := self.intfs.entries.map fun entry => entry.snd.tojson, nNbrs := self.M,
    oLinks := self.oLinks.map Link.tojsonFull, iLinks := self.iLinks.map Link.tojsonFull,
    baseStation := self.bs }

/-! ## True counts -/

/-- The numbers are those of the lists, and so are the numbers that the documents show. -/
structure Node.CountsTrue (n : Node) : Prop where
  interfaces : n.N = n.intfs.keys.length
  neighbours : n.M = n.oLinks.length
  full : n.tojsonFull.nIntfs = n.tojsonFull.intfs.length ∧
    n.tojsonFull.nNbrs = n.tojsonFull.oLinks.length
  netgraph : ∀ host doc, n.tojson host = .ok doc →
    doc.interfaces = n.tojsonFull.intfs.length ∧ doc.neighbours = doc.nbrsLst.length

def CountsTrue (nodes : Nodes) : Prop := ∀ a n, nodes.lookup a = some n → n.CountsTrue

theorem Node.countsTrue_iff {n : Node} :
    n.CountsTrue ↔ n.N = n.intfs.keys.length ∧ n.M = n.oLinks.length := by
  constructor
  · exact fun isTrue => ⟨isTrue.interfaces, isTrue.neighbours⟩
  · rintro ⟨interfaces, neighbours⟩
    have listed : n.tojsonFull.intfs.length = n.intfs.keys.length := by
      rw [Node.tojsonFull, List.length_map, AList.keys, List.keys, List.length_map]
    refine ⟨interfaces, neighbours, ⟨?_, ?_⟩, ?_⟩
    · rw [listed]
      exact interfaces
    · rw [Node.tojsonFull, List.length_map]
      exact neighbours
    · intro host doc isDoc
      rcases Node.tojson_ok_iff.mp isDoc with ⟨id, _, rfl⟩
      rw [listed, List.length_map]
      exact ⟨interfaces, neighbours⟩

theorem countsTrue_insert {nodes : Nodes} {ID : PyInt} {n : Node} (isTrue : CountsTrue nodes)
    (nodeTrue : n.CountsTrue) : CountsTrue (nodes.insert ID n) := by
  intro a m found
  rw [ObjectDict.lookup_insert_eq] at found
  split at found
  · rcases Option.some.inj found with rfl
    exact nodeTrue
  · exact isTrue a m found

/-- The counts of a graph that is made from another one node by node. -/
theorem countsTrue_map_iff {nodes after : Nodes} {f : PyInt → Node → Node}
    (lookups : ∀ a, after.lookup a = (nodes.lookup a).map (f a)) :
    CountsTrue after ↔ ∀ a n, nodes.lookup a = some n → (f a n).CountsTrue := by
  constructor
  · intro isTrue a n found
    apply isTrue a
    rw [lookups, found, Option.map_some]
  · intro isTrue a m foundAfter
    rw [lookups] at foundAfter
    rcases Option.map_eq_some_iff.mp foundAfter with ⟨n, found, rfl⟩
    exact isTrue a n found

/-! ## Reports -/

/-- The numbers of a report are those of what its node, and every other one, then has:
different indexes and different keys of links. -/
structure KeepsCounts (ID : PyInt) (nodes : Nodes) (report : Report) : Prop where
  interfaces : ∀ intfs, report.intfs = some intfs → ∀ n, nodes.lookup ID = some n →
    (n.intfs.keys.toFinset ∪ (intfs.map Interface.index).toFinset).card = intfs.length
  neighbours : ∀ nbrs, report.nbrs = some nbrs → ∀ a n, nodes.lookup a = some n →
    ((n.oLinks.map Link.key).toFinset ∪ ((outgoingOf nodes a nbrs).map Link.key).toFinset).card =
      if a = ID then nbrs.length else n.oLinks.length

section Reports

variable {nodes : Nodes} {ID a : PyInt} {report : Report} {n : Node}

theorem intfs_afterReport_of_other (isOther : a ≠ ID) :
    (Node.afterReport ID report nodes a n).N = n.N ∧
      (Node.afterReport ID report nodes a n).intfs = n.intfs := by
  rw [Node.afterReport, if_neg isOther]
  exact ⟨rfl, rfl⟩

theorem intfs_afterReport_self :
    (Node.afterReport ID report nodes ID n).N = (report.intfs.map List.length).getD n.N ∧
      (Node.afterReport ID report nodes ID n).intfs =
        (report.intfs.getD []).foldl mergeInterface n.intfs := by
  rw [Node.afterReport, if_pos rfl, reported_eq]
  exact ⟨rfl, rfl⟩

theorem links_afterReport :
    (Node.afterReport ID report nodes a n).M =
        (if a = ID then (report.nbrs.map List.length).getD n.M else n.M) ∧
      (Node.afterReport ID report nodes a n).oLinks =
        KeyedList.addAll Link.key (outgoingOf nodes a (report.nbrs.getD [])) n.oLinks := by
  rw [Node.afterReport]
  split
  · rw [reported_eq]
    exact ⟨rfl, rfl⟩
  · exact ⟨rfl, rfl⟩

theorem interfaces_afterReport_iff (isTrue : n.CountsTrue) :
    (Node.afterReport ID report nodes a n).N =
        (Node.afterReport ID report nodes a n).intfs.keys.length ↔
      (a = ID → ∀ intfs, report.intfs = some intfs →
        (n.intfs.keys.toFinset ∪ (intfs.map Interface.index).toFinset).card = intfs.length) := by
  rcases eq_or_ne a ID with rfl | isOther
  · rw [intfs_afterReport_self.1, intfs_afterReport_self.2]
    cases report.intfs with
    | none => exact iff_of_true isTrue.interfaces fun _ _ isSome => nomatch isSome
    | some intfs =>
        rw [Option.map_some, Option.getD_some, Option.getD_some, length_mergeInterfaces]
        constructor
        · rintro counted _ _ ⟨⟩
          exact counted.symm
        · exact fun counted => (counted rfl intfs rfl).symm
  · rw [(intfs_afterReport_of_other isOther).1, (intfs_afterReport_of_other isOther).2]
    exact iff_of_true isTrue.interfaces fun same => absurd same isOther

theorem neighbours_afterReport_iff (isTrue : n.CountsTrue)
    (nodup : (n.oLinks.map Link.key).Nodup) :
    (Node.afterReport ID report nodes a n).M =
        (Node.afterReport ID report nodes a n).oLinks.length ↔
      ∀ nbrs, report.nbrs = some nbrs →
        ((n.oLinks.map Link.key).toFinset ∪
          ((outgoingOf nodes a nbrs).map Link.key).toFinset).card =
            if a = ID then nbrs.length else n.oLinks.length := by
  rw [links_afterReport.1, links_afterReport.2, KeyedList.length_addAll nodup]
  cases report.nbrs with
  | none =>
      refine iff_of_true ?_ fun _ isSome => nomatch isSome
      have same : ((n.oLinks.map Link.key).toFinset ∪
          ((outgoingOf nodes a []).map Link.key).toFinset).card = n.oLinks.length := by
        rw [← List.length_map Link.key, ← List.toFinset_card_of_nodup nodup]
        simp [outgoingOf]
      rw [Option.map_none, Option.getD_none, Option.getD_none, same, ite_self]
      exact isTrue.neighbours
  | some nbrs =>
      rw [Option.map_some, Option.getD_some, Option.getD_some, isTrue.neighbours]
      constructor
      · rintro counted _ ⟨⟩
        exact counted.symm
      · exact fun counted => (counted nbrs rfl).symm

/-- A report keeps the counts true exactly when its numbers are those of what there is then. -/
theorem countsTrue_putNodeInfo_iff (integrity : Integrity nodes) (isTrue : CountsTrue nodes)
    (registered : (nodes.lookup ID).isSome = true) :
    CountsTrue (putNodeInfo ID report nodes).2 ↔ KeepsCounts ID nodes report := by
  rw [countsTrue_map_iff (lookup_putNodeInfo registered report)]
  have nodeCounts : ∀ a n, nodes.lookup a = some n →
      ((Node.afterReport ID report nodes a n).CountsTrue ↔ _) := fun a n found =>
    Node.countsTrue_iff.trans (and_congr (interfaces_afterReport_iff (isTrue a n found))
      (neighbours_afterReport_iff (isTrue a n found) (integrity.outKeys a n found)))
  constructor
  · intro after
    constructor
    · intro intfs isReported n found
      exact ((nodeCounts ID n found).mp (after ID n found)).1 rfl intfs isReported
    · intro nbrs isReported a n found
      exact ((nodeCounts a n found).mp (after a n found)).2 nbrs isReported
  · intro keeps a n found
    apply (nodeCounts a n found).mpr
    constructor
    · rintro rfl intfs isReported
      exact keeps.interfaces intfs isReported n found
    · intro nbrs isReported
      exact keeps.neighbours nbrs isReported a n found

end Reports

/-! ## Deletions -/

/-- No node that stays has a link to one that goes. -/
def Unlinked (gone : List PyInt) (nodes : Nodes) : Prop :=
  ∀ a n, a ∉ gone → nodes.lookup a = some n → ∀ link ∈ n.oLinks, link.endID ∉ gone

/-- A node without some of its links keeps its number of neighbours. -/
theorem countsTrue_withoutAll_iff {n : Node} (isTrue : n.CountsTrue) (gone : List PyInt) :
    (n.withoutAll gone).CountsTrue ↔ ∀ link ∈ n.oLinks, link.endID ∉ gone := by
  have counted : (n.withoutAll gone).CountsTrue ↔
      n.oLinks.length = (n.oLinks.filter fun link => link.endID ∉ gone).length := by
    rw [Node.countsTrue_iff, ← isTrue.neighbours]
    exact and_iff_right isTrue.interfaces
  rw [counted, eq_comm, List.length_filter_eq_length_iff]
  simp only [decide_eq_true_eq]

theorem countsTrue_deleted_iff {nodes after : Nodes} {gone : List PyInt} (isTrue : CountsTrue nodes)
    (lookups : ∀ a, after.lookup a =
      if a ∈ gone then none else (nodes.lookup a).map (Node.withoutAll gone)) :
    CountsTrue after ↔ Unlinked gone nodes := by
  constructor
  · intro afterTrue a n stays found
    apply (countsTrue_withoutAll_iff (isTrue a n found) gone).mp
    apply afterTrue a
    rw [lookups, if_neg stays, found, Option.map_some]
  · intro unlinked a m foundAfter
    rw [lookups] at foundAfter
    split at foundAfter
    · exact nomatch foundAfter
    · rename_i stays
      rcases Option.map_eq_some_iff.mp foundAfter with ⟨n, found, rfl⟩
      exact (countsTrue_withoutAll_iff (isTrue a n found) gone).mpr (unlinked a n stays found)

theorem Node.countsTrue_marked {n : Node} : n.marked.CountsTrue ↔ n.CountsTrue := by
  rw [Node.countsTrue_iff, Node.countsTrue_iff]
  rfl

namespace Topo

variable {host : ByteOrder} {self : Topo} {writes : PyInt → Write}

theorem countsTrue_marked (isTrue : CountsTrue self.nodes) : CountsTrue self.marked.nodes := by
  apply (countsTrue_map_iff (lookup_markNodes self.order (self.nodes, []))).mpr
  intro a n found
  split
  · exact Node.countsTrue_marked.mpr (isTrue a n found)
  · exact isTrue a n found

theorem unlinked_marked {gone : List PyInt} :
    Unlinked gone self.marked.nodes ↔ Unlinked gone self.nodes := by
  have lookups := lookup_markNodes self.order (self.nodes, [])
  constructor
  · intro unlinked a n stays found link isOut
    have isMarked : self.marked.nodes.lookup a = some (if a ∈ self.order then n.marked else n) := by
      rw [marked, lookups, found, Option.map_some]
    apply unlinked a _ stays isMarked
    split
    · exact isOut
    · exact isOut
  · intro unlinked a m stays isMarked link isOut
    rw [marked, lookups] at isMarked
    rcases Option.map_eq_some_iff.mp isMarked with ⟨n, found, rfl⟩
    apply unlinked a n stays found
    split at isOut
    · exact isOut
    · exact isOut

namespace Op

/-- The call keeps the counts: a report has the numbers of what there is then, and a node that
is deleted has no link from one that stays. -/
def KeepsCounts (self : Topo) : Op → Prop
  | .pushNode _ _ _ _ _ _ => True
  | .putNodeInfo ID report _ =>
      (self.nodes.lookup ID).isSome = true → Vson.KeepsCounts ID self.nodes report
  | .deleteNode ID _ => Unlinked [ID] self.nodes
  | .deviceMonitor writes =>
      Unlinked (deletedIn writes (self.order.filter (silent self.nodes)) self.order) self.nodes
  | .getTopoAll => True

end Op

/-! ## Runs -/

theorem countsTrue_pushNode {ID : PyInt} {sign : String} {reg bs : Bool}
    (isTrue : CountsTrue self.nodes) :
    CountsTrue (TopologyGraph.pushNode ID sign reg bs self.nodes).2 := by
  rw [TopologyGraph.pushNode]
  cases self.nodes.lookup ID with
  | some node => exact isTrue
  | none => exact countsTrue_insert isTrue (Node.countsTrue_iff.mpr ⟨rfl, rfl⟩)

theorem countsTrue_deleteNode_iff {write : Write} {ID : PyInt} (shaped : self.Shaped)
    (isTrue : CountsTrue self.nodes) :
    CountsTrue (self.deleteNode host write ID).2.nodes ↔ Unlinked [ID] self.nodes := by
  cases found : self.nodes.lookup ID with
  | none =>
      rw [deleteNode, deleteNode_missing found]
      refine iff_of_true isTrue ?_
      intro a n _ foundOther link isOut isGone
      have hasEnd := (shaped.integrity.outgoing a n foundOther link isOut).2
      rw [List.mem_singleton.mp isGone, found] at hasEnd
      exact absurd hasEnd (by simp)
  | some node =>
      have deleted := (@deleteNode_deletes host self write ID shaped
        (Option.isSome_of_eq_some found)).1
      apply countsTrue_deleted_iff isTrue
      intro a
      rw [deleted, Node.withoutAll_singleton]
      simp only [List.mem_singleton]

theorem countsTrue_deviceMonitor_iff (shaped : self.Shaped) (isTrue : CountsTrue self.nodes) :
    CountsTrue (self.deviceMonitor host writes).2.nodes ↔
      Unlinked (deletedIn writes (self.order.filter (silent self.nodes)) self.order)
        self.nodes := by
  rcases collected_registered shaped with ⟨nodup, registered⟩
  have lookups := (@deleteEach_deletes host _ writes _ (shaped_marked shaped) registered nodup).1
  rw [deviceMonitor_snd shaped, ← unlinked_marked]
  exact countsTrue_deleted_iff (countsTrue_marked isTrue) lookups

/-- A call keeps the counts true exactly when it does what keeps them. -/
theorem countsTrue_call_iff (shaped : self.Shaped) (isTrue : CountsTrue self.nodes) (op : Op) :
    CountsTrue (op.call host self).2.nodes ↔ op.KeepsCounts self := by
  cases op with
  | pushNode ID sign reg bs order write =>
      change CountsTrue (self.pushNode host write order ID sign reg bs).2.nodes ↔ True
      rw [nodes_pushNode]
      exact iff_true_intro (countsTrue_pushNode isTrue)
  | putNodeInfo ID report write =>
      change CountsTrue (self.putNodeInfo host write ID report).2.nodes ↔
        ((self.nodes.lookup ID).isSome = true → Vson.KeepsCounts ID self.nodes report)
      rw [nodes_putNodeInfo]
      cases found : self.nodes.lookup ID with
      | none =>
          rw [TopologyGraph.putNodeInfo, found]
          exact iff_of_true isTrue fun isThere => absurd isThere (by simp)
      | some node =>
          have registered : (self.nodes.lookup ID).isSome = true := Option.isSome_of_eq_some found
          rw [countsTrue_putNodeInfo_iff shaped.integrity isTrue registered]
          exact ⟨fun keeps _ => keeps, fun keeps => keeps rfl⟩
  | deleteNode ID write => exact countsTrue_deleteNode_iff shaped isTrue
  | deviceMonitor writes => exact countsTrue_deviceMonitor_iff shaped isTrue
  | getTopoAll =>
      change CountsTrue (self.getTopoAll host).2.nodes ↔ True
      rw [getTopoAll_snd, nodes_rebuild.1]
      exact iff_true_intro isTrue

/-- The counts are true in all states of a run exactly when every call of it keeps them. -/
theorem counts_true_iff {history : List (Op × Topo)} (run : Run host history self) :
    (CountsTrue self.nodes ∧ ∀ entry ∈ history, CountsTrue entry.2.nodes) ↔
      ∀ entry ∈ history, entry.1.KeepsCounts entry.2 := by
  induction run with
  | init =>
      have noNodes : CountsTrue init.nodes := fun a n found => nomatch found
      exact iff_of_true ⟨noNodes, fun _ isMem => nomatch isMem⟩ fun _ isMem => nomatch isMem
  | @call history self before op iterates ih =>
      have shaped := shaped_run before
      rw [List.forall_mem_cons, List.forall_mem_cons, ← ih]
      constructor
      · rintro ⟨afterTrue, isTrue, earlier⟩
        exact ⟨(countsTrue_call_iff shaped isTrue op).mp afterTrue, isTrue, earlier⟩
      · rintro ⟨keeps, isTrue, earlier⟩
        exact ⟨(countsTrue_call_iff shaped isTrue op).mpr keeps, isTrue, earlier⟩

/-! ### A node that sees another one, which is deleted -/

/-- Node 1 has an interface, and a link to node 2. -/
def seesOther : Report := ⟨some 90, some [⟨0, 3⟩], some [⟨1, 2, 5, 0⟩]⟩

def sawOther : Topo := (twoNodes.putNodeInfo .little .completes 1 seesOther).2

theorem sawOther_run :
    Run .little [(.putNodeInfo 1 seesOther .completes, twoNodes),
      (.pushNode 2 "" true false [2, 1] .completes, oneNode),
      (.pushNode 1 "" true true [1] .dumpFails, init)] sawOther :=
  .call twoNodes_run _ trivial

theorem seesOther_keeps : Vson.KeepsCounts 1 twoNodes.nodes seesOther := by
  constructor
  · rintro _ ⟨⟩
    decide
  · rintro _ ⟨⟩ a n found
    have listed : ∀ a ∈ twoNodes.nodes.keys, ∀ n ∈ twoNodes.nodes.lookup a,
        ((n.oLinks.map Link.key).toFinset ∪
          ((outgoingOf twoNodes.nodes a [⟨1, 2, 5, 0⟩]).map Link.key).toFinset).card =
            if a = 1 then 1 else n.oLinks.length := by decide
    exact listed a (AList.lookup_isSome.mp (Option.isSome_of_eq_some found)) n found

theorem sawOther_counts :
    CountsTrue sawOther.nodes ∧
      ∀ entry ∈ [((.putNodeInfo 1 seesOther .completes : Op), twoNodes),
        (.pushNode 2 "" true false [2, 1] .completes, oneNode),
        (.pushNode 1 "" true true [1] .dumpFails, init)], CountsTrue entry.2.nodes := by
  apply (counts_true_iff sawOther_run).mpr
  intro entry isMem
  simp only [List.mem_cons, List.not_mem_nil, or_false] at isMem
  rcases isMem with rfl | rfl | rfl
  · exact fun _ => seesOther_keeps
  · exact trivial
  · exact trivial

def lostOther : Topo := (sawOther.deleteNode .little .completes 2).2

/-- Node 1 still has the number of its neighbours, and no link. -/
theorem lostOther_miscounts :
    (∃ history, Run .little history lostOther) ∧
      (lostOther.nodes.lookup 1).map (fun n => (n.M, n.oLinks)) = some (1, []) ∧
        ¬ CountsTrue lostOther.nodes := by
  have stored : (lostOther.nodes.lookup 1).map (fun n => (n.M, n.oLinks)) = some (1, []) := by
    decide
  refine ⟨⟨_, .call sawOther_run (.deleteNode 2 .completes) trivial⟩, stored, ?_⟩
  intro isTrue
  rcases Option.map_eq_some_iff.mp stored with ⟨n, found, counts⟩
  rcases Prod.mk.inj counts with ⟨one, none⟩
  have same := (isTrue 1 n found).neighbours
  rw [one, none] at same
  exact absurd same (by decide)

end Topo

end Vson

end Nrg5
