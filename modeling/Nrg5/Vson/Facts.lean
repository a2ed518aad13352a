import Nrg5.Vson.Expiry
import Nrg5.Vson.Merging

/-!
# What the graph knows it has from reports

Nodes are registered without a battery, without interfaces and without links.  So what the graph
says about them was in a report, whatever has been registered, deleted or has expired meanwhile.
-/

namespace Nrg5

namespace Vson

open TopologyGraph

/-- What may be said about the nodes and their links. -/
structure Facts where
  battery : PyInt → PyInt → Prop
  interface : PyInt → Interface → Prop
  link : Link → Prop

namespace Facts

/-- A report about a node says nothing else. -/
structure Reports (facts : Facts) (ID : PyInt) (report : Report) : Prop where
  battery : ∀ value, report.battery = some value → facts.battery ID value
  interfaces : ∀ intf ∈ report.intfs.getD [], facts.interface ID intf
  links : ∀ link ∈ report.nbrs.getD [], facts.link link

/-- A node of the graph shows nothing else. -/
structure Shows (facts : Facts) (a : PyInt) (n : Node) : Prop where
  battery : ∀ value, n.batt = some value → facts.battery a value
  interfaces : ∀ index intf, n.intfs.lookup index = some intf →
    intf.index = index ∧ facts.interface a intf
  outgoing : ∀ link ∈ n.oLinks, facts.link link
  incoming : ∀ link ∈ n.iLinks, facts.link link

/-- No node of a graph shows anything but facts. -/
def Graph (facts : Facts) (nodes : Nodes) : Prop :=
  ∀ a n, nodes.lookup a = some n → facts.Shows a n

structure Within (facts wider : Facts) : Prop where
  battery : ∀ a value, facts.battery a value → wider.battery a value
  interface : ∀ a intf, facts.interface a intf → wider.interface a intf
  link : ∀ link, facts.link link → wider.link link

variable {facts wider : Facts} {nodes : Nodes} {a : PyInt} {n m : Node}

theorem Graph.mono (graph : facts.Graph nodes) (within : facts.Within wider) :
    wider.Graph nodes := by
  intro a n found
  have showing := graph a n found
  refine ⟨fun value isValue => within.battery a value (showing.battery value isValue), ?_,
    fun link isLink => within.link link (showing.outgoing link isLink),
    fun link isLink => within.link link (showing.incoming link isLink)⟩
  intro index intf isIntf
  rcases showing.interfaces index intf isIntf with ⟨same, isFact⟩
  exact ⟨same, within.interface a intf isFact⟩

theorem graph_empty : facts.Graph ∅ :=
  fun _ _ found => absurd found (by simp)

theorem shows_new (ID : PyInt) (sign : String) (reg bs : Bool) :
    facts.Shows a (Node.new ID sign reg bs) :=
  ⟨fun _ isValue => absurd isValue (by simp [Node.new]),
    fun _ _ isIntf => absurd isIntf (by simp [Node.new]),
    fun _ isLink => absurd isLink List.not_mem_nil,
    fun _ isLink => absurd isLink List.not_mem_nil⟩

/-! ## Less than before -/

/-- A node with the same battery and interfaces, and with some of the links. -/
structure Thinned (n m : Node) : Prop where
  batt : n.batt = m.batt
  intfs : n.intfs = m.intfs
  oLinks : n.oLinks ⊆ m.oLinks
  iLinks : n.iLinks ⊆ m.iLinks

theorem Thinned.refl (n : Node) : Thinned n n :=
  ⟨rfl, rfl, List.Subset.refl _, List.Subset.refl _⟩

theorem thinned_without (ID : PyInt) (n : Node) : Thinned (n.without ID) n := by
  refine ⟨rfl, rfl, ?_, ?_⟩
  · exact fun link isLink => List.mem_of_mem_filter isLink
  · exact fun link isLink => List.mem_of_mem_filter isLink

theorem Shows.thinned (showing : facts.Shows a m) (thinned : Thinned n m) : facts.Shows a n := by
  constructor
  · rw [thinned.batt]
    exact showing.battery
  · rw [thinned.intfs]
    exact showing.interfaces
  · exact fun link isLink => showing.outgoing link (thinned.oLinks isLink)
  · exact fun link isLink => showing.incoming link (thinned.iLinks isLink)

/-- Every node is a thinned one. -/
theorem Graph.thinned {after : Nodes} (graph : facts.Graph nodes)
    (thins : ∀ a n, after.lookup a = some n → ∃ m, nodes.lookup a = some m ∧ Thinned n m) :
    facts.Graph after := by
  intro a n found
  rcases thins a n found with ⟨m, was, thinned⟩
  exact (graph a m was).thinned thinned

variable {host : ByteOrder} {self : Topo} {writes : PyInt → Write}

/-- A deleted node takes its links with it, and the others keep what they show. -/
theorem Graph.deleteNode {write : Write} (graph : facts.Graph self.nodes) (shaped : self.Shaped)
    (ID : PyInt) : facts.Graph (self.deleteNode host write ID).2.nodes := by
  apply graph.thinned
  intro a n found
  rcases Topo.deleteNode_cases shaped.integrity with ⟨_, isSelf⟩ | ⟨nodes, deleted, isCommit⟩
  · rw [isSelf] at found
    exact ⟨n, found, .refl n⟩
  · rw [isCommit, Topo.nodes_commit.1, deleted] at found
    split at found
    · exact nomatch found
    · rcases Option.map_eq_some_iff.mp found with ⟨m, was, rfl⟩
      exact ⟨m, was, thinned_without ID m⟩

theorem Graph.deleteEach (graph : facts.Graph self.nodes) (shaped : self.Shaped)
    (IDs : List PyInt) : facts.Graph (Topo.deleteEach host writes IDs self).2.nodes := by
  induction IDs generalizing self with
  | nil => exact graph
  | cons ID rest ih =>
      have deletes := @Graph.deleteNode _ host _ (writes ID) graph shaped ID
      have isShaped := @Topo.shaped_deleteNode host self (writes ID) ID shaped
      rw [Topo.deleteEach]
      rcases outcome : self.deleteNode host (writes ID) ID with ⟨error | status, after⟩
      all_goals rw [outcome] at deletes isShaped
      · exact deletes
      · exact ih deletes isShaped

theorem Graph.marked (graph : facts.Graph self.nodes) : facts.Graph self.marked.nodes := by
  apply graph.thinned
  intro a n found
  rw [Topo.marked, lookup_markNodes] at found
  rcases Option.map_eq_some_iff.mp found with ⟨m, was, rfl⟩
  refine ⟨m, was, ?_⟩
  split
  · exact ⟨rfl, rfl, List.Subset.refl _, List.Subset.refl _⟩
  · exact .refl m

/-! ## Reports -/

theorem interfaces_mergeInterface {known : ObjectDict PyInt Interface} {intf : Interface}
    (isFact : facts.interface a intf)
    (showing : ∀ index other, known.lookup index = some other →
      other.index = index ∧ facts.interface a other) :
    ∀ index other, (mergeInterface known intf).lookup index = some other →
      other.index = index ∧ facts.interface a other := by
  intro index other isThere
  rw [lookup_mergeInterface] at isThere
  split at isThere
  · rename_i same
    rcases Option.some.inj isThere with rfl
    cases found : known.lookup index with
    | none => exact ⟨same.symm, isFact⟩
    | some old =>
        have oldIndex := (showing index old found).1
        have isReported : refreshed intf (some old) = intf := by
          rw [refreshed, oldIndex, same]
        rw [isReported]
        exact ⟨same.symm, isFact⟩
  · exact showing index other isThere

theorem interfaces_mergeInterfaces (intfs : List Interface) {known : ObjectDict PyInt Interface}
    (areFacts : ∀ intf ∈ intfs, facts.interface a intf)
    (showing : ∀ index other, known.lookup index = some other →
      other.index = index ∧ facts.interface a other) :
    ∀ index other, (intfs.foldl mergeInterface known).lookup index = some other →
      other.index = index ∧ facts.interface a other := by
  induction intfs generalizing known with
  | nil => exact showing
  | cons intf rest ih =>
      rw [List.forall_mem_cons] at areFacts
      exact ih areFacts.2 (interfaces_mergeInterface areFacts.1 showing)

theorem Shows.reported {report : Report} (showing : facts.Shows a n)
    (reports : facts.Reports a report) : facts.Shows a (TopologyGraph.reported report n) := by
  rw [reported_eq]
  refine ⟨?_, ?_, showing.outgoing, showing.incoming⟩
  · intro value isValue
    dsimp only at isValue
    rcases Option.or_eq_some_iff.mp isValue with isNew | ⟨_, isOld⟩
    · exact reports.battery value isNew
    · exact showing.battery value isOld
  · exact interfaces_mergeInterfaces _ reports.interfaces showing.interfaces

theorem Shows.withLinks {out incoming : List Link} (showing : facts.Shows a n)
    (areOut : ∀ link ∈ out, facts.link link) (areIn : ∀ link ∈ incoming, facts.link link) :
    facts.Shows a (n.withLinks out incoming) := by
  refine ⟨showing.battery, showing.interfaces, ?_, ?_⟩
  · intro link isLink
    rcases KeyedList.of_mem_addAll isLink with isOld | isNew
    · exact showing.outgoing link isOld
    · exact areOut link isNew
  · intro link isLink
    rcases KeyedList.of_mem_addAll isLink with isOld | isNew
    · exact showing.incoming link isOld
    · exact areIn link isNew

/-- A report adds to one node what it says, and to the nodes it names their links. -/
theorem Graph.putNodeInfo {ID : PyInt} {report : Report} (graph : facts.Graph nodes)
    (reports : facts.Reports ID report) :
    facts.Graph (TopologyGraph.putNodeInfo ID report nodes).2 := by
  cases known : nodes.lookup ID with
  | none =>
      simp only [TopologyGraph.putNodeInfo, known]
      exact graph
  | some node =>
      intro a n found
      rw [lookup_putNodeInfo (Option.isSome_of_eq_some known)] at found
      rcases Option.map_eq_some_iff.mp found with ⟨m, was, rfl⟩
      have showing := graph a m was
      have own : facts.Shows a (if a = ID then TopologyGraph.reported report m else m) := by
        split
        · rename_i isReported
          rw [← isReported] at reports
          exact showing.reported reports
        · exact showing
      apply own.withLinks
      · exact fun link isLink => reports.links link (List.mem_of_mem_filter isLink)
      · exact fun link isLink => reports.links link (List.mem_of_mem_filter isLink)

/-! ## Calls -/

/-- The call is not a report, or it reports facts. -/
def Allows (facts : Facts) : Topo.Op → Prop
  | .putNodeInfo ID report _ => facts.Reports ID report
  | _ => True

/-- A call of the graph says nothing beyond what it is told. -/
theorem Graph.call (graph : facts.Graph self.nodes) (shaped : self.Shaped) {op : Topo.Op}
    (allows : facts.Allows op) : facts.Graph (op.call host self).2.nodes := by
  cases op with
  | pushNode ID sign reg bs order write =>
      change facts.Graph (self.pushNode host write order ID sign reg bs).2.nodes
      rw [Topo.nodes_pushNode]
      intro a n found
      cases known : self.nodes.lookup ID with
      | some node =>
          simp only [TopologyGraph.pushNode, known] at found
          exact graph a n found
      | none =>
          rw [Topo.nodes_pushed known, ObjectDict.lookup_insert_eq] at found
          split at found
          · rcases Option.some.inj found with rfl
            exact shows_new ID sign reg bs
          · exact graph a n found
  | putNodeInfo ID report write =>
      change facts.Graph (self.putNodeInfo host write ID report).2.nodes
      rw [Topo.nodes_putNodeInfo]
      exact graph.putNodeInfo allows
  | deleteNode ID write => exact graph.deleteNode shaped ID
  | deviceMonitor writes =>
      change facts.Graph (self.deviceMonitor host writes).2.nodes
      rw [Topo.deviceMonitor_snd shaped]
      exact graph.marked.deleteEach (Topo.shaped_marked shaped) _
  | getTopoAll =>
      change facts.Graph (self.getTopoAll host).2.nodes
      rw [Topo.getTopoAll_snd, Topo.nodes_rebuild.1]
      exact graph

end Facts

end Vson

end Nrg5
