import Nrg5.Vson.Report

/-!
# What a report merges into the nodes

A report sets some fields of its node, merges its interfaces into those of the node, and
adds its links to the lists of their ends, where both ends are registered.  None of this
registers a node, so each node takes its links from the report as a whole.
-/

namespace Nrg5

namespace Vson

open TopologyGraph

/-! ## Interfaces -/

/-- The interface under an index, after another one is reported for it. -/
def refreshed (intf : Interface) : Option Interface → Interface
  | none => intf
  | some known => { known with quality := intf.quality }

def mergeInterface (intfs : ObjectDict PyInt Interface) (intf : Interface) :
    ObjectDict PyInt Interface :=
  match intfs.lookup intf.index with
  | none => intfs.insert intf.index intf
  | some known =>
      if known.quality ≠ intf.quality then
        intfs.insert intf.index { known with quality := intf.quality }
      else intfs

theorem addInterface_eq (intf : Interface) (n : Node) :
    n.addInterface intf = { n with intfs := mergeInterface n.intfs intf } := by
  rw [Node.addInterface, mergeInterface]
  cases n.intfs.lookup intf.index with
  | none => rfl
  | some known =>
      dsimp only
      split <;> rfl

theorem addInterfaces_eq (new : List Interface) (n : Node) :
    new.foldl Node.addInterface n = { n with intfs := new.foldl mergeInterface n.intfs } := by
  induction new generalizing n with
  | nil => rfl
  | cons intf rest ih => rw [List.foldl_cons, ih, addInterface_eq, List.foldl_cons]

theorem lookup_mergeInterface (intfs : ObjectDict PyInt Interface) (intf : Interface)
    (index : PyInt) : (mergeInterface intfs intf).lookup index =
      if index = intf.index then some (refreshed intf (intfs.lookup index))
      else intfs.lookup index := by
  rw [mergeInterface]
  cases found : intfs.lookup intf.index with
  | none =>
      rw [ObjectDict.lookup_insert_eq]
      split
      · rename_i same
        rw [same, found, refreshed]
      · rfl
  | some known =>
      dsimp only
      split
      · rw [ObjectDict.lookup_insert_eq]
        split
        · rename_i same
          rw [same, found, refreshed]
        · rfl
      · rename_i unchanged
        split
        · rename_i same
          rw [same, found, refreshed, ← not_not.mp unchanged]
        · rfl

theorem mem_keys_mergeInterfaces (new : List Interface) (intfs : ObjectDict PyInt Interface)
    (index : PyInt) : index ∈ (new.foldl mergeInterface intfs).keys ↔
      index ∈ intfs.keys ∨ index ∈ new.map Interface.index := by
  induction new generalizing intfs with
  | nil => simp
  | cons intf rest ih =>
      have added : index ∈ (mergeInterface intfs intf).keys ↔
          index ∈ intfs.keys ∨ index = intf.index := by
        rw [← AList.mem_keys, ← AList.lookup_isSome, lookup_mergeInterface, ← AList.mem_keys,
          ← AList.lookup_isSome]
        split
        · rename_i same
          exact iff_of_true rfl (.inr same)
        · rename_i isOther
          exact (or_iff_left isOther).symm
      rw [List.foldl_cons, ih, added, List.map_cons, List.mem_cons, or_assoc]

/-- The merge counts the different indexes. -/
theorem length_mergeInterfaces (new : List Interface) (intfs : ObjectDict PyInt Interface) :
    (new.foldl mergeInterface intfs).keys.length =
      (intfs.keys.toFinset ∪ (new.map Interface.index).toFinset).card := by
  have sameKeys : (new.foldl mergeInterface intfs).keys.toFinset =
      intfs.keys.toFinset ∪ (new.map Interface.index).toFinset := by
    ext index
    rw [List.mem_toFinset, mem_keys_mergeInterfaces, Finset.mem_union, List.mem_toFinset,
      List.mem_toFinset]
  rw [← sameKeys, List.toFinset_card_of_nodup (AList.keys_nodup _)]

/-! ## Links -/

/-- A node with more links in its two lists. -/
def Node.withLinks (out incoming : List Link) (n : Node) : Node :=
  { n with
    oLinks := KeyedList.addAll Link.key out n.oLinks
    iLinks := KeyedList.addAll Link.key incoming n.iLinks }

theorem Node.withLinks_append (out incoming moreOut moreIn : List Link) (n : Node) :
    (n.withLinks out incoming).withLinks moreOut moreIn =
      n.withLinks (out ++ moreOut) (incoming ++ moreIn) := by
  simp only [Node.withLinks, KeyedList.addAll, List.foldl_append]

theorem addOutlink_eq (link : Link) (n : Node) : n.addOutlink link = n.withLinks [link] [] := by
  rw [Node.addOutlink, Node.withLinks, KeyedList.addAll, List.foldl_cons, List.foldl_nil,
    ← addLink_eq, addLink]
  cases n.oLinks.find? fun x => x.isSame link <;> rfl

theorem addInlink_eq (link : Link) (n : Node) : n.addInlink link = n.withLinks [] [link] := by
  rw [Node.addInlink, Node.withLinks, KeyedList.addAll, KeyedList.addAll, List.foldl_cons,
    List.foldl_nil, ← addLink_eq, addLink]
  cases n.iLinks.find? fun x => x.isSame link <;> rfl

/-- The links of a list that a node takes as outgoing ones. -/
def outgoingOf (nodes : Nodes) (a : PyInt) (links : List Link) : List Link :=
  links.filter fun link => link.beginID = a ∧ (nodes.lookup link.endID).isSome = true

/-- The links of a list that a node takes as incoming ones. -/
def incomingOf (nodes : Nodes) (a : PyInt) (links : List Link) : List Link :=
  links.filter fun link => link.endID = a ∧ (nodes.lookup link.beginID).isSome = true

theorem outgoingOf_congr {nodes after : Nodes}
    (same : ∀ a, (after.lookup a).isSome = (nodes.lookup a).isSome) (a : PyInt)
    (links : List Link) : outgoingOf after a links = outgoingOf nodes a links := by
  simp only [outgoingOf, same]

theorem incomingOf_congr {nodes after : Nodes}
    (same : ∀ a, (after.lookup a).isSome = (nodes.lookup a).isSome) (a : PyInt)
    (links : List Link) : incomingOf after a links = incomingOf nodes a links := by
  simp only [incomingOf, same]

/-- What a node takes from one link between registered nodes. -/
theorem withLinks_registered {nodes : Nodes} {link : Link}
    (hasBegin : (nodes.lookup link.beginID).isSome = true)
    (hasEnd : (nodes.lookup link.endID).isSome = true) (a : PyInt) (n : Node) :
    n.withLinks (outgoingOf nodes a [link]) (incomingOf nodes a [link]) =
      let out := if a = link.beginID then n.addOutlink link else n
      if a = link.endID then out.addInlink link else out := by
  have isOut : outgoingOf nodes a [link] = if a = link.beginID then [link] else [] := by
    simp only [outgoingOf, List.filter_singleton, hasEnd, and_true, eq_comm, Bool.cond_decide]
  have isIn : incomingOf nodes a [link] = if a = link.endID then [link] else [] := by
    simp only [incomingOf, List.filter_singleton, hasBegin, and_true, eq_comm, Bool.cond_decide]
  rw [isOut, isIn]
  dsimp only
  split
  · split
    · rw [addOutlink_eq, addInlink_eq, Node.withLinks_append]
      rfl
    · exact (addOutlink_eq link n).symm
  · split
    · exact (addInlink_eq link n).symm
    · rfl

/-- A registered node takes nothing from a link with an end that is not registered. -/
theorem withLinks_unregistered {nodes : Nodes} {link : Link}
    (missing : ¬ ((nodes.lookup link.beginID).isSome = true ∧
      (nodes.lookup link.endID).isSome = true)) {a : PyInt}
    (isThere : (nodes.lookup a).isSome = true) (n : Node) :
    n.withLinks (outgoingOf nodes a [link]) (incomingOf nodes a [link]) = n := by
  have noOut : outgoingOf nodes a [link] = [] := by
    apply List.filter_eq_nil_iff.mpr
    intro other isLink accepted
    rcases List.mem_singleton.mp isLink with rfl
    rcases of_decide_eq_true accepted with ⟨rfl, hasEnd⟩
    exact missing ⟨isThere, hasEnd⟩
  have noIn : incomingOf nodes a [link] = [] := by
    apply List.filter_eq_nil_iff.mpr
    intro other isLink accepted
    rcases List.mem_singleton.mp isLink with rfl
    rcases of_decide_eq_true accepted with ⟨rfl, hasBegin⟩
    exact missing ⟨hasBegin, isThere⟩
  rw [noOut, noIn]
  rfl

theorem lookup_enforceLink_eq (nodes : Nodes) (link : Link) (a : PyInt) :
    (enforceLink nodes link).lookup a = (nodes.lookup a).map
      (Node.withLinks (outgoingOf nodes a [link]) (incomingOf nodes a [link])) := by
  rcases em ((nodes.lookup link.beginID).isSome = true ∧
    (nodes.lookup link.endID).isSome = true) with registered | missing
  · rw [lookup_enforceLink registered.1 registered.2]
    congr 1
    funext n
    exact (withLinks_registered registered.1 registered.2 a n).symm
  · rw [enforceLink_unregistered missing]
    cases found : nodes.lookup a with
    | none => rfl
    | some n =>
        rw [Option.map_some, withLinks_unregistered missing (Option.isSome_of_eq_some found)]

theorem lookup_enforceLinks (links : List Link) (nodes : Nodes) (a : PyInt) :
    (links.foldl enforceLink nodes).lookup a = (nodes.lookup a).map
      (Node.withLinks (outgoingOf nodes a links) (incomingOf nodes a links)) := by
  induction links generalizing nodes with
  | nil => exact Option.map_id_apply.symm
  | cons link rest ih =>
      have same : ∀ b, ((enforceLink nodes link).lookup b).isSome = (nodes.lookup b).isSome :=
        registered_enforceLinks [link] nodes
      rw [List.foldl_cons, ih, lookup_enforceLink_eq, Option.map_map, outgoingOf_congr same,
        incomingOf_congr same]
      congr 1
      funext n
      rw [Function.comp_apply, Node.withLinks_append, outgoingOf, outgoingOf, outgoingOf,
        ← List.filter_append, incomingOf, incomingOf, incomingOf, ← List.filter_append]
      rfl

/-! ## Reports -/

theorem reported_eq (report : Report) (n : Node) : reported report n =
    { n with
      alive := true
      batt := report.battery.or n.batt
      N := (report.intfs.map List.length).getD n.N
      intfs := (report.intfs.getD []).foldl mergeInterface n.intfs
      M := (report.nbrs.map List.length).getD n.M } := by
  rcases report with ⟨battery, intfs, nbrs⟩
  rw [reported]
  cases intfs with
  | none => cases battery <;> cases nbrs <;> rfl
  | some intfs =>
      dsimp only
      rw [addInterfaces_eq]
      cases battery <;> cases nbrs <;> rfl

/-- What a report makes of a node of the graph. -/
def Node.afterReport (ID : PyInt) (report : Report) (nodes : Nodes) (a : PyInt) (n : Node) : Node :=
  (if a = ID then reported report n else n).withLinks (outgoingOf nodes a (report.nbrs.getD []))
    (incomingOf nodes a (report.nbrs.getD []))

theorem lookup_putNodeInfo {nodes : Nodes} {ID : PyInt}
    (registered : (nodes.lookup ID).isSome = true) (report : Report) (a : PyInt) :
    (putNodeInfo ID report nodes).2.lookup a =
      (nodes.lookup a).map (Node.afterReport ID report nodes a) := by
  rcases Option.isSome_iff_exists.mp registered with ⟨node, found⟩
  have same : ∀ b, ((nodes.insert ID (reported report node)).lookup b).isSome =
      (nodes.lookup b).isSome := by
    intro b
    rw [ObjectDict.lookup_insert_eq]
    split
    · rename_i isSelf
      rw [isSelf, found]
      rfl
    · rfl
  simp only [putNodeInfo, found]
  rw [lookup_enforceLinks, ObjectDict.lookup_insert_eq, outgoingOf_congr same,
    incomingOf_congr same]
  rcases eq_or_ne a ID with rfl | isOther
  · rw [if_pos rfl, found, Option.map_some, Option.map_some, Node.afterReport, if_pos rfl]
  · rw [if_neg isOther]
    congr 1
    funext n
    rw [Node.afterReport, if_neg isOther]

end Vson

end Nrg5
