import Nrg5.Lib.ObjectDict

/-!
# The topology graph of vSON

`vSON_graph.py` keeps the nodes in a dictionary, and each link in two lists: the
outgoing links of its begin node and the incoming links of its end node.  A `Link`
has no `__eq__`, so two links are different as soon as they are two objects, and
the update branch of `add_outlink` and `add_inlink` only assigns to a local name.

The JSON view of the graph, which every operation refreshes, is left to
`Nrg5.Vson.Export`.  `push_node` never sets `dptr`, so the device monitor has nothing to
deregister.
-/

namespace Nrg5

namespace Vson

/-- Python integers: identifiers, indexes and qualities. -/
abbrev PyInt := Int

structure Interface where
  index : PyInt
  quality : PyInt
deriving DecidableEq

structure Link where
  beginID : PyInt
  endID : PyInt
  lq : PyInt
  intfIdx : PyInt
deriving DecidableEq

/-- `Link.isSame`. -/
def Link.isSame (self link : Link) : Bool :=
  link.beginID == self.beginID && link.endID == self.endID && link.intfIdx == self.intfIdx

structure Node where
  ID : PyInt
  reg : Bool
  sign : String
  batt : Option PyInt
  N : Nat
  intfs : ObjectDict PyInt Interface
  bs : Bool
  alive : Bool
  M : Nat
  oLinks : List Link
  iLinks : List Link

/-- The constructor as `push_node` calls it. -/
def Node.new (ID : PyInt) (sign : String) (reg bs : Bool) : Node :=
  { ID := ID, reg := reg, sign := sign, batt := none, N := 0, intfs := ∅, bs := bs,
    alive := true, M := 0, oLinks := [], iLinks := [] }

namespace Node

def setBattery (val : PyInt) (self : Node) : Node := { self with batt := some val }

/-- `remove_link_fromID`. -/
def removeLinkFromID (beginID : PyInt) (self : Node) : Node :=
  { self with iLinks := self.iLinks.filter fun x => x.beginID != beginID }

/-- `remove_link_toID`. -/
def removeLinkToID (endID : PyInt) (self : Node) : Node :=
  { self with oLinks := self.oLinks.filter fun x => x.endID != endID }

/-- `addInterface`: a known index keeps its object, which gets the new quality. -/
def addInterface (self : Node) (intf : Interface) : Node :=
  match self.intfs.lookup intf.index with
  | none => { self with intfs := self.intfs.insert intf.index intf }
  | some known =>
      if known.quality ≠ intf.quality then
        { self with
          intfs := self.intfs.insert intf.index { known with quality := intf.quality } }
      else self

/-- `add_outlink`: the assignment of the update branch reaches no list. -/
def addOutlink (ol : Link) (self : Node) : Node :=
  match self.oLinks.find? fun x => x.isSame ol with
  | none => { self with oLinks := self.oLinks ++ [ol] }
  | some _ => self

/-- `add_inlink`. -/
def addInlink (il : Link) (self : Node) : Node :=
  match self.iLinks.find? fun x => x.isSame il with
  | none => { self with iLinks := self.iLinks ++ [il] }
  | some _ => self

end Node

/-- `TopologyGraph.nodes`. -/
abbrev Nodes := ObjectDict PyInt Node

/-- The answers of the operations. -/
inductive Status : Type where
  | success
  | nodeNotFound
  | nodeAlreadyExistent
deriving DecidableEq

namespace TopologyGraph

/-- `__enforce_link`; without both nodes it raises, and the caller goes on. -/
def enforceLink (nodes : Nodes) (link : Link) : Nodes :=
  match nodes.lookup link.beginID, nodes.lookup link.endID with
  | some beginNode, some _ =>
      let added := nodes.insert link.beginID (beginNode.addOutlink link)
      match added.lookup link.endID with
      | some endNode => added.insert link.endID (endNode.addInlink link)
      | none => added
  | _, _ => nodes

/-- The keyword arguments of a report. -/
structure Report where
  battery : Option PyInt
  intfs : Option (List Interface)
  nbrs : Option (List Link)

/-- What a report changes in the reporting node before its links are enforced. -/
def reported (report : Report) (self : Node) : Node :=
  let alive := { self with alive := true }
  let charged := match report.battery with
    | some val => alive.setBattery val
    | none => alive
  let wired := match report.intfs with
    | some intfs => intfs.foldl Node.addInterface { charged with N := intfs.length }
    | none => charged
  match report.nbrs with
  | some nbrs => { wired with M := nbrs.length }
  | none => wired

/-- `put_node_info`. -/
def putNodeInfo (ID : PyInt) (report : Report) (nodes : Nodes) : Status × Nodes :=
  match nodes.lookup ID with
  | none => (.nodeNotFound, nodes)
  | some node =>
      (.success, (report.nbrs.getD []).foldl enforceLink (nodes.insert ID (reported report node)))

/-- `push_node`. -/
def pushNode (ID : PyInt) (sign : String) (reg bs : Bool) (nodes : Nodes) : Status × Nodes :=
  match nodes.lookup ID with
  | some _ => (.nodeAlreadyExistent, nodes)
  | none => (.success, nodes.insert ID (Node.new ID sign reg bs))

/-- `delete_node`; the error is the key that a lookup in the dictionary misses. -/
def deleteNode (ID : PyInt) (nodes : Nodes) : Except PyInt (Status × Nodes) :=
  match nodes.lookup ID with
  | none => .ok (.nodeNotFound, nodes)
  | some node => do
      let withoutIn ← nodes.callEach (node.oLinks.map Link.endID) (Node.removeLinkFromID ID)
      match withoutIn.lookup ID with
      | none => .error ID
      | some self => do
          let withoutOut ←
            withoutIn.callEach (self.iLinks.map Link.beginID) (Node.removeLinkToID ID)
          .ok (.success, withoutOut.erase ID)

/-- The first loop of `__device_monitor` for one node: mark it, or collect it. -/
def markNode (state : Nodes × List PyInt) (ID : PyInt) : Nodes × List PyInt :=
  match state.1.lookup ID with
  | none => state
  | some node =>
      if node.alive = true then (state.1.insert ID { node with alive := false }, state.2)
      else (state.1, state.2 ++ [node.ID])

/-- One tick of `__device_monitor`, for the order in which the dictionary is iterated. -/
def deviceMonitor (order : List PyInt) (nodes : Nodes) : Except PyInt Nodes :=
  let (marked, toDelete) := order.foldl markNode (nodes, [])
  toDelete.foldlM (fun nodes ID => (deleteNode ID nodes).map Prod.snd) marked

/-- The states of the graph. -/
inductive Reachable : Nodes → Prop where
  | init : Reachable ∅
  | pushNode {nodes : Nodes} (before : Reachable nodes) (ID : PyInt) (sign : String)
      (reg bs : Bool) : Reachable (TopologyGraph.pushNode ID sign reg bs nodes).2
  | putNodeInfo {nodes : Nodes} (before : Reachable nodes) (ID : PyInt) (report : Report)
      (fromID : ∀ link ∈ report.nbrs.getD [], link.beginID = ID) :
      Reachable (TopologyGraph.putNodeInfo ID report nodes).2
  | deleteNode {nodes after : Nodes} {status : Status} (before : Reachable nodes) (ID : PyInt)
      (returns : TopologyGraph.deleteNode ID nodes = .ok (status, after)) : Reachable after
  | deviceMonitor {nodes after : Nodes} (before : Reachable nodes) (order : List PyInt)
      (iterates : order.Perm nodes.keys)
      (returns : TopologyGraph.deviceMonitor order nodes = .ok after) : Reachable after

end TopologyGraph

end Vson

end Nrg5
