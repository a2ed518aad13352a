import Nrg5.Vson.Marking
import Nrg5.Vson.Netgraph
import Nrg5.Vson.Report

/-!
# The exported graph

`TopologyGraph` keeps the last document in `__njg` and rebuilds it where `__changed` is
set.  Every change of the nodes ends in `__update_netgraph`, which opens the export file,
rebuilds the document and dumps it.  An exception leaves the object as it is then.
-/

namespace Nrg5

namespace Vson

/-- How far the writing of the export file comes. -/
inductive Write : Type where
  | completes
  | openFails
  | dumpFails
deriving DecidableEq

/-- The object `topo`.  `order` is the order in which the dictionary is iterated;
`outfile` is the document in the export file, when it holds a whole one. -/
structure Topo where
  nodes : Nodes
  order : List PyInt
  changed : Bool
  njg : Netgraph
  outfile : Option Netgraph

def Netgraph.empty : Netgraph :=
  { type := "NetworkGraph", protocol := "NSO", version := "1", metric := "shortest path",
    nodes := [], links := [], topologyId := hex 0xF1257 }

namespace Topo

/-- `__init__`. -/
def init : Topo :=
  { nodes := ∅, order := [], changed := false, njg := .empty, outfile := some .empty }

/-- `tojson('netgraph')`. -/
def tojson (host : ByteOrder) (self : Topo) : Except PyError Netgraph :=
  TopologyGraph.tojson host self.order self.nodes

/-- The rebuilding in `get_topo_all` and in `__update_netgraph`. -/
def rebuild (host : ByteOrder) (self : Topo) : Except PyError Unit × Topo :=
  if self.changed = true then
    let cleared := { self with changed := false }
    match cleared.tojson host with
    | .error e => (.error e, cleared)
    | .ok doc => (.ok (), { cleared with njg := doc })
  else (.ok (), self)

/-- `get_topo_all`. -/
def getTopoAll (host : ByteOrder) (self : Topo) : Except PyError Netgraph × Topo :=
  match self.rebuild host with
  | (.error e, after) => (.error e, after)
  | (.ok _, after) => (.ok after.njg, after)

/-- `__update_netgraph`: opening the file truncates it. -/
def updateNetgraph (host : ByteOrder) (write : Write) (self : Topo) : Except PyError Unit × Topo :=
  if write = .openFails then (.error .ioError, self)
  else
    match rebuild host { self with outfile := none } with
    | (.error e, after) => (.error e, after)
    | (.ok _, after) =>
        if write = .dumpFails then (.error .ioError, after)
        else (.ok (), { after with outfile := some after.njg })

/-- How a method that changes the nodes ends. -/
def commit (host : ByteOrder) (write : Write) (self : Topo) : Except PyError Status × Topo :=
  match updateNetgraph host write { self with changed := true } with
  | (.error e, after) => (.error e, after)
  | (.ok _, after) => (.ok .success, after)

/-- `push_node`; the dictionary may come to be iterated in another order. -/
def pushNode (host : ByteOrder) (write : Write) (order : List PyInt) (ID : PyInt) (sign : String)
    (reg bs : Bool) (self : Topo) : Except PyError Status × Topo :=
  match TopologyGraph.pushNode ID sign reg bs self.nodes with
  | (.success, nodes) => commit host write { self with nodes := nodes, order := order }
  | (status, _) => (.ok status, self)

/-- `put_node_info`. -/
def putNodeInfo (host : ByteOrder) (write : Write) (ID : PyInt) (report : TopologyGraph.Report)
    (self : Topo) : Except PyError Status × Topo :=
  match TopologyGraph.putNodeInfo ID report self.nodes with
  | (.success, nodes) => commit host write { self with nodes := nodes }
  | (status, _) => (.ok status, self)

/-- `delete_node`. -/
def deleteNode (host : ByteOrder) (write : Write) (ID : PyInt) (self : Topo) :
    Except PyError Status × Topo :=
  match TopologyGraph.deleteNode ID self.nodes with
  | .error key => (.error (.keyError key), self)
  | .ok (.success, nodes) =>
      commit host write { self with nodes := nodes, order := self.order.erase ID }
  | .ok (status, _) => (.ok status, self)

/-- The second loop of `__device_monitor`. -/
def deleteEach (host : ByteOrder) (writes : PyInt → Write) :
    List PyInt → Topo → Except PyError Unit × Topo
  | [], self => (.ok (), self)
  | ID :: rest, self =>
      match deleteNode host (writes ID) ID self with
      | (.error e, after) => (.error e, after)
      | (.ok _, after) => deleteEach host writes rest after

/-- One tick of `__device_monitor`, with the nodes that it collects. -/
def deviceMonitor (host : ByteOrder) (writes : PyInt → Write) (self : Topo) :
    Except PyError (List PyInt) × Topo :=
  let (marked, toDelete) := self.order.foldl TopologyGraph.markNode (self.nodes, [])
  match deleteEach host writes toDelete { self with nodes := marked } with
  | (.error e, after) => (.error e, after)
  | (.ok _, after) => (.ok toDelete, after)

/-! ## Runs -/

/-- A call of a method, with what its environment decides. -/
inductive Op : Type where
  | pushNode (ID : PyInt) (sign : String) (reg bs : Bool) (order : List PyInt) (write : Write)
  | putNodeInfo (ID : PyInt) (report : TopologyGraph.Report) (write : Write)
  | deleteNode (ID : PyInt) (write : Write)
  | deviceMonitor (writes : PyInt → Write)
  | getTopoAll

inductive Answer : Type where
  | status (status : Status)
  | expired (IDs : List PyInt)
  | topology (doc : Netgraph)
deriving DecidableEq

/-- The call answers only after it has written the export file. -/
def Answer.Written : Answer → Prop
  | .status answer => answer = .success
  | .expired IDs => IDs ≠ []
  | .topology _ => False

/-- The exceptions of a call, and its result as an answer. -/
def answering {α : Type} (answer : α → Answer) (outcome : Except PyError α × Topo) :
    Except PyError Answer × Topo :=
  (outcome.1.map answer, outcome.2)

namespace Op

def call (host : ByteOrder) (self : Topo) : Op → Except PyError Answer × Topo
  | .pushNode ID sign reg bs order write =>
      answering .status (self.pushNode host write order ID sign reg bs)
  | .putNodeInfo ID report write => answering .status (self.putNodeInfo host write ID report)
  | .deleteNode ID write => answering .status (self.deleteNode host write ID)
  | .deviceMonitor writes => answering .expired (self.deviceMonitor host writes)
  | .getTopoAll => answering .topology (self.getTopoAll host)

/-- After a new key the dictionary is iterated over the old keys and the new one. -/
def Iterates (self : Topo) : Op → Prop
  | .pushNode ID _ _ _ order _ => self.nodes.lookup ID = none → order.Perm (ID :: self.order)
  | _ => True

/-- The identifier of a new node fits into eight bytes. -/
def Fits : Op → Prop
  | .pushNode ID _ _ _ _ _ => FitsQ ID
  | _ => True

end Op

/-- The runs of the object: its calls, the last one first, each with the object it met. -/
inductive Run (host : ByteOrder) : List (Op × Topo) → Topo → Prop where
  | init : Run host [] init
  | call {history : List (Op × Topo)} {self : Topo} (before : Run host history self) (op : Op)
      (iterates : op.Iterates self) : Run host ((op, self) :: history) (op.call host self).2

/-! ## What a call leaves -/

variable {host : ByteOrder} {self after : Topo} {write : Write} {doc : Netgraph}

/-- Every node has a place in the order, and every link is in the lists of its ends. -/
structure Shaped (topo : Topo) : Prop where
  iterates : topo.order.Perm topo.nodes.keys
  integrity : Integrity topo.nodes

/-- The identifiers fit into eight bytes. -/
structure Valid (topo : Topo) : Prop extends Shaped topo where
  fits : ∀ a, (topo.nodes.lookup a).isSome = true → FitsQ a

/-- The document that is kept is the one of the nodes, unless it is marked as changed. -/
def Fresh (host : ByteOrder) (self : Topo) : Prop :=
  self.changed = true ∨ self.tojson host = .ok self.njg

/-- The export file has the document of the nodes. -/
def InFile (host : ByteOrder) (self : Topo) : Prop :=
  ∃ doc, self.outfile = some doc ∧ self.tojson host = .ok doc

theorem Valid.tojson_isOk (valid : self.Valid) : ∃ doc, self.tojson host = .ok doc :=
  Vson.tojson_isOk valid.iterates valid.integrity valid.fits

theorem valid_init : init.Valid :=
  ⟨⟨.refl _, integrity_empty⟩, fun _ isThere => absurd isThere (by simp [init])⟩

theorem fresh_init : Fresh host init := .inr rfl

theorem rebuild_eq (isDoc : self.tojson host = .ok doc) (fresh : self.Fresh host) :
    self.rebuild host = (.ok (), { self with changed := false, njg := doc }) := by
  rw [rebuild]
  split
  · have cleared : tojson host { self with changed := false } = .ok doc := isDoc
    simp only [cleared]
  · rename_i unchanged
    rcases fresh with changed | kept
    · exact absurd changed unchanged
    · rw [isDoc] at kept
      rw [Except.ok.inj kept, ← Bool.eq_false_iff.mpr unchanged]

/-- After a change of the nodes the document is rebuilt, unless the file cannot be opened. -/
theorem commit_eq (isDoc : self.tojson host = .ok doc) : self.commit host write =
    match write with
    | .completes =>
        (.ok .success, { self with changed := false, njg := doc, outfile := some doc })
    | .openFails => (.error .ioError, { self with changed := true })
    | .dumpFails =>
        (.error .ioError, { self with changed := false, njg := doc, outfile := none }) := by
  have rebuilt : rebuild host { self with changed := true, outfile := none } =
      (.ok (), { self with changed := false, njg := doc, outfile := none }) :=
    rebuild_eq isDoc (.inl rfl)
  rw [commit, updateNetgraph]
  cases write with
  | completes => simp [rebuilt]
  | openFails => simp
  | dumpFails => simp [rebuilt]

theorem nodes_rebuild : (self.rebuild host).2.nodes = self.nodes ∧
    (self.rebuild host).2.order = self.order := by
  rw [rebuild]
  split
  · dsimp only
    split <;> exact ⟨rfl, rfl⟩
  · exact ⟨rfl, rfl⟩

theorem getTopoAll_snd : (self.getTopoAll host).2 = (self.rebuild host).2 := by
  rw [getTopoAll]
  rcases self.rebuild host with ⟨error | _, after⟩
  · rfl
  · rfl

theorem nodes_commit : (self.commit host write).2.nodes = self.nodes ∧
    (self.commit host write).2.order = self.order := by
  have opened := @nodes_rebuild host { self with changed := true, outfile := none }
  rw [commit, updateNetgraph]
  rcases outcome : rebuild host { self with changed := true, outfile := none } with
    ⟨error | _, after⟩
  all_goals rw [outcome] at opened
  · cases write with
    | completes => exact opened
    | openFails => exact ⟨rfl, rfl⟩
    | dumpFails => exact opened
  · cases write with
    | completes => exact opened
    | openFails => exact ⟨rfl, rfl⟩
    | dumpFails => exact opened

theorem nodes_putNodeInfo {ID : PyInt} {report : TopologyGraph.Report} :
    (self.putNodeInfo host write ID report).2.nodes =
      (TopologyGraph.putNodeInfo ID report self.nodes).2 := by
  rw [putNodeInfo, TopologyGraph.putNodeInfo]
  cases self.nodes.lookup ID with
  | none => rfl
  | some node => exact nodes_commit.1

theorem nodes_pushNode {order : List PyInt} {ID : PyInt} {sign : String} {reg bs : Bool} :
    (self.pushNode host write order ID sign reg bs).2.nodes =
      (TopologyGraph.pushNode ID sign reg bs self.nodes).2 := by
  rw [pushNode, TopologyGraph.pushNode]
  cases self.nodes.lookup ID with
  | none => exact nodes_commit.1
  | some node => rfl

theorem shaped_commit (shaped : self.Shaped) : (self.commit host write).2.Shaped := by
  rcases @nodes_commit host self write with ⟨sameNodes, sameOrder⟩
  constructor
  · rw [sameNodes, sameOrder]
    exact shaped.iterates
  · rw [sameNodes]
    exact shaped.integrity

/-- What a call is to leave: a valid object with a fresh document, and the document in the
export file if the call returns after it has written it. -/
structure Leaves (host : ByteOrder) (topo : Topo) (outcome : Except PyError Answer × Topo) :
    Prop where
  valid : outcome.2.Valid
  fresh : outcome.2.Fresh host
  written : ∀ answer, outcome.1 = .ok answer → answer.Written → outcome.2.InFile host
  unwritten : ∀ answer, outcome.1 = .ok answer → ¬ answer.Written →
    outcome.2.outfile = topo.outfile ∧ outcome.2.tojson host = topo.tojson host

theorem leaves_self (valid : self.Valid) (fresh : self.Fresh host) (answer : Answer)
    (unwritten : ¬ answer.Written) : Leaves host self (.ok answer, self) := by
  refine ⟨valid, fresh, ?_, fun _ _ _ => ⟨rfl, rfl⟩⟩
  intro result isResult isWritten
  rcases Except.ok.inj isResult with rfl
  exact absurd isWritten unwritten

theorem commit_leaves {changed : Topo} (valid : changed.Valid) :
    Leaves host self (answering .status (changed.commit host write)) := by
  rcases (valid.tojson_isOk : ∃ doc, changed.tojson host = .ok doc) with ⟨doc, isDoc⟩
  rw [commit_eq isDoc]
  cases write with
  | completes =>
      refine ⟨⟨⟨valid.iterates, valid.integrity⟩, valid.fits⟩, .inr isDoc, ?_, ?_⟩
      · exact fun _ _ _ => ⟨doc, rfl, isDoc⟩
      · intro answer isAnswer unwritten
        rcases Except.ok.inj isAnswer with rfl
        exact absurd rfl unwritten
  | openFails =>
      refine ⟨⟨⟨valid.iterates, valid.integrity⟩, valid.fits⟩, .inl rfl, ?_, ?_⟩
      · exact fun _ isAnswer => nomatch isAnswer
      · exact fun _ isAnswer => nomatch isAnswer
  | dumpFails =>
      refine ⟨⟨⟨valid.iterates, valid.integrity⟩, valid.fits⟩, .inr isDoc, ?_, ?_⟩
      · exact fun _ isAnswer => nomatch isAnswer
      · exact fun _ isAnswer => nomatch isAnswer

section Push

variable {ID : PyInt} {sign : String} {reg bs : Bool} {order : List PyInt}

theorem nodes_pushed (missing : self.nodes.lookup ID = none) :
    (TopologyGraph.pushNode ID sign reg bs self.nodes).2 =
      self.nodes.insert ID (Node.new ID sign reg bs) := by
  simp only [TopologyGraph.pushNode, missing]

theorem shaped_pushed (shaped : self.Shaped) (missing : self.nodes.lookup ID = none)
    (iterates : order.Perm (ID :: self.order)) :
    Shaped { self with
      nodes := (TopologyGraph.pushNode ID sign reg bs self.nodes).2, order := order } := by
  refine ⟨?_, integrity_pushNode shaped.integrity ID sign reg bs⟩
  have notKey : ID ∉ self.nodes.keys := AList.lookup_eq_none.mp missing
  simp only [nodes_pushed missing, AList.keys_insert, List.erase_of_not_mem notKey]
  exact iterates.trans (shaped.iterates.cons ID)

theorem valid_pushed (valid : self.Valid) (fits : FitsQ ID)
    (missing : self.nodes.lookup ID = none) (iterates : order.Perm (ID :: self.order)) :
    Valid { self with
      nodes := (TopologyGraph.pushNode ID sign reg bs self.nodes).2, order := order } := by
  refine ⟨shaped_pushed valid.toShaped missing iterates, ?_⟩
  intro a isThere
  simp only [nodes_pushed missing, ObjectDict.lookup_insert_eq] at isThere
  split at isThere
  · rename_i isNew
    rwa [isNew]
  · exact valid.fits a isThere

theorem pushNode_leaves (valid : self.Valid) (fresh : self.Fresh host) (fits : FitsQ ID)
    (iterates : self.nodes.lookup ID = none → order.Perm (ID :: self.order)) :
    Leaves host self (answering .status (self.pushNode host write order ID sign reg bs)) := by
  rw [pushNode]
  cases found : self.nodes.lookup ID with
  | some node =>
      simp only [TopologyGraph.pushNode, found]
      exact leaves_self valid fresh (.status .nodeAlreadyExistent) nofun
  | none =>
      have pushed := @valid_pushed _ ID sign reg bs _ valid fits found (iterates found)
      simp only [TopologyGraph.pushNode, found] at pushed ⊢
      exact commit_leaves pushed

end Push

/-- Nodes with the same keys are iterated in the same orders. -/
theorem Shaped.sameKeys {nodes : Nodes} (shaped : self.Shaped) (integrity : Integrity nodes)
    (same : ∀ a, (nodes.lookup a).isSome = (self.nodes.lookup a).isSome) :
    Shaped { self with nodes := nodes } := by
  rcases ObjectDict.perm_keys_iff.mp shaped.iterates with ⟨nodup, isKey⟩
  refine ⟨ObjectDict.perm_keys_iff.mpr ⟨nodup, ?_⟩, integrity⟩
  intro a
  rw [same]
  exact isKey a

theorem Valid.sameKeys {nodes : Nodes} (valid : self.Valid) (integrity : Integrity nodes)
    (same : ∀ a, (nodes.lookup a).isSome = (self.nodes.lookup a).isSome) :
    Valid { self with nodes := nodes } :=
  ⟨valid.toShaped.sameKeys integrity same,
    fun a isThere => valid.fits a ((same a).symm.trans isThere)⟩

theorem putNodeInfo_leaves {ID : PyInt} {report : TopologyGraph.Report} (valid : self.Valid)
    (fresh : self.Fresh host) :
    Leaves host self (answering .status (self.putNodeInfo host write ID report)) := by
  rw [putNodeInfo]
  cases found : self.nodes.lookup ID with
  | none =>
      simp only [TopologyGraph.putNodeInfo, found]
      refine leaves_self valid fresh (.status .nodeNotFound) fun isWritten => ?_
      cases isWritten
  | some node =>
      have changed := valid.sameKeys (integrity_putNodeInfo valid.integrity ID report)
        (registered_putNodeInfo found report)
      simp only [TopologyGraph.putNodeInfo, found] at changed ⊢
      exact commit_leaves changed

theorem registered_deleted {ID : PyInt} {before nodes : Nodes} (deleted : Deleted ID before nodes)
    (a : PyInt) :
    (nodes.lookup a).isSome = true ↔ a ≠ ID ∧ (before.lookup a).isSome = true := by
  rw [deleted]
  split
  · rename_i isGone
    exact iff_of_false (by simp) fun isThere => isThere.1 isGone
  · rename_i isOther
    rw [Option.isSome_map]
    exact (and_iff_right isOther).symm

theorem shaped_deleted {ID : PyInt} {nodes : Nodes} (shaped : self.Shaped)
    (deleted : Deleted ID self.nodes nodes) :
    Shaped { self with nodes := nodes, order := self.order.erase ID } := by
  rcases ObjectDict.perm_keys_iff.mp shaped.iterates with ⟨nodup, isKey⟩
  refine ⟨ObjectDict.perm_keys_iff.mpr ⟨nodup.erase ID, ?_⟩, shaped.integrity.deleted deleted⟩
  intro a
  rw [nodup.mem_erase_iff, isKey, registered_deleted deleted]

theorem valid_deleted {ID : PyInt} {nodes : Nodes} (valid : self.Valid)
    (deleted : Deleted ID self.nodes nodes) :
    Valid { self with nodes := nodes, order := self.order.erase ID } :=
  ⟨shaped_deleted valid.toShaped deleted,
    fun a isThere => valid.fits a ((registered_deleted deleted a).mp isThere).2⟩

/-- A deletion is that of the nodes, with the document written. -/
theorem deleteNode_cases {ID : PyInt} (integrity : Integrity self.nodes) :
    (self.nodes.lookup ID = none ∧
      self.deleteNode host write ID = (.ok .nodeNotFound, self)) ∨
    ∃ nodes, Deleted ID self.nodes nodes ∧ self.deleteNode host write ID =
      commit host write { self with nodes := nodes, order := self.order.erase ID } := by
  rw [deleteNode]
  cases found : self.nodes.lookup ID with
  | none =>
      left
      rw [deleteNode_missing found]
      exact ⟨rfl, rfl⟩
  | some node =>
      right
      rcases deleteNode_ok integrity found with ⟨nodes, returns, deleted⟩
      rw [returns]
      exact ⟨nodes, deleted, rfl⟩

theorem deleteNode_leaves {ID : PyInt} (valid : self.Valid) (fresh : self.Fresh host) :
    Leaves host self (answering .status (self.deleteNode host write ID)) := by
  rcases deleteNode_cases valid.integrity with ⟨_, isSelf⟩ | ⟨nodes, deleted, isCommit⟩
  · rw [isSelf]
    exact leaves_self valid fresh (.status .nodeNotFound) nofun
  · rw [isCommit]
    exact commit_leaves (valid_deleted valid deleted)

theorem deleteNode_registered {ID : PyInt} (valid : self.Valid)
    (isThere : (self.nodes.lookup ID).isSome = true) (status : Status)
    (returns : (self.deleteNode host write ID).1 = .ok status) : status = .success := by
  rcases deleteNode_cases valid.integrity with ⟨missing, _⟩ | ⟨nodes, deleted, isCommit⟩
  · rw [missing] at isThere
    exact absurd isThere (by simp)
  · rcases ((valid_deleted valid deleted).tojson_isOk :
      ∃ doc, tojson host { self with nodes := nodes, order := self.order.erase ID } = .ok doc) with
        ⟨doc, isDoc⟩
    rw [isCommit, commit_eq isDoc] at returns
    cases write with
    | completes => exact (Except.ok.inj returns).symm
    | openFails => exact nomatch returns
    | dumpFails => exact nomatch returns

theorem getTopoAll_leaves (valid : self.Valid) (fresh : self.Fresh host) :
    Leaves host self (answering .topology (self.getTopoAll host)) := by
  rcases (valid.tojson_isOk : ∃ doc, self.tojson host = .ok doc) with ⟨doc, isDoc⟩
  rw [getTopoAll, rebuild_eq isDoc fresh]
  refine ⟨⟨⟨valid.iterates, valid.integrity⟩, valid.fits⟩, .inr isDoc, ?_, fun _ _ _ => ⟨rfl, rfl⟩⟩
  intro answer isAnswer isWritten
  rcases Except.ok.inj isAnswer with rfl
  exact isWritten.elim

/-! ## Ticks of the device monitor -/

variable {writes : PyInt → Write}

/-- The graph after the first loop of a tick. -/
def marked (self : Topo) : Topo :=
  { self with nodes := (self.order.foldl TopologyGraph.markNode (self.nodes, [])).1 }

theorem registered_marked (a : PyInt) :
    (self.marked.nodes.lookup a).isSome = (self.nodes.lookup a).isSome := by
  rw [marked, lookup_markNodes, Option.isSome_map]

theorem shaped_marked (shaped : self.Shaped) : self.marked.Shaped :=
  shaped.sameKeys (integrity_markNodes self.order shaped.integrity) registered_marked

theorem valid_marked (valid : self.Valid) : self.marked.Valid :=
  valid.sameKeys (integrity_markNodes self.order valid.integrity) registered_marked

/-- No document shows which nodes are alive. -/
theorem tojson_marked : self.marked.tojson host = self.tojson host := by
  have nodeDoc : ∀ n, Node.tojson host (Node.marked n) = Node.tojson host n := fun _ => rfl
  have listed : self.order.filterMap self.marked.nodes.lookup =
      (self.order.filterMap self.nodes.lookup).map Node.marked := by
    rw [List.map_filterMap]
    apply List.filterMap_congr
    intro a isMem
    rw [marked, lookup_markNodes]
    simp only [isMem, if_true]
  have outgoing : Node.oLinks ∘ Node.marked = Node.oLinks := rfl
  simp only [tojson, TopologyGraph.tojson]
  rw [show self.marked.order = self.order from rfl, listed, List.mapM_map, List.flatMap_map]
  rfl

theorem deviceMonitor_eq (shaped : self.Shaped) : self.deviceMonitor host writes =
    match deleteEach host writes (self.order.filter (silent self.nodes)) self.marked with
    | (.error e, after) => (.error e, after)
    | (.ok _, after) => (.ok (self.order.filter (silent self.nodes)), after) := by
  have nodup := (ObjectDict.perm_keys_iff.mp shaped.iterates).1
  have collected := collected_markNodes self.order nodup (self.nodes, []) shaped.integrity.ownID
  rw [List.nil_append] at collected
  rw [deviceMonitor, ← collected]
  rfl

theorem deviceMonitor_snd (shaped : self.Shaped) : (self.deviceMonitor host writes).2 =
    (deleteEach host writes (self.order.filter (silent self.nodes)) self.marked).2 := by
  rw [deviceMonitor_eq shaped]
  rcases deleteEach host writes (self.order.filter (silent self.nodes)) self.marked with
    ⟨error | _, after⟩
  · rfl
  · rfl

/-- A tick collects registered nodes, each of them once. -/
theorem collected_registered (shaped : self.Shaped) :
    (self.order.filter (silent self.nodes)).Nodup ∧
      ∀ ID ∈ self.order.filter (silent self.nodes),
        (self.marked.nodes.lookup ID).isSome = true := by
  rcases ObjectDict.perm_keys_iff.mp shaped.iterates with ⟨nodup, isKey⟩
  refine ⟨nodup.filter _, ?_⟩
  intro ID isMem
  rw [registered_marked]
  exact (isKey ID).mp (List.mem_of_mem_filter isMem)

/-- A deletion of a tick leaves the other nodes registered. -/
theorem deleteNode_keeps {ID a : PyInt} (valid : self.Valid) (isOther : a ≠ ID) :
    ((self.deleteNode host write ID).2.nodes.lookup a).isSome = (self.nodes.lookup a).isSome := by
  rcases deleteNode_cases valid.integrity with ⟨_, isSelf⟩ | ⟨nodes, deleted, isCommit⟩
  · rw [isSelf]
  · rw [isCommit, nodes_commit.1, deleted, if_neg isOther, Option.isSome_map]

/-- The deletions of a tick write the document every time, or raise. -/
theorem deleteEach_leaves (IDs : List PyInt) (valid : self.Valid) (fresh : self.Fresh host)
    (registered : ∀ ID ∈ IDs, (self.nodes.lookup ID).isSome = true) (nodup : IDs.Nodup) :
    (deleteEach host writes IDs self).2.Valid ∧ (deleteEach host writes IDs self).2.Fresh host ∧
      ((deleteEach host writes IDs self).1 = .ok () → IDs ≠ [] →
        (deleteEach host writes IDs self).2.InFile host) := by
  induction IDs generalizing self with
  | nil => exact ⟨valid, fresh, fun _ isEmpty => absurd rfl isEmpty⟩
  | cons ID rest ih =>
      rw [List.forall_mem_cons] at registered
      rw [List.nodup_cons] at nodup
      have leaves := @deleteNode_leaves host self (writes ID) ID valid fresh
      have isWritten := @deleteNode_registered host self (writes ID) ID valid registered.1
      have keeps := fun a => @deleteNode_keeps host self (writes ID) ID a valid
      rw [deleteEach]
      rcases outcome : self.deleteNode host (writes ID) ID with ⟨error | status, after⟩
      all_goals rw [outcome] at leaves isWritten keeps
      · exact ⟨leaves.valid, leaves.fresh, nofun⟩
      · have restRegistered : ∀ a ∈ rest, (after.nodes.lookup a).isSome = true := by
          intro a isLater
          rw [keeps a fun same => nodup.1 (same ▸ isLater)]
          exact registered.2 a isLater
        rcases ih leaves.valid leaves.fresh restRegistered nodup.2
          with ⟨stillValid, stillFresh, inFile⟩
        refine ⟨stillValid, stillFresh, ?_⟩
        intro returns _
        cases rest with
        | nil => exact leaves.written (.status status) rfl (isWritten status rfl)
        | cons other others => exact inFile returns (List.cons_ne_nil _ _)

theorem deviceMonitor_leaves (valid : self.Valid) (fresh : self.Fresh host) :
    Leaves host self (answering .expired (self.deviceMonitor host writes)) := by
  have freshMarked : self.marked.Fresh host := by
    rw [Fresh, tojson_marked]
    exact fresh
  rcases collected_registered valid.toShaped with ⟨nodup, registered⟩
  have leaves := @deleteEach_leaves host _ writes _ (valid_marked valid) freshMarked registered
    nodup
  have empty : self.order.filter (silent self.nodes) = [] →
      deleteEach host writes (self.order.filter (silent self.nodes)) self.marked =
        (.ok (), self.marked) := by
    intro isEmpty
    rw [isEmpty]
    rfl
  rw [deviceMonitor_eq valid.toShaped]
  rcases outcome : deleteEach host writes (self.order.filter (silent self.nodes)) self.marked with
    ⟨error | _, after⟩
  · rw [outcome] at leaves
    exact ⟨leaves.1, leaves.2.1, nofun, nofun⟩
  · rw [outcome] at leaves empty
    refine ⟨leaves.1, leaves.2.1, ?_, ?_⟩
    · intro answer isAnswer isWritten
      rcases Except.ok.inj isAnswer with rfl
      exact leaves.2.2 rfl isWritten
    · intro answer isAnswer unwritten
      rcases Except.ok.inj isAnswer with rfl
      have isMarked := congrArg Prod.snd (empty (not_not.mp unwritten))
      simp only at isMarked
      rw [answering, isMarked]
      exact ⟨rfl, tojson_marked⟩

/-! ## Runs -/

theorem shaped_deleteNode {ID : PyInt} (shaped : self.Shaped) :
    (self.deleteNode host write ID).2.Shaped := by
  rcases deleteNode_cases shaped.integrity with ⟨_, isSelf⟩ | ⟨nodes, deleted, isCommit⟩
  · rw [isSelf]
    exact shaped
  · rw [isCommit]
    exact shaped_commit (shaped_deleted shaped deleted)

theorem shaped_deleteEach (IDs : List PyInt) (shaped : self.Shaped) :
    (deleteEach host writes IDs self).2.Shaped := by
  induction IDs generalizing self with
  | nil => exact shaped
  | cons ID rest ih =>
      have deletes := @shaped_deleteNode host self (writes ID) ID shaped
      rw [deleteEach]
      rcases outcome : self.deleteNode host (writes ID) ID with ⟨error | status, after⟩
      all_goals rw [outcome] at deletes
      · exact deletes
      · exact ih deletes

/-- Whatever the identifiers are and whatever a call raises, the links stay consistent. -/
theorem shaped_call (shaped : self.Shaped) {op : Op} (iterates : op.Iterates self) :
    (op.call host self).2.Shaped := by
  cases op with
  | pushNode ID sign reg bs order write =>
      change (self.pushNode host write order ID sign reg bs).2.Shaped
      rw [pushNode]
      cases found : self.nodes.lookup ID with
      | some node =>
          simp only [TopologyGraph.pushNode, found]
          exact shaped
      | none =>
          have pushed := @shaped_pushed self ID sign reg bs order shaped found (iterates found)
          simp only [TopologyGraph.pushNode, found] at pushed ⊢
          exact shaped_commit pushed
  | putNodeInfo ID report write =>
      change (self.putNodeInfo host write ID report).2.Shaped
      rw [putNodeInfo]
      cases found : self.nodes.lookup ID with
      | none =>
          simp only [TopologyGraph.putNodeInfo, found]
          exact shaped
      | some node =>
          have changed := shaped.sameKeys (integrity_putNodeInfo shaped.integrity ID report)
            (registered_putNodeInfo found report)
          simp only [TopologyGraph.putNodeInfo, found] at changed ⊢
          exact shaped_commit changed
  | deleteNode ID write => exact shaped_deleteNode shaped
  | deviceMonitor writes =>
      change (self.deviceMonitor host writes).2.Shaped
      rw [deviceMonitor_snd shaped]
      exact shaped_deleteEach _ (shaped_marked shaped)
  | getTopoAll =>
      change (self.getTopoAll host).2.Shaped
      rcases @nodes_rebuild host self with ⟨sameNodes, sameOrder⟩
      rw [getTopoAll_snd]
      constructor
      · rw [sameNodes, sameOrder]
        exact shaped.iterates
      · rw [sameNodes]
        exact shaped.integrity

theorem shaped_run {history : List (Op × Topo)} (run : Run host history self) : self.Shaped := by
  induction run with
  | init => exact valid_init.toShaped
  | call before op iterates ih => exact shaped_call ih iterates

variable {history : List (Op × Topo)}

theorem call_leaves (valid : self.Valid) (fresh : self.Fresh host) {op : Op} (fits : op.Fits)
    (iterates : op.Iterates self) : Leaves host self (op.call host self) := by
  cases op with
  | pushNode ID sign reg bs order write => exact pushNode_leaves valid fresh fits iterates
  | putNodeInfo ID report write => exact putNodeInfo_leaves valid fresh
  | deleteNode ID write => exact deleteNode_leaves valid fresh
  | deviceMonitor writes => exact deviceMonitor_leaves valid fresh
  | getTopoAll => exact getTopoAll_leaves valid fresh

theorem sound_run (run : Run host history self) (fits : ∀ entry ∈ history, entry.1.Fits) :
    self.Valid ∧ self.Fresh host := by
  induction run with
  | init => exact ⟨valid_init, fresh_init⟩
  | call before op iterates ih =>
      rw [List.forall_mem_cons] at fits
      rcases ih fits.2 with ⟨valid, fresh⟩
      have leaves := call_leaves valid fresh fits.1 iterates
      exact ⟨leaves.valid, leaves.fresh⟩

/-- Where every identifier fits into eight bytes, `get_topo_all` returns the document of the
nodes, and a call that returns has written it to the export file or has changed nothing in it. -/
theorem export_never_stale (run : Run host history self)
    (fits : ∀ entry ∈ history, entry.1.Fits) :
    (∀ doc after, self.getTopoAll host = (.ok doc, after) →
      self.tojson host = .ok doc ∧ after.tojson host = .ok doc) ∧
    ∀ op : Op, op.Fits → op.Iterates self → ∀ answer after,
      op.call host self = (.ok answer, after) →
        (answer.Written → after.InFile host) ∧
        (¬ answer.Written →
          after.outfile = self.outfile ∧ after.tojson host = self.tojson host) := by
  rcases sound_run run fits with ⟨valid, fresh⟩
  constructor
  · intro doc after returns
    rcases (valid.tojson_isOk : ∃ doc, self.tojson host = .ok doc) with ⟨current, isDoc⟩
    rw [getTopoAll, rebuild_eq isDoc fresh] at returns
    rcases Prod.mk.inj returns with ⟨isCurrent, rfl⟩
    rcases Except.ok.inj isCurrent with rfl
    exact ⟨isDoc, isDoc⟩
  · intro op opFits iterates answer after returns
    have leaves := call_leaves valid fresh opFits iterates
    rw [returns] at leaves
    exact ⟨leaves.written answer rfl, leaves.unwritten answer rfl⟩

/-! ### A node, and another one whose identifier is too wide -/

def oneNode : Topo := (init.pushNode .little .dumpFails [1] 1 "" true true).2

theorem oneNode_run :
    Run .little [(.pushNode 1 "" true true [1] .dumpFails, init)] oneNode :=
  .call .init _ fun _ => .refl _

theorem oneNode_export :
    (∀ doc after, oneNode.getTopoAll .little = (.ok doc, after) →
      oneNode.tojson .little = .ok doc ∧ after.tojson .little = .ok doc) ∧
    ∀ op : Op, op.Fits → op.Iterates oneNode → ∀ answer after,
      op.call .little oneNode = (.ok answer, after) →
        (answer.Written → after.InFile .little) ∧
        (¬ answer.Written →
          after.outfile = oneNode.outfile ∧ after.tojson .little = oneNode.tojson .little) :=
  export_never_stale oneNode_run fun entry isMem => by
    rcases List.mem_singleton.mp isMem with rfl
    exact ⟨by decide, by decide⟩

def wideNode : Topo :=
  (oneNode.pushNode .little .completes [1, 2 ^ 64] (2 ^ 64) "" true false).2

theorem wideNode_run :
    Run .little [(.pushNode (2 ^ 64) "" true false [1, 2 ^ 64] .completes, oneNode),
      (.pushNode 1 "" true true [1] .dumpFails, init)] wideNode :=
  .call oneNode_run _ fun _ => .swap _ _ _

/-- The graph has two nodes and no document, and `get_topo_all` returns one. -/
theorem wideNode_stale :
    (∃ history, Run .little history wideNode) ∧ wideNode.tojson .little = .error .structError ∧
      (wideNode.getTopoAll .little).1 = .ok wideNode.njg ∧ wideNode.njg.nodes.length = 1 := by
  refine ⟨⟨_, wideNode_run⟩, rfl, rfl, rfl⟩

end Topo

end Vson

end Nrg5
