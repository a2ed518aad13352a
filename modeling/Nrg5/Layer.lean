import Nrg5.Lib.LockProg
import Nrg5.Packet
import Nrg5.Tables

/-!
# The NSO layer of one node

`NsoLayer` is the global `nso_layer` of a library with the statics next to it
that its functions share.  `Node` adds what the functions meet outside their
memory: the frames handed to the interfaces, the bytes written to the VNF
connections, the allocator and the behaviour of the system calls.  The behaviour
is a record of oracles, so a result about every node is a result about every
behaviour.

A function that takes a mutex is a `Prog`: its mutexes are the ones of the layer
and its actions are the single reads and writes of the shared tables.  A function
that ends the process, or whose next step has no meaning in C, halts with the
reason.
-/

namespace Nrg5

open ByteMemory

/-- `device_status_e`. -/
inductive DevState : Type where
  | unreg
  | reg
  | connected
deriving DecidableEq

/-- `NSO_MAX_SUPPORTED_IFACES`. -/
def nsoMaxSupportedIfaces : Nat := 10

/-- `nso_layer_t`.  The slots of `ifaces` behind `ifaces_nb` hold NULL. -/
structure NsoLayer where
  ifaces : List NsoIf
  ifacesFit : ifaces.length ≤ nsoMaxSupportedIfaces
  arpt : ArpTable
  sonFwdt : FwdTable
  localFwdt : FwdTable
  nbrt : NbrTable
  gwId : DeviceId
  devState : DevState
  devId : DeviceId
  mtu : Nat
  battery : UInt8
  dataPq : List Packet
  aaaRegCred : Memory
  aaaCredSize : Int
  /-- `nso_tsd.if_index` of a device. -/
  tsdIfIndex : Nat
  /-- `bspc_tbl`, `tsd.vtsd_fd` and `son.vson_fd` of a base station. -/
  bspcTbl : BspcTable
  vtsdFd : Nat
  vsonFd : Nat

/-- `ifaces_nb`. -/
def NsoLayer.ifacesNb (layer : NsoLayer) : Nat := layer.ifaces.length

/-- The layer that `__nso_layer_init` leaves: `gw_id` is allocated and not set. -/
def NsoLayer.initial (devId gwId : DeviceId) (mtu : Nat) (ifaces : List NsoIf)
    (fit : ifaces.length ≤ nsoMaxSupportedIfaces) : NsoLayer :=
  { ifaces := ifaces
    ifacesFit := fit
    arpt := .empty
    sonFwdt := .empty
    localFwdt := .empty
    nbrt := .empty
    gwId := gwId
    devState := .unreg
    devId := devId
    mtu := mtu
    battery := 100
    dataPq := []
    aaaRegCred := fun _ => 0
    aaaCredSize := 0
    tsdIfIndex := 0
    bspcTbl := .empty
    vtsdFd := 0
    vsonFd := 0 }

/-- The one interface of the example configurations. -/
def wlan0 : NsoIf := { ifIndex := 0, ifMac := [2, 0, 0, 0, 0, 1], macSize := rfl }

theorem wlan0_fits : [wlan0].length ≤ nsoMaxSupportedIfaces := by decide

/-- What an uninitialised pointer variable holds. -/
inductive Indet : Type where
  | null
  | wild
deriving DecidableEq

/-- The behaviour of the allocator, the stack and the system calls. -/
structure Env where
  /-- Left-over bytes in fresh memory. -/
  junk : Memory
  /-- The uninitialised `addr` of `nso_layer_fwd`. -/
  stackAddr : Indet
  /-- `sendto` fails. -/
  sendtoFails : Bool
  /-- How many bytes a VNF connection accepts before `send` fails, if it does. -/
  sendAccepts : Option Nat
  /-- The answer of the AAA server: the size it announces and the bytes it sends. -/
  aaaSize : Int
  aaaBytes : List UInt8

/-- Nothing fails, and the uninitialised pointer does not happen to be NULL. -/
def Env.nominal : Env :=
  { junk := fun _ => 0
    stackAddr := .wild
    sendtoFails := false
    sendAccepts := none
    aaaSize := 0
    aaaBytes := [] }

structure Node where
  nsol : NsoLayer
  env : Env
  /-- The address of the next allocation. -/
  heap : Nat
  /-- Frames handed to `sendto`, with the interface. -/
  air : List (Nat × List UInt8)
  /-- Bytes handed to `send`, with the descriptor. -/
  vnfTx : List (Nat × List UInt8)

/-- The mutexes of a layer. -/
inductive Lock : Type where
  | state
  | arpt
  | sonFwdt
  | localFwdt
  | nbrt
  | data
deriving DecidableEq

/-- The condition variables of a layer, `state_signal` and `data_signal`. -/
inductive Signal : Type where
  | state
  | data
deriving DecidableEq

/-- The operations of a run. -/
inductive Op : Type where
  | layer
  | malloc
  | table
  /-- The ARP lookup of the next hop in `nso_layer_fwd`. -/
  | nextHopArp (devId : DeviceId)
  /-- An access to a slot of `ifaces`. -/
  | ifaceAt (index : Nat)
  | sendto
  | send
  | broadcastSignal (signal : Signal)
deriving DecidableEq

/-- The condition variable whose waiters an operation wakes. -/
def Op.wakes : Op → Option Signal
  | .broadcastSignal signal => some signal
  | _ => none

/-- Why a call does not come back to its caller. -/
inductive Halt : Type where
  | exit
  | assertion
  | nullDeref
  | outOfBounds
  | invalidFree
  /-- The call waits on a condition variable, with the mutex released. -/
  | condWait
deriving DecidableEq

abbrev Prog := LockProg Node Lock Op Halt

namespace Node

/-- A node at start, before anything was sent. -/
def start (layer : NsoLayer) (env : Env) : Node :=
  { nsol := layer, env := env, heap := 0, air := [], vnfTx := [] }

/-- Change the layer of a node. -/
def updateLayer (update : NsoLayer → NsoLayer) (node : Node) : Node :=
  { node with nsol := update node.nsol }

def updateArpt (update : ArpTable → ArpTable) : Node → Node :=
  updateLayer fun layer => { layer with arpt := update layer.arpt }

def updateSonFwdt (update : FwdTable → FwdTable) : Node → Node :=
  updateLayer fun layer => { layer with sonFwdt := update layer.sonFwdt }

def updateLocalFwdt (update : FwdTable → FwdTable) : Node → Node :=
  updateLayer fun layer => { layer with localFwdt := update layer.localFwdt }

def updateNbrt (update : NbrTable → NbrTable) : Node → Node :=
  updateLayer fun layer => { layer with nbrt := update layer.nbrt }

end Node

open LockProg

/-- The address of a new object. -/
def malloc : Prog Nat :=
  perform .malloc (fun node => { node with heap := node.heap + 1 }) fun node => node.heap

/-- The locked check at the head of the handlers: is the node connected? -/
def checkConnected : Prog Bool := do
  acquire .state
  let state ← query .layer fun node => node.nsol.devState
  release .state
  pure (state == .connected)

/-- `assert(pointer)` and the use of a pointer that must not be NULL. -/
def orHalt {α : Type} (reason : Halt) (pointer : Option α) : Prog α :=
  match pointer with
  | some target => pure target
  | none => .halt reason

/-- `free` of an uninitialised pointer variable. -/
def freeIndet (pointer : Indet) : Prog Unit :=
  match pointer with
  | .null => pure ()
  | .wild => .halt .invalidFree

/-- `nso_layer.ifaces[index]`; slots behind `ifaces_nb` hold NULL. -/
def ifaceAt (index : Nat) : Prog (Option NsoIf) := do
  let iface ← query (.ifaceAt index) fun node => node.nsol.ifaces[index]?
  if index < nsoMaxSupportedIfaces then pure iface else .halt .outOfBounds

end Nrg5
