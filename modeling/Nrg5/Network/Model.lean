import Nrg5.Network.Advertisement
import Nrg5.Network.DeviceEffects
import Nrg5.Network.BsEffects
import Nrg5.Network.Vtsd

/-!
# One base station, its devices and the vTSD

The stations of a network make calls in any order, each call as a whole.  What they
send is never taken out of the air: any station may hear any frame, at any time
and as often as it likes, so frames get lost, duplicated, delayed and reordered.
A station hears a frame whatever its destination address is; a receiver that looks
at the address hears less.  In the same way the vTSD may answer any message that
the base station wrote, and the base station may read any of the answers, in any
pieces.  Between the base station and its network functions a message is read or
answered as a whole.

A station that exits makes no further calls.  A call that meets a mutex left behind
keeps what it has done, and the other threads of the station go on.  A call of the
application that would wait is one that has not been made yet.

The calls are more than those of the threads: a station may advertise itself and report its
topology in every registration state, while `__tx_thread_main` does so only while it is
connected.  What holds in all these runs holds in the real ones.  A run that shows something
to fail is a `ThreadRun` of `Nrg5.Network.Schedule`, in which every call is one that the
threads make.
-/

namespace Nrg5

open LockProg

/-- The configuration of a station.  The MTU is the one that the driver reports: it has
room for a registration reply, and the length field can count the packets that a buffer
of this size takes. -/
structure Station where
  devId : DeviceId
  ifaces : List NsoIf
  ifacesFit : ifaces.length ≤ nsoMaxSupportedIfaces
  mtu : Nat
  controlFits : nsohdrSize + 2 ≤ mtu
  lengthFits : mtu + tailroom < 16384

/-- The layer that the initialisation of a station leaves. -/
def Station.initialLayer (station : Station) (gwId : DeviceId) : NsoLayer :=
  NsoLayer.initial station.devId gwId station.mtu station.ifaces station.ifacesFit

/-- A base station, which is `none`, and the devices `ι`.  `functions` are the messages that
the network functions other than the vTSD write to the base station. -/
structure Network (ι : Type) where
  station : Option ι → Station
  distinctIds : ∀ s t, (station s).devId = (station t).devId → s = t
  distinctMacs : ∀ s t, ∀ i ∈ (station s).ifaces, ∀ j ∈ (station t).ifaces,
    i.ifMac = j.ifMac → s = t
  functions : List UInt8 → Prop
  functionsWhole : ∀ message, functions message → Bs.IsMessage (station none).mtu message
  functionsNotTsd : ∀ message, functions message → (messageOf message).proto ≠ protoCpVtsd

/-- What the stations hold, which of them have exited, and what the vTSD has answered. -/
structure NetState (ι : Type) where
  held : Option ι → Lock → Bool
  node : Option ι → Node
  exited : Option ι → Bool
  replies : List (List UInt8)

namespace Network

variable {ι : Type} [DecidableEq ι]

def bsId (net : Network ι) : DeviceId := (net.station none).devId

/-- The stations after a call of one of them. -/
def run (state : NetState ι) (s : Option ι) (body : Prog Unit) : NetState ι :=
  let outcome := body.exec (state.held s) (state.node s)
  { state with
    held := Function.update state.held s outcome.held
    node := Function.update state.node s outcome.state
    exited := Function.update state.exited s
      (match outcome.result with
        | .halted _ => true
        | _ => false) }

/-- The call would wait for a condition. -/
def Waits (state : NetState ι) (s : Option ι) (body : Prog Unit) : Prop :=
  (body.exec (state.held s) (state.node s)).result = .halted .condWait

/-- A station reads a frame that is in the air into the buffer of its receive loop. -/
def Hears (net : Network ι) (state : NetState ι) (s : Option ι) (pkt : Packet) (src : L2addr) :
    Prop :=
  ∃ sender slot frame stale dest, (slot, frame) ∈ (state.node sender).air ∧
    stale.data = headroom ∧ stale.size = (net.station s).mtu ∧
      wifiReceive stale (.frame frame) = ⟨0, pkt, some (src, dest)⟩

/-- The base station reads a message of the vTSD or of another network function. -/
def Reads (net : Network ι) (state : NetState ι) (pkt : Packet) : Prop :=
  ∃ message rest stream left junk, (message ∈ state.replies ∨ net.functions message) ∧
    stream.content = message ++ rest ∧
      Bs.readPktFromVnf junk (net.station none).mtu stream = some (pkt, left)

/-- The calls of a device, its own advertisements and reports in every state.  Its application
does not use the protocols of the vTSD and of vSON. -/
def DeviceMay (net : Network ι) (state : NetState ι) (i : ι) : Device.Event → Prop
  | .receive rx =>
      net.Hears state (some i) rx.pkt rx.src ∧ rx.handler = dispatch rx.pkt.proto ∧
        rx.iface ∈ (net.station (some i)).ifaces
  | .send _ _ proto => dispatch proto = .data
  | _ => True

/-- The calls of the base station. -/
def BsMay (net : Network ι) (state : NetState ι) : Bs.Event → Prop
  | .receive rx =>
      ∃ src, ∃ iface ∈ (net.station none).ifaces, rx.origin = .air src iface ∧
        net.Hears state none rx.pkt src ∧ rx.handler = dispatch rx.pkt.proto
  | .vnfMessage pkt => net.Reads state pkt
  | .send _ _ proto => dispatch proto = .data
  | _ => True

inductive Step (net : Network ι) (state : NetState ι) : NetState ι → Prop where
  | device (i : ι) (event : Device.Event) (alive : state.exited (some i) = false)
      (may : net.DeviceMay state i event) (goes : ¬ Waits state (some i) event.body) :
      Step net state (run state (some i) event.body)
  | baseStation (event : Bs.Event) (alive : state.exited none = false)
      (may : net.BsMay state event) (goes : ¬ Waits state none event.body) :
      Step net state (run state none event.body)
  | vtsd (services : Vtsd.Services) {fd : Nat} {request reply : List UInt8}
      (written : (fd, request) ∈ (state.node none).vnfTx)
      (answers : Vtsd.listenToBs services request = some reply) :
      Step net state { state with replies := state.replies ++ [reply] }

/-- Every station has initialised its layer; nobody has set a gateway. -/
structure Initial (net : Network ι) (state : NetState ι) : Prop where
  free : ∀ s, state.held s = fun _ => false
  alive : ∀ s, state.exited s = false
  noReply : state.replies = []
  device : ∀ i, ∃ gwId env,
    state.node (some i) = Node.start ((net.station (some i)).initialLayer gwId) env
  baseStation : ∃ gwId vnfs vtsdFd vsonFd env,
    state.node none =
      Node.start (Bs.initialLayer ((net.station none).initialLayer gwId) vnfs vtsdFd vsonFd) env

/-- The stations after their initialisation, with no network function configured. -/
def started (net : Network ι) : NetState ι :=
  { held := fun _ _ => false
    node := fun s =>
      match s with
      | some i => Node.start ((net.station (some i)).initialLayer 0) .nominal
      | none => Node.start (Bs.initialLayer ((net.station none).initialLayer 0) [] 3 4) .nominal
    exited := fun _ => false
    replies := [] }

omit [DecidableEq ι] in
theorem initial_started (net : Network ι) : net.Initial net.started :=
  ⟨fun _ => rfl, fun _ => rfl, rfl, fun _ => ⟨0, _, rfl⟩, ⟨0, [], 3, 4, _, rfl⟩⟩

/-- The states of the runs of a network. -/
inductive Reachable (net : Network ι) : NetState ι → Prop where
  | start {state : NetState ι} (initial : net.Initial state) : Reachable net state
  | step {state next : NetState ι} (before : Reachable net state) (step : net.Step state next) :
      Reachable net next

variable {net : Network ι} {state next : NetState ι} {s : Option ι} {body : Prog Unit}

/-! ## What a call leaves -/

theorem node_run_self :
    (run state s body).node s = (body.exec (state.held s) (state.node s)).state := by
  simp only [run, Function.update_self]

theorem node_run_other {other : Option ι} (isOther : other ≠ s) :
    (run state s body).node other = state.node other := by
  simp only [run, Function.update_of_ne isOther]

/-- A property of all the nodes that a call keeps at its own node. -/
theorem forall_node_run {inv : Option ι → Node → Prop} (before : ∀ s, inv s (state.node s))
    (after : inv s (body.exec (state.held s) (state.node s)).state) :
    ∀ t, inv t ((run state s body).node t) := by
  intro t
  rcases eq_or_ne t s with rfl | isOther
  · rw [node_run_self]
    exact after
  · rw [node_run_other isOther]
    exact before t

/-- The mutexes that no call leaves behind are free at every station that still runs. -/
theorem tablesFree_reachable (reachable : net.Reachable state) :
    ∀ s, state.exited s = false → TablesFree (state.held s) := by
  have keeps : ∀ {state : NetState ι} {s : Option ι} {body : Prog Unit}, KeepsTables body →
      state.exited s = false →
      (∀ t, state.exited t = false → TablesFree (state.held t)) →
      ∀ t, (run state s body).exited t = false → TablesFree ((run state s body).held t) := by
    intro state s body keepsTables alive before t running
    rcases eq_or_ne t s with rfl | isOther
    · have ends := ((wp_iff_exec _ _).mp (keepsTables.keeps _ (state.node t) (before t alive))).2
      simp only [run, Function.update_self] at running ⊢
      simp only [Ending.Holds] at ends
      cases result : (body.exec (state.held t) (state.node t)).result with
      | done value =>
          rw [result] at ends
          exact ends
      | halted reason =>
          rw [result] at running
          simp at running
      | blocked mutex =>
          rw [result] at ends
          exact ends
    · simp only [run, Function.update_of_ne isOther] at running ⊢
      exact before t running
  induction reachable with
  | start initial =>
      intro s _
      rw [initial.free s]
      exact ⟨rfl, rfl, rfl, rfl⟩
  | step before step ih =>
      cases step with
      | device i event alive may goes => exact keeps (Device.keepsTables_event event) alive ih
      | baseStation event alive may goes => exact keeps (Bs.keepsTables_event event) alive ih
      | vtsd services written answers => exact ih

omit [DecidableEq ι] in
/-- What a station reads from the air is a message that another station sent. -/
theorem shows_of_hears {pkt : Packet} {src : L2addr} (hears : net.Hears state s pkt src)
    {mayBe : Option ι → L2addr → Message → Prop}
    (frames : ∀ sender, ∀ entry ∈ (state.node sender).air,
      ∃ mac message, IsFrame mac message entry.2 ∧ mayBe sender mac message) :
    ∃ sender message, mayBe sender src message ∧ pkt.Shows message := by
  rcases hears with ⟨sender, slot, frame, stale, dest, isSent, room, size, receives⟩
  rcases frames sender _ isSent with ⟨mac, message, isFrame, isMessage⟩
  have fits := (net.station s).controlFits
  rcases wifiReceive_frame isFrame (by rw [room]; decide) (by rw [size]; omega) receives with
    ⟨showing, dest', addrs⟩
  simp only [Option.some.injEq, Prod.mk.injEq] at addrs
  rw [← addrs.1] at isMessage
  exact ⟨sender, message, isMessage, showing⟩

end Network

end Nrg5
