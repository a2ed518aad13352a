import Nrg5.Lib.Monitor
import Nrg5.HandlerRules

/-!
# Delivery to the application

The receive threads put the data packets for a device into a queue, and the calls of
the application wait for the registration and for a packet.  The sections are the
parts of the code between taking and releasing one of the two mutexes; what a
section does to the node is what its function does, and it wakes the waiters of a
condition where the function broadcasts its signal.

The registration state is set to `NRG5_CONNECTED` in two places, and one of them does
not broadcast: it only leaves the intermediate state, which no function enters.
-/

namespace Nrg5

open LockProg

/-- Where a receive thread or an application thread stands between two sections. -/
inductive DeliveryAt : Type where
  | idle
  /-- `data_process_rx` behind its check of the registration state. -/
  | delivering (pkt : Packet)
  /-- The first wait of `nso_layer_recv`. -/
  | recvState (size : Nat)
  /-- The second wait of `nso_layer_recv`. -/
  | recvData (size : Nat)
  /-- The wait of `nso_layer_send`. -/
  | sendState (buf : List UInt8) (dst : Option DeviceId) (proto : UInt16)

/-- The node with the packets that were enqueued and dequeued so far. -/
structure Delivery where
  node : Node
  enqueued : List Packet
  dequeued : List Packet

namespace Delivery

/-- The condition of each wait. -/
def waitsFor : DeliveryAt → Option Signal
  | .recvState _ => some .state
  | .recvData _ => some .data
  | .sendState _ _ _ => some .state
  | _ => none

/-- The tests of the wait loops, negated. -/
def Holds (signal : Signal) (delivery : Delivery) : Prop :=
  match signal with
  | .state => delivery.node.nsol.devState = .connected
  | .data => delivery.node.nsol.dataPq ≠ []

/-- Nobody is woken. -/
def noSignal (_ : Signal) : Bool := false

/-- The sections of the threads. -/
inductive Section : DeliveryAt → Delivery → DeliveryAt → Delivery → (Signal → Bool) → Prop where
  | callRecv (size : Nat) (delivery : Delivery) :
      Section .idle delivery (.recvState size) delivery noSignal
  | callSend (buf : List UInt8) (dst : Option DeviceId) (proto : UInt16) (delivery : Delivery) :
      Section .idle delivery (.sendState buf dst proto) delivery noSignal
  /-- The registration is there. -/
  | registered (size : Nat) (delivery : Delivery) :
      Section (.recvState size) delivery (.recvData size) delivery noSignal
  | dequeue (size : Nat) {delivery : Delivery} {pkt : Packet} {rest : List Packet}
      (queue : delivery.node.nsol.dataPq = pkt :: rest) :
      Section (.recvData size) delivery .idle
        { delivery with
          node := delivery.node.dequeue
          dequeued := delivery.dequeued ++ [pkt] } noSignal
  | send (buf : List UInt8) (dst : Option DeviceId) (proto : UInt16) (delivery : Delivery) :
      Section (.sendState buf dst proto) delivery .idle delivery noSignal
  /-- A connected device receives a data packet for itself. -/
  | receive {delivery : Delivery} {pkt : Packet} (isData : dispatch pkt.proto = .data)
      (connected : delivery.node.nsol.devState = .connected)
      (forMe : pkt.dstDevid = delivery.node.nsol.devId) :
      Section .idle delivery (.delivering pkt) delivery noSignal
  /-- The locked part of `data_process_rx`. -/
  | enqueue (pkt : Packet) (delivery : Delivery) :
      Section (.delivering pkt) delivery .idle
        { delivery with
          node := delivery.node.enqueue (pkt.clone delivery.node.env.junk)
          enqueued := delivery.enqueued ++ [pkt.clone delivery.node.env.junk] }
        fun signal => signal == .data && delivery.node.nsol.dataPq.isEmpty
  /-- The locked part of `__process_reg_reply`. -/
  | join {delivery : Delivery} {pkt : Packet} {src : L2addr} {entry : ArpEntry} (iface : NsoIf)
      (isTsd : dispatch pkt.proto = .tsd) (isReply : pkt.msgType = tsdMsgRegReply)
      (forMe : pkt.dstDevid = delivery.node.nsol.devId)
      (unreg : delivery.node.nsol.devState = .unreg)
      (success : pkt.byteAt (nsohdrSize + 1) = nrg5RegSuccess)
      (upstream : ArpTable.lookupFromL2addr src delivery.node.nsol.arpt = some entry) :
      Section .idle delivery .idle
        { delivery with node := delivery.node.joined pkt.srcDevid entry.devId iface }
        fun signal => signal == .state
  /-- The locked part of `__route_update`. -/
  | admitRoutes (delivery : Delivery) :
      Section .idle delivery .idle { delivery with node := delivery.node.promoted } noSignal
  /-- Everything else that the threads do. -/
  | elsewhere {delivery : Delivery} (node : Node)
      (sameState : node.nsol.devState = delivery.node.nsol.devState)
      (sameQueue : node.nsol.dataPq = delivery.node.nsol.dataPq) :
      Section .idle delivery .idle { delivery with node := node } noSignal

/-- The sections with their conditions. -/
def monitor : Monitor Delivery DeliveryAt Signal :=
  { waitsFor := waitsFor, holds := Holds, performs := Section }

abbrev Config (τ : Type) := Monitor.Config τ Delivery DeliveryAt

/-- The device that `__nso_layer_init` leaves, before any thread has done anything. -/
structure Initial {τ : Type} (config : Config τ) : Prop where
  layer : ∃ devId gwId mtu ifaces fit,
    config.state.node.nsol = NsoLayer.initial devId gwId mtu ifaces fit
  noPackets : config.state.enqueued = [] ∧ config.state.dequeued = []
  idle : ∀ t, config.thread t = .running .idle

/-! ## The sections and their functions -/

variable {α : Type} {prog : Prog α} {held : Lock → Bool} {node : Node} {pkt : Packet}
  {signal : Signal}

/-- A run of a function broadcasts a signal. -/
def Broadcasts (signal : Signal) (prog : Prog α) (held : Lock → Bool) (node : Node) : Prop :=
  ∃ state, (Op.broadcastSignal signal, state) ∈ (prog.exec held node).events

theorem broadcasts_iff :
    Broadcasts signal prog held node ↔
      ¬ prog.wp (fun op _ => op ≠ .broadcastSignal signal) (.always fun _ => True) held node := by
  have ends : (Ending.always fun _ => True).Holds (prog.exec held node) := by
    simp only [Ending.Holds, Ending.always]
    split <;> trivial
  rw [wp_iff_exec]
  simp [Broadcasts, ends]

/-- A data packet for a connected device: it is put behind the queue, and the signal of the
queue is broadcast exactly when the queue was empty. -/
theorem dataProcessRx_enqueues (free : TablesFree held) (stateFree : held .state = false)
    (connected : node.nsol.devState = .connected) (forMe : pkt.dstDevid = node.nsol.devId) :
    ((Device.dataProcessRx pkt).exec held node).state = node.enqueue (pkt.clone node.env.junk) ∧
      ∀ signal, Broadcasts signal (Device.dataProcessRx pkt) held node ↔
        signal = .data ∧ node.nsol.dataPq = [] := by
  constructor
  · rw [← wp_always_iff (fun after => after = node.enqueue (pkt.clone node.env.junk)),
      wp_dataProcessRx tolerant_true free]
    simp only [stateFree, Bool.false_eq_true, if_false, connected, ne_eq, not_true, forMe, if_true]
    rfl
  · intro signal
    rw [broadcasts_iff]
    cases queue : node.nsol.dataPq with
    | nil => cases signal <;> simp [Device.dataProcessRx, checkConnected, stateFree, connected,
        forMe, free.data, queue, Ending.always]
    | cons first rest => simp [Device.dataProcessRx, checkConnected, stateFree, connected, forMe,
        free.data, queue, Ending.always]

/-- The reply that makes a device connected broadcasts the signal of the registration. -/
theorem processRegReply_joins {src : L2addr} {iface : NsoIf} {entry : ArpEntry}
    (stateFree : held .state = false) (arptFree : held .arpt = false)
    (forMe : pkt.dstDevid = node.nsol.devId) (unreg : node.nsol.devState = .unreg)
    (success : pkt.byteAt (nsohdrSize + 1) = nrg5RegSuccess)
    (upstream : ArpTable.lookupFromL2addr src node.nsol.arpt = some entry) :
    ((Device.processRegReply pkt (some src) (some iface)).exec held node).state =
        node.joined pkt.srcDevid entry.devId iface ∧
      ∀ signal, Broadcasts signal (Device.processRegReply pkt (some src) (some iface)) held node ↔
        signal = .state := by
  constructor
  · rw [← wp_always_iff (fun after => after = node.joined pkt.srcDevid entry.devId iface),
      wp_processRegReply tolerant_true]
    simp only [forMe, if_true, stateFree, Bool.false_eq_true, if_false, unreg, success, and_self,
      arptFree, upstream]
    rfl
  · intro signal
    rw [broadcasts_iff]
    cases signal <;> simp [Device.processRegReply, forMe, stateFree, unreg, success,
      downstreamDevId, arptFree, orHalt, upstream, allocFwdEntry, malloc, Ending.always]

/-- The head of a route update leaves the intermediate state and wakes nobody. -/
theorem admitRouteUpdate_promotes (stateFree : held .state = false) :
    (Device.admitRouteUpdate.exec held node).state = node.promoted ∧
      ∀ signal, ¬ Broadcasts signal Device.admitRouteUpdate held node := by
  constructor
  · rw [← wp_always_iff (fun after => after = node.promoted),
      wp_admitRouteUpdate tolerant_true]
    simp only [stateFree, Bool.false_eq_true, if_false]
    rfl
  · intro signal
    rw [broadcasts_iff]
    simp [Device.admitRouteUpdate, stateFree, Ending.always]

/-- A receiving application waits for the registration and for a packet, and then takes the
first one. -/
theorem wp_nsoLayerRecv (size : Nat) (free : TablesFree held) (stateFree : held .state = false)
    (ending : Ending Node Lock Halt Delivered) :
    (nsoLayerRecv size).wp (fun _ _ => True) ending held node =
      if node.nsol.devState = .connected then
        match node.nsol.dataPq with
        | [] => ending.halt .condWait held node
        | pkt :: _ =>
            match readData pkt size with
            | none => ending.halt .outOfBounds held node.dequeue
            | some delivered => ending.post delivered held node.dequeue
      else ending.halt .condWait held node := by
  have notHeld : ¬ held .state = true := by rw [stateFree]; exact Bool.false_ne_true
  exact (Nrg5.wp_nsoLayerRecv tolerant_true free.data size ending).trans (if_neg notHeld)

/-! ## What every section keeps -/

/-- The queue is what was enqueued and not yet dequeued, and the intermediate state is
never entered. -/
structure Ordered (delivery : Delivery) : Prop where
  fifo : delivery.enqueued = delivery.dequeued ++ delivery.node.nsol.dataPq
  notReg : delivery.node.nsol.devState ≠ .reg

variable {position next : DeliveryAt} {delivery after : Delivery} {wakes : Signal → Bool}

theorem ordered_section (ordered : delivery.Ordered)
    (performs : Section position delivery next after wakes) : after.Ordered := by
  cases performs with
  | callRecv size => exact ordered
  | callSend buf dst proto => exact ordered
  | registered size => exact ordered
  | dequeue size queue =>
      refine ⟨?_, ordered.notReg⟩
      simp only [Node.dequeue, Node.updateLayer, queue, List.tail_cons, ordered.fifo,
        List.append_assoc, List.singleton_append]
  | send buf dst proto => exact ordered
  | receive isData connected forMe => exact ordered
  | enqueue pkt =>
      refine ⟨?_, ordered.notReg⟩
      simp only [Node.enqueue, Node.updateLayer, ordered.fifo, List.append_assoc]
  | join iface isTsd isReply forMe unreg success upstream =>
      exact ⟨ordered.fifo, by simp [Node.joined, Node.updateLayer]⟩
  | admitRoutes =>
      rw [promoted_of_not_reg ordered.notReg]
      exact ordered
  | elsewhere node sameState sameQueue =>
      refine ⟨?_, ?_⟩
      · rw [sameQueue]
        exact ordered.fifo
      · rw [sameState]
        exact ordered.notReg

/-- A section that makes a condition true wakes its waiters. -/
theorem section_signals (ordered : delivery.Ordered)
    (performs : Section position delivery next after wakes) (signal : Signal)
    (before : ¬ Holds signal delivery) (holds : Holds signal after) : wakes signal = true := by
  cases performs with
  | callRecv size => exact absurd holds before
  | callSend buf dst proto => exact absurd holds before
  | registered size => exact absurd holds before
  | dequeue size queue =>
      cases signal with
      | state => exact absurd holds before
      | data => exact absurd (by simp [Holds, queue]) before
  | send buf dst proto => exact absurd holds before
  | receive isData connected forMe => exact absurd holds before
  | enqueue pkt =>
      cases signal with
      | state => exact absurd holds before
      | data =>
          simp only [Holds, ne_eq, not_not] at before
          simp [before]
  | join iface isTsd isReply forMe unreg success upstream =>
      cases signal with
      | state => rfl
      | data => exact absurd holds before
  | admitRoutes =>
      rw [promoted_of_not_reg ordered.notReg] at holds
      exact absurd holds before
  | elsewhere node sameState sameQueue =>
      cases signal with
      | state =>
          simp only [Holds, sameState] at holds
          exact absurd holds before
      | data =>
          simp only [Holds, sameQueue] at holds
          exact absurd holds before

theorem ordered_initial {τ : Type} {config : Config τ} (initial : Initial config) :
    config.state.Ordered := by
  rcases initial.layer with ⟨devId, gwId, mtu, ifaces, fit, isInitial⟩
  refine ⟨?_, ?_⟩
  · rw [initial.noPackets.1, initial.noPackets.2, isInitial]
    rfl
  · rw [isInitial]
    exact DevState.noConfusion

/-- Packets leave the queue in the order in which they came, each once; a thread is blocked
on the queue only while it is empty, and on the registration only before it. -/
theorem delivery_ordered_no_lost_wakeup (τ : Type) [DecidableEq τ] (start config : Config τ)
    (initial : Initial start) (run : Monitor.Run monitor start config) :
    config.state.enqueued = config.state.dequeued ++ config.state.node.nsol.dataPq ∧
    (∀ t position, config.thread t = .blocked position → waitsFor position = some .data →
      config.state.node.nsol.dataPq = []) ∧
    ∀ t position, config.thread t = .blocked position → waitsFor position = some .state →
      config.state.node.nsol.devState ≠ .connected := by
  have keeps : ∀ position delivery next after wakes, Ordered delivery →
      monitor.performs position delivery next after wakes → Ordered after :=
    fun _ _ _ _ _ ordered performs => ordered_section ordered performs
  have ordered := Monitor.inv_run keeps (ordered_initial initial) run
  have noneMissed := Monitor.noneMissed_run keeps
    (fun _ _ _ _ _ ordered performs => section_signals ordered performs) (ordered_initial initial)
    (by simp [initial.idle]) run
  refine ⟨ordered.fifo, ?_, ?_⟩
  · intro t position isBlocked waits
    have stillEmpty := noneMissed t position .data isBlocked waits
    simpa [monitor, Holds] using stillEmpty
  · intro t position isBlocked waits
    exact noneMissed t position .state isBlocked waits

/-! ### One packet -/

/-- Device 1 at start, with a receive thread and an application thread. -/
def freshStart : Config Bool :=
  { state := ⟨Node.start (NsoLayer.initial 1 2 1500 [wlan0] wlan0_fits) .nominal, [], []⟩
    thread := fun _ => .running .idle }

/-- The successful reply of gateway 9 to device 1. -/
def replyToOne : Packet :=
  finishControl ((beginControl (fun _ => 0) 1500 9 1 protoCpVtsd tsdMsgRegReply).put
    (nsohdrSize + 1) [nrg5RegSuccess]) (nsohdrSize + 2)

/-- A data packet for device 1. -/
def dataToOne : Packet := ((allocPacket (fun _ => 0) 1500).setDstDevid 1).setProto 0x0800

/-- The neighbour through which the reply comes. -/
def gatewayEntry : ArpEntry := ⟨0, 9, [2, 0, 0, 0, 0, 9], .active⟩

theorem run_section {τ : Type} [DecidableEq τ] {start config : Config τ}
    (run : Monitor.Run monitor start config) (t : τ) (position : DeliveryAt) {next : DeliveryAt}
    {after : Delivery} {wakes : Signal → Bool} (here : (config.thread t).At position)
    (ready : ∀ condition, waitsFor position = some condition → Holds condition config.state)
    (performs : Section position config.state next after wakes) :
    Monitor.Run monitor start
      { state := after
        thread := Function.update (fun u => monitor.wake wakes (config.thread u)) t
          (.running next) } :=
  run.tail (.pass t position next after wakes here ready performs)

theorem run_block {τ : Type} [DecidableEq τ] {start config : Config τ}
    (run : Monitor.Run monitor start config) (t : τ) (position : DeliveryAt) {condition : Signal}
    (here : (config.thread t).At position) (waits : waitsFor position = some condition)
    (notYet : ¬ Holds condition config.state) :
    Monitor.Run monitor start
      { config with thread := Function.update config.thread t (.blocked position) } :=
  run.tail (.block t position condition here waits notYet)

/-- The application waits for the registration, then for a packet, and takes the one that
comes. -/
theorem one_packet_delivered :
    ∃ config, Monitor.Run monitor freshStart config ∧ config.state.enqueued.length = 1 ∧
      config.state.dequeued.length = 1 ∧
      (config.state.enqueued = config.state.dequeued ++ config.state.node.nsol.dataPq ∧
        (∀ t position, config.thread t = .blocked position → waitsFor position = some .data →
          config.state.node.nsol.dataPq = []) ∧
        ∀ t position, config.thread t = .blocked position → waitsFor position = some .state →
          config.state.node.nsol.devState ≠ .connected) := by
  have initial : Initial freshStart :=
    ⟨⟨1, 2, 1500, [wlan0], by decide, rfl⟩, ⟨rfl, rfl⟩, fun _ => rfl⟩
  have upstream : ArpTable.lookupFromL2addr [2, 0, 0, 0, 0, 9]
      (freshStart.state.node.updateArpt (ArpTable.add gatewayEntry)).nsol.arpt =
        some gatewayEntry := ArpTable.lookupFromL2addr_add.trans (if_pos rfl)
  have called := @run_section _ _ freshStart _ .refl true .idle _ _ _ (.inl rfl)
    (by simp [waitsFor]) (.callRecv 100 _)
  have blocks := run_block called true (.recvState 100) (.inl rfl) rfl
    fun connected => DevState.noConfusion connected
  have learns := run_section blocks false .idle (.inl rfl) (by simp [waitsFor])
    (.elsewhere (freshStart.state.node.updateArpt (ArpTable.add gatewayEntry)) rfl rfl)
  have joins := run_section learns false .idle (.inl rfl) (by simp [waitsFor])
    (@Section.join _ replyToOne _ _ wlan0 (by decide) (by decide) (by decide) rfl (by decide)
      upstream)
  have wakes := run_section joins true (.recvState 100) (.inr rfl)
    (by simp [waitsFor, Holds, Node.joined, Node.updateLayer]) (.registered 100 _)
  have waits := run_block wakes true (.recvData 100) (.inl rfl) rfl fun filled => filled rfl
  have receives := run_section waits false .idle (.inl rfl) (by simp [waitsFor])
    (@Section.receive _ dataToOne (by decide) rfl (by decide))
  have enqueues := run_section receives false (.delivering dataToOne) (.inl rfl)
    (by simp [waitsFor]) (.enqueue dataToOne _)
  have takes := run_section enqueues true (.recvData 100) (.inr rfl)
    (by simp [waitsFor, Holds, Node.enqueue, Node.updateLayer]) (.dequeue 100 rfl)
  exact ⟨_, takes, rfl, rfl, delivery_ordered_no_lost_wakeup Bool freshStart _ initial takes⟩

end Delivery

end Nrg5
