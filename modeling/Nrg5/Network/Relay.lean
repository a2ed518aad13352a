import Nrg5.Network.DataIntegrity

/-!
# Data that is handed on

A station that routes a packet to its neighbour puts one frame with the same bytes in the air, for
an interface of the neighbour.  Along a route of such stations the packet comes to its target: each
station on the way makes one call, the target takes the packet, and the other stations do nothing.
-/

namespace Nrg5

open ByteMemory LockProg

variable {pkt : Packet} {message : Message} {held : Lock → Bool} {bytes buf : List UInt8}
  {proto : UInt16} {target : DeviceId}

/-- The node after it has put a frame in the air. -/
def Node.emitted (slot : Nat) (frame : List UInt8) (node : Node) : Node :=
  { node with air := node.air ++ [(slot, frame)] }

theorem emitted_sentOn {node : Node} {iface : NsoIf} {dest : L2addr}
    (sends : node.env.sendtoFails = false) (opened : pkt.data = headroom)
    (sized : 0 ≤ pkt.byteLen) :
    node.sentOn iface pkt dest =
      node.emitted iface.ifIndex (ethHeader iface.ifMac dest ++ pkt.bytes) := by
  have room : ethHlen ≤ pkt.data := by
    rw [opened]
    decide
  rw [Node.sentOn, if_neg (Nat.not_lt.mpr room), Node.sendFrame, sends,
    if_neg Bool.false_ne_true, bytes_prependEth room sized iface.macSize]
  rfl

theorem offset_makeDataPkt {junk : Memory} {layer : NsoLayer} {dst : DeviceId}
    (isMade : makeDataPkt junk layer buf dst proto = some pkt) : pkt.data = headroom := by
  rw [makeDataPkt_eq] at isMade
  rcases @sizedHeader_eq junk layer dst proto buf.length with ⟨word, isHeader⟩
  dsimp only at isMade
  rw [Option.ite_none_right_eq_some, Option.some.injEq] at isMade
  rcases isMade with ⟨_, rfl⟩
  rw [isHeader]
  rfl

namespace Network

variable {ι : Type} {net : Network ι} {state next now : NetState ι} {s t u : Option ι}
  {path : List (Option ι)}

/-! ## Stations that pass a packet on -/

/-- A station that runs, with free mutexes and a socket that takes frames. -/
structure Running (state : NetState ι) (s : Option ι) : Prop where
  alive : state.exited s = false
  free : state.held s = fun _ => false
  sends : (state.node s).env.sendtoFails = false

/-- The station routes packets for the target to `t`, and knows an address of `t`. -/
structure Passes (net : Network ι) (state : NetState ι) (target : DeviceId) (s t : Option ι) :
    Prop where
  connected : (state.node s).nsol.devState = .connected
  route : ∃ iface, (state.node s).nsol.route target = some ((net.station t).devId, iface)
  arp : ∃ entry, ArpTable.lookupFromDevId (net.station t).devId (state.node s).nsol.arpt =
    some entry ∧ ∃ own ∈ (net.station t).ifaces, entry.l2addr = own.ifMac

theorem passes_unique (s t u : Option ι) (first : net.Passes state target s t)
    (second : net.Passes state target s u) : t = u := by
  rcases first.route with ⟨iface, route⟩
  rcases second.route with ⟨other, route'⟩
  rw [route] at route'
  exact net.distinctIds t u (Prod.mk.inj (Option.some.inj route')).1

/-- A frame with the packet, for an interface of a station. -/
def IsFor (net : Network ι) (t : Option ι) (bytes frame : List UInt8) : Prop :=
  ∃ mac : L2addr, mac.length = ethAlen ∧ ∃ own ∈ (net.station t).ifaces,
    frame = ethHeader mac own.ifMac ++ bytes

/-- A packet is forwarded as one frame for the next station. -/
theorem nsoLayerFwd_emits (running : Running state s) (passes : net.Passes state target s t)
    (forTarget : pkt.dstDevid = target) (opened : pkt.data = headroom)
    (sized : 0 ≤ pkt.byteLen) :
    ∃ slot frame, net.IsFor t pkt.bytes frame ∧
      (nsoLayerFwd pkt).wp (fun _ _ => True)
        { post := fun _ atEnd after =>
            atEnd = state.held s ∧ after = (state.node s).emitted slot frame }
        (state.held s) (state.node s) := by
  rcases passes.route with ⟨iface, route⟩
  rcases passes.arp with ⟨entry, known, own, isOwn, isMac⟩
  refine ⟨iface.ifIndex, ethHeader iface.ifMac entry.l2addr ++ pkt.bytes,
    ⟨iface.ifMac, iface.macSize, own, isOwn, by rw [isMac]⟩, ?_⟩
  rw [wp_nsoLayerFwd tolerant_true (by rw [running.free]) (by rw [running.free]), forTarget, route]
  dsimp only
  rw [if_neg (by rw [running.free]; exact Bool.false_ne_true), known]
  exact ⟨rfl, emitted_sentOn running.sends opened sized⟩

/-! ## Frames that are heard -/

theorem length_ethHeader_mac {mac dest : L2addr} (six : mac.length = ethAlen) :
    (ethHeader mac dest).length = ethHlen := by
  simp [ethHeader, six, ethAlen, ethHlen, ethTypeNso]

theorem read_mac (own : NsoIf) : (Memory.ofList own.ifMac).read 0 ethAlen = own.ifMac := by
  apply List.ext_getElem
  · rw [Memory.length_read, own.macSize]
  · intro index isIndex inside
    rw [Memory.getElem_read, Nat.zero_add, Memory.ofList, List.getD_eq_getElem _ _ inside]

theorem isFrame_ethHeader {mac dest : L2addr} (six : mac.length = ethAlen)
    (header : messageOf bytes = message) (whole : nsohdrSize ≤ bytes.length) :
    IsFrame mac message (ethHeader mac dest ++ bytes) := by
  have destLength : ((Memory.ofList dest).read 0 ethAlen).length = ethAlen :=
    Memory.length_read _ _ _
  have headerLength := @length_ethHeader_mac mac dest six
  have parts : ethHeader mac dest ++ bytes =
      (Memory.ofList dest).read 0 ethAlen ++ (mac ++ (ethTypeNso ++ bytes)) := by
    rw [ethHeader, List.append_assoc, List.append_assoc]
  constructor
  · rw [List.length_append, headerLength]
    omega
  · rw [parts, ← List.append_assoc,
      List.drop_left' (by rw [List.length_append, destLength, six]; rfl)]
    rfl
  · rw [parts, List.drop_left' destLength, List.take_left' six]
  · rw [List.drop_left' headerLength]
    exact header

theorem hears_of_hearsOwn {src : L2addr} (hears : net.HearsOwn state s pkt src) :
    net.Hears state s pkt src := by
  rcases hears with ⟨sender, slot, frame, stale, dest, isSent, room, size, receives, _⟩
  exact ⟨sender, slot, frame, stale, dest, isSent, room, size, receives⟩

/-- A station with room for a packet hears the frame with it as it was sent. -/
theorem hears_for {sender : Option ι} {slot : Nat} {frame : List UInt8}
    (inAir : (slot, frame) ∈ (state.node sender).air) (isFor : net.IsFor t bytes frame)
    (header : messageOf bytes = message) (whole : nsohdrSize ≤ bytes.length)
    (fits : bytes.length ≤ (net.station t).mtu) :
    ∃ pkt src, net.HearsOwn state t pkt src ∧ pkt.bytes = bytes ∧ pkt.Shows message ∧
      pkt.data = headroom := by
  rcases isFor with ⟨mac, six, own, isOwn, rfl⟩
  let stale := allocPacket (fun _ => 0) (net.station t).mtu
  have control := (net.station t).controlFits
  have room : ethHlen ≤ stale.data := Nat.le_of_ble_eq_true rfl
  have isFrame := @isFrame_ethHeader _ _ _ own.ifMac six header whole
  have isNso : IsNsoFrame (ethHeader mac own.ifMac ++ bytes) :=
    ⟨(Nat.le_add_right _ _).trans isFrame.long, isFrame.type⟩
  rcases wifiReceive_nso isNso room with ⟨buf, byteLen, tail, accepts, read⟩
  have showing := (wifiReceive_frame isFrame room (Nat.lt_of_lt_of_le (by omega) control) accepts).1
  have dest : (ethHeader mac own.ifMac ++ bytes).take ethAlen = own.ifMac := by
    rw [ethHeader, List.append_assoc, List.append_assoc, List.take_left' (Memory.length_read _ _ _),
      read_mac]
  have size : stale.size = (net.station t).mtu := rfl
  rw [List.drop_left' (length_ethHeader_mac six), size, List.take_of_length_le fits] at read
  exact ⟨_, _, ⟨sender, slot, _, stale, _, inAir, rfl, rfl, accepts,
    .inr ⟨own, isOwn, dest⟩⟩, read, showing, rfl⟩

/-! ## One station -/

variable [DecidableEq ι]

/-- The network after one of its nodes has changed. -/
def withNode (state : NetState ι) (s : Option ι) (node : Node) : NetState ι :=
  { state with node := Function.update state.node s node }

@[simp]
theorem node_withNode_self {node : Node} : (withNode state s node).node s = node :=
  Function.update_self _ _ _

theorem node_withNode_other {node : Node} (isOther : u ≠ s) :
    (withNode state s node).node u = state.node u :=
  Function.update_of_ne isOther _ _

/-- A call that returns with its mutexes as they were changes its node and nothing else. -/
theorem run_of_done {body : Prog Unit} {after : Node} (alive : state.exited s = false)
    (ends : body.wp (fun _ _ => True)
      { post := fun _ atEnd last => atEnd = state.held s ∧ last = after }
      (state.held s) (state.node s)) :
    ¬ Waits state s body ∧ run state s body = withNode state s after := by
  rcases (wp_done_iff_exec _ _).mp ends with ⟨_, value, isDone, sameHeld, isAfter⟩
  constructor
  · rw [Waits, isDone]
    simp
  · rw [run, isDone, sameHeld, isAfter, withNode, Function.update_eq_self]
    congr 1
    rw [← alive, Function.update_eq_self]

/-- A station that hears a packet for another one hands it on. -/
theorem relay_step (running : Running state u) (config : Configured (net.station u) (state.node u))
    (passes : net.Passes state target u t) (onTheWay : target ≠ (net.station u).devId)
    {sender : Option ι} {slot : Nat} {frame : List UInt8}
    (inAir : (slot, frame) ∈ (state.node sender).air) (isFor : net.IsFor u bytes frame)
    (header : messageOf bytes = message) (forTarget : message.dst = target)
    (isData : dispatch message.proto = .data)
    (whole : nsohdrSize ≤ bytes.length) (fits : bytes.length ≤ (net.station u).mtu) :
    ∃ slot frame, net.IsFor t bytes frame ∧
      net.OwnStep state (withNode state u ((state.node u).emitted slot frame)) := by
  rcases hears_for inAir isFor header whole fits with ⟨pkt, src, hears, sameBytes, showing, opened⟩
  rcases isFor with ⟨_, _, own, isOwn, _⟩
  have toTarget : pkt.dstDevid = target := showing.dst.trans forTarget
  have sized : 0 ≤ pkt.byteLen := (Int.natCast_nonneg _).trans showing.header
  have handler : Handler.data = dispatch pkt.proto := by rw [showing.proto, isData]
  have notMe : ¬ pkt.dstDevid = (state.node u).nsol.devId := by
    rw [toTarget, config.devId]
    exact onTheWay
  rcases nsoLayerFwd_emits running passes toTarget opened sized with ⟨slot, frame, isNext, emits⟩
  rw [sameBytes] at isNext
  have unlocked : ¬ state.held u .state = true := by
    rw [running.free]
    exact Bool.false_ne_true
  have tables : TablesFree (state.held u) := by
    rw [running.free]
    exact ⟨rfl, rfl, rfl, rfl⟩
  refine ⟨slot, frame, isNext, ?_⟩
  cases u with
  | some i =>
      have ends : (Device.Event.receive ⟨.data, pkt, src, own⟩).body.wp (fun _ _ => True)
          { post := fun _ atEnd last => atEnd = state.held (some i) ∧
              last = (state.node (some i)).emitted slot frame }
          (state.held (some i)) (state.node (some i)) := by
        rw [Device.Event.body, wp_bind, Device.Rx.body, wp_dataProcessRx tolerant_true tables,
          if_neg unlocked, if_neg (not_not_intro passes.connected), if_neg notMe, wp_deliverFwd]
        exact emits
      rcases run_of_done running.alive ends with ⟨goes, leaves⟩
      rw [← leaves]
      exact .device i _ running.alive ⟨hears_of_hearsOwn hears, handler, isOwn⟩ goes hears
  | none =>
      have ends : (Bs.Event.receive ⟨.data, pkt, .air src own⟩).body.wp (fun _ _ => True)
          { post := fun _ atEnd last => atEnd = state.held none ∧
              last = (state.node none).emitted slot frame }
          (state.held none) (state.node none) := by
        rw [Bs.Event.body, wp_bind, Bs.Rx.body, wp_dataProcessRxBs tolerant_true,
          if_neg unlocked, if_neg (not_not_intro passes.connected), if_neg notMe, wp_deliverFwd]
        exact emits
      rcases run_of_done running.alive ends with ⟨goes, leaves⟩
      rw [← leaves]
      exact .baseStation _ running.alive ⟨src, own, isOwn, rfl, hears_of_hearsOwn hears, handler⟩
        goes hears

/-! ## The way of a packet -/

/-- Some stations have put a frame with the packet in the air; nothing else has happened. -/
structure Relayed (net : Network ι) (bytes : List UInt8) (relays : List (Option ι))
    (state next : NetState ι) : Prop where
  sent : ∀ u ∈ relays, ∃ t slot frame, net.IsFor t bytes frame ∧
    next.node u = (state.node u).emitted slot frame
  others : ∀ u, u ∉ relays → next.node u = state.node u
  held : next.held = state.held
  exited : next.exited = state.exited
  replies : next.replies = state.replies

omit [DecidableEq ι] in
theorem Relayed.refl (state : NetState ι) : net.Relayed bytes [] state state :=
  ⟨fun _ isMem => absurd isMem List.not_mem_nil, fun _ _ => rfl, rfl, rfl, rfl⟩

/-- One more station at the beginning. -/
theorem Relayed.cons {relays : List (Option ι)} {slot : Nat} {frame : List UInt8}
    (isFor : net.IsFor t bytes frame) (isNew : s ∉ relays)
    (relayed : net.Relayed bytes relays
      (withNode state s ((state.node s).emitted slot frame)) next) :
    net.Relayed bytes (s :: relays) state next := by
  refine ⟨?_, ?_, relayed.held, relayed.exited, relayed.replies⟩
  · intro u isMem
    rcases List.mem_cons.mp isMem with rfl | isLater
    · refine ⟨t, slot, frame, isFor, ?_⟩
      rw [relayed.others u isNew, node_withNode_self]
    · rcases relayed.sent u isLater with ⟨t, slot, frame, isFor, sent⟩
      rw [node_withNode_other (ne_of_mem_of_not_mem isLater isNew)] at sent
      exact ⟨t, slot, frame, isFor, sent⟩
  · intro u isOther
    rw [List.mem_cons, not_or] at isOther
    rw [relayed.others u isOther.2, node_withNode_other isOther.1]

/-- What the stations of a route need, and what they share with an earlier state. -/
structure Calm (net : Network ι) (state : NetState ι) (path : List (Option ι)) (length : Nat)
    (now : NetState ι) : Prop where
  running : ∀ u ∈ path, Running state u
  config : ∀ u ∈ path, Configured (net.station u) (state.node u)
  fits : ∀ u ∈ path, length ≤ (net.station u).mtu
  node : ∀ u ∈ path, now.node u = state.node u
  held : now.held = state.held
  exited : now.exited = state.exited

/-- A packet that the first station of a route hears comes to the last one. -/
theorem relay_run (header : messageOf bytes = message) (isData : dispatch message.proto = .data)
    (whole : nsohdrSize ≤ bytes.length) (forTarget : message.dst = (net.station t).devId)
    (route : HopRoute (net.Passes state (net.station t).devId) t s path)
    (calm : net.Calm state path bytes.length now)
    {sender : Option ι} {slot : Nat} {frame : List UInt8}
    (inAir : (slot, frame) ∈ (now.node sender).air) (isFor : net.IsFor s bytes frame) :
    ∃ arrived, Relation.ReflTransGen net.OwnStep now arrived ∧
      net.Relayed bytes path.dropLast now arrived ∧
      ∃ sender slot frame, (slot, frame) ∈ (arrived.node sender).air ∧
        net.IsFor t bytes frame := by
  have distinct := route.nodup passes_unique
  induction route generalizing now sender slot frame with
  | arrived => exact ⟨now, .refl, .refl now, sender, slot, frame, inAir, isFor⟩
  | @hop x y rest onTheWay isNext onward ih =>
      rcases List.nodup_cons.mp distinct with ⟨isNew, distinct⟩
      have same := calm.node x List.mem_cons_self
      have running := calm.running x List.mem_cons_self
      have config := calm.config x List.mem_cons_self
      rw [← same] at config
      have runningNow : Running now x :=
        ⟨by rw [calm.exited]; exact running.alive, by rw [calm.held]; exact running.free,
          by rw [same]; exact running.sends⟩
      have passesNow : net.Passes now (net.station t).devId x y :=
        ⟨by rw [same]; exact isNext.connected, by rw [same]; exact isNext.route,
          by rw [same]; exact isNext.arp⟩
      have notTarget : (net.station t).devId ≠ (net.station x).devId :=
        fun sameId => onTheWay (net.distinctIds t x sameId).symm
      rcases relay_step runningNow config passesNow notTarget inAir isFor header forTarget isData
        whole (calm.fits x List.mem_cons_self) with ⟨slot, frame, isForNext, step⟩
      have calmNext : net.Calm state rest bytes.length
          (withNode now x ((now.node x).emitted slot frame)) := by
        refine ⟨fun u isMem => calm.running u (List.mem_cons_of_mem _ isMem),
          fun u isMem => calm.config u (List.mem_cons_of_mem _ isMem),
          fun u isMem => calm.fits u (List.mem_cons_of_mem _ isMem), fun u isMem => ?_,
          calm.held, calm.exited⟩
        rw [node_withNode_other (ne_of_mem_of_not_mem isMem isNew)]
        exact calm.node u (List.mem_cons_of_mem _ isMem)
      have nextInAir : (slot, frame) ∈
          ((withNode now x ((now.node x).emitted slot frame)).node x).air := by
        rw [node_withNode_self]
        exact List.mem_append_right _ List.mem_cons_self
      rcases ih calmNext nextInAir isForNext distinct with ⟨arrived, run, relayed, heard⟩
      refine ⟨arrived, .head step run, ?_, heard⟩
      rw [List.dropLast_cons_of_ne_nil onward.ne_nil]
      exact relayed.cons isForNext fun isMem => isNew (List.mem_of_mem_dropLast isMem)

/-! ## The end of the way -/

/-- The network function that a base station has for a protocol. -/
def NsoLayer.functionOf (proto : UInt16) (layer : NsoLayer) : Option BspcEntry :=
  (BspcTable.bucketOfProto proto).bind fun slot => BspcTable.lookupIn slot proto layer.bspcTbl

/-- What the last station of a route does with a data packet: a device queues it for its
application, the base station writes it to the network function of its protocol. -/
inductive Takes (proto : UInt16) (bytes : List UInt8) : Option ι → Node → Node → Prop where
  | queued {i : ι} {node : Node} {queued : Packet} (same : queued.bytes = bytes) :
      Takes proto bytes (some i) node (node.enqueue queued)
  | written {node : Node} {pos : BspcEntry}
      (function : NsoLayer.functionOf proto node.nsol = some pos) :
      Takes proto bytes none node (Bs.sendBytes pos.sockfd bytes node)

/-- The last station of a route takes what it hears. -/
theorem take_step (running : Running state t)
    (config : Configured (net.station t) (state.node t))
    (connected : (state.node t).nsol.devState = .connected)
    (header : messageOf bytes = message) (isData : dispatch message.proto = .data)
    (whole : nsohdrSize ≤ bytes.length) (forTarget : message.dst = (net.station t).devId)
    (function : t = none →
      (NsoLayer.functionOf message.proto (state.node none).nsol).isSome = true)
    {sender : Option ι} {slot : Nat} {frame : List UInt8}
    (inAir : (slot, frame) ∈ (state.node sender).air) (isFor : net.IsFor t bytes frame)
    (fits : bytes.length ≤ (net.station t).mtu) :
    ∃ after, Takes message.proto bytes t (state.node t) after ∧
      net.OwnStep state (withNode state t after) := by
  rcases hears_for inAir isFor header whole fits with ⟨pkt, src, hears, sameBytes, showing, opened⟩
  rcases isFor with ⟨_, _, own, isOwn, _⟩
  have forMe : pkt.dstDevid = (state.node t).nsol.devId := by
    rw [showing.dst, config.devId, ← forTarget]
  have handler : Handler.data = dispatch pkt.proto := by rw [showing.proto, isData]
  have unlocked : ¬ state.held t .state = true := by
    rw [running.free]
    exact Bool.false_ne_true
  cases t with
  | some i =>
      have tables : TablesFree (state.held (some i)) := by
        rw [running.free]
        exact ⟨rfl, rfl, rfl, rfl⟩
      have ends : (Device.Event.receive ⟨.data, pkt, src, own⟩).body.wp (fun _ _ => True)
          { post := fun _ atEnd last => atEnd = state.held (some i) ∧
              last = (state.node (some i)).enqueue (pkt.clone (state.node (some i)).env.junk) }
          (state.held (some i)) (state.node (some i)) := by
        rw [Device.Event.body, wp_bind, Device.Rx.body, wp_dataProcessRx tolerant_true tables,
          if_neg unlocked, if_neg (not_not_intro connected), if_pos forMe]
        exact ⟨rfl, rfl⟩
      rcases run_of_done running.alive ends with ⟨goes, leaves⟩
      refine ⟨(state.node (some i)).enqueue (pkt.clone (state.node (some i)).env.junk),
        .queued ((bytes_clone _).trans sameBytes), ?_⟩
      rw [← leaves]
      exact .device i _ running.alive ⟨hears_of_hearsOwn hears, handler, isOwn⟩ goes hears
  | none =>
      rcases Option.isSome_iff_exists.mp (function rfl) with ⟨pos, isFunction⟩
      have found := isFunction
      rw [NsoLayer.functionOf, Option.bind_eq_some_iff] at found
      rcases found with ⟨bucket, isBucket, isPos⟩
      have ends : (Bs.Event.receive ⟨.data, pkt, .air src own⟩).body.wp (fun _ _ => True)
          { post := fun _ atEnd last => atEnd = state.held none ∧
              last = Bs.sendBytes pos.sockfd bytes (state.node none) }
          (state.held none) (state.node none) := by
        rw [Bs.Event.body, wp_bind, Bs.Rx.body, wp_dataProcessRxBs tolerant_true,
          if_neg unlocked, if_neg (not_not_intro connected), if_pos forMe, showing.proto, isBucket]
        dsimp only
        rw [isPos, sameBytes]
        exact ⟨rfl, rfl⟩
      rcases run_of_done running.alive ends with ⟨goes, leaves⟩
      refine ⟨_, .written isFunction, ?_⟩
      rw [← leaves]
      exact .baseStation _ running.alive ⟨src, own, isOwn, rfl, hears_of_hearsOwn hears, handler⟩
        goes hears

/-- A run that carries a packet over some stations: each of them but the last one puts one frame
with it in the air, the last one takes it, and the other stations do nothing. -/
structure Carried (net : Network ι) (state : NetState ι) (proto : UInt16) (bytes : List UInt8)
    (t : Option ι) (path : List (Option ι)) (final : NetState ι) : Prop where
  run : Relation.ReflTransGen net.OwnStep state final
  sent : ∀ u ∈ path, u ≠ t → ∃ v slot frame, net.IsFor v bytes frame ∧
    final.node u = (state.node u).emitted slot frame
  takes : Takes proto bytes t (state.node t) (final.node t)
  others : ∀ u, u ∉ path → final.node u = state.node u
  held : final.held = state.held
  exited : final.exited = state.exited
  replies : final.replies = state.replies

/-- A packet that the first station of a route sends is carried over the route. -/
theorem carried (route : HopRoute (net.Passes state (net.station t).devId) t s path) (apart : s ≠ t)
    (config : ∀ u, Configured (net.station u) (state.node u))
    (running : ∀ u ∈ path, Running state u)
    (connected : (state.node t).nsol.devState = .connected)
    (header : messageOf bytes = message) (isData : dispatch message.proto = .data)
    (whole : nsohdrSize ≤ bytes.length) (forTarget : message.dst = (net.station t).devId)
    (function : t = none →
      (NsoLayer.functionOf message.proto (state.node none).nsol).isSome = true)
    (fits : ∀ u ∈ path, bytes.length ≤ (net.station u).mtu)
    (sends : ∀ y, net.Passes state (net.station t).devId s y → ∃ slot frame,
      net.IsFor y bytes frame ∧
        net.OwnStep state (withNode state s ((state.node s).emitted slot frame))) :
    ∃ final, net.Carried state message.proto bytes t path final := by
  have distinct := route.nodup passes_unique
  have ends := route.dropLast_concat
  cases route with
  | arrived => exact absurd rfl apart
  | @hop _ y rest onTheWay isNext onward =>
      rcases List.nodup_cons.mp distinct with ⟨isNew, distinct⟩
      rcases sends y isNext with ⟨slot, frame, isFor, step⟩
      rw [List.dropLast_cons_of_ne_nil onward.ne_nil] at ends
      have onRest : ∀ u ∈ rest, u ∈ s :: rest := fun u isMem => List.mem_cons_of_mem _ isMem
      have calm : net.Calm state rest bytes.length
          (withNode state s ((state.node s).emitted slot frame)) :=
        ⟨fun u isMem => running u (onRest u isMem), fun u _ => config u,
          fun u isMem => fits u (onRest u isMem),
          fun u isMem => node_withNode_other (ne_of_mem_of_not_mem isMem isNew), rfl, rfl⟩
      have inAir : (slot, frame) ∈
          ((withNode state s ((state.node s).emitted slot frame)).node s).air := by
        rw [node_withNode_self]
        exact List.mem_append_right _ List.mem_cons_self
      rcases relay_run header isData whole forTarget onward calm inAir isFor with
        ⟨arrived, runs, relayed, sender, slot', frame', heard, isForTarget⟩
      have all := relayed.cons isFor fun isMem => isNew (List.mem_of_mem_dropLast isMem)
      have notRelay : t ∉ s :: rest.dropLast := by
        have whole : ((s :: rest.dropLast) ++ [t]).Nodup := by
          rw [ends]
          exact List.nodup_cons.mpr ⟨isNew, distinct⟩
        exact fun isMem => (List.disjoint_of_nodup_append whole) isMem List.mem_cons_self
      have isLast : t ∈ s :: rest := by
        rw [← ends]
        exact List.mem_append_right _ List.mem_cons_self
      have same := all.others t notRelay
      have runningLast : Running arrived t :=
        ⟨by rw [all.exited]; exact (running t isLast).alive,
          by rw [all.held]; exact (running t isLast).free,
          by rw [same]; exact (running t isLast).sends⟩
      have configLast := config t
      rw [← same] at configLast connected
      have functionLast : t = none →
          (NsoLayer.functionOf message.proto (arrived.node none).nsol).isSome = true := by
        intro isBs
        rw [isBs] at same
        rw [same]
        exact function isBs
      rcases take_step runningLast configLast connected header isData whole forTarget functionLast
        heard isForTarget (fits t isLast) with ⟨after, takes, takeStep⟩
      rw [same] at takes
      refine ⟨withNode arrived t after, .tail (.head step runs) takeStep, ?_, ?_, ?_, all.held,
        all.exited, all.replies⟩
      · intro u isMem isOther
        rw [← ends] at isMem
        rcases List.mem_append.mp isMem with isRelay | isTarget
        · rw [node_withNode_other isOther]
          exact all.sent u isRelay
        · exact absurd (List.mem_singleton.mp isTarget) isOther
      · rw [node_withNode_self]
        exact takes
      · intro u isOther
        rw [node_withNode_other (ne_of_mem_of_not_mem isLast isOther).symm]
        apply all.others u
        intro isRelay
        apply isOther
        rw [← ends]
        exact List.mem_append_left _ isRelay

/-! ## From the application to the application -/

omit [DecidableEq ι] in
/-- The packet of a call, once it is in the queue of its target. -/
theorem readData_isDataPacket {call : SendCall ι} {queued : Packet} {size : Nat}
    (isPacket : IsDataPacket (net.station call.station).devId call.dst call.proto
      (net.station call.station).mtu call.buf queued.bytes) :
    readData queued size =
      some ⟨(net.station call.station).devId, call.dst, call.proto, call.buf.take (min size
        (storedLength (net.station call.station).mtu call.buf.length - nsohdrSize))⟩ := by
  have long := isPacket.whole
  rw [isPacket.length] at long
  rcases isPacket.header with ⟨type, header⟩
  rw [readData_shown header isPacket.lengthField long (Nat.le_of_eq isPacket.length.symm),
    isPacket.payload, List.take_take, Nat.min_assoc, Nat.min_self]

/-- The first station of a route sends a buffer. -/
theorem send_step {dst : Option DeviceId} (running : Running state s)
    (config : Configured (net.station s) (state.node s))
    (connected : (state.node s).nsol.devState = .connected)
    (forTarget : dst.getD (state.node s).nsol.gwId = target) (isData : dispatch proto = .data)
    (header : nsohdrSize ≤ storedLength (net.station s).mtu buf.length) :
    ∃ bytes, IsDataPacket (net.station s).devId target proto (net.station s).mtu buf bytes ∧
      ∀ y, net.Passes state target s y → ∃ slot frame, net.IsFor y bytes frame ∧
        net.OwnStep state (withNode state s ((state.node s).emitted slot frame)) := by
  rw [← config.mtu] at header
  rcases @makeDataPkt_some (state.node s).env.junk _ _ target proto header with
    ⟨pkt, isMade, carries⟩
  have isPacket := isDataPacket_made isMade
  rw [config.devId, config.mtu] at isPacket
  refine ⟨pkt.bytes, isPacket, fun y passes => ?_⟩
  have sized : 0 ≤ pkt.byteLen := by
    rw [carries.byteLen]
    exact Int.natCast_nonneg _
  rcases nsoLayerFwd_emits running passes carries.dst (offset_makeDataPkt isMade) sized with
    ⟨slot, frame, isNext, emits⟩
  have unlocked : ¬ state.held s .state = true := by
    rw [running.free]
    exact Bool.false_ne_true
  have ends : (do let _ ← nsoLayerSend buf dst proto : Prog Unit).wp (fun _ _ => True)
      { post := fun _ atEnd last => atEnd = state.held s ∧
          last = (state.node s).emitted slot frame }
      (state.held s) (state.node s) := by
    rw [wp_bind, wp_nsoLayerSend tolerant_true, if_neg unlocked, if_pos connected,
      forTarget, isMade]
    exact emits
  rcases run_of_done running.alive ends with ⟨goes, leaves⟩
  refine ⟨slot, frame, isNext, ?_⟩
  rw [← leaves]
  cases s with
  | some i => exact .device i (.send buf dst proto) running.alive isData goes trivial
  | none => exact .baseStation (.send buf dst proto) running.alive isData goes trivial

/-- A run that brings the data of a call over some stations to a device, whose application reads
the first bytes of the buffer then, or to the network function of the base station. -/
structure Brings (net : Network ι) (state : NetState ι) (call : SendCall ι) (t : Option ι)
    (path : List (Option ι)) (final : NetState ι) : Prop where
  carried : ∃ bytes, IsDataPacket (net.station call.station).devId call.dst call.proto
    (net.station call.station).mtu call.buf bytes ∧
      net.Carried state call.proto bytes t path final
  reads : ∀ i, t = some i → ∃ queued,
    (final.node t).nsol.dataPq = (state.node t).nsol.dataPq ++ [queued] ∧
      ∀ size, readData queued size =
        some ⟨(net.station call.station).devId, call.dst, call.proto, call.buf.take (min size
          (storedLength (net.station call.station).mtu call.buf.length - nsohdrSize))⟩

/-- Data goes from the application of a station over the stations of a route to the application
of the last one. -/
theorem data_relayed {calls : List (LoggedCall ι)} (reachable : net.LoggedRun calls state)
    (route : HopRoute (net.Passes state (net.station t).devId) t s path) (apart : s ≠ t)
    (running : ∀ u ∈ path, Running state u)
    (connected : (state.node t).nsol.devState = .connected) {dst : Option DeviceId}
    (toTarget : dst.getD (state.node s).nsol.gwId = (net.station t).devId)
    (isData : dispatch proto = .data)
    (function : t = none → (NsoLayer.functionOf proto (state.node none).nsol).isSome = true)
    (header : nsohdrSize ≤ storedLength (net.station s).mtu buf.length)
    (fits : ∀ u ∈ path, storedLength (net.station s).mtu buf.length ≤ (net.station u).mtu) :
    ∃ final, net.Brings state (sendCall state s buf dst proto) t path final := by
  have config := fun u => ((allTraced_run reachable).nodes u).config
  have first : s ∈ path ∧ (state.node s).nsol.devState = .connected := by
    cases route with
    | arrived => exact absurd rfl apart
    | hop onTheWay isNext onward => exact ⟨List.mem_cons_self, isNext.connected⟩
  rcases send_step (running s first.1) (config s) first.2 toTarget isData header with
    ⟨bytes, isPacket, sends⟩
  rcases isPacket.header with ⟨type, isHeader⟩
  rw [← isPacket.length] at fits
  rcases carried route apart config running connected isHeader isData isPacket.whole rfl function
    fits sends with ⟨final, isCarried⟩
  have isCall : IsDataPacket (net.station (sendCall state s buf dst proto).station).devId
      (sendCall state s buf dst proto).dst (sendCall state s buf dst proto).proto
      (net.station (sendCall state s buf dst proto).station).mtu
      (sendCall state s buf dst proto).buf bytes := by
    rw [sendCall, toTarget]
    exact isPacket
  refine ⟨final, ⟨bytes, isCall, isCarried⟩, ?_⟩
  rintro i rfl
  have takes := isCarried.takes
  generalize final.node (some i) = after at takes
  cases takes with
  | @queued _ _ queued same =>
      rw [← same] at isCall
      exact ⟨queued, rfl, fun size => readData_isDataPacket isCall⟩

end Network

end Nrg5
