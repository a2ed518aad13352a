import Nrg5.Network.Exchange
import Nrg5.TranslatorReplies

/-!
# To the echo server and back

A device sends data to the base station, the base station writes it to the translator, the
translator to the echo server.  What the server sends back comes over the translator and the base
station to the device, in messages that depend on how the bytes were cut on the connections.
-/

namespace Nrg5

open ByteMemory ByteStream LockProg

variable {message bytes behind : List UInt8} {size : Nat} {proto : UInt16} {target : DeviceId}

theorem data_put {pkt : Packet} {offset : Nat} : (pkt.put offset bytes).data = pkt.data := rfl

theorem data_fill {pkt filled : Packet} {offset : Nat} {outcome : Outcome} {left : ByteStream}
    (isFilled : Bs.fill pkt offset outcome = some (filled, left)) : filled.data = pkt.data := by
  cases outcome with
  | complete bytes rest =>
      rw [← (Prod.mk.inj (Option.some.inj isFilled)).1]
      exact data_put
  | failed bytes =>
      rw [← (Prod.mk.inj (Option.some.inj isFilled)).1]
      exact data_put
  | stuck => exact absurd isFilled (by simp [Bs.fill])

/-- The packet of a network function starts where every packet of the base station does. -/
theorem data_readPktFromVnf {junk : Memory} {stream left : ByteStream} {pkt : Packet}
    (reads : Bs.readPktFromVnf junk size stream = some (pkt, left)) : pkt.data = headroom := by
  simp only [Bs.readPktFromVnf, Option.bind_eq_bind, Option.bind_eq_some_iff] at reads
  rcases reads with ⟨⟨headed, rest⟩, isHeaded, ⟨filled, behind⟩, isFilled, isPkt⟩
  rcases Option.some.inj isPkt with ⟨rfl, rfl⟩
  exact (data_fill isFilled).trans (data_fill isHeaded)

namespace Network

variable {ι : Type} {net : Network ι} {state final : NetState ι} {s t u : Option ι} {i : ι}
  {path : List (Option ι)} {node after : Node}

/-! ## Stations that route as before -/

/-- What a station needs of its layer to route, to forward and to deliver. -/
structure Alike (node after : Node) : Prop where
  env : after.env = node.env
  devId : after.nsol.devId = node.nsol.devId
  ifaces : after.nsol.ifaces = node.nsol.ifaces
  mtu : after.nsol.mtu = node.nsol.mtu
  devState : after.nsol.devState = node.nsol.devState
  sonFwdt : after.nsol.sonFwdt = node.nsol.sonFwdt
  localFwdt : after.nsol.localFwdt = node.nsol.localFwdt
  arpt : after.nsol.arpt = node.nsol.arpt
  bspcTbl : after.nsol.bspcTbl = node.nsol.bspcTbl

theorem alike_same (env : after.env = node.env) (same : after.nsol = node.nsol) :
    Alike node after := by
  refine ⟨env, ?_, ?_, ?_, ?_, ?_, ?_, ?_, ?_⟩ <;>
  · rw [same]

theorem alike_enqueue (pkt : Packet) (node : Node) : Alike node (node.enqueue pkt) :=
  ⟨rfl, rfl, rfl, rfl, rfl, rfl, rfl, rfl, rfl⟩

theorem Alike.configured {station : Station} (alike : Alike node after)
    (config : Configured station node) : Configured station after :=
  ⟨alike.devId.trans config.devId, alike.ifaces.trans config.ifaces, alike.mtu.trans config.mtu⟩

theorem Alike.passes (alike : Alike (state.node s) (final.node s))
    (passes : net.Passes state target s t) : net.Passes final target s t := by
  refine ⟨alike.devState.trans passes.connected, ?_, ?_⟩
  · rw [NsoLayer.route, alike.sonFwdt, alike.localFwdt]
    exact passes.route
  · rw [alike.arpt]
    exact passes.arp

theorem passes_route (alike : ∀ u, Alike (state.node u) (final.node u))
    (route : HopRoute (net.Passes state target) t s path) :
    HopRoute (net.Passes final target) t s path := by
  induction route with
  | arrived => exact .arrived
  | hop onTheWay isNext onward ih => exact .hop onTheWay ((alike _).passes isNext) ih

theorem Running.of_alike (running : Running state u) (alike : Alike (state.node u) (final.node u))
    (held : final.held = state.held) (exited : final.exited = state.exited) : Running final u :=
  ⟨by rw [exited]; exact running.alive, by rw [held]; exact running.free,
    by rw [alike.env]; exact running.sends⟩

theorem alike_takes (takes : Takes proto bytes t node after) : Alike node after := by
  cases takes with
  | queued same => exact alike_enqueue _ node
  | written function => exact alike_same rfl (nsol_sendBytes _ _)

variable [DecidableEq ι]

theorem Carried.alike (carried : net.Carried state proto bytes t path final) (u : Option ι) :
    Alike (state.node u) (final.node u) := by
  rcases eq_or_ne u t with rfl | isOther
  · exact alike_takes carried.takes
  · by_cases isMem : u ∈ path
    · rcases carried.sent u isMem isOther with ⟨v, slot, frame, _, sent⟩
      rw [sent]
      exact alike_same rfl rfl
    · rw [carried.others u isMem]
      exact alike_same rfl rfl

/-! ## Messages of the network functions -/

/-- A message that is not for the base station is forwarded. -/
theorem wp_processVnfRx_other {pkt : Packet} {held : Lock → Bool}
    {allowed : Op → Node → Prop} (tolerant : Tolerant allowed)
    (ending : Ending Node Lock Halt Packet) (notMe : pkt.dstDevid ≠ node.nsol.devId) :
    (Bs.processVnfRx pkt).wp allowed ending held node =
      (deliverFwd pkt).wp allowed ending held node := by
  simp only [Bs.processVnfRx, wp_bind, wp_query, tolerant .layer node (by simp), true_and, wp_ite]
  rw [if_neg notMe]

/-- The base station reads a message for another station and sends it to the next one. -/
theorem function_step (running : Running state none)
    (config : Configured (net.station none) (state.node none))
    (isFunction : net.functions message) (forTarget : (messageOf message).dst = target)
    (notMe : target ≠ net.bsId) :
    ∃ behind, behind.length = nsohdrSize ∧ ∀ y, net.Passes state target none y →
      ∃ slot frame, net.IsFor y (message ++ behind) frame ∧
        net.OwnStep state (withNode state none ((state.node none).emitted slot frame)) := by
  have isMessage := net.functionsWhole message isFunction
  have front : (⟨[message], .waits⟩ : ByteStream).content = message ++ [] := rfl
  rcases @Bs.readPktFromVnf_message _ _ _ _ (fun _ => 0) isMessage front with
    ⟨pkt, left, reads, _, byteLen, _, isRead⟩
  have whole : pkt.bytes =
      message ++ pkt.buf.read (pkt.data + message.length) nsohdrSize := by
    have counted : pkt.byteLen.toNat = message.length + nsohdrSize := by
      rw [byteLen]
      omega
    rw [Packet.bytes, counted, Memory.read_append, isRead]
  refine ⟨pkt.buf.read (pkt.data + message.length) nsohdrSize, Memory.length_read _ _ _, ?_⟩
  intro y passes
  have sized : (nsohdrSize : Int) ≤ pkt.byteLen := by
    rw [byteLen]
    omega
  have toTarget : pkt.dstDevid = target := by
    have dst := (@messageOf_behind message (pkt.buf.read (pkt.data + message.length) nsohdrSize)
      isMessage.header).2.1
    rw [← whole, messageOf_bytes sized] at dst
    exact dst.trans forTarget
  have notMine : pkt.dstDevid ≠ (state.node none).nsol.devId := by
    rw [toTarget, config.devId]
    exact notMe
  rcases nsoLayerFwd_emits running passes toTarget (data_readPktFromVnf reads)
    (by omega) with ⟨slot, frame, isNext, emits⟩
  have ends : (Bs.Event.vnfMessage pkt).body.wp (fun _ _ => True)
      { post := fun _ atEnd last => atEnd = state.held none ∧
          last = (state.node none).emitted slot frame }
      (state.held none) (state.node none) := by
    rw [Bs.Event.body, wp_bind, wp_processVnfRx_other tolerant_true _ notMine, wp_deliverFwd]
    exact emits
  rcases run_of_done running.alive ends with ⟨goes, leaves⟩
  rw [whole] at isNext
  refine ⟨slot, frame, isNext, ?_⟩
  rw [← leaves]
  exact .baseStation (.vnfMessage pkt) running.alive
    ⟨message, [], _, left, _, .inr isFunction, front, reads⟩ goes trivial

/-- A message of a network function that brings data to a device. -/
structure IsForDevice (net : Network ι) (i : ι) (length : Nat) (message : List UInt8) : Prop where
  isFunction : net.functions message
  dst : (messageOf message).dst = (net.station (some i)).devId
  isData : dispatch (messageOf message).proto = .data
  fits : message.length + nsohdrSize ≤ length

/-- What an application reads of a message with room for some bytes. -/
def deliveryOf (size : Nat) (message : List UInt8) : Delivered :=
  ⟨(messageOf message).src, (messageOf message).dst, (messageOf message).proto,
    (message.drop nsohdrSize).take size⟩

/-- One message of a network function comes to a device. -/
theorem message_carried (notBs : (net.station (some i)).devId ≠ net.bsId)
    (route : HopRoute (net.Passes state (net.station (some i)).devId) (some i) none path)
    (config : ∀ u, Configured (net.station u) (state.node u))
    (connected : (state.node (some i)).nsol.devState = .connected) {length : Nat}
    (ready : ∀ u ∈ path, Running state u ∧ length ≤ (net.station u).mtu)
    (isFor : net.IsForDevice i length message) :
    ∃ behind final, net.Carried state (messageOf message).proto (message ++ behind) (some i) path
      final := by
  have first : (none : Option ι) ∈ path := by
    cases route with
    | hop onTheWay isNext onward => exact List.mem_cons_self
  rcases function_step (ready none first).1 (config none) isFor.isFunction isFor.dst notBs with
    ⟨behind, twice, sends⟩
  have long := (net.functionsWhole message isFor.isFunction).header
  have whole : (message ++ behind).length = message.length + nsohdrSize := by
    rw [List.length_append, twice]
  rcases @messageOf_behind message behind long with ⟨_, dst, proto⟩
  have carries := carried route (Option.some_ne_none i).symm config
    (fun u isMem => (ready u isMem).1)
    connected rfl (by rw [proto]; exact isFor.isData) (by rw [whole]; omega)
    (dst.trans isFor.dst) (fun isBs => absurd isBs (Option.some_ne_none i))
    (fun u isMem => by rw [whole]; exact isFor.fits.trans (ready u isMem).2) sends
  rw [proto] at carries
  exact ⟨behind, carries⟩

/-- A run that brings messages of the network functions to a device, in their order. -/
structure Serves (net : Network ι) (state : NetState ι) (i : ι) (messages : List (List UInt8))
    (final : NetState ι) : Prop where
  run : Relation.ReflTransGen net.OwnStep state final
  reads : ∃ queued, (final.node (some i)).nsol.dataPq =
    (state.node (some i)).nsol.dataPq ++ queued ∧
      ∀ size, queued.map (fun pkt => readData pkt size) =
        messages.map fun message => some (deliveryOf size message)

/-- The messages of the network functions for a device come to its application one by one. -/
theorem messages_carried (notBs : (net.station (some i)).devId ≠ net.bsId)
    (route : HopRoute (net.Passes state (net.station (some i)).devId) (some i) none path)
    (config : ∀ u, Configured (net.station u) (state.node u))
    (connected : (state.node (some i)).nsol.devState = .connected) {length : Nat}
    (ready : ∀ u ∈ path, Running state u ∧ length ≤ (net.station u).mtu)
    (messages : List (List UInt8))
    (isFor : ∀ message ∈ messages, net.IsForDevice i length message) :
    ∃ final, net.Serves state i messages final := by
  induction messages generalizing state with
  | nil => exact ⟨state, .refl, [], (List.append_nil _).symm, fun _ => rfl⟩
  | cons message later ih =>
      have isFirst := isFor message List.mem_cons_self
      rcases message_carried notBs route config connected ready isFirst with
        ⟨behind, mid, isCarried⟩
      have alike := isCarried.alike
      rcases ih (passes_route alike route) (fun u => (alike u).configured (config u))
        ((alike (some i)).devState.trans connected)
        (fun u isMem => ⟨(ready u isMem).1.of_alike (alike u) isCarried.held isCarried.exited,
          (ready u isMem).2⟩)
        (fun other isLater => isFor other (List.mem_cons_of_mem _ isLater)) with
        ⟨final, serves⟩
      rcases serves.reads with ⟨queued, isQueue, reads⟩
      have isMessage := net.functionsWhole message isFirst.isFunction
      have takes := isCarried.takes
      generalize mid.node (some i) = after at takes isQueue
      cases takes with
      | @queued _ _ pkt same =>
          refine ⟨final, isCarried.run.trans serves.run, pkt :: queued, ?_, ?_⟩
          · rw [isQueue]
            exact List.append_assoc _ [pkt] queued
          · intro size
            rw [List.map_cons, List.map_cons, reads size, readData_function isMessage same]
            rfl

/-! ## The echo server -/

open Translator

/-- What the thread of a device in the translator knows of it. -/
def infoOf (net : Network ι) (i : ι) (proto : UInt16) : NsoInfo :=
  ⟨deviceIdBytes (net.station (some i)).devId, deviceIdBytes net.bsId, proto.toNat⟩

omit [DecidableEq ι] in
theorem messageOf_packed (piece : List UInt8) :
    ∃ type, messageOf (packNsoPacket (net.infoOf i proto) piece) =
      ⟨net.bsId, (net.station (some i)).devId, proto, type⟩ := by
  rcases @messageOf_packNsoPacket (net.infoOf i proto) piece (length_deviceIdBytes _)
    (length_deviceIdBytes _) with ⟨type, header⟩
  have isProto : UInt16.ofNat (beNat (beBytes 2 proto.toNat)) = proto := by
    rw [beNat_beBytes, Nat.mod_eq_of_lt (show proto.toNat < 256 ^ 2 from proto.toNat_lt),
      UInt16.ofNat_toNat]
  refine ⟨type, header.trans ?_⟩
  rw [infoOf, deviceIdOfBytes_deviceIdBytes, deviceIdOfBytes_deviceIdBytes, isProto]

omit [DecidableEq ι] in
theorem isForDevice_packed {piece : List UInt8} (isData : dispatch proto = .data)
    (isFunction : net.functions (packNsoPacket (net.infoOf i proto) piece))
    (short : piece.length ≤ 1024) :
    net.IsForDevice i (2 * nsohdrSize + 1024) (packNsoPacket (net.infoOf i proto) piece) := by
  rcases @messageOf_packed proto _ net i piece with ⟨type, header⟩
  refine ⟨isFunction, by rw [header], by rw [header]; exact isData, ?_⟩
  rw [length_packNsoPacket (length_deviceIdBytes _) (length_deviceIdBytes _)]
  omega

omit [DecidableEq ι] in
theorem deliveryOf_packed {piece : List UInt8} (room : piece.length ≤ size) :
    deliveryOf size (packNsoPacket (net.infoOf i proto) piece) =
      ⟨net.bsId, (net.station (some i)).devId, proto, piece⟩ := by
  rcases @messageOf_packed proto _ net i piece with ⟨type, header⟩
  rw [deliveryOf, header, drop_packNsoPacket (length_deviceIdBytes _) (length_deviceIdBytes _),
    List.take_of_length_le room]

/-- The stream of the base station to the translator, with the header and the payload of a packet
undivided. -/
structure FromBs (packet : DataPacket) (toTranslator : ByteStream) : Prop where
  segmented : toTranslator.Segmented
  content : toTranslator.content = packet.bytes
  hdrUncut : ¬ CutInside toTranslator.chunks 0 nsohdrSize
  uncut : ¬ CutInside toTranslator.chunks nsohdrSize packet.bytes.length

/-- The streams of a connection to the echo server: the server gets what the translator writes,
and the thread of the translator what the server sends back. -/
structure EchoStreams (entry : MapEntry) (toServer toThread : ByteStream) : Prop where
  segmented : toServer.Segmented ∧ toThread.Segmented
  fromTranslator : toServer.content = entry.written
  fromServer : toThread.content = (Echo.handle toServer).flatten

/-- A run that brings a payload in pieces to the application of a device. -/
structure Returns (net : Network ι) (state : NetState ι) (i : ι) (proto : UInt16)
    (payload : List UInt8) (final : NetState ι) : Prop where
  run : Relation.ReflTransGen net.OwnStep state final
  reads : ∃ queued, ∃ pieces : List (List UInt8), (final.node (some i)).nsol.dataPq =
    (state.node (some i)).nsol.dataPq ++ queued ∧ pieces.flatten = payload ∧
      ∀ size, 1024 ≤ size → queued.map (fun pkt => readData pkt size) =
        pieces.map fun piece =>
          some ⟨net.bsId, (net.station (some i)).devId, proto, piece⟩

/-- What the echo server sends back comes to the application that sent it, however the bytes are
cut on the way. -/
theorem echo_returns {entry : MapEntry} {toServer toThread : ByteStream}
    (streams : EchoStreams entry toServer toThread)
    (isData : dispatch proto = .data)
    (functions : ∀ message ∈ rxFromAppServer (net.infoOf i proto) toThread,
      net.functions message)
    (serves : ∀ messages : List (List UInt8),
      (∀ message ∈ messages, net.IsForDevice i (2 * nsohdrSize + 1024) message) →
        ∃ final, net.Serves state i messages final) :
    ∃ final, net.Returns state i proto entry.written final := by
  rcases streams.segmented with ⟨serverSegmented, threadSegmented⟩
  have echoed : (recvEach 1024 toThread).flatten = entry.written := by
    rw [flatten_recvEach (by omega) threadSegmented, streams.fromServer, Echo.handle,
      flatten_recvEach (by omega) serverSegmented, streams.fromTranslator]
  have short : ∀ piece ∈ recvEach 1024 toThread, piece.length ≤ 1024 :=
    fun piece isMem => (mem_recvEach (by omega) threadSegmented piece isMem).2
  have isFor : ∀ message ∈ rxFromAppServer (net.infoOf i proto) toThread,
      net.IsForDevice i (2 * nsohdrSize + 1024) message := by
    intro message isMem
    have isFunction := functions message isMem
    rcases List.mem_map.mp isMem with ⟨piece, isPiece, rfl⟩
    exact isForDevice_packed isData isFunction (short piece isPiece)
  rcases serves _ isFor with ⟨final, run, queued, isQueue, reads⟩
  refine ⟨final, run, queued, recvEach 1024 toThread, isQueue, echoed, ?_⟩
  intro size room
  rw [reads size, rxFromAppServer, List.map_map]
  apply List.map_congr_left
  intro piece isPiece
  exact congrArg some (deliveryOf_packed ((short piece isPiece).trans room))

/-- A run in which the base station writes the data of a device to a network function. -/
structure Asks (net : Network ι) (state : NetState ι) (i : ι) (buf : List UInt8) (proto : UInt16)
    (pos : BspcEntry) (packet : DataPacket) (mid : NetState ι) : Prop where
  run : Relation.ReflTransGen net.OwnStep state mid
  payload : packet.payload =
    buf.take (storedLength (net.station (some i)).mtu buf.length - nsohdrSize)
  info : nsoInfoOf packet.hdr = net.infoOf i proto
  written : (mid.node none).vnfTx = (state.node none).vnfTx ++ [(pos.sockfd, packet.bytes)]
  queue : (mid.node (some i)).nsol.dataPq = (state.node (some i)).nsol.dataPq

/-- The translator opens one connection for the payload of a device, and what comes back on it
comes to the application of the device. -/
def Echoed (net : Network ι) (mid : NetState ι) (i : ι) (proto : UInt16) (packet : DataPacket) :
    Prop :=
  ∀ toTranslator, FromBs packet toTranslator →
    ∃ entry, (handle [] toTranslator).connections = [entry] ∧
      entry.srcId = deviceIdBytes (net.station (some i)).devId ∧ entry.written = packet.payload ∧
        ∀ toServer toThread, EchoStreams entry toServer toThread →
          (∀ message ∈ rxFromAppServer (nsoInfoOf packet.hdr) toThread, net.functions message) →
            ∃ final, net.Returns mid i proto packet.payload final

/-- The data of a device comes back from the echo server, if the stations of the two routes run
and have buffers for it, and the translator is the network function of its protocol. -/
def Echoes (net : Network ι) (state : NetState ι) (i : ι) : Prop :=
  ∃ up down, HopRoute (net.Passes state net.bsId) none (some i) up ∧
    HopRoute (net.Passes state (net.station (some i)).devId) (some i) none down ∧
      ∀ buf proto pos, dispatch proto = .data →
        NsoLayer.functionOf proto (state.node none).nsol = some pos →
        (state.node none).env.sendAccepts = none →
        nsohdrSize < storedLength (net.station (some i)).mtu buf.length →
        (∀ u, u ∈ up ∨ u ∈ down → Running state u ∧
          storedLength (net.station (some i)).mtu buf.length ≤ (net.station u).mtu ∧
            2 * nsohdrSize + 1024 ≤ (net.station u).mtu) →
        ∃ packet mid, net.Asks state i buf proto pos packet mid ∧ net.Echoed mid i proto packet

/-- What the base station writes of a packet that has come to it. -/
theorem asks_of_brings {buf : List UInt8} {pos : BspcEntry} {mid : NetState ι}
    (brings : net.Brings state ⟨some i, buf, net.bsId, proto⟩ none path mid)
    (isFunction : NsoLayer.functionOf proto (state.node none).nsol = some pos)
    (accepts : (state.node none).env.sendAccepts = none)
    (carriesData : nsohdrSize < storedLength (net.station (some i)).mtu buf.length) :
    ∃ packet, net.Asks state i buf proto pos packet mid := by
  rcases brings.carried with ⟨bytes, isPacket, carried⟩
  dsimp only at isPacket carried
  rw [← isPacket.length] at carriesData
  rcases dataPacket_of_isDataPacket isPacket carriesData
    with ⟨packet, isBytes, _, isPayload, isInfo⟩
  refine ⟨packet, carried.run, isPayload.trans isPacket.payload, isInfo, ?_, ?_⟩
  · have takes := carried.takes
    generalize mid.node none = after at takes
    cases takes with
    | @written _ taken function =>
        rw [isFunction, Option.some.injEq] at function
        rw [← function, isBytes, Bs.sendBytes, accepts]
  · by_cases onTheWay : some i ∈ path
    · rcases carried.sent (some i) onTheWay (Option.some_ne_none i) with ⟨v, slot, frame, _, sent⟩
      rw [sent]
      rfl
    · rw [carried.others (some i) onTheWay]

/-- What the thread of the device in the translator knows of the device. -/
def echoInfo : NsoInfo :=
  ⟨deviceIdBytes (radios [wlan0] (some ())).devId, deviceIdBytes (radios [wlan0] none).devId,
    0x0800⟩

def IsEchoed (message : List UInt8) : Prop :=
  ∃ piece : List UInt8, piece.length ≤ 1024 ∧ message = packNsoPacket echoInfo piece

theorem isEchoed_whole (message : List UInt8) (isEchoed : IsEchoed message) :
    Bs.IsMessage (radios [wlan0] none).mtu message := by
  rcases isEchoed with ⟨piece, short, rfl⟩
  apply isMessage_packNsoPacket (length_deviceIdBytes _) (length_deviceIdBytes _)
  · change 20 + piece.length ≤ 1500
    omega
  · change 20 + piece.length < 16384
    omega

theorem proto_isEchoed (message : List UInt8) (isEchoed : IsEchoed message) :
    (messageOf message).proto = 0x0800 := by
  rcases isEchoed with ⟨piece, short, rfl⟩
  rcases @messageOf_packNsoPacket echoInfo piece (length_deviceIdBytes _) (length_deviceIdBytes _)
    with ⟨type, header⟩
  rw [header]
  exact congrArg UInt16.ofNat (beNat_beBytes 2 0x0800)

theorem isEchoed_notTsd (message : List UInt8) (isEchoed : IsEchoed message) :
    (messageOf message).proto ≠ protoCpVtsd := by
  rw [proto_isEchoed message isEchoed]
  decide

/-- One device and the translator. -/
def echoRadio : Network Unit where
  station := radios [wlan0]
  distinctIds := distinctIds_oneRadio
  distinctMacs := distinctMacs_oneRadio
  functions := IsEchoed
  functionsWhole := isEchoed_whole
  functionsNotTsd := isEchoed_notTsd

/-- The translator is the network function of its protocol. -/
def echoStarted : NetState Unit :=
  { echoRadio.started with
    node := Function.update echoRadio.started.node none
      (Node.start (Bs.initialLayer ((radios [wlan0] none).initialLayer 0) [⟨1, 0x0800, 5⟩] 3 4)
        .nominal) }

theorem initial_echoStarted : echoRadio.Initial echoStarted :=
  ⟨fun _ => rfl, fun _ => rfl, rfl, fun _ => ⟨0, _, rfl⟩, ⟨0, [⟨1, 0x0800, 5⟩], 3, 4, _, rfl⟩⟩

/-- The device joins the base station as it does without a translator. -/
def echoJoined : Scene Unit := echoRadio.played echoStarted (deviceJoins 0 1)

theorem echoJoined_plays : echoRadio.Plays echoStarted (deviceJoins 0 1) := by decide +kernel

theorem echoJoined_run : echoRadio.RouteRun echoJoined.state :=
  routeRun_played initial_echoStarted echoJoined_plays

theorem not_cutInside_whole {start stop : Nat} (inside : stop ≤ bytes.length) :
    ¬ CutInside [bytes] start stop := by
  rintro ⟨position, isCut, behind, before⟩
  rcases cutAt_cons.mp isCut with rfl | ⟨rest, isEnd, rfl⟩
  · omega
  · rw [cutAt_nil.mp isEnd] at before
    omega

theorem segmented_single {bytes : List UInt8} (notEmpty : 0 < bytes.length) :
    (⟨[bytes], .waits⟩ : ByteStream).Segmented :=
  List.forall_mem_singleton.mpr (List.length_pos_iff.mp notEmpty)

theorem content_single (bytes : List UInt8) : (⟨[bytes], .waits⟩ : ByteStream).content = bytes :=
  List.append_nil bytes

/-- A packet that comes in one piece. -/
theorem fromBs_whole (packet : DataPacket) : FromBs packet ⟨[packet.bytes], .waits⟩ := by
  have length : packet.bytes.length = nsohdrSize + packet.payload.length := by
    rw [DataPacket.bytes, List.length_append, DataPacket.length_hdr]
  refine ⟨segmented_single (@length_bytes_pos packet), content_single _, ?_, ?_⟩
  · exact not_cutInside_whole (by omega)
  · exact not_cutInside_whole (Nat.le_refl _)

theorem echoStreams_whole {entry : MapEntry} (notEmpty : 0 < entry.written.length) :
    EchoStreams entry ⟨[entry.written], .waits⟩ ⟨[entry.written], .waits⟩ := by
  have segmented := segmented_single notEmpty
  refine ⟨⟨segmented, segmented⟩, content_single _, ?_⟩
  rw [Echo.handle, flatten_recvEach (by omega) segmented]

theorem echoRadio_advertises : echoRadio.AdvertisesTruly := by
  intro s message isSecond
  cases s <;> exact nomatch isSecond

theorem echoRadio_withoutVson : echoRadio.WithoutVson := by
  intro message isFunction
  rw [proto_isEchoed message isFunction]
  decide

theorem echoJoined_ready (u : Option Unit) : Running echoJoined.state u := by
  refine ⟨?_, ?_, ?_⟩
  · revert u
    decide +kernel
  · funext mutex
    revert u
    cases mutex <;> decide +kernel
  · revert u
    decide +kernel

end Network

end Nrg5
