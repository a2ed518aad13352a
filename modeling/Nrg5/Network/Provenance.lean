import Nrg5.Network.PacketOrigin
import Nrg5.Network.RouteInvariant

/-!
# Packets over many hops

The runs of a network with the data that was sent and the topology that was reported so far.
Whatever the stations hear, and however often, a packet in the air, in a queue or on the
connection of a network function goes back to a source: the only thing that happens to it on the
way is a cut at the buffer of a station.  The messages of the vTSD are not followed.
-/
namespace Nrg5

open ByteMemory LockProg

variable {pkt : Packet} {message : Message}

/-- A call of `nso_layer_send`, with the destination that it used. -/
structure SendCall (ι : Type) where
  station : Option ι
  buf : List UInt8
  dst : DeviceId
  proto : UInt16

/-- A call of `son_topo_report`, with the layer that it reported. -/
structure ReportCall (ι : Type) where
  station : Option ι
  layer : NsoLayer
  junk : Memory

/-- The calls whose packets are followed. -/
inductive LoggedCall (ι : Type) : Type where
  | send (call : SendCall ι)
  | report (call : ReportCall ι)
  | advertise (station : Option ι)

namespace Network

variable {ι : Type} {net : Network ι} {state next : NetState ι} {calls later : List (LoggedCall ι)}
  {s : Option ι} {i : ι} {bytes : List UInt8} {node after : Node}

/-! ## Runs with their calls -/

def sendCall (state : NetState ι) (s : Option ι) (buf : List UInt8) (dst : Option DeviceId)
    (proto : UInt16) : SendCall ι :=
  ⟨s, buf, dst.getD (state.node s).nsol.gwId, proto⟩

def reportCall (state : NetState ι) (s : Option ι) : ReportCall ι :=
  ⟨s, (state.node s).nsol, (state.node s).env.junk⟩

/-- What is logged of an event of a device. -/
def deviceCalls (state : NetState ι) (i : ι) : Device.Event → List (LoggedCall ι)
  | .send buf dst proto => [.send (sendCall state (some i) buf dst proto)]
  | .topoReport => [.report (reportCall state (some i))]
  | .advertise => [.advertise (some i)]
  | _ => []

/-- What is logged of an event of the base station. -/
def bsCalls (state : NetState ι) : Bs.Event → List (LoggedCall ι)
  | .send buf dst proto => [.send (sendCall state none buf dst proto)]
  | .topoReport => [.report (reportCall state none)]
  | .advertise => [.advertise none]
  | _ => []

/-- A step of a network, and the log after it. -/
inductive LoggedStep [DecidableEq ι] (net : Network ι) (calls : List (LoggedCall ι))
    (state : NetState ι) : List (LoggedCall ι) → NetState ι → Prop where
  | device (i : ι) (event : Device.Event) (alive : state.exited (some i) = false)
      (may : net.DeviceMay state i event) (goes : ¬ Waits state (some i) event.body) :
      LoggedStep net calls state (calls ++ deviceCalls state i event)
        (run state (some i) event.body)
  | baseStation (event : Bs.Event) (alive : state.exited none = false)
      (may : net.BsMay state event) (goes : ¬ Waits state none event.body) :
      LoggedStep net calls state (calls ++ bsCalls state event) (run state none event.body)
  | vtsd (services : Vtsd.Services) {fd : Nat} {request reply : List UInt8}
      (written : (fd, request) ∈ (state.node none).vnfTx)
      (answers : Vtsd.listenToBs services request = some reply) :
      LoggedStep net calls state calls { state with replies := state.replies ++ [reply] }

/-- The states of the runs of a network, with what was logged. -/
inductive LoggedRun [DecidableEq ι] (net : Network ι) : List (LoggedCall ι) → NetState ι →
    Prop where
  | start {state : NetState ι} (initial : net.Initial state) : LoggedRun net [] state
  | step {calls later : List (LoggedCall ι)} {state next : NetState ι}
      (before : LoggedRun net calls state) (step : net.LoggedStep calls state later next) :
      LoggedRun net later next

/-- The steps with their logs are the steps. -/
theorem step_iff_loggedStep [DecidableEq ι] :
    net.Step state next ↔ ∃ later, net.LoggedStep calls state later next := by
  constructor
  · intro step
    cases step with
    | device i event alive may goes => exact ⟨_, .device i event alive may goes⟩
    | baseStation event alive may goes => exact ⟨_, .baseStation event alive may goes⟩
    | vtsd services written answers => exact ⟨_, .vtsd services written answers⟩
  · rintro ⟨later, step⟩
    cases step with
    | device i event alive may goes => exact .device i event alive may goes
    | baseStation event alive may goes => exact .baseStation event alive may goes
    | vtsd services written answers => exact .vtsd services written answers

/-- The runs with their logs are the runs. -/
theorem reachable_iff_loggedRun [DecidableEq ι] :
    net.Reachable state ↔ ∃ calls, net.LoggedRun calls state := by
  constructor
  · intro reachable
    induction reachable with
    | start initial => exact ⟨_, .start initial⟩
    | step before step ih =>
        rcases ih with ⟨calls, run⟩
        rcases step_iff_loggedStep.mp step with ⟨later, logged⟩
        exact ⟨later, run.step logged⟩
  · rintro ⟨calls, run⟩
    induction run with
    | start initial => exact .start initial
    | step before step ih => exact ih.step (step_iff_loggedStep.mpr ⟨_, step⟩)

/-! ## Origins -/

/-- Where a packet can come from. -/
inductive Source (net : Network ι) (calls : List (LoggedCall ι)) : List UInt8 → Prop where
  | sent {call : SendCall ι} {bytes : List UInt8} (isCall : .send call ∈ calls)
      (isData : dispatch call.proto = .data)
      (isPacket : IsDataPacket (net.station call.station).devId call.dst call.proto
        (net.station call.station).mtu call.buf bytes) : Source net calls bytes
  | reported {call : ReportCall ι} {bytes : List UInt8} (isCall : .report call ∈ calls)
      (isReport : IsReport call.layer call.junk bytes) : Source net calls bytes
  /-- `read_pkt_from_vnf` counts the header twice. -/
  | function {message behind : List UInt8} (isFunction : net.functions message)
      (twice : behind.length = nsohdrSize) : Source net calls (message ++ behind)
  | advertised {s : Option ι} {bytes : List UInt8} (isCall : .advertise s ∈ calls)
      (header : messageOf bytes =
        ⟨(net.station s).devId, bcDeviceId, protoCpVson, some sonMsgNbr⟩) : Source net calls bytes
  | stacked {s : Option ι} {bytes : List UInt8} (isCall : .advertise s ∈ calls)
      (isStacked : Stacked (net.station s).devId (net.station s).ifaces bytes) :
      Source net calls bytes
  | registered {bytes : List UInt8} (isTsd : (messageOf bytes).proto = protoCpVtsd) :
      Source net calls bytes

/-- What the buffers on the way leave of a packet. -/
inductive Cut (net : Network ι) (whole : List UInt8) : List UInt8 → Prop where
  | whole : Cut net whole whole
  | short {s : Option ι} (tooLong : (net.station s).mtu < whole.length) :
      Cut net whole (whole.take (net.station s).mtu)

def Traced (net : Network ι) (calls : List (LoggedCall ι)) (bytes : List UInt8) : Prop :=
  ∃ whole, net.Source calls whole ∧ net.Cut whole bytes

theorem Source.mono (subset : calls ⊆ later) (source : net.Source calls bytes) :
    net.Source later bytes := by
  cases source with
  | sent isCall isData isPacket => exact .sent (subset isCall) isData isPacket
  | reported isCall isReport => exact .reported (subset isCall) isReport
  | function isFunction twice => exact .function isFunction twice
  | advertised isCall header => exact .advertised (subset isCall) header
  | stacked isCall isStacked => exact .stacked (subset isCall) isStacked
  | registered isTsd => exact .registered isTsd

theorem Traced.mono (subset : calls ⊆ later) (traced : net.Traced calls bytes) :
    net.Traced later bytes := by
  rcases traced with ⟨whole, source, cut⟩
  exact ⟨whole, source.mono subset, cut⟩

theorem Source.traced (source : net.Source calls bytes) : net.Traced calls bytes :=
  ⟨bytes, source, .whole⟩

/-- One more station on the way. -/
theorem Cut.take {full : List UInt8} (cut : net.Cut full bytes) (s : Option ι) :
    net.Cut full (bytes.take (net.station s).mtu) := by
  cases cut with
  | whole =>
      rcases Nat.lt_or_ge (net.station s).mtu bytes.length with tooLong | fits
      · exact .short tooLong
      · rw [List.take_of_length_le fits]
        exact .whole
  | @short t tooLong =>
      rw [List.take_take]
      rcases Nat.le_total (net.station s).mtu (net.station t).mtu with shorter | longer
      · rw [Nat.min_eq_left shorter]
        exact .short (Nat.lt_of_le_of_lt shorter tooLong)
      · rw [Nat.min_eq_right longer]
        exact .short tooLong

theorem Traced.take (traced : net.Traced calls bytes) (s : Option ι) :
    net.Traced calls (bytes.take (net.station s).mtu) := by
  rcases traced with ⟨whole, source, cut⟩
  exact ⟨whole, source, cut.take s⟩

/-! ## The invariant -/

/-- A packet that waits for the application of a station. -/
structure Waiting (net : Network ι) (calls : List (LoggedCall ι)) (s : Option ι) (pkt : Packet) :
    Prop where
  traced : net.Traced calls pkt.bytes
  header : (nsohdrSize : Int) ≤ pkt.byteLen
  isData : dispatch pkt.proto = .data
  forMe : pkt.dstDevid = (net.station s).devId

/-- Where a neighbour can come from. -/
inductive NbrOrigin (net : Network ι) (calls : List (LoggedCall ι)) : DeviceId → Prop where
  | advertised {t : Option ι} (isCall : .advertise t ∈ calls) :
      NbrOrigin net calls (net.station t).devId
  | stacked {t : Option ι} {message : Message} (isCall : .advertise t ∈ calls)
      (isSecond : secondMessage (net.station t).devId (net.station t).ifaces = some message)
      (isSon : message.proto = protoCpVson) (isNbr : message.type = some sonMsgNbr) :
      NbrOrigin net calls message.src
  | function {message : List UInt8} (isFunction : net.functions message)
      (isSon : (messageOf message).proto = protoCpVson)
      (onlyNbr : ∀ type, (messageOf message).type = some type → type = sonMsgNbr) :
      NbrOrigin net calls (messageOf message).src

/-- A neighbour of a station. -/
structure Neighbour (net : Network ι) (calls : List (LoggedCall ι)) (s : Option ι)
    (entry : NbrEntry) : Prop where
  origin : net.NbrOrigin calls entry.devId
  metric : entry.metric = 1
  iface : ∀ own, entry.iface = some own → own ∈ (net.station s).ifaces

/-- The configuration of a station, with neighbours and packets that go back to a source. -/
structure SettledFrom (net : Network ι) (calls : List (LoggedCall ι)) (s : Option ι)
    (settled : Settled) : Prop where
  devId : settled.devId = (net.station s).devId
  ifaces : settled.ifaces = (net.station s).ifaces
  mtu : settled.mtu = (net.station s).mtu
  counted : settled.nbrt.size = settled.nbrt.ll.length
  neighbours : ∀ entry ∈ settled.nbrt.ll, net.Neighbour calls s entry
  queue : ∀ pkt ∈ settled.dataPq, net.Waiting calls s pkt

/-- All packets of a node go back to a source. -/
structure TracedNode (net : Network ι) (calls : List (LoggedCall ι)) (s : Option ι) (node : Node) :
    Prop where
  settled : net.SettledFrom calls s node.settled
  frames : ∀ entry ∈ node.air, Carrying (net.Traced calls) entry.2
  writes : ∀ entry ∈ node.vnfTx, Written (net.Traced calls) entry.2

/-- The packets of all nodes, the layers that were reported, and the answers of the vTSD. -/
structure AllTraced (net : Network ι) (calls : List (LoggedCall ι)) (state : NetState ι) :
    Prop where
  nodes : ∀ s, net.TracedNode calls s (state.node s)
  reports : ∀ call, .report call ∈ calls → net.SettledFrom calls call.station call.layer.settled
  replies : ∀ reply ∈ state.replies,
    (messageOf reply).proto = protoCpVtsd ∧ Bs.IsMessage (net.station none).mtu reply

theorem Waiting.mono (subset : calls ⊆ later) (waiting : net.Waiting calls s pkt) :
    net.Waiting later s pkt :=
  ⟨waiting.traced.mono subset, waiting.header, waiting.isData, waiting.forMe⟩

theorem NbrOrigin.mono {devId : DeviceId} (subset : calls ⊆ later)
    (origin : net.NbrOrigin calls devId) : net.NbrOrigin later devId := by
  cases origin with
  | advertised isCall => exact .advertised (subset isCall)
  | stacked isCall isSecond isSon isNbr => exact .stacked (subset isCall) isSecond isSon isNbr
  | function isFunction isSon onlyNbr => exact .function isFunction isSon onlyNbr

theorem Neighbour.mono {entry : NbrEntry} (subset : calls ⊆ later)
    (neighbour : net.Neighbour calls s entry) : net.Neighbour later s entry :=
  ⟨neighbour.origin.mono subset, neighbour.metric, neighbour.iface⟩

theorem SettledFrom.mono {settled : Settled} (subset : calls ⊆ later)
    (founded : net.SettledFrom calls s settled) : net.SettledFrom later s settled :=
  ⟨founded.devId, founded.ifaces, founded.mtu, founded.counted,
    fun entry isMem => (founded.neighbours entry isMem).mono subset,
    fun pkt isMem => (founded.queue pkt isMem).mono subset⟩

theorem TracedNode.mono (subset : calls ⊆ later) (traced : net.TracedNode calls s node) :
    net.TracedNode later s node := by
  refine ⟨traced.settled.mono subset, ?_, ?_⟩
  · intro entry isMem
    rcases traced.frames entry isMem with ⟨mac, message, isFrame, isTraced⟩
    exact ⟨mac, message, isFrame, isTraced.mono subset⟩
  · intro entry isMem
    rcases traced.writes entry isMem with ⟨bytes, count, isPrefix, header, isTraced⟩
    exact ⟨bytes, count, isPrefix, header, isTraced.mono subset⟩

theorem TracedNode.config (traced : net.TracedNode calls s node) :
    Configured (net.station s) node :=
  ⟨traced.settled.devId, traced.settled.ifaces, traced.settled.mtu⟩

theorem TracedNode.adds (traced : net.TracedNode calls s node)
    (settled : net.SettledFrom calls s after.settled)
    (adds : Adds (net.Traced calls) node after) : net.TracedNode calls s after := by
  refine ⟨settled, ?_, ?_⟩
  · intro entry isMem
    rcases adds.frames entry isMem with old | carrying
    · exact traced.frames entry old
    · exact carrying
  · intro entry isMem
    rcases adds.writes entry isMem with old | written
    · exact traced.writes entry old
    · exact written

theorem TracedNode.keeps (traced : net.TracedNode calls s node)
    (adds : Adds (net.Traced calls) node after) (same : after.settled = node.settled) :
    net.TracedNode calls s after := by
  apply traced.adds _ adds
  rw [same]
  exact traced.settled

theorem SettledFrom.learned {settled : Settled} {addr : Nat} {devId : DeviceId}
    {iface : Option NsoIf} (founded : net.SettledFrom calls s settled)
    (origin : net.NbrOrigin calls devId)
    (isOwn : ∀ own, iface = some own → own ∈ (net.station s).ifaces) :
    net.SettledFrom calls s
      { settled with nbrt := NbrTable.learned addr devId iface settled.nbrt } := by
  refine ⟨founded.devId, founded.ifaces, founded.mtu, NbrTable.counted_learned founded.counted, ?_,
    founded.queue⟩
  intro entry isMem
  rcases NbrTable.mem_learned isMem with rfl | ⟨status, wasMem⟩
  · exact ⟨origin, rfl, isOwn⟩
  · have before := founded.neighbours _ wasMem
    exact ⟨before.origin, before.metric, before.iface⟩

/-- A packet that is put behind the queue waits there. -/
theorem SettledFrom.enqueued {settled : Settled} {junk : Memory}
    (founded : net.SettledFrom calls s settled) (showing : pkt.Shows message)
    (traced : net.Traced calls pkt.bytes) (isData : dispatch pkt.proto = .data)
    (forMe : pkt.dstDevid = settled.devId) :
    net.SettledFrom calls s { settled with dataPq := settled.dataPq ++ [pkt.clone junk] } := by
  refine ⟨founded.devId, founded.ifaces, founded.mtu, founded.counted, founded.neighbours, ?_⟩
  intro other isMem
  rcases List.mem_append.mp isMem with old | isNew
  · exact founded.queue other old
  · rcases List.mem_singleton.mp isNew with rfl
    have sameBytes : (pkt.clone junk).bytes = pkt.bytes := bytes_clone junk
    have header : nsohdrSize ≤ (pkt.clone junk).bytes.length := by
      have long := showing.header
      rw [sameBytes, Packet.bytes, Memory.length_read]
      omega
    rcases Packet.header_congr sameBytes header with ⟨_, sameDst, sameProto, _⟩
    refine ⟨?_, showing.header, ?_, ?_⟩
    · rw [sameBytes]
      exact traced
    · rw [sameProto]
      exact isData
    · rw [sameDst, forMe, founded.devId]

/-! ## What is learned from a packet -/

/-- The header of a packet survives the cuts. -/
theorem Cut.messageOf {full : List UInt8} (cut : net.Cut full bytes) :
    Nrg5.messageOf bytes = Nrg5.messageOf full := by
  cases cut with
  | whole => rfl
  | @short s tooLong =>
      have fits := (net.station s).controlFits
      apply messageOf_take
      simp only [nsohdrSize] at fits ⊢
      omega

/-- The bytes that are counted twice stand behind the header. -/
theorem messageOf_behind {bytes behind : List UInt8} (header : nsohdrSize ≤ bytes.length) :
    (messageOf (bytes ++ behind)).src = (messageOf bytes).src ∧
      (messageOf (bytes ++ behind)).dst = (messageOf bytes).dst ∧
        (messageOf (bytes ++ behind)).proto = (messageOf bytes).proto := by
  simp only [nsohdrSize] at header
  have slice : ∀ start count, start + count ≤ 20 →
      ((bytes ++ behind).drop start).take count = (bytes.drop start).take count := by
    intro start count inside
    rw [List.drop_append_of_le_length (by omega), List.take_append_of_le_length]
    rw [List.length_drop]
    omega
  have front := slice 0 8 (by omega)
  simp only [List.drop_zero] at front
  simp only [messageOf, front, slice 8 8 (by omega), slice 16 2 (by omega), and_self]

/-- What may read as an advertisement comes from one, or from a network function. -/
theorem nbrOrigin_of_traced
    (small : ∀ call, .report call ∈ calls → call.layer.mtu = (net.station call.station).mtu)
    (traced : net.Traced calls bytes) (isSon : (messageOf bytes).proto = protoCpVson)
    (onlyNbr : ∀ type, (messageOf bytes).type = some type → type = sonMsgNbr) :
    net.NbrOrigin calls (messageOf bytes).src := by
  rcases traced with ⟨full, source, cut⟩
  rw [cut.messageOf] at isSon onlyNbr ⊢
  cases source with
  | @sent call _ isCall isData isPacket =>
      rcases isPacket.header with ⟨type, header⟩
      rw [header] at isSon
      rw [show call.proto = protoCpVson from isSon] at isData
      exact absurd isData (by decide)
  | @reported call _ isCall isReport =>
      rcases isReport with ⟨body, -, inBuffer, rfl⟩
      have fits := (net.station call.station).lengthFits
      rw [← small call isCall] at fits
      rw [(shows_report fits inBuffer).message] at onlyNbr
      exact absurd (onlyNbr sonMsgTopo rfl) (by decide)
  | @function message behind isFunction twice =>
      have long := (net.functionsWhole _ isFunction).header
      rcases @messageOf_behind message behind long with ⟨src, _, proto⟩
      rw [src]
      refine .function isFunction (proto.symm.trans isSon) fun type isType => ?_
      apply onlyNbr
      rw [messageOf_append behind, isType]
      by_contra short
      have untyped : (messageOf message).type = none := by
        simp only [messageOf, List.getElem?_eq_none_iff]
        exact Nat.not_lt.mp short
      rw [untyped] at isType
      cases isType
  | @advertised t _ isCall header =>
      rw [header]
      exact .advertised isCall
  | @stacked t _ isCall isStacked =>
      rcases isStacked.reads with isSecond | isOther
      · rcases Option.isSome_iff_exists.mp (typed_secondMessage isSecond) with ⟨type, isType⟩
        refine .stacked isCall isSecond isSon ?_
        rw [isType, onlyNbr type isType]
      · rw [isOther] at isSon
        exact absurd isSon (by decide)
  | registered isTsd =>
      rw [isTsd] at isSon
      exact absurd isSon (by decide)

/-! ## What a station hears and reads -/

theorem admitsTsd_traced (calls : List (LoggedCall ι)) : AdmitsTsd (net.Traced calls) :=
  fun _ isTsd => (Source.registered isTsd).traced

theorem AllTraced.hears (all : net.AllTraced calls state) {src : L2addr}
    (hears : net.Hears state s pkt src) :
    ∃ message, pkt.Shows message ∧ net.Traced calls pkt.bytes := by
  rcases hears with ⟨sender, slot, frame, stale, dest, isSent, room, size, receives⟩
  rcases (all.nodes sender).frames _ isSent with ⟨mac, message, isFrame, traced⟩
  have fits := (net.station s).controlFits
  have enough : ethHlen ≤ stale.data := by
    rw [room]
    decide
  rcases wifiReceive_frame isFrame enough (by rw [size]; omega) receives with ⟨showing, _⟩
  have isNso : IsNsoFrame frame := ⟨(Nat.le_add_right _ _).trans isFrame.long, isFrame.type⟩
  rcases wifiReceive_nso isNso enough with ⟨buf, byteLen, tail, accepts, bytes⟩
  rw [accepts] at receives
  rcases Received.mk.inj receives with ⟨-, rfl, -⟩
  refine ⟨message, showing, ?_⟩
  rw [bytes, size]
  exact traced.take s

theorem AllTraced.reads (all : net.AllTraced calls state) (reads : net.Reads state pkt) :
    ∃ message, pkt.Shows message ∧ net.Traced calls pkt.bytes := by
  rcases reads with ⟨message, rest, stream, left, junk, source, front, isRead⟩
  rcases source with isReply | isFunction
  · rcases all.replies message isReply with ⟨isTsd, isMessage⟩
    rcases Vtsd.shows_readPktFromVnf isMessage front isRead with ⟨shown, showing, _, proto, _⟩
    exact ⟨shown, showing, (admitsTsd_traced calls).shown showing (proto.trans isTsd)⟩
  · have isMessage := net.functionsWhole _ isFunction
    rcases Vtsd.shows_readPktFromVnf isMessage front isRead with ⟨shown, showing, _⟩
    refine ⟨shown, showing, ?_⟩
    rcases Bs.readPktFromVnf_message isMessage front with
      ⟨read, left', returns, _, byteLen, _, bytes⟩
    rw [returns] at isRead
    rcases Prod.mk.inj (Option.some.inj isRead) with ⟨rfl, -⟩
    have count : read.byteLen.toNat = message.length + nsohdrSize := by
      rw [byteLen]
      omega
    rw [Packet.bytes, count, Memory.read_append, bytes]
    exact (Source.function isFunction (Memory.length_read _ _ _)).traced

theorem AllTraced.small (all : net.AllTraced calls state) :
    ∀ call, .report call ∈ calls → call.layer.mtu = (net.station call.station).mtu :=
  fun call isCall => (all.reports call isCall).mtu

/-- What a message leaves of a settled layer goes back to a source when the message does. -/
theorem AllTraced.absorbs (all : net.AllTraced calls state) {iface : Option NsoIf}
    (showing : pkt.Shows message) (traced : net.Traced calls pkt.bytes)
    (isOwn : ∀ own, iface = some own → own ∈ (net.station s).ifaces)
    (absorbs : Absorbs pkt iface (state.node s) after) : net.SettledFrom calls s after.settled := by
  have founded := (all.nodes s).settled
  have header := messageOf_bytes showing.header
  cases absorbs with
  | same unchanged =>
      rw [unchanged]
      exact founded
  | learned addr isSon isNbr learns =>
      rw [learns]
      apply founded.learned _ isOwn
      have origin := nbrOrigin_of_traced all.small traced
      rw [header] at origin
      apply origin isSon
      intro type isType
      dsimp only at isType
      split at isType
      · rw [← Option.some.inj isType, isNbr]
      · cases isType
  | enqueued junk isData forMe queue =>
      rw [queue]
      exact founded.enqueued showing traced isData forMe

/-! ## One call -/

variable {held : Lock → Bool}

theorem adds_ownSend (config : Configured (net.station s) (state.node s)) (free : TablesFree held)
    (buf : List UInt8) (dst : Option DeviceId) {proto : UInt16} (isData : dispatch proto = .data) :
    (nsoLayerSend buf dst proto).wp (fun _ _ => True)
      (.always (Adds (net.Traced (calls ++ [.send (sendCall state s buf dst proto)]))
        (state.node s)))
      held (state.node s) := by
  apply adds_nsoLayerSend free
  intro bytes isPacket
  rw [config.devId, config.mtu] at isPacket
  exact (Source.sent (List.mem_append_right _ List.mem_cons_self) isData isPacket).traced

theorem traced_ownReport (isReport : IsReport (state.node s).nsol (state.node s).env.junk bytes) :
    net.Traced (calls ++ [.report (reportCall state s)]) bytes :=
  (Source.reported (List.mem_append_right _ List.mem_cons_self) isReport).traced

theorem adds_ownAdvertise (config : Configured (net.station s) node) :
    sonNbrAdvertise.wp (fun _ _ => True)
      (.always (Adds (net.Traced (calls ++ [.advertise s])) node)) held node := by
  have isCall : .advertise s ∈ calls ++ [LoggedCall.advertise s] :=
    List.mem_append_right _ List.mem_cons_self
  apply adds_sonNbrAdvertise
  · intro bytes isAdvertisement
    rw [config.devId] at isAdvertisement
    exact (Source.advertised isCall isAdvertisement).traced
  · rw [config.devId, config.ifaces]
    exact fun bytes isStacked => (Source.stacked isCall isStacked).traced


theorem TracedNode.recv (traced : net.TracedNode calls s node) (free : TablesFree held)
    (size : Nat) :
    net.TracedNode calls s
      ((do let _ ← nsoLayerRecv size : Prog Unit).exec held node).state := by
  have adds : Adds (net.Traced calls) node ((nsoLayerRecv size).exec held node).state := by
    apply adds_routesOnly
    exact ((wp_always_iff _).mp (nsoLayerRecv_quiet free size)).toRoutesOnly
  have received : net.TracedNode calls s ((nsoLayerRecv size).exec held node).state := by
    rcases @nsoLayerRecv_queue held node free size with same | taken
    · exact traced.keeps adds same
    · have founded := traced.settled
      apply traced.adds _ adds
      rw [taken]
      exact ⟨founded.devId, founded.ifaces, founded.mtu, founded.counted, founded.neighbours,
        fun pkt isMem => founded.queue pkt (List.mem_of_mem_tail isMem)⟩
  rw [← wp_always_iff (net.TracedNode calls s)] at received ⊢
  rw [wp_bind]
  exact received

/-- A call that handles a message of a known origin. -/
theorem TracedNode.handled {α : Type} (all : net.AllTraced calls state) {iface : Option NsoIf}
    (showing : pkt.Shows message) (traced : net.Traced calls pkt.bytes)
    (isOwn : ∀ own, iface = some own → own ∈ (net.station s).ifaces) {body : Prog α}
    (absorbs : body.wp (fun _ _ => True) (.always (Absorbs pkt iface (state.node s))) held
      (state.node s))
    (adds : body.wp (fun _ _ => True) (.always (Adds (net.Traced calls) (state.node s))) held
      (state.node s)) :
    net.TracedNode calls s
      ((do let _ ← body : Prog Unit).exec held (state.node s)).state := by
  have handled : net.TracedNode calls s (body.exec held (state.node s)).state := by
    apply (all.nodes s).adds _ ((wp_always_iff _).mp adds)
    exact all.absorbs showing traced isOwn ((wp_always_iff _).mp absorbs)
  rw [← wp_always_iff (net.TracedNode calls s)] at handled ⊢
  rw [wp_bind]
  exact handled

/-- A call whose parts are known. -/
theorem TracedNode.call (traced : net.TracedNode calls s node) {body : Prog Unit}
    (adds : body.wp (fun _ _ => True) (.always (Adds (net.Traced calls) node)) held node)
    (keeps : KeepsSettled body) : net.TracedNode calls s (body.exec held node).state :=
  traced.keeps ((wp_always_iff _).mp adds) (keeps.exec held node)

theorem deviceEvent_traced (all : net.AllTraced calls state) (free : TablesFree held)
    (event : Device.Event) (may : net.DeviceMay state i event) :
    net.TracedNode (calls ++ deviceCalls state i event) (some i)
      (event.body.exec held (state.node (some i))).state := by
  have config := (all.nodes (some i)).config
  have fits := (net.station (some i)).lengthFits
  rw [← config.mtu] at fits
  have later := (all.nodes (some i)).mono
    (List.subset_append_left calls (deviceCalls state i event))
  cases event with
  | send buf dst proto =>
      apply later.call _ (keepsSettled_discard (keepsSettled_send buf dst proto))
      rw [wp_bind]
      exact adds_ownSend config free buf dst may
  | environment env =>
      apply later.call _ (keepsSettled_modify _)
      exact wp_always_mono (fun _ unseen => adds_routesOnly unseen.toRoutesOnly)
        (environment_quiet env)
  | receive rx =>
      simp only [deviceCalls, List.append_nil]
      rcases rx with ⟨handler, pkt, src, iface⟩
      rcases may with ⟨hears, isHandler, isOwn⟩
      dsimp only at hears isHandler isOwn
      rcases all.hears hears with ⟨message, showing, traced⟩
      rw [isHandler]
      apply TracedNode.handled all showing traced _ (deviceRx_absorbs free pkt src iface)
      · exact wp_always_mono
          (fun _ effect => adds_deviceEffect (admitsTsd_traced calls) showing traced effect)
          (deviceRx_effect free)
      · rintro own ⟨⟩
        exact isOwn
  | beacon =>
      apply later.call _ parts_keepsSettled.ofTsdBroadcastBeacons
      apply wp_always_mono _ tsdBroadcastBeacons_originates
      intro after originates
      apply adds_originates _ originates
      rintro pkt message rfl showing
      exact (admitsTsd_traced _).shown showing rfl
  | topoReport =>
      apply later.call _ parts_keepsSettled.ofDeviceTopoReport
      exact adds_deviceTopoReport free fits fun bytes isReport => traced_ownReport isReport
  | advertise => exact later.call (adds_ownAdvertise config) parts_keepsSettled.ofSonNbrAdvertise
  | recv size => exact later.recv free size

theorem bsEvent_traced (all : net.AllTraced calls state) (free : TablesFree held)
    (event : Bs.Event) (may : net.BsMay state event) :
    net.TracedNode (calls ++ bsCalls state event) none
      (event.body.exec held (state.node none)).state := by
  have config := (all.nodes none).config
  have fits := (net.station none).lengthFits
  rw [← config.mtu] at fits
  have later := (all.nodes none).mono (List.subset_append_left calls (bsCalls state event))
  cases event with
  | send buf dst proto =>
      apply later.call _ (keepsSettled_discard (keepsSettled_send buf dst proto))
      rw [wp_bind]
      exact adds_ownSend config free buf dst may
  | environment env =>
      apply later.call _ (keepsSettled_modify _)
      exact wp_always_mono (fun _ unseen => adds_routesOnly unseen.toRoutesOnly)
        (environment_quiet env)
  | receive rx =>
      simp only [bsCalls, List.append_nil]
      rcases rx with ⟨handler, pkt, origin⟩
      rcases may with ⟨src, iface, isOwn, fromAir, hears, isHandler⟩
      dsimp only at fromAir hears isHandler
      rcases all.hears hears with ⟨message, showing, traced⟩
      rw [isHandler, fromAir]
      apply TracedNode.handled all showing traced _ (bsRx_absorbs pkt _)
      · exact wp_always_mono
          (fun _ effect => adds_bsEffect (admitsTsd_traced calls) showing traced effect)
          (Bs.rx_effect free)
      · rintro own ⟨⟩
        exact isOwn
  | vnfMessage pkt =>
      simp only [bsCalls, List.append_nil]
      rcases all.reads may with ⟨message, showing, traced⟩
      apply TracedNode.handled all showing traced _ (processVnfRx_absorbs pkt)
      · exact wp_always_mono
          (fun _ effect => adds_bsEffect (admitsTsd_traced calls) showing traced effect)
          (Bs.processVnfRx_effect free)
      · rintro own ⟨⟩
  | register =>
      apply later.call _ parts_keepsSettled.ofTsdBsReg
      apply wp_always_mono _ tsdBsReg_reports
      intro after reports
      apply adds_reports _ reports
      exact fun pkt showing => (admitsTsd_traced _).shown showing rfl
  | topoReport =>
      apply later.call _ parts_keepsSettled.ofBsTopoReport
      exact adds_bsTopoReport free fits fun bytes isReport => traced_ownReport isReport
  | advertise => exact later.call (adds_ownAdvertise config) parts_keepsSettled.ofSonNbrAdvertise
  | recv size => exact later.recv free size

/-! ## Whole runs -/

theorem settledFrom_initial {settled : Settled} (devId : settled.devId = (net.station s).devId)
    (ifaces : settled.ifaces = (net.station s).ifaces) (mtu : settled.mtu = (net.station s).mtu)
    (nbrt : settled.nbrt = HashedTable.empty) (dataPq : settled.dataPq = []) :
    net.SettledFrom calls s settled := by
  refine ⟨devId, ifaces, mtu, ?_, ?_, ?_⟩
  · rw [nbrt]
    rfl
  · rw [nbrt]
    exact fun _ isMem => absurd isMem List.not_mem_nil
  · rw [dataPq]
    exact fun _ isMem => absurd isMem List.not_mem_nil

theorem allTraced_initial (initial : net.Initial state) : net.AllTraced [] state := by
  refine ⟨?_, fun _ isCall => absurd isCall List.not_mem_nil, ?_⟩
  · intro s
    cases s with
    | some i =>
        rcases initial.device i with ⟨gwId, env, isStart⟩
        rw [isStart]
        exact ⟨settledFrom_initial rfl rfl rfl rfl rfl,
          fun _ isMem => absurd isMem List.not_mem_nil,
          fun _ isMem => absurd isMem List.not_mem_nil⟩
    | none =>
        rcases initial.baseStation with ⟨gwId, vnfs, vtsdFd, vsonFd, env, isStart⟩
        rw [isStart]
        exact ⟨settledFrom_initial rfl rfl rfl rfl rfl,
          fun _ isMem => absurd isMem List.not_mem_nil,
          fun _ isMem => absurd isMem List.not_mem_nil⟩
  · rw [initial.noReply]
    exact fun _ isMem => absurd isMem List.not_mem_nil

theorem reportCall_of_device {call : ReportCall ι} {event : Device.Event}
    (isCall : .report call ∈ deviceCalls state i event) : call = reportCall state (some i) := by
  cases event with
  | topoReport =>
      simp only [deviceCalls, List.mem_singleton, LoggedCall.report.injEq] at isCall
      exact isCall
  | _ => simp [deviceCalls] at isCall

theorem reportCall_of_bs {call : ReportCall ι} {event : Bs.Event}
    (isCall : .report call ∈ bsCalls state event) : call = reportCall state none := by
  cases event with
  | topoReport =>
      simp only [bsCalls, List.mem_singleton, LoggedCall.report.injEq] at isCall
      exact isCall
  | _ => simp [bsCalls] at isCall

variable [DecidableEq ι]

theorem AllTraced.run {logged : List (LoggedCall ι)} (all : net.AllTraced calls state)
    {body : Prog Unit}
    (isOwn : ∀ call, .report call ∈ logged → call = reportCall state s)
    (traced : net.TracedNode (calls ++ logged) s (body.exec (state.held s) (state.node s)).state) :
    net.AllTraced (calls ++ logged) (Network.run state s body) := by
  have subset := List.subset_append_left calls logged
  refine ⟨forall_node_run (fun t => (all.nodes t).mono subset) traced, ?_, all.replies⟩
  intro call isCall
  rcases List.mem_append.mp isCall with earlier | isNew
  · exact (all.reports call earlier).mono subset
  · rw [isOwn call isNew]
    exact (all.nodes s).settled.mono subset

/-- One step. -/
theorem AllTraced.step (all : net.AllTraced calls state)
    (free : ∀ s, state.exited s = false → TablesFree (state.held s))
    (step : net.LoggedStep calls state later next) : net.AllTraced later next := by
  cases step with
  | device i event alive may goes =>
      exact all.run (fun _ => reportCall_of_device)
        (deviceEvent_traced all (free _ alive) event may)
  | baseStation event alive may goes =>
      exact all.run (fun _ => reportCall_of_bs) (bsEvent_traced all (free _ alive) event may)
  | vtsd services written answers =>
      refine ⟨all.nodes, all.reports, fun reply isMem => ?_⟩
      rcases List.mem_append.mp isMem with old | isNew
      · exact all.replies reply old
      · rcases List.mem_singleton.mp isNew with rfl
        have fits := (net.station none).controlFits
        have packed : ∀ src dst type, Vtsd.Answers src dst type reply →
            (messageOf reply).proto = protoCpVtsd ∧ Bs.IsMessage (net.station none).mtu reply := by
          intro src dst type isAnswer
          rw [isAnswer.message]
          exact ⟨rfl, Nat.le_of_lt isAnswer.long, isAnswer.short.trans fits, isAnswer.lengthField⟩
        rcases Vtsd.listenToBs_answers answers with ⟨_, _, ⟨_, isAnswer⟩ | ⟨_, isAnswer⟩⟩ | isError
        · exact packed _ _ _ isAnswer
        · exact packed _ _ _ isAnswer
        · exact packed _ _ _ isError

theorem allTraced_run (run : net.LoggedRun calls state) : net.AllTraced calls state := by
  induction run with
  | start initial => exact allTraced_initial initial
  | step before step ih =>
      exact ih.step (tablesFree_reachable (reachable_iff_loggedRun.mpr ⟨_, before⟩)) step

end Network

end Nrg5
