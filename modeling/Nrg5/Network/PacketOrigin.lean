import Nrg5.Network.Calls
import Nrg5.Network.Settled
import Nrg5.ReceivedData
import Nrg5.VnfWrites
import Nrg5.Vson.Southbound

/-!
# Where packets come from

A packet goes from station to station as it is: a relay hands out the bytes that it has received,
and only the destination of a beacon is changed on the way.  So whatever is heard, and in
whichever order, the packets in the air, in the queues and on the connections of the network
functions go back to a call of a station or to a message of a network function.  They are shorter
than what was sent only behind a station with a smaller buffer.

One thing that no station means to send can be read as a packet as well: the second and the later
frames of an advertisement on several interfaces, which have an Ethernet header where the NSO
header should be.
-/

namespace Nrg5

open ByteMemory LockProg

variable {node mid after : Node} {pkt : Packet} {message : Message} {iface : NsoIf}
  {ifaces : List NsoIf} {src : L2addr} {held : Lock → Bool} {ok : List UInt8 → Prop}

/-! ## Bytes of a data packet -/

/-- The header and the payload of a packet that `nso_layer_send` makes of a buffer. -/
structure IsDataPacket (src dst : DeviceId) (proto : UInt16) (mtu : Nat) (buf bytes : List UInt8) :
    Prop where
  header : ∃ type, messageOf bytes = ⟨src, dst, proto, type⟩
  whole : nsohdrSize ≤ bytes.length
  length : bytes.length = storedLength mtu buf.length
  lengthField : Bs.messageLength bytes = storedLength mtu buf.length
  payload : bytes.drop nsohdrSize = buf.take (storedLength mtu buf.length - nsohdrSize)

theorem storedLength_le (mtu size : Nat) : storedLength mtu size ≤ nsohdrSize + size := by
  simp only [storedLength]
  split
  · omega
  · omega

theorem isDataPacket_made {junk : Memory} {layer : NsoLayer} {buf : List UInt8} {dst : DeviceId}
    {proto : UInt16} (isMade : makeDataPkt junk layer buf dst proto = some pkt) :
    IsDataPacket layer.devId dst proto layer.mtu buf pkt.bytes := by
  have header : nsohdrSize ≤ storedLength layer.mtu buf.length := by
    by_contra short
    rw [makeDataPkt_none (Nat.not_le.mp short)] at isMade
    exact absurd isMade (by simp)
  rcases @makeDataPkt_some junk layer buf dst proto header with ⟨made, isSome, carries⟩
  rw [isSome] at isMade
  rcases Option.some.inj isMade with rfl
  have length : made.bytes.length = storedLength layer.mtu buf.length := by
    rw [Packet.bytes, Memory.length_read, carries.byteLen, Int.toNat_natCast]
  have bound := storedLength_le layer.mtu buf.length
  have taken : (buf.take (storedLength layer.mtu buf.length - nsohdrSize)).length =
      storedLength layer.mtu buf.length - nsohdrSize := by
    rw [List.length_take]
    omega
  refine ⟨?_, ?_, length, ?_, ?_⟩
  · have whole : (nsohdrSize : Int) ≤ made.byteLen := by
      rw [carries.byteLen]
      exact_mod_cast header
    rw [messageOf_bytes whole, carries.src, carries.dst, carries.proto]
    exact ⟨_, rfl⟩
  · rw [length]
    exact header
  · rw [Bs.messageLength_bytes (by rw [length]; exact header), ← Packet.length_swapLenVer,
      carries.length]
  · have payload := carries.payload
    rw [taken] at payload
    have slice := @Memory.read_slice made.buf made.data (storedLength layer.mtu buf.length)
      nsohdrSize (storedLength layer.mtu buf.length - nsohdrSize) (by omega)
    rw [← payload, ← slice, Packet.bytes, carries.byteLen, Int.toNat_natCast,
      List.take_of_length_le]
    rw [List.length_drop, Memory.length_read]

/-! ## Frames and writes -/

/-- A frame with an NSO message whose bytes `ok` admits. -/
def Carrying (ok : List UInt8 → Prop) (frame : List UInt8) : Prop :=
  ∃ mac message, IsFrame mac message frame ∧ ok (frame.drop ethHlen)

/-- A beginning of a message that `ok` admits. -/
def Written (ok : List UInt8 → Prop) (entry : List UInt8) : Prop :=
  ∃ bytes count, entry = bytes.take count ∧ nsohdrSize ≤ bytes.length ∧ ok bytes

/-- What a call adds to the frames and to the writes of a node. -/
structure Adds (ok : List UInt8 → Prop) (node after : Node) : Prop where
  frames : ∀ entry ∈ after.air, entry ∈ node.air ∨ Carrying ok entry.2
  writes : ∀ entry ∈ after.vnfTx, entry ∈ node.vnfTx ∨ Written ok entry.2

/-- The messages of the vTSD are not followed. -/
def AdmitsTsd (ok : List UInt8 → Prop) : Prop :=
  ∀ bytes, (messageOf bytes).proto = protoCpVtsd → ok bytes

theorem Adds.trans (first : Adds ok node mid) (second : Adds ok mid after) :
    Adds ok node after := by
  constructor
  · intro entry isMem
    rcases second.frames entry isMem with earlier | carrying
    · exact first.frames entry earlier
    · exact .inr carrying
  · intro entry isMem
    rcases second.writes entry isMem with earlier | written
    · exact first.writes entry earlier
    · exact .inr written

theorem adds_same (air : after.air = node.air) (vnfTx : after.vnfTx = node.vnfTx) :
    Adds ok node after := by
  constructor
  · rw [air]
    exact fun entry isMem => .inl isMem
  · rw [vnfTx]
    exact fun entry isMem => .inl isMem

theorem adds_routesOnly (changes : RoutesOnly node after) : Adds ok node after :=
  adds_same changes.air changes.vnfTx

theorem adds_learns (learns : LearnsOnly node after) : Adds ok node after :=
  adds_same learns.air learns.vnfTx

/-- The bytes behind the Ethernet header of a frame are those of the packet. -/
theorem mem_air_sentOn_bytes {dest : L2addr} (sized : 0 ≤ pkt.byteLen)
    {entry : Nat × List UInt8} (isMem : entry ∈ (node.sentOn iface pkt dest).air) :
    entry ∈ node.air ∨ entry.2.drop ethHlen = pkt.bytes := by
  simp only [Node.sentOn, Node.sendFrame] at isMem
  split at isMem
  · exact .inl isMem
  · rename_i enough
    split at isMem
    · exact .inl isMem
    · rcases List.mem_append.mp isMem with old | isNew
      · exact .inl old
      · rcases List.mem_singleton.mp isNew with rfl
        right
        dsimp only
        rw [bytes_prependEth (Nat.le_of_not_lt enough) sized iface.macSize]
        apply List.drop_left'
        simp [ethHeader, iface.macSize, ethAlen, ethHlen, ethTypeNso]

theorem adds_sentOn {dest : L2addr} (showing : pkt.Shows message) (isOk : ok pkt.bytes) :
    Adds ok node (node.sentOn iface pkt dest) := by
  have sized : 0 ≤ pkt.byteLen := (Int.natCast_nonneg _).trans showing.header
  constructor
  · intro entry isMem
    rcases mem_air_sentOn showing isMem with old | isFrame
    · exact .inl old
    · rcases mem_air_sentOn_bytes sized isMem with old | bytes
      · exact .inl old
      · rw [← bytes] at isOk
        exact .inr ⟨iface.ifMac, message, isFrame, isOk⟩
  · rw [vnfTx_sentOn]
    exact fun entry isMem => .inl isMem

theorem adds_forwards (showing : pkt.Shows message) (isOk : ok pkt.bytes)
    (forwards : Forwards pkt node after) : Adds ok node after := by
  cases forwards with
  | kept => exact adds_same rfl rfl
  | sent dest route => exact adds_sentOn showing isOk

theorem adds_sendBytes (fd : Nat) (showing : pkt.Shows message) (isOk : ok pkt.bytes) :
    Adds ok node (Bs.sendBytes fd pkt.bytes node) := by
  refine ⟨fun entry isMem => .inl isMem, ?_⟩
  intro entry isMem
  rcases mem_vnfTx_sendBytes isMem with old | ⟨count, isPrefix⟩
  · exact .inl old
  · refine .inr ⟨pkt.bytes, count, isPrefix, ?_, isOk⟩
    have header := showing.header
    rw [Packet.bytes, Memory.length_read]
    omega

theorem AdmitsTsd.shown (tsd : AdmitsTsd ok) (showing : pkt.Shows message)
    (isTsd : message.proto = protoCpVtsd) : ok pkt.bytes := by
  apply tsd
  rw [showing.message]
  exact isTsd

/-! ## What the calls add -/

theorem adds_originates {own : Message → Prop}
    (isOk : ∀ (pkt : Packet) (message : Message), own message → pkt.Shows message → ok pkt.bytes)
    (originates : Originates ifaces own node after) : Adds ok node after := by
  induction originates with
  | quiet unseen => exact adds_routesOnly unseen.toRoutesOnly
  | broadcast isOwn before showing isMessage behind ih =>
      apply ih.trans
      apply Adds.trans _ (adds_routesOnly behind.toRoutesOnly)
      exact adds_sentOn showing (isOk _ _ isMessage showing)
  | forwarded before showing isMessage forwards =>
      apply (adds_routesOnly before.toRoutesOnly).trans
      exact adds_forwards showing (isOk _ _ isMessage showing) forwards

theorem adds_reports (isOk : ∀ pkt : Packet, pkt.Shows message → ok pkt.bytes)
    (reports : Reports message node after) : Adds ok node after := by
  cases reports with
  | quiet unseen => exact adds_routesOnly unseen.toRoutesOnly
  | written fd before showing =>
      apply (adds_routesOnly before.toRoutesOnly).trans
      exact adds_sendBytes fd showing (isOk _ showing)

theorem adds_deviceEffect (tsd : AdmitsTsd ok) (showing : pkt.Shows message) (isOk : ok pkt.bytes)
    (effect : Device.Effect pkt src iface node after) : Adds ok node after := by
  cases effect with
  | quiet unseen => exact adds_routesOnly unseen.toRoutesOnly
  | passed connected isReply notNbr forwards => exact adds_forwards showing isOk forwards
  | beacon connected isTsd isReg toAll forwards =>
      have learns := (@learnsOnly_learnedArp node pkt.srcDevid src).trans
        (@learnsOnly_learnedRoute _ iface pkt.srcDevid pkt.srcDevid)
      have readdressed := showing.setDstDevid node.nsol.gwId
      apply (adds_learns learns).trans
      apply adds_forwards readdressed _ forwards
      exact tsd.shown readdressed (showing.proto.symm.trans isTsd)
  | relayedBeacon connected isTsd isReg toOne downstream forwards =>
      exact (adds_learns (learnsOnly_learnedRoute _ _)).trans (adds_forwards showing isOk forwards)
  | joined isTsd isReply forMe unreg upstream =>
      exact adds_same (air_joined _ _) (vnfTx_joined _ _)
  | neighbour isSon isNbr =>
      exact (adds_learns (learnsOnly_learnedArp _ _)).trans
        (adds_routesOnly (quiet_learnedNbr _ _).toRoutesOnly)
  | routes isSon isRt changes =>
      exact adds_same changes.air changes.vnfTx

theorem adds_bsEffect {origin : Bs.Origin} (tsd : AdmitsTsd ok) (showing : pkt.Shows message)
    (isOk : ok pkt.bytes) (effect : Bs.Effect pkt origin node after) :
    Adds ok node after := by
  cases effect with
  | quiet unseen => exact adds_routesOnly unseen.toRoutesOnly
  | passed notTsd notNbr forwards => exact adds_forwards showing isOk forwards
  | delivered fd notTsd => exact adds_sendBytes fd showing isOk
  | @beacon src iface fd fromAir connected isTsd isReg toAll =>
      have learns := (@learnsOnly_learnedArp node pkt.srcDevid src).trans
        (@learnsOnly_learnedRoute _ iface pkt.srcDevid pkt.srcDevid)
      have readdressed := showing.setDstDevid node.nsol.gwId
      apply (adds_learns learns).trans
      apply adds_sendBytes fd readdressed
      exact tsd.shown readdressed (showing.proto.symm.trans isTsd)
  | relayedBeacon fd fromAir connected isTsd isReg toOne downstream =>
      exact (adds_learns (learnsOnly_learnedRoute _ _)).trans (adds_sendBytes fd showing isOk)
  | joined isTsd isReply forMe unreg => exact adds_same (air_joinedBs _) (vnfTx_joinedBs _)
  | neighbour isSon isNbr =>
      exact (adds_learns (learnsOnly_learnedArp _ _)).trans
        (adds_routesOnly (quiet_learnedNbr _ _).toRoutesOnly)
  | routes isSon isRt changes => exact adds_routesOnly changes

/-- A call of the application adds its own packet. -/
theorem adds_nsoLayerSend (free : TablesFree held) {buf : List UInt8} {dst : Option DeviceId}
    {proto : UInt16}
    (own : ∀ bytes, IsDataPacket node.nsol.devId (dst.getD node.nsol.gwId) proto node.nsol.mtu
      buf bytes → ok bytes) :
    (nsoLayerSend buf dst proto).wp (fun _ _ => True) (.always (Adds ok node)) held node := by
  have unseen : Adds ok node node := adds_same rfl rfl
  rw [wp_nsoLayerSend tolerant_true]
  split
  · exact unseen
  · split
    · cases isMade : makeDataPkt node.env.junk node.nsol buf (dst.getD node.nsol.gwId) proto with
      | none => exact unseen
      | some pkt =>
          rcases shows_makeDataPkt isMade with ⟨type, showing⟩
          apply wp_always_mono _ (nsoLayerFwd_forwards free)
          exact fun after forwards =>
            adds_forwards showing (own _ (isDataPacket_made isMade)) forwards
    · exact unseen

/-! ## Topology reports -/

/-- A report is a control packet with the topology data of the layer. -/
theorem getTopoReportPkt_control (free : TablesFree held) :
    getTopoReportPkt.wp (fun _ _ => True)
      { post := fun pkt atEnd after => atEnd = held ∧ after = node ∧
          ∃ body, topoData node.nsol = some body ∧
            nsohdrSize + 1 + body.length ≤ node.nsol.mtu + tailroom ∧
            pkt = Packet.control node.env.junk node.nsol.mtu node.nsol.devId node.nsol.gwId
              protoCpVson sonMsgTopo body
        halt := fun _ _ after => after = node
        block := fun _ _ after => after = node } held node := by
  have size : (beginControl node.env.junk node.nsol.mtu node.nsol.devId node.nsol.gwId protoCpVson
      sonMsgTopo).size = node.nsol.mtu := rfl
  unfold getTopoReportPkt putBody
  simp only [wp_bind, wp_query, wp_acquire, wp_release, wp_orHalt, wp_ite, wp_pure, wp_halt,
    true_and, free.nbrt, Bool.false_eq_true, if_false, size]
  cases isBody : topoData node.nsol with
  | none => trivial
  | some body =>
      dsimp only
      split
      · rename_i inBuffer
        exact ⟨update_release _ free.nbrt, body, rfl, inBuffer, rfl⟩
      · trivial

/-- The report of a layer. -/
def IsReport (layer : NsoLayer) (junk : Memory) (bytes : List UInt8) : Prop :=
  ∃ body, topoData layer = some body ∧ nsohdrSize + 1 + body.length ≤ layer.mtu + tailroom ∧
    bytes = (Packet.control junk layer.mtu layer.devId layer.gwId protoCpVson sonMsgTopo body).bytes

theorem shows_report {body : List UInt8} {layer : NsoLayer} {junk : Memory}
    (small : layer.mtu + tailroom < 16384)
    (inBuffer : nsohdrSize + 1 + body.length ≤ layer.mtu + tailroom) :
    (Packet.control junk layer.mtu layer.devId layer.gwId protoCpVson sonMsgTopo body).Shows
      ⟨layer.devId, layer.gwId, protoCpVson, some sonMsgTopo⟩ :=
  shows_control junk layer.mtu layer.devId layer.gwId protoCpVson sonMsgTopo body (by omega)
    (by omega)

theorem adds_deviceTopoReport (free : TablesFree held) (small : node.nsol.mtu + tailroom < 16384)
    (own : ∀ bytes, IsReport node.nsol node.env.junk bytes → ok bytes) :
    Device.sonTopoReport.wp (fun _ _ => True) (.always (Adds ok node)) held node := by
  have unseen : Adds ok node node := adds_same rfl rfl
  unfold Device.sonTopoReport
  rw [wp_bind]
  apply wp_mono _ _ _ (getTopoReportPkt_control free)
  · rintro pkt atEnd after ⟨rfl, rfl, body, isBody, inBuffer, rfl⟩
    dsimp only
    rw [wp_bind]
    apply wp_always_mono _ (nsoLayerFwd_forwards free)
    exact fun last forwards =>
      adds_forwards (shows_report small inBuffer) (own _ ⟨body, isBody, inBuffer, rfl⟩) forwards
  · rintro _ _ after rfl
    exact unseen
  · rintro _ _ after rfl
    exact unseen

theorem adds_bsTopoReport (free : TablesFree held) (small : node.nsol.mtu + tailroom < 16384)
    (own : ∀ bytes, IsReport node.nsol node.env.junk bytes → ok bytes) :
    Bs.sonTopoReport.wp (fun _ _ => True) (.always (Adds ok node)) held node := by
  have unseen : Adds ok node node := adds_same rfl rfl
  unfold Bs.sonTopoReport
  rw [wp_bind]
  apply wp_mono _ _ _ (getTopoReportPkt_control free)
  · rintro pkt atEnd after ⟨rfl, rfl, body, isBody, inBuffer, rfl⟩
    dsimp only
    rw [wp_bind, wp_deliverVson tolerant_true]
    exact adds_sendBytes _ (shows_report small inBuffer) (own _ ⟨body, isBody, inBuffer, rfl⟩)
  · rintro _ _ after rfl
    exact unseen
  · rintro _ _ after rfl
    exact unseen

/-! ## Advertisements -/

/-- What a later interface of a station sends: a header in the place of another. -/
inductive Stacked (devId : DeviceId) (ifaces : List NsoIf) : List UInt8 → Prop where
  | second {first second : NsoIf} {others : List NsoIf} {bytes : List UInt8}
      (isFront : ifaces = first :: second :: others) (eight : bytes.take 8 = deviceIdBytes devId) :
      Stacked devId ifaces (ethHeader first.ifMac bcMac ++ bytes)
  | later {first second : NsoIf} (several : 2 ≤ ifaces.length) (isOwn : second ∈ ifaces)
      (bytes : List UInt8) :
      Stacked devId ifaces (ethHeader second.ifMac bcMac ++ (ethHeader first.ifMac bcMac ++ bytes))

/-- A receiver reads the second message of the station, or none that it handles. -/
theorem Stacked.reads {devId : DeviceId} {bytes : List UInt8}
    (stacked : Stacked devId ifaces bytes) :
    secondMessage devId ifaces = some (messageOf bytes) ∨ (messageOf bytes).proto = 0xffff := by
  cases stacked with
  | @second first other others rest isFront eight =>
      left
      have long : 8 ≤ rest.length := by
        have length := congrArg List.length eight
        rw [List.length_take, length_deviceIdBytes] at length
        omega
      rw [isFront, secondMessage, messageOf_behind_header rest long, eight]
  | later several isOwn rest => exact .inr (messageOf_behind_headers _ _ rest).1

theorem Stacked.front {devId : DeviceId} {bytes : List UInt8}
    (stacked : Stacked devId ifaces bytes) :
    2 ≤ ifaces.length ∧ ∃ iface ∈ ifaces, ∃ rest, bytes = ethHeader iface.ifMac bcMac ++ rest := by
  cases stacked with
  | second isFront eight =>
      rw [isFront]
      exact ⟨Nat.le_add_left _ _, _, List.mem_cons_self, _, rfl⟩
  | later several isOwn rest => exact ⟨several, _, isOwn, _, rfl⟩

/-- The frames behind the second one. -/
theorem adds_advertiseOn {devId : DeviceId} (several : 2 ≤ ifaces.length)
    (stacked : ∀ bytes, Stacked devId ifaces bytes → ok bytes) {rest : List NsoIf}
    (areOwn : ∀ iface ∈ rest, iface ∈ ifaces) (header : (nsohdrSize : Int) ≤ pkt.byteLen)
    {first : NsoIf} {bytes : List UInt8} (front : pkt.bytes = ethHeader first.ifMac bcMac ++ bytes)
    (isOk : ok pkt.bytes) :
    (advertiseOn rest pkt).wp (fun _ _ => True) (.always (Adds ok node)) held node := by
  induction rest generalizing pkt first bytes node with
  | nil => exact adds_same rfl rfl
  | cons iface rest ih =>
      rw [advertiseOn, nsoIfBroadcast, wifiBroadcast, wp_bind, wp_wifiSend tolerant_true]
      dsimp only
      rw [List.forall_mem_cons] at areOwn
      have sends : Adds ok node (node.sentOn iface pkt bcMac) := adds_sentOn ⟨header, rfl⟩ isOk
      simp only [nsohdrSize] at header
      rcases Nat.lt_or_ge pkt.data ethHlen with noRoom | room
      · have same : pkt.sentOn iface bcMac = pkt := by
          rw [Packet.sentOn, if_pos noRoom]
        rw [same]
        exact wp_always_mono (fun _ adds => sends.trans adds) (ih areOwn.2 header front isOk)
      · rcases sentOn_bytes room (by omega) iface with ⟨again, byteLen, _⟩
        have isStacked : ok (pkt.sentOn iface bcMac).bytes := by
          rw [again, front]
          exact stacked _ (.later several areOwn.1 bytes)
        refine wp_always_mono (fun _ adds => sends.trans adds) (ih areOwn.2 ?_ again isStacked)
        rw [byteLen]
        simp only [nsohdrSize, ethHlen]
        omega

/-- With a single interface the advertisement adds nothing but advertisements. -/
theorem adds_sonNbrAdvertise
    (own : ∀ bytes, messageOf bytes =
      ⟨node.nsol.devId, bcDeviceId, protoCpVson, some sonMsgNbr⟩ → ok bytes)
    (stacked : ∀ bytes, Stacked node.nsol.devId node.nsol.ifaces bytes → ok bytes) :
    sonNbrAdvertise.wp (fun _ _ => True) (.always (Adds ok node)) held node := by
  apply wp_of_builds getNbrAdvPkt_builds
  · exact fun after unseen => adds_routesOnly unseen.toRoutesOnly
  · intro pkt mid unseen showing isNew
    rw [wp_bind, wp_query]
    refine ⟨trivial, ?_⟩
    rw [unseen.ifaces]
    have isOwn : ok pkt.bytes := own _ showing.message
    have same : Adds ok node mid := adds_routesOnly unseen.toRoutesOnly
    generalize node.nsol.ifaces = ifaces at stacked ⊢
    dsimp only
    rcases ifaces with - | ⟨first, rest⟩
    · exact same
    · rw [advertiseOn, nsoIfBroadcast, wifiBroadcast, wp_bind, wp_wifiSend tolerant_true]
      dsimp only
      have sends := same.trans (@adds_sentOn _ _ _ first _ bcMac showing isOwn)
      rcases rest with - | ⟨second, others⟩
      · exact sends
      · have header := showing.header
        simp only [nsohdrSize] at header
        have room : ethHlen ≤ pkt.data := by
          rw [isNew]
          decide
        rcases sentOn_bytes room (by omega) first with ⟨again, byteLen, _⟩
        have isSecond : ok (pkt.sentOn first bcMac).bytes := by
          rw [again]
          exact stacked _ (.second rfl (take_bytes_of_shows showing))
        apply wp_always_mono (fun _ adds => sends.trans adds)
        apply adds_advertiseOn (Nat.le_add_left _ _) stacked _ _ again isSecond
        · exact fun other isMem => List.mem_cons_of_mem _ isMem
        · rw [byteLen]
          simp only [nsohdrSize, ethHlen]
          omega

end Nrg5
