import Nrg5.DataRoundTrip
import Nrg5.LockBalance

/-!
# The results of sending

A packet can be lost at three places: no route leads to its destination, the next hop has no
ARP entry, or the interface refuses the frame.  `nso_layer_fwd` reports the first two and drops
the answer of `nso_if_send`; `nso_layer_send` drops the answer of `nso_layer_fwd`.
-/

namespace Nrg5

open LockProg

/-- The controller's routes, else the temporary ones, lead to a next hop, and its ARP entry can
be looked up. -/
structure Resolves (held : Lock → Bool) (node : Node) (dst nxt : DeviceId) (iface : NsoIf)
    (entry : ArpEntry) : Prop where
  route : node.nsol.route dst = some (nxt, iface)
  arptFree : held .arpt = false
  known : ArpTable.lookupFromDevId nxt node.nsol.arpt = some entry

/-- The interface of the route accepts the frame to the MAC of the next hop. -/
def PacketLeaves (held : Lock → Bool) (node : Node) (pkt : Packet) : Prop :=
  ∃ nxt iface entry sent, Resolves held node pkt.dstDevid nxt iface entry ∧
    ((nsoIfSend iface pkt entry.l2addr).exec held node).result = .done (0, sent)

/-- `nso_layer_fwd` returns 0 for the packets that leave, and for no others. -/
def FwdReports (held : Lock → Bool) (node : Node) (pkt : Packet) : Prop :=
  (∃ sent, ((nsoLayerFwd pkt).exec held node).result = .done (0, sent)) ↔
    PacketLeaves held node pkt

/-- `nso_layer_send` returns, with a count when the packet that it built leaves, and with a
negative number otherwise. -/
def SendReports (held : Lock → Bool) (node : Node) (buf : List UInt8) (dst : Option DeviceId)
    (proto : UInt16) : Prop :=
  ∃ value, ((nsoLayerSend buf dst proto).exec held node).result = .done value ∧
    (0 ≤ (value : Int) ↔ ∃ pkt,
      makeDataPkt node.env.junk node.nsol buf (dst.getD node.nsol.gwId) proto = some pkt ∧
        PacketLeaves held node pkt)

variable {held : Lock → Bool} {node : Node} {pkt : Packet} {iface : NsoIf} {mac : L2addr}

/-! ## The three layers -/

theorem nsoIfSend_result :
    ((nsoIfSend iface pkt mac).exec held node).result =
      .done (if pkt.data < ethHlen ∨ node.env.sendtoFails = true then -1 else 0,
        pkt.sentOn iface mac) := by
  have ends : (nsoIfSend iface pkt mac).wp (fun _ _ => True)
      { post := fun value _ _ =>
          value = (if pkt.data < ethHlen ∨ node.env.sendtoFails = true then -1 else 0,
            pkt.sentOn iface mac) } held node := by
    rw [nsoIfSend, wp_wifiSend tolerant_true]
  rcases (wp_done_iff_exec _ _).mp ends with ⟨_, value, isDone, rfl⟩
  exact isDone

theorem nsoIfSend_accepts_iff :
    (∃ sent, ((nsoIfSend iface pkt mac).exec held node).result = .done (0, sent)) ↔
      ethHlen ≤ pkt.data ∧ node.env.sendtoFails = false := by
  rw [nsoIfSend_result]
  split
  · rename_i refused
    constructor
    · rintro ⟨sent, isZero⟩
      simp at isZero
    · rintro ⟨room, accepts⟩
      rcases refused with short | fails
      · exact absurd room (Nat.not_le.mpr short)
      · exact absurd (accepts.symm.trans fails) Bool.false_ne_true
  · rename_i accepted
    push Not at accepted
    refine ⟨fun _ => ⟨accepted.1, by simpa using accepted.2⟩, fun _ => ⟨_, rfl⟩⟩

theorem packetLeaves_iff :
    PacketLeaves held node pkt ↔
      (∃ nxt iface entry, Resolves held node pkt.dstDevid nxt iface entry) ∧
        ethHlen ≤ pkt.data ∧ node.env.sendtoFails = false := by
  constructor
  · rintro ⟨nxt, iface, entry, sent, resolves, accepted⟩
    exact ⟨⟨nxt, iface, entry, resolves⟩, nsoIfSend_accepts_iff.mp ⟨sent, accepted⟩⟩
  · rintro ⟨⟨nxt, iface, entry, resolves⟩, accepts⟩
    rcases nsoIfSend_accepts_iff.mpr accepts with ⟨sent, accepted⟩
    exact ⟨nxt, iface, entry, sent, resolves, accepted⟩

/-- `nso_layer_fwd` returns 0 as soon as it has an ARP entry. -/
theorem nsoLayerFwd_zero_iff (sonFree : held .sonFwdt = false)
    (localFree : held .localFwdt = false) :
    (∃ sent, ((nsoLayerFwd pkt).exec held node).result = .done (0, sent)) ↔
      ∃ nxt iface entry, Resolves held node pkt.dstDevid nxt iface entry := by
  constructor
  · rintro ⟨sent, isZero⟩
    have ends : (nsoLayerFwd pkt).wp (fun _ _ => True)
        { post := fun value _ _ => value.1 = (0 : Int) →
            ∃ nxt iface entry, Resolves held node pkt.dstDevid nxt iface entry
          halt := fun _ _ _ => True
          block := fun _ _ _ => True } held node := by
      rw [wp_nsoLayerFwd tolerant_true sonFree localFree]
      cases routed : node.nsol.route pkt.dstDevid with
      | none =>
          dsimp only
          cases node.env.stackAddr with
          | null => simp
          | wild => trivial
      | some found =>
          rcases found with ⟨nxt, iface⟩
          dsimp only
          split
          · trivial
          · rename_i notHeld
            cases known : ArpTable.lookupFromDevId nxt node.nsol.arpt with
            | none =>
                dsimp only
                cases node.env.stackAddr with
                | null => simp
                | wild => trivial
            | some entry =>
                exact fun _ => ⟨nxt, iface, entry, ⟨routed, by simpa using notHeld, known⟩⟩
    have atEnd := ((wp_iff_exec _ _).mp ends).2
    rw [Ending.Holds, isZero] at atEnd
    exact atEnd rfl
  · rintro ⟨nxt, iface, entry, resolves⟩
    have ends : (nsoLayerFwd pkt).wp (fun _ _ => True)
        { post := fun value _ _ => value.1 = (0 : Int) } held node := by
      rw [wp_nsoLayerFwd tolerant_true sonFree localFree, resolves.route]
      dsimp only
      rw [resolves.arptFree, if_neg Bool.false_ne_true, resolves.known]
    rcases (wp_done_iff_exec _ _).mp ends with ⟨_, ⟨code, sent⟩, isDone, isZero⟩
    dsimp only at isZero
    rw [isZero] at isDone
    exact ⟨sent, isDone⟩

theorem fwdReports_iff (sonFree : held .sonFwdt = false) (localFree : held .localFwdt = false) :
    FwdReports held node pkt ↔
      ((∃ nxt iface entry, Resolves held node pkt.dstDevid nxt iface entry) →
        ethHlen ≤ pkt.data ∧ node.env.sendtoFails = false) := by
  rw [FwdReports, nsoLayerFwd_zero_iff sonFree localFree, packetLeaves_iff]
  exact iff_self_and

/-! ## The call of the application -/

section Send

variable {buf : List UInt8} {dst : Option DeviceId} {proto : UInt16}

/-- The length that is stored holds a header, the destination is resolved, and `sendto` takes
the frame. -/
structure Deliverable (held : Lock → Bool) (node : Node) (size : Nat) (dst : DeviceId) : Prop where
  header : nsohdrSize ≤ storedLength node.nsol.mtu size
  resolves : ∃ nxt iface entry, Resolves held node dst nxt iface entry
  accepts : node.env.sendtoFails = false

theorem data_makeDataPkt {junk : ByteMemory.Memory} {layer : NsoLayer} {target : DeviceId}
    (isMade : makeDataPkt junk layer buf target proto = some pkt) : pkt.data = headroom := by
  rw [makeDataPkt_eq] at isMade
  dsimp only at isMade
  split at isMade
  · rcases @sizedHeader_eq junk layer target proto buf.length with ⟨word, isHeader⟩
    rw [← Option.some.inj isMade, Packet.data_swapLenVer, Packet.data_incLen, Packet.put_data,
      isHeader]
    rfl
  · simp at isMade

theorem dataPkt_leaves_iff :
    (∃ pkt, makeDataPkt node.env.junk node.nsol buf (dst.getD node.nsol.gwId) proto = some pkt ∧
        PacketLeaves held node pkt) ↔
      Deliverable held node buf.length (dst.getD node.nsol.gwId) := by
  constructor
  · rintro ⟨pkt, isMade, leaves⟩
    rcases packetLeaves_iff.mp leaves with ⟨resolves, -, accepts⟩
    rcases Nat.lt_or_ge (storedLength node.nsol.mtu buf.length) nsohdrSize with short | header
    · rw [makeDataPkt_none short] at isMade
      simp at isMade
    · rcases @makeDataPkt_some node.env.junk _ _ (dst.getD node.nsol.gwId) proto header with
        ⟨made, isSome, carries⟩
      rcases Option.some.inj (isSome.symm.trans isMade) with rfl
      rw [carries.dst] at resolves
      exact ⟨header, resolves, accepts⟩
  · rintro ⟨header, resolves, accepts⟩
    rcases @makeDataPkt_some node.env.junk _ _ (dst.getD node.nsol.gwId) proto header with
      ⟨pkt, isMade, carries⟩
    refine ⟨pkt, isMade, packetLeaves_iff.mpr ⟨?_, ?_, accepts⟩⟩
    · rw [carries.dst]
      exact resolves
    · rw [data_makeDataPkt isMade]
      decide

theorem sendReports_iff (stateFree : held .state = false) (sonFree : held .sonFwdt = false)
    (localFree : held .localFwdt = false) (connected : node.nsol.devState = .connected) :
    SendReports held node buf dst proto ↔
      Deliverable held node buf.length (dst.getD node.nsol.gwId) := by
  rw [← @dataPkt_leaves_iff held node buf dst proto]
  constructor
  · rintro ⟨value, -, reports⟩
    exact reports.mp (Int.natCast_nonneg value)
  · rintro ⟨pkt, isMade, leaves⟩
    rcases packetLeaves_iff.mp leaves with ⟨⟨nxt, iface, entry, resolves⟩, -⟩
    have ends : (nsoLayerSend buf dst proto).wp (fun _ _ => True)
        { post := fun _ _ _ => True } held node := by
      rw [wp_nsoLayerSend tolerant_true, stateFree, if_neg Bool.false_ne_true, if_pos connected,
        isMade]
      dsimp only
      rw [wp_nsoLayerFwd tolerant_true sonFree localFree, resolves.route]
      dsimp only
      rw [resolves.arptFree, if_neg Bool.false_ne_true, resolves.known]
      trivial
    rcases (wp_done_iff_exec _ _).mp ends with ⟨_, value, isDone, -⟩
    exact ⟨value, isDone, fun _ => ⟨pkt, isMade, leaves⟩, fun _ => Int.natCast_nonneg value⟩

end Send

/-- The result of `nso_layer_fwd` is right unless the destination is resolved and the interface
refuses the frame; the result of `nso_layer_send` is right exactly when the packet leaves. -/
theorem send_results_iff (held : Lock → Bool) (node : Node) (stateFree : held .state = false)
    (sonFree : held .sonFwdt = false) (localFree : held .localFwdt = false)
    (connected : node.nsol.devState = .connected) :
    (∀ pkt, FwdReports held node pkt ↔
      ((∃ nxt iface entry, Resolves held node pkt.dstDevid nxt iface entry) →
        ethHlen ≤ pkt.data ∧ node.env.sendtoFails = false)) ∧
    ∀ buf dst proto, SendReports held node buf dst proto ↔
      Deliverable held node buf.length (dst.getD node.nsol.gwId) :=
  ⟨fun _ => fwdReports_iff sonFree localFree,
    fun _ _ _ => sendReports_iff stateFree sonFree localFree connected⟩

/-! ### An interface that refuses -/

/-- The device with a route and an ARP entry, where `sendto` fails. -/
def refusingNode : Node :=
  { resolvedNode with env := { resolvedNode.env with sendtoFails := true } }

theorem dstDevid_pktFor (devId : DeviceId) : (pktFor devId).dstDevid = devId :=
  Packet.dstDevid_setDstDevid devId

theorem refusingNode_resolves :
    Resolves (fun _ => false) refusingNode 5 7 wlan0 ⟨1, 7, [2, 0, 0, 0, 0, 7], .active⟩ := by
  constructor
  · have sameLayer : refusingNode.nsol = resolvedNode.nsol := rfl
    have routed := orphanNode_route
    rw [dstDevid_pktFor] at routed
    rw [sameLayer, resolvedNode, route_updateArpt, routed]
  · rfl
  · exact ArpTable.lookupFromDevId_add.trans (if_pos rfl)

/-- The call reports the three bytes of a packet that the interface refused. -/
theorem refused_packet_counted :
    refusingNode.nsol.devState = .connected ∧
      ¬ FwdReports (fun _ => false) refusingNode (pktFor 5) ∧
      ¬ SendReports (fun _ => false) refusingNode [1, 2, 3] (some 5) 0x0800 := by
  refine ⟨rfl, ?_, ?_⟩
  · rw [fwdReports_iff rfl rfl]
    intro reports
    rw [dstDevid_pktFor] at reports
    have accepts := (reports ⟨_, _, _, refusingNode_resolves⟩).2
    exact absurd accepts (by decide)
  · rw [sendReports_iff rfl rfl rfl rfl]
    intro deliverable
    exact absurd deliverable.accepts (by decide)

theorem resolved_packet_counted :
    SendReports (fun _ => false) resolvedNode [1, 2, 3] (some 5) 0x0800 :=
  ((send_results_iff (fun _ => false) resolvedNode rfl rfl rfl rfl).2 _ _ _).mpr
    ⟨by decide, ⟨_, _, _, refusingNode_resolves.route, rfl, refusingNode_resolves.known⟩, rfl⟩

end Nrg5
