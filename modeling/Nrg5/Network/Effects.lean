import Nrg5.Network.Message
import Nrg5.Survival.Device
import Nrg5.Survival.BaseStation

/-!
# What one call leaves of a node

Each call of a node ends in one of a few ways, whether it returns, halts or waits:
it changes nothing that decides what the node does for others, it learns from the
message it was given and passes a packet on, or the node joins.  The results about
a network only look at these ways and no more at the code of the handlers.
-/

namespace Nrg5

open LockProg

variable {held : Lock → Bool} {node mid after : Node} {pkt : Packet} {message : Message}
  {iface : NsoIf} {ifaces : List NsoIf} {src : L2addr}

/-! ## Changes that nobody sees -/

/-- Only the routes of the controller and the node's own bookkeeping change. -/
structure RoutesOnly (node after : Node) : Prop where
  devId : after.nsol.devId = node.nsol.devId
  ifaces : after.nsol.ifaces = node.nsol.ifaces
  mtu : after.nsol.mtu = node.nsol.mtu
  gwId : after.nsol.gwId = node.nsol.gwId
  devState : after.nsol.devState = node.nsol.devState
  arpt : after.nsol.arpt = node.nsol.arpt
  localFwdt : after.nsol.localFwdt = node.nsol.localFwdt
  air : after.air = node.air
  vnfTx : after.vnfTx = node.vnfTx

/-- Only the node's own bookkeeping changes. -/
structure Quiet (node after : Node) : Prop extends RoutesOnly node after where
  sonFwdt : after.nsol.sonFwdt = node.nsol.sonFwdt

theorem RoutesOnly.refl (node : Node) : RoutesOnly node node :=
  ⟨rfl, rfl, rfl, rfl, rfl, rfl, rfl, rfl, rfl⟩

theorem RoutesOnly.trans (first : RoutesOnly node mid) (second : RoutesOnly mid after) :
    RoutesOnly node after :=
  ⟨second.devId.trans first.devId, second.ifaces.trans first.ifaces, second.mtu.trans first.mtu,
    second.gwId.trans first.gwId, second.devState.trans first.devState,
    second.arpt.trans first.arpt, second.localFwdt.trans first.localFwdt,
    second.air.trans first.air, second.vnfTx.trans first.vnfTx⟩

theorem Quiet.refl (node : Node) : Quiet node node := ⟨.refl node, rfl⟩

theorem quiet_enqueue (queued : Packet) : Quiet node (node.enqueue queued) :=
  ⟨⟨rfl, rfl, rfl, rfl, rfl, rfl, rfl, rfl, rfl⟩, rfl⟩

theorem quiet_env (env : Env) : Quiet node { node with env := env } :=
  ⟨⟨rfl, rfl, rfl, rfl, rfl, rfl, rfl, rfl, rfl⟩, rfl⟩

theorem quiet_learnedNbr (devId : DeviceId) (nbrIface : Option NsoIf) :
    Quiet node (node.learnedNbr devId nbrIface) := by
  unfold Node.learnedNbr
  cases NbrTable.lookup devId node.nsol.nbrt with
  | some entry => exact ⟨⟨rfl, rfl, rfl, rfl, rfl, rfl, rfl, rfl, rfl⟩, rfl⟩
  | none => exact ⟨⟨rfl, rfl, rfl, rfl, rfl, rfl, rfl, rfl, rfl⟩, rfl⟩

/-! ## Learning -/

/-- Only the ARP table and the temporary routes change. -/
structure LearnsOnly (node after : Node) : Prop where
  devId : after.nsol.devId = node.nsol.devId
  ifaces : after.nsol.ifaces = node.nsol.ifaces
  mtu : after.nsol.mtu = node.nsol.mtu
  gwId : after.nsol.gwId = node.nsol.gwId
  devState : after.nsol.devState = node.nsol.devState
  sonFwdt : after.nsol.sonFwdt = node.nsol.sonFwdt
  air : after.air = node.air
  vnfTx : after.vnfTx = node.vnfTx

theorem LearnsOnly.trans (first : LearnsOnly node mid) (second : LearnsOnly mid after) :
    LearnsOnly node after :=
  ⟨second.devId.trans first.devId, second.ifaces.trans first.ifaces, second.mtu.trans first.mtu,
    second.gwId.trans first.gwId, second.devState.trans first.devState,
    second.sonFwdt.trans first.sonFwdt, second.air.trans first.air,
    second.vnfTx.trans first.vnfTx⟩

theorem learnsOnly_learnedArp (devId : DeviceId) (mac : L2addr) :
    LearnsOnly node (node.learnedArp devId mac) := by
  unfold Node.learnedArp
  cases ArpTable.lookupFromDevId devId node.nsol.arpt with
  | some entry => exact ⟨rfl, rfl, rfl, rfl, rfl, rfl, rfl, rfl⟩
  | none => exact ⟨rfl, rfl, rfl, rfl, rfl, rfl, rfl, rfl⟩

theorem learnsOnly_learnedRoute (dest nxthop : DeviceId) :
    LearnsOnly node (node.learnedRoute dest nxthop iface) := by
  unfold Node.learnedRoute
  cases FwdTable.lookup dest node.nsol.localFwdt with
  | some entry => exact ⟨rfl, rfl, rfl, rfl, rfl, rfl, rfl, rfl⟩
  | none => exact ⟨rfl, rfl, rfl, rfl, rfl, rfl, rfl, rfl⟩

/-! ## Passing a packet on -/

/-- The packet goes out on the interface of a route, or it does not go out. -/
inductive Forwards (pkt : Packet) (node : Node) : Node → Prop where
  | kept : Forwards pkt node node
  | sent {nxt : DeviceId} {iface : NsoIf} (dest : L2addr)
      (route : node.nsol.route pkt.dstDevid = some (nxt, iface)) :
      Forwards pkt node (node.sentOn iface pkt dest)

/-- Without a route, or without the address of the next hop, nothing goes out. -/
theorem nsoLayerFwd_forwards (free : TablesFree held) :
    (nsoLayerFwd pkt).wp (fun _ _ => True) (.always (Forwards pkt node)) held node := by
  rw [wp_nsoLayerFwd tolerant_true free.sonFwdt free.localFwdt]
  cases route : node.nsol.route pkt.dstDevid with
  | none => cases node.env.stackAddr <;> exact .kept
  | some found =>
      rcases found with ⟨nxt, iface⟩
      dsimp only
      cases held .arpt with
      | true => exact .kept
      | false =>
          simp only [Bool.false_eq_true, if_false]
          cases ArpTable.lookupFromDevId nxt node.nsol.arpt with
          | none => cases node.env.stackAddr <;> exact .kept
          | some entry => exact .sent entry.l2addr route

theorem deliverFwd_forwards (free : TablesFree held) :
    (deliverFwd pkt).wp (fun _ _ => True) (.always (Forwards pkt node)) held node := by
  rw [wp_deliverFwd]
  exact nsoLayerFwd_forwards free

@[simp]
theorem nsol_sentOn (iface : NsoIf) (dest : L2addr) :
    (node.sentOn iface pkt dest).nsol = node.nsol := by
  simp only [Node.sentOn, Node.sendFrame]
  split
  · rfl
  · split <;> rfl

@[simp]
theorem vnfTx_sentOn (iface : NsoIf) (dest : L2addr) :
    (node.sentOn iface pkt dest).vnfTx = node.vnfTx := by
  simp only [Node.sentOn, Node.sendFrame]
  split
  · rfl
  · split <;> rfl

/-- What a send leaves in the air: one more frame, with the message of the packet. -/
theorem mem_air_sentOn {iface : NsoIf} {dest : L2addr} (showing : pkt.Shows message)
    {entry : Nat × List UInt8} (isMem : entry ∈ (node.sentOn iface pkt dest).air) :
    entry ∈ node.air ∨ IsFrame iface.ifMac message entry.2 := by
  simp only [Node.sentOn, Node.sendFrame] at isMem
  split at isMem
  · exact .inl isMem
  · rename_i enough
    split at isMem
    · exact .inl isMem
    · rcases List.mem_append.mp isMem with old | isNew
      · exact .inl old
      · rcases List.mem_singleton.mp isNew with rfl
        exact .inr (isFrame_prependEth showing (Nat.le_of_not_lt enough) iface.macSize)

theorem mem_vnfTx_sendBytes {fd : Nat} {entry : Nat × List UInt8} {bytes : List UInt8}
    (isMem : entry ∈ (Bs.sendBytes fd bytes node).vnfTx) :
    entry ∈ node.vnfTx ∨ ∃ count, entry.2 = bytes.take count := by
  simp only [Bs.sendBytes] at isMem
  rcases List.mem_append.mp isMem with old | isNew
  · exact .inl old
  · rcases List.mem_singleton.mp isNew with rfl
    cases node.env.sendAccepts with
    | none => exact .inr ⟨bytes.length, (List.take_length).symm⟩
    | some count => exact .inr ⟨count, rfl⟩

/-- A connection that takes the type byte takes the message. -/
theorem messageOf_accepted {bytes : List UInt8} {count : Nat}
    (typed : nsohdrSize < (bytes.take count).length) :
    messageOf (bytes.take count) = messageOf bytes := by
  apply messageOf_take
  rw [List.length_take] at typed
  omega

@[simp]
theorem nsol_sendBytes (fd : Nat) (bytes : List UInt8) :
    (Bs.sendBytes fd bytes node).nsol = node.nsol := rfl

theorem nsol_forwards (forwards : Forwards pkt node after) : after.nsol = node.nsol := by
  cases forwards with
  | kept => rfl
  | sent dest route => exact nsol_sentOn _ dest

/-- The node sends messages of its own, or it only does its bookkeeping. -/
inductive Originates (ifaces : List NsoIf) (own : Message → Prop) (node : Node) : Node → Prop where
  | quiet {after : Node} (unseen : Quiet node after) : Originates ifaces own node after
  | broadcast {iface : NsoIf} {pkt : Packet} {message : Message} {mid after : Node}
      (isOwn : iface ∈ ifaces) (before : Originates ifaces own node mid)
      (showing : pkt.Shows message) (isMessage : own message)
      (behind : Quiet (mid.sentOn iface pkt bcMac) after) : Originates ifaces own node after
  | forwarded {pkt : Packet} {message : Message} {mid after : Node} (before : Quiet node mid)
      (showing : pkt.Shows message) (isMessage : own message) (forwards : Forwards pkt mid after) :
      Originates ifaces own node after

theorem Originates.mono {ifaces : List NsoIf} {strong weak : Message → Prop}
    (implies : ∀ message, strong message → weak message)
    (originates : Originates ifaces strong node after) : Originates ifaces weak node after := by
  induction originates with
  | quiet unseen => exact .quiet unseen
  | broadcast isOwn before showing isMessage behind ih =>
      exact .broadcast isOwn ih showing (implies _ isMessage) behind
  | forwarded before showing isMessage forwards =>
      exact .forwarded before showing (implies _ isMessage) forwards

/-- The base station writes a message of its own to a network function, or it only does its
bookkeeping. -/
inductive Reports (message : Message) (node : Node) : Node → Prop where
  | quiet {after : Node} (unseen : Quiet node after) : Reports message node after
  | written {pkt : Packet} {mid : Node} (fd : Nat) (before : Quiet node mid)
      (showing : pkt.Shows message) : Reports message node (Bs.sendBytes fd pkt.bytes mid)

/-! ## Messages that a node builds -/

/-- The call builds a packet with a message, and only does bookkeeping. -/
def builds (message : Message) (held : Lock → Bool) (node : Node) :
    Ending Node Lock Halt Packet :=
  { post := fun pkt atEnd after =>
      atEnd = held ∧ Quiet node after ∧ pkt.Shows message ∧ pkt.data = headroom
    halt := fun _ _ after => Quiet node after
    block := fun _ _ after => Quiet node after }

theorem putBody_builds (unseen : Quiet node mid) (junk : ByteMemory.Memory) (mtu : Nat)
    (src dst : DeviceId) (proto : UInt16) (type : UInt8) {body : List UInt8}
    (fits : nsohdrSize + 1 + body.length ≤ mtu + tailroom →
      nsohdrSize + 1 + body.length < 16384) :
    (putBody (beginControl junk mtu src dst proto type) body).wp (fun _ _ => True)
      (builds ⟨src, dst, proto, some type⟩ held node) held mid := by
  unfold putBody
  rw [wp_ite]
  split
  · rename_i inBuffer
    rw [wp_pure]
    exact ⟨rfl, unseen, shows_control junk mtu src dst proto type body (by omega) (fits inBuffer),
      rfl⟩
  · exact unseen

/-- A registration packet: its body is at most the array of the credentials. -/
theorem getRegPkt_builds (dst : DeviceId) (type : UInt8) :
    (getRegPkt dst type).wp (fun _ _ => True)
      (builds ⟨node.nsol.devId, dst, protoCpVtsd, some type⟩ held node) held node := by
  have ready : ∀ mid, Quiet node mid →
      (if 0 ≤ mid.nsol.aaaCredSize ∧ mid.nsol.aaaCredSize ≤ aaaRegCredSize then
        (putBody (beginControl node.env.junk node.nsol.mtu node.nsol.devId dst protoCpVtsd type)
          (mid.nsol.aaaRegCred.read 0 mid.nsol.aaaCredSize.toNat)).wp (fun _ _ => True)
          (builds ⟨node.nsol.devId, dst, protoCpVtsd, some type⟩ held node) held mid
      else (builds ⟨node.nsol.devId, dst, protoCpVtsd, some type⟩ held node).halt .outOfBounds
        held mid) := by
    intro mid unseen
    split
    · rename_i credentials
      simp only [aaaRegCredSize] at credentials
      apply putBody_builds unseen
      intro _
      simp only [nsohdrSize, ByteMemory.Memory.length_read]
      omega
    · exact unseen
  unfold getRegPkt ensureCredentials aaaGetCredentials
  simp only [wp_bind, wp_query, wp_ite, wp_pure, wp_modify, wp_halt, true_and]
  split
  · split
    · exact ready _ ⟨⟨rfl, rfl, rfl, rfl, rfl, rfl, rfl, rfl, rfl⟩, rfl⟩
    · exact Quiet.refl node
  · exact ready node (.refl node)

/-- A topology report fills at most the buffer, which the length field can count. -/
theorem getTopoReportPkt_builds (free : TablesFree held)
    (small : node.nsol.mtu + tailroom < 16384) :
    getTopoReportPkt.wp (fun _ _ => True)
      (builds ⟨node.nsol.devId, node.nsol.gwId, protoCpVson, some sonMsgTopo⟩ held node)
      held node := by
  unfold getTopoReportPkt
  simp only [wp_bind, wp_query, wp_acquire, wp_release, wp_orHalt, true_and, free.nbrt,
    Bool.false_eq_true, if_false]
  cases topoData node.nsol with
  | none => exact Quiet.refl node
  | some body =>
      simp only [update_release _ free.nbrt]
      apply putBody_builds (.refl node)
      omega

/-- An advertisement is a header and its type. -/
theorem getNbrAdvPkt_builds :
    getNbrAdvPkt.wp (fun _ _ => True)
      (builds ⟨node.nsol.devId, bcDeviceId, protoCpVson, some sonMsgNbr⟩ held node)
      held node := by
  unfold getNbrAdvPkt
  simp only [wp_bind, wp_query, wp_pure, true_and]
  have showing := @shows_control node.env.junk node.nsol.mtu node.nsol.devId bcDeviceId protoCpVson
    sonMsgNbr [] (nsohdrSize + 1) (by decide) (by decide)
  rw [put_nil] at showing
  exact ⟨rfl, .refl node, showing, rfl⟩

/-- What is sent behind the building of a packet is about the packet that was built. -/
theorem wp_of_builds {build : Prog Packet} {next : Packet → Prog Unit} {inv : Node → Prop}
    (isBuilt : build.wp (fun _ _ => True) (builds message held node) held node)
    (unseen : ∀ after, Quiet node after → inv after)
    (goesOn : ∀ pkt mid, Quiet node mid → pkt.Shows message → pkt.data = headroom →
      (next pkt).wp (fun _ _ => True) (.always inv) held mid) :
    (build >>= next).wp (fun _ _ => True) (.always inv) held node := by
  rw [wp_bind]
  apply wp_mono _ _ _ isBuilt
  · rintro pkt atEnd mid ⟨rfl, quiet, showing, isNew⟩
    exact goesOn pkt mid quiet showing isNew
  · exact fun _ _ after quiet => unseen after quiet
  · exact fun _ _ after quiet => unseen after quiet

/-! ## The calls of the transmission thread and of the application -/

theorem environment_quiet (env : Env) :
    (modify .layer fun node => { node with env := env } : Prog Unit).wp (fun _ _ => True)
      (.always (Quiet node)) held node :=
  ⟨trivial, quiet_env env⟩

theorem deviceTopoReport_originates (free : TablesFree held)
    (small : node.nsol.mtu + tailroom < 16384) :
    Device.sonTopoReport.wp (fun _ _ => True)
      (.always (Originates ifaces
        (· = ⟨node.nsol.devId, node.nsol.gwId, protoCpVson, some sonMsgTopo⟩) node)) held node := by
  apply wp_of_builds (getTopoReportPkt_builds free small)
  · exact fun after unseen => .quiet unseen
  · intro pkt mid unseen showing _
    rw [wp_bind]
    exact wp_always_mono (fun after forwards => .forwarded unseen showing rfl forwards)
      (nsoLayerFwd_forwards free)

theorem bsTopoReport_reports (free : TablesFree held) (small : node.nsol.mtu + tailroom < 16384) :
    Bs.sonTopoReport.wp (fun _ _ => True)
      (.always (Reports ⟨node.nsol.devId, node.nsol.gwId, protoCpVson, some sonMsgTopo⟩ node))
      held node := by
  apply wp_of_builds (getTopoReportPkt_builds free small)
  · exact fun after unseen => .quiet unseen
  · intro pkt mid unseen showing _
    rw [wp_bind, wp_deliverVson tolerant_true]
    exact .written _ unseen showing

theorem tsdBsReg_reports :
    Bs.tsdBsReg.wp (fun _ _ => True)
      (.always (Reports ⟨node.nsol.devId, node.nsol.devId, protoCpVtsd, some tsdMsgBsReg⟩ node))
      held node := by
  have sends := @wp_of_builds held _ _ _ (fun pkt => do let _ ← Bs.deliverVtsd pkt)
    (Reports ⟨node.nsol.devId, node.nsol.devId, protoCpVtsd, some tsdMsgBsReg⟩ node)
    (getRegPkt_builds node.nsol.devId tsdMsgBsReg)
    (fun after unseen => .quiet unseen) fun pkt mid unseen showing _ => by
      rw [wp_bind, wp_deliverVtsd tolerant_true]
      exact .written _ unseen showing
  rw [wp_bind] at sends
  unfold Bs.tsdBsReg Bs.getBsRegPkt
  rw [wp_bind, wp_bind, wp_query]
  exact ⟨trivial, sends⟩

/-- A beacon goes out on one interface at a time. -/
theorem tsdBroadcastBeacons_originates :
    Device.tsdBroadcastBeacons.wp (fun _ _ => True)
      (.always (Originates node.nsol.ifaces
        (· = ⟨node.nsol.devId, bcDeviceId, protoCpVtsd, some tsdMsgReg⟩) node)) held node := by
  apply wp_of_builds (getRegPkt_builds _ _)
  · exact fun after unseen => .quiet unseen
  · intro pkt mid unseen showing _
    simp only [ifaceAt, wp_bind, wp_query, wp_ite, wp_pure, wp_halt, wp_orHalt, true_and]
    split
    · rw [unseen.ifaces]
      cases slot : node.nsol.ifaces[mid.nsol.tsdIfIndex]? with
      | none => exact .quiet unseen
      | some iface =>
          simp only [nsoIfBroadcast, wifiBroadcast, wp_wifiSend tolerant_true, wp_modify, true_and]
          exact .broadcast (List.mem_of_getElem? slot) (.quiet unseen) showing rfl
            ⟨⟨rfl, rfl, rfl, rfl, rfl, rfl, rfl, rfl, rfl⟩, rfl⟩
    · exact .quiet unseen

/-- A call of the application sends one packet in the name of the node. -/
theorem nsoLayerSend_originates (free : TablesFree held) (buf : List UInt8)
    (dst : Option DeviceId) (proto : UInt16) :
    (nsoLayerSend buf dst proto).wp (fun _ _ => True)
      (.always (Originates ifaces
        (fun message => ∃ type, message = ⟨node.nsol.devId, dst.getD node.nsol.gwId, proto, type⟩)
        node)) held node := by
  have unseen : Originates ifaces
      (fun message => ∃ type, message = ⟨node.nsol.devId, dst.getD node.nsol.gwId, proto, type⟩)
      node node := .quiet (.refl node)
  rw [wp_nsoLayerSend tolerant_true]
  split
  · exact unseen
  · split
    · cases isMade : makeDataPkt node.env.junk node.nsol buf (dst.getD node.nsol.gwId) proto with
      | none => exact unseen
      | some pkt =>
          rcases shows_makeDataPkt isMade with ⟨type, showing⟩
          exact wp_always_mono
            (fun after forwards => .forwarded (.refl node) showing ⟨type, rfl⟩ forwards)
            (nsoLayerFwd_forwards free)
    · exact unseen

/-- What the application takes from the queue shows nowhere else. -/
theorem nsoLayerRecv_quiet (free : TablesFree held) (size : Nat) :
    (nsoLayerRecv size).wp (fun _ _ => True) (.always (Quiet node)) held node := by
  have dequeued : Quiet node (Node.dequeue node) :=
    ⟨⟨rfl, rfl, rfl, rfl, rfl, rfl, rfl, rfl, rfl⟩, rfl⟩
  rw [wp_nsoLayerRecv tolerant_true free.data]
  split
  · exact .refl node
  · split
    · cases node.nsol.dataPq with
      | nil => exact .refl node
      | cons queued rest =>
          dsimp only
          cases readData queued size <;> exact dequeued
    · exact .refl node

/-! ## The handler of a protocol -/

theorem dispatch_tsd {proto : UInt16} (isTsd : dispatch proto = .tsd) : proto = protoCpVtsd := by
  unfold dispatch at isTsd
  split at isTsd
  · assumption
  · split at isTsd <;> simp at isTsd

theorem dispatch_son {proto : UInt16} (isSon : dispatch proto = .son) : proto = protoCpVson := by
  unfold dispatch at isSon
  split at isSon
  · simp at isSon
  · split at isSon
    · assumption
    · simp at isSon

/-- A data packet is one of neither control protocol. -/
theorem dispatch_data {proto : UInt16} (isData : dispatch proto = .data) :
    proto ≠ protoCpVtsd ∧ proto ≠ protoCpVson := by
  unfold dispatch at isData
  split at isData
  · simp at isData
  · split at isData
    · simp at isData
    · rename_i notTsd notSon
      exact ⟨notTsd, notSon⟩

theorem son_ne_tsd : protoCpVson ≠ protoCpVtsd := by decide

theorem isBroadcastDevId_of_ne {devId : DeviceId} (other : devId ≠ bcDeviceId) :
    isBroadcastDevId devId = false := by
  cases isAll : isBroadcastDevId devId with
  | false => rfl
  | true => exact absurd ((isBroadcastDevId_iff devId).mp isAll) other

/-! ## Route updates -/

theorem routesOnly_blind : BlindToRoutes RoutesOnly :=
  ⟨.refl, .trans, fun _ _ _ => ⟨rfl, rfl, rfl, rfl, rfl, rfl, rfl, rfl, rfl⟩⟩

/-- A route update changes the routes of the controller, or goes on to another node. -/
theorem routeUpdateWith_ends (free : TablesFree held) {accept : Prog Bool}
    {promote : Node → Node} {inv : Node → Prop}
    (admits : ∀ ending : Ending Node Lock Halt Bool,
      accept.wp (fun _ _ => True) ending held node =
        if held .state = true then ending.block .state held node
        else ending.post (decide (node.nsol.devState ≠ .unreg)) held (promote node))
    (dropped : inv node) (changed : ∀ after, RoutesOnly (promote node) after → inv after)
    (passed : node.nsol.devState = .connected → ∀ after, Forwards pkt node after → inv after) :
    (routeUpdateWith accept pkt).wp (fun _ _ => True) (.always inv) held node := by
  rw [wp_routeUpdateWith tolerant_true admits, ite_prop_iff_and]
  refine ⟨fun forMe => ?_, fun notForMe => ?_⟩
  · cases held .state with
    | true => exact dropped
    | false =>
        simp only [Bool.false_eq_true, if_false]
        by_cases unreg : node.nsol.devState = .unreg
        · rw [if_pos unreg]
          exact changed _ (.refl _)
        · rw [if_neg unreg]
          exact wp_always_mono changed routesOnly_blind.updateRoutes
  · refine ite_connected dropped fun connected => ?_
    exact wp_always_mono (passed connected) (deliverFwd_forwards free)

end Nrg5
