import Nrg5.Network.Effects

/-!
# What a message does to a base station

As for a device, with the two origins of a message: a frame of the air interface or
a message of a network function.  The second has neither a link-layer address nor an interface,
so that the handlers which learn from the sender end the process or learn an empty address.

A base station passes the beacons of its devices to the vTSD instead of forwarding them, and
it joins by a reply of its own type that names no next hop.  The other cases are those of
`Device.Effect`.
-/

namespace Nrg5

open LockProg

variable {held : Lock → Bool} {node after : Node} {pkt : Packet} {iface : NsoIf} {src : L2addr}

/-- The node after a reply that makes a base station connected. -/
def Node.joinedBs (gwId : DeviceId) (node : Node) : Node :=
  node.updateLayer fun layer => { layer with gwId := gwId, devState := .connected }

@[simp] theorem devId_joinedBs (gwId : DeviceId) :
    (node.joinedBs gwId).nsol.devId = node.nsol.devId := rfl

@[simp] theorem ifaces_joinedBs (gwId : DeviceId) :
    (node.joinedBs gwId).nsol.ifaces = node.nsol.ifaces := rfl

@[simp] theorem mtu_joinedBs (gwId : DeviceId) :
    (node.joinedBs gwId).nsol.mtu = node.nsol.mtu := rfl

@[simp] theorem devState_joinedBs (gwId : DeviceId) :
    (node.joinedBs gwId).nsol.devState = .connected := rfl

@[simp] theorem gwId_joinedBs (gwId : DeviceId) : (node.joinedBs gwId).nsol.gwId = gwId := rfl

@[simp] theorem air_joinedBs (gwId : DeviceId) : (node.joinedBs gwId).air = node.air := rfl

@[simp] theorem vnfTx_joinedBs (gwId : DeviceId) : (node.joinedBs gwId).vnfTx = node.vnfTx := rfl

namespace Bs

/-- What a base station makes of a message. -/
inductive Effect (pkt : Packet) (origin : Origin) (node : Node) : Node → Prop where
  | quiet {after : Node} (unseen : Quiet node after) : Effect pkt origin node after
  | passed {after : Node} (notTsd : origin = .vnf ∨ pkt.proto ≠ protoCpVtsd)
      (notNbr : origin = .vnf ∨ (pkt.proto = protoCpVson → pkt.msgType ≠ sonMsgNbr))
      (forwards : Forwards pkt node after) : Effect pkt origin node after
  | delivered (fd : Nat) (notTsd : pkt.proto ≠ protoCpVtsd) :
      Effect pkt origin node (sendBytes fd pkt.bytes node)
  | beacon {src : L2addr} {iface : NsoIf} (fd : Nat) (fromAir : origin = .air src iface)
      (connected : node.nsol.devState = .connected) (isTsd : pkt.proto = protoCpVtsd)
      (isReg : pkt.msgType = tsdMsgReg) (toAll : pkt.dstDevid = bcDeviceId) :
      Effect pkt origin node (sendBytes fd (pkt.setDstDevid node.nsol.gwId).bytes
        ((node.learnedArp pkt.srcDevid src).learnedRoute pkt.srcDevid pkt.srcDevid iface))
  | relayedBeacon {src : L2addr} {iface : NsoIf} {entry : ArpEntry} (fd : Nat)
      (fromAir : origin = .air src iface) (connected : node.nsol.devState = .connected)
      (isTsd : pkt.proto = protoCpVtsd) (isReg : pkt.msgType = tsdMsgReg)
      (toOne : pkt.dstDevid ≠ bcDeviceId)
      (downstream : ArpTable.lookupFromL2addr src node.nsol.arpt = some entry) :
      Effect pkt origin node (sendBytes fd pkt.bytes
        (node.learnedRoute pkt.srcDevid entry.devId iface))
  | joined (isTsd : pkt.proto = protoCpVtsd) (isReply : pkt.msgType = tsdMsgBsRegReply)
      (forMe : pkt.dstDevid = node.nsol.devId) (unreg : node.nsol.devState = .unreg) :
      Effect pkt origin node (node.joinedBs pkt.srcDevid)
  | neighbour (isSon : pkt.proto = protoCpVson) (isNbr : pkt.msgType = sonMsgNbr) :
      Effect pkt origin node
        ((node.learnedArp pkt.srcDevid (origin.src.getD [])).learnedNbr pkt.srcDevid origin.iface)
  | routes {after : Node} (isSon : pkt.proto = protoCpVson) (isRt : pkt.msgType = sonMsgRt)
      (changes : RoutesOnly node after) : Effect pkt origin node after

variable {origin : Origin}

/-- A beacon from a network function ends the process before it does anything. -/
theorem fwdBeacon_effect (free : TablesFree held) (isTsd : pkt.proto = protoCpVtsd)
    (isReg : pkt.msgType = tsdMsgReg) :
    (fwdBeacon pkt origin.src origin.iface).wp (fun _ _ => True)
      (.always (Effect pkt origin node)) held node := by
  have dropped : Effect pkt origin node node := .quiet (.refl node)
  cases origin with
  | air src iface =>
      rw [Origin.src, Origin.iface, fwdBeacon, wp_fwdBeaconWith_air tolerant_true free]
      refine ite_connected dropped fun connected => ?_
      cases isHeld : held .arpt with
      | true => exact dropped
      | false =>
        simp only [Bool.false_eq_true, if_false]
        by_cases toAll : pkt.dstDevid = bcDeviceId
        · rw [if_pos ((isBroadcastDevId_iff _).mpr toAll), wp_deliverVtsd tolerant_true]
          exact .beacon _ rfl connected isTsd isReg toAll
        · rw [isBroadcastDevId_of_ne toAll]
          simp only [Bool.false_eq_true, if_false]
          cases downstream : ArpTable.lookupFromL2addr src node.nsol.arpt with
          | none => exact dropped
          | some entry =>
              dsimp only
              rw [wp_deliverVtsd tolerant_true]
              exact .relayedBeacon _ rfl connected isTsd isReg toAll downstream
  | vnf =>
      rw [Origin.src, Origin.iface, fwdBeacon, wp_fwdBeaconWith_vnf tolerant_true]
      refine ite_connected dropped fun connected => ?_
      cases isBroadcastDevId pkt.dstDevid with
      | true => exact dropped
      | false => cases held .arpt <;> exact dropped

/-- A reply for the base station joins it, and any other reply is dropped. -/
theorem processBsRegReply_effect (isTsd : pkt.proto = protoCpVtsd)
    (isReply : pkt.msgType = tsdMsgBsRegReply) :
    (processBsRegReply pkt).wp (fun _ _ => True) (.always (Effect pkt origin node)) held node := by
  have dropped : Effect pkt origin node node := .quiet (.refl node)
  rw [wp_processBsRegReply tolerant_true, ite_prop_iff_and]
  refine ⟨fun forMe => ?_, fun notForMe => ?_⟩
  · cases held .state with
    | true => exact dropped
    | false =>
        simp only [Bool.false_eq_true, if_false]
        by_cases joins : node.nsol.devState = .unreg ∧
            pkt.byteAt (nsohdrSize + 1) = nrg5RegSuccess
        · rw [if_pos joins]
          exact .joined isTsd isReply forMe joins.1
        · rw [if_neg joins]
          exact dropped
  · exact dropped

theorem tsdProcessRx_effect (free : TablesFree held) (isTsd : pkt.proto = protoCpVtsd) :
    (tsdProcessRx pkt origin.src origin.iface).wp (fun _ _ => True)
      (.always (Effect pkt origin node)) held node := by
  unfold tsdProcessRx
  rw [wp_ite]
  split
  · rename_i isReg
    rw [wp_bind]
    exact fwdBeacon_effect free isTsd isReg
  · rw [wp_ite]
    split
    · rename_i isReply
      rw [wp_bind]
      exact processBsRegReply_effect isTsd isReply
    · exact Effect.quiet (.refl node)

/-- An advertisement from a network function needs an address learned before. -/
theorem neighborMaintain_effect (free : TablesFree held) (isSon : pkt.proto = protoCpVson)
    (isNbr : pkt.msgType = sonMsgNbr) :
    (neighborMaintain pkt origin.src origin.iface).wp (fun _ _ => True)
      (.always (Effect pkt origin node)) held node := by
  have dropped : Effect pkt origin node node := .quiet (.refl node)
  cases origin with
  | air src iface =>
      rw [Origin.src, Origin.iface, wp_neighborMaintain_air tolerant_true free]
      cases held .arpt with
      | true => exact dropped
      | false => exact Effect.neighbour isSon isNbr
  | vnf =>
      rw [Origin.src, Origin.iface, wp_neighborMaintain_vnf tolerant_true free]
      cases held .arpt with
      | true => exact dropped
      | false =>
          simp only [Bool.false_eq_true, if_false]
          cases ArpTable.lookupFromDevId pkt.srcDevid node.nsol.arpt with
          | none => exact dropped
          | some entry => exact Effect.neighbour isSon isNbr

theorem sonProcessRx_effect (free : TablesFree held) (isSon : pkt.proto = protoCpVson) :
    (sonProcessRx pkt origin.src origin.iface).wp (fun _ _ => True)
      (.always (Effect pkt origin node)) held node := by
  have dropped : Effect pkt origin node node := .quiet (.refl node)
  have notTsd : pkt.proto ≠ protoCpVtsd := by
    rw [isSon]
    exact son_ne_tsd
  unfold sonProcessRx
  rw [wp_ite]
  split
  · rename_i isRt
    rw [wp_bind]
    exact @routeUpdateWith_ends _ _ _ free _ id _
      (fun ending => wp_admitRouteUpdateBs tolerant_true ending) dropped
      (fun after changes => .routes isSon isRt changes)
      fun _ after forwards => .passed (.inr notTsd) (.inr fun _ => by rw [isRt]; decide) forwards
  · rw [wp_ite]
    split
    · rename_i isNbr
      rw [wp_bind]
      exact neighborMaintain_effect free isSon isNbr
    · rw [wp_ite]
      split
      · rw [wp_bind, fwdTopoReport, wp_fwdTopoReportWith tolerant_true]
        refine ite_connected dropped fun connected => ?_
        rw [wp_deliverVson tolerant_true]
        exact Effect.delivered _ notTsd
      · exact dropped

/-- A data packet is delivered to its network function or passed on. -/
theorem dataProcessRx_effect (free : TablesFree held) (notTsd : pkt.proto ≠ protoCpVtsd)
    (notSon : pkt.proto ≠ protoCpVson) :
    (dataProcessRx pkt).wp (fun _ _ => True) (.always (Effect pkt origin node)) held node := by
  have dropped : Effect pkt origin node node := .quiet (.refl node)
  rw [wp_dataProcessRxBs tolerant_true]
  refine ite_connected dropped fun connected => ?_
  rw [ite_prop_iff_and]
  refine ⟨fun forMe => ?_, fun notForMe => ?_⟩
  · cases BspcTable.bucketOfProto pkt.proto with
    | none => exact dropped
    | some slot =>
        dsimp only
        cases BspcTable.lookupIn slot pkt.proto node.nsol.bspcTbl with
        | none => exact dropped
        | some pos => exact Effect.delivered _ notTsd
  · exact wp_always_mono
      (fun after forwards => .passed (.inr notTsd) (.inr fun isSon => absurd isSon notSon)
        forwards) (deliverFwd_forwards free)

/-- What a base station makes of a message of either origin. -/
theorem rx_effect (free : TablesFree held) :
    (Rx.body ⟨dispatch pkt.proto, pkt, origin⟩).wp (fun _ _ => True)
      (.always (Effect pkt origin node)) held node := by
  cases isHandler : dispatch pkt.proto with
  | tsd =>
      simp only [Rx.body]
      rw [wp_bind]
      exact tsdProcessRx_effect free (dispatch_tsd isHandler)
  | son =>
      simp only [Rx.body]
      rw [wp_bind]
      exact sonProcessRx_effect free (dispatch_son isHandler)
  | data =>
      rcases dispatch_data isHandler with ⟨notTsd, notSon⟩
      exact dataProcessRx_effect free notTsd notSon

/-- A message of a network function for another station is passed on as it is. -/
theorem processVnfRx_effect (free : TablesFree held) :
    (processVnfRx pkt).wp (fun _ _ => True) (.always (Effect pkt .vnf node)) held node := by
  unfold processVnfRx
  rw [wp_bind, wp_query]
  refine ⟨trivial, ?_⟩
  dsimp only
  rw [wp_ite, ite_prop_iff_and]
  refine ⟨fun forMe => ?_, fun notForMe => ?_⟩
  · cases isHandler : dispatch pkt.proto with
    | tsd =>
        dsimp only
        rw [wp_bind]
        exact tsdProcessRx_effect free (dispatch_tsd isHandler)
    | son =>
        dsimp only
        rw [wp_bind]
        exact sonProcessRx_effect free (dispatch_son isHandler)
    | data => exact Effect.quiet (.refl node)
  · exact wp_always_mono (fun after forwards => .passed (.inl rfl) (.inl rfl) forwards)
      (deliverFwd_forwards free)

end Bs

end Nrg5
