import Nrg5.Network.Effects

/-!
# What a frame does to a device

One relation between the node before and after the handler of a frame: the ways in
which the handlers end, with what they have checked on the way.  Every handler is run once,
here, and the invariants of a network are proved by cases of `Device.Effect`.

A case says what happens to the tables and to the frame, up to the outcome of the forwarding,
which `Forwards` describes.  A call that finds the mutex of the ARP table or of the state left
behind stops there; that is no case of its own, since it leaves the node as a handler does that
drops the frame.
-/

namespace Nrg5

open LockProg

variable {held : Lock → Bool} {node after : Node} {pkt : Packet} {iface : NsoIf} {src : L2addr}

@[simp] theorem devId_joined (gwId nxthop : DeviceId) :
    (node.joined gwId nxthop iface).nsol.devId = node.nsol.devId := rfl

@[simp] theorem ifaces_joined (gwId nxthop : DeviceId) :
    (node.joined gwId nxthop iface).nsol.ifaces = node.nsol.ifaces := rfl

@[simp] theorem mtu_joined (gwId nxthop : DeviceId) :
    (node.joined gwId nxthop iface).nsol.mtu = node.nsol.mtu := rfl

@[simp] theorem devState_joined (gwId nxthop : DeviceId) :
    (node.joined gwId nxthop iface).nsol.devState = .connected := rfl

@[simp] theorem gwId_joined (gwId nxthop : DeviceId) :
    (node.joined gwId nxthop iface).nsol.gwId = gwId := rfl

@[simp] theorem air_joined (gwId nxthop : DeviceId) :
    (node.joined gwId nxthop iface).air = node.air := rfl

@[simp] theorem vnfTx_joined (gwId nxthop : DeviceId) :
    (node.joined gwId nxthop iface).vnfTx = node.vnfTx := rfl

namespace Device

/-- What a device makes of a frame. -/
inductive Effect (pkt : Packet) (src : L2addr) (iface : NsoIf) (node : Node) : Node → Prop where
  | quiet {after : Node} (unseen : Quiet node after) : Effect pkt src iface node after
  | passed {after : Node} (connected : node.nsol.devState = .connected)
      (isReply : pkt.proto = protoCpVtsd → pkt.msgType = tsdMsgRegReply)
      (notNbr : pkt.proto = protoCpVson → pkt.msgType ≠ sonMsgNbr)
      (forwards : Forwards pkt node after) : Effect pkt src iface node after
  | beacon {after : Node} (connected : node.nsol.devState = .connected)
      (isTsd : pkt.proto = protoCpVtsd) (isReg : pkt.msgType = tsdMsgReg)
      (toAll : pkt.dstDevid = bcDeviceId)
      (forwards : Forwards (pkt.setDstDevid node.nsol.gwId)
        ((node.learnedArp pkt.srcDevid src).learnedRoute pkt.srcDevid pkt.srcDevid iface) after) :
      Effect pkt src iface node after
  | relayedBeacon {after : Node} {entry : ArpEntry} (connected : node.nsol.devState = .connected)
      (isTsd : pkt.proto = protoCpVtsd) (isReg : pkt.msgType = tsdMsgReg)
      (toOne : pkt.dstDevid ≠ bcDeviceId)
      (downstream : ArpTable.lookupFromL2addr src node.nsol.arpt = some entry)
      (forwards : Forwards pkt (node.learnedRoute pkt.srcDevid entry.devId iface) after) :
      Effect pkt src iface node after
  | joined {entry : ArpEntry} (isTsd : pkt.proto = protoCpVtsd)
      (isReply : pkt.msgType = tsdMsgRegReply) (forMe : pkt.dstDevid = node.nsol.devId)
      (unreg : node.nsol.devState = .unreg)
      (upstream : ArpTable.lookupFromL2addr src node.nsol.arpt = some entry) :
      Effect pkt src iface node (node.joined pkt.srcDevid entry.devId iface)
  | neighbour (isSon : pkt.proto = protoCpVson) (isNbr : pkt.msgType = sonMsgNbr) :
      Effect pkt src iface node
        ((node.learnedArp pkt.srcDevid src).learnedNbr pkt.srcDevid (some iface))
  | routes {after : Node} (isSon : pkt.proto = protoCpVson) (isRt : pkt.msgType = sonMsgRt)
      (changes : RoutesOnly node.promoted after) : Effect pkt src iface node after

end Device

/-- A reply for the device joins it or does nothing; any other reply is passed on. -/
theorem processRegReply_effect (free : TablesFree held) (isTsd : pkt.proto = protoCpVtsd)
    (isReply : pkt.msgType = tsdMsgRegReply) :
    (Device.processRegReply pkt (some src) (some iface)).wp (fun _ _ => True)
      (.always (Device.Effect pkt src iface node)) held node := by
  have dropped : Device.Effect pkt src iface node node := .quiet (.refl node)
  rw [wp_processRegReply tolerant_true, ite_prop_iff_and]
  refine ⟨fun forMe => ?_, fun notForMe => ?_⟩
  · cases held .state with
    | true => exact dropped
    | false =>
        simp only [Bool.false_eq_true, if_false]
        by_cases joins : node.nsol.devState = .unreg ∧
            pkt.byteAt (nsohdrSize + 1) = nrg5RegSuccess
        · rw [if_pos joins]
          cases held .arpt with
          | true => exact dropped
          | false =>
              simp only [Bool.false_eq_true, if_false]
              cases upstream : ArpTable.lookupFromL2addr src node.nsol.arpt with
              | none => exact dropped
              | some entry => exact .joined isTsd isReply forMe joins.1 upstream
        · rw [if_neg joins]
          exact dropped
  · refine ite_connected dropped fun connected => ?_
    have notNbr : pkt.proto = protoCpVson → pkt.msgType ≠ sonMsgNbr :=
      fun isSon => absurd (isSon.symm.trans isTsd) son_ne_tsd
    exact wp_always_mono
      (fun after forwards => .passed connected (fun _ => isReply) notNbr forwards)
      (deliverFwd_forwards free)

/-- A beacon to everybody is the first of its way; a relayed one goes on unchanged. -/
theorem deviceFwdBeacon_effect (free : TablesFree held) (isTsd : pkt.proto = protoCpVtsd)
    (isReg : pkt.msgType = tsdMsgReg) :
    (Device.fwdBeacon pkt (some src) (some iface)).wp (fun _ _ => True)
      (.always (Device.Effect pkt src iface node)) held node := by
  have dropped : Device.Effect pkt src iface node node := .quiet (.refl node)
  rw [Device.fwdBeacon, wp_fwdBeaconWith_air tolerant_true free]
  refine ite_connected dropped fun connected => ?_
  cases isHeld : held .arpt with
  | true => exact dropped
  | false =>
    simp only [Bool.false_eq_true, if_false]
    by_cases toAll : pkt.dstDevid = bcDeviceId
    · rw [if_pos ((isBroadcastDevId_iff _).mpr toAll)]
      exact wp_always_mono (fun after forwards => .beacon connected isTsd isReg toAll forwards)
        (deliverFwd_forwards free)
    · rw [isBroadcastDevId_of_ne toAll]
      simp only [Bool.false_eq_true, if_false]
      cases downstream : ArpTable.lookupFromL2addr src node.nsol.arpt with
      | none => exact dropped
      | some entry =>
          exact wp_always_mono
            (fun after forwards => .relayedBeacon connected isTsd isReg toAll downstream forwards)
            (deliverFwd_forwards free)

theorem deviceTsd_effect (free : TablesFree held) (isTsd : pkt.proto = protoCpVtsd) :
    (Device.tsdProcessRx pkt (some src) (some iface)).wp (fun _ _ => True)
      (.always (Device.Effect pkt src iface node)) held node := by
  unfold Device.tsdProcessRx
  rw [wp_ite]
  split
  · rename_i isReg
    rw [wp_bind]
    exact deviceFwdBeacon_effect free isTsd isReg
  · rw [wp_ite]
    split
    · rename_i isReply
      rw [wp_bind]
      exact processRegReply_effect free isTsd isReply
    · exact Device.Effect.quiet (.refl node)

/-- Of the messages of vSON, an advertisement is learned from and a report passed on. -/
theorem deviceSon_effect (free : TablesFree held) (isSon : pkt.proto = protoCpVson) :
    (Device.sonProcessRx pkt (some src) (some iface)).wp (fun _ _ => True)
      (.always (Device.Effect pkt src iface node)) held node := by
  have dropped : Device.Effect pkt src iface node node := .quiet (.refl node)
  have notTsd : pkt.proto = protoCpVtsd → pkt.msgType = tsdMsgRegReply :=
    fun isTsd => absurd (isSon.symm.trans isTsd) son_ne_tsd
  unfold Device.sonProcessRx
  rw [wp_ite]
  split
  · rename_i isRt
    rw [wp_bind]
    exact routeUpdateWith_ends free (fun ending => wp_admitRouteUpdate tolerant_true ending) dropped
      (fun after changes => .routes isSon isRt changes)
      fun connected after forwards =>
        .passed connected notTsd (fun _ => by rw [isRt]; decide) forwards
  · rw [wp_ite]
    split
    · rename_i isNbr
      rw [wp_bind, wp_neighborMaintain_air tolerant_true free]
      cases held .arpt with
      | true => exact dropped
      | false => exact Device.Effect.neighbour isSon isNbr
    · rename_i notNbr
      rw [wp_ite]
      split
      · rw [wp_bind, Device.fwdTopoReport, wp_fwdTopoReportWith tolerant_true]
        refine ite_connected dropped fun connected => ?_
        exact wp_always_mono
          (fun after forwards => .passed connected notTsd (fun _ => notNbr) forwards)
          (deliverFwd_forwards free)
      · exact dropped

/-- A data packet for the device changes nothing that another station can see. -/
theorem deviceData_effect (free : TablesFree held) (notTsd : pkt.proto ≠ protoCpVtsd)
    (notSon : pkt.proto ≠ protoCpVson) :
    (Device.dataProcessRx pkt).wp (fun _ _ => True)
      (.always (Device.Effect pkt src iface node)) held node := by
  have dropped : Device.Effect pkt src iface node node := .quiet (.refl node)
  rw [wp_dataProcessRx tolerant_true free]
  refine ite_connected dropped fun connected => ?_
  rw [ite_prop_iff_and]
  refine ⟨fun forMe => ?_, fun notForMe => ?_⟩
  · exact Device.Effect.quiet (quiet_enqueue _)
  · exact wp_always_mono
      (fun after forwards => .passed connected (fun isTsd => absurd isTsd notTsd)
        (fun isSon => absurd isSon notSon) forwards)
      (deliverFwd_forwards free)

/-- What a receive thread makes of a frame. -/
theorem deviceRx_effect (free : TablesFree held) :
    (Device.Rx.body ⟨dispatch pkt.proto, pkt, src, iface⟩).wp (fun _ _ => True)
      (.always (Device.Effect pkt src iface node)) held node := by
  cases isHandler : dispatch pkt.proto with
  | tsd =>
      simp only [Device.Rx.body]
      rw [wp_bind]
      exact deviceTsd_effect free (dispatch_tsd isHandler)
  | son =>
      simp only [Device.Rx.body]
      rw [wp_bind]
      exact deviceSon_effect free (dispatch_son isHandler)
  | data =>
      rcases dispatch_data isHandler with ⟨notTsd, notSon⟩
      exact deviceData_effect free notTsd notSon

end Nrg5
