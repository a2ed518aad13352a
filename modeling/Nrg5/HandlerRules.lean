import Nrg5.BaseStation
import Nrg5.Device
import Nrg5.Rules

/-!
# Rules for the handlers

What a run of a handler does, in terms of the node before it.  A handler is called
with the source address and the interface of a frame, or with neither of them for
a message of a VNF connection; the rules are stated for these two shapes.

The forwarding tables, the neighbour table and the packet queue have mutexes that
no run leaves behind, so the rules take them as free.  The state mutex and the ARP
mutex may be held.
-/

namespace Nrg5

open LockProg

/-- The mutexes that no run leaves behind. -/
structure TablesFree (held : Lock → Bool) : Prop where
  sonFwdt : held .sonFwdt = false
  localFwdt : held .localFwdt = false
  nbrt : held .nbrt = false
  data : held .data = false

variable {α : Type} {allowed : Op → Node → Prop} {held : Lock → Bool} {node : Node}
  {pkt : Packet} {src : L2addr} {iface : NsoIf}

theorem wp_deliverFwd (ending : Ending Node Lock Halt Packet) :
    (deliverFwd pkt).wp allowed ending held node =
      (nsoLayerFwd pkt).wp allowed
        { post := fun value held node => ending.post value.2 held node
          halt := ending.halt
          block := ending.block } held node := by
  simp only [deliverFwd, wp_bind, wp_pure]

theorem wp_learnRoute_air (tolerant : Tolerant allowed) (free : held .localFwdt = false)
    (dest nxthop : DeviceId) (ending : Ending Node Lock Halt Unit) :
    (learnRoute dest nxthop (some iface)).wp allowed ending held node =
      ending.post () held (node.learnedRoute dest nxthop iface) := by
  rw [wp_learnRoute tolerant free]
  cases known : FwdTable.lookup dest node.nsol.localFwdt with
  | some entry => simp [Node.learnedRoute, known]
  | none => rfl

theorem wp_learnArp_air (tolerant : Tolerant allowed) (devId : DeviceId)
    (ending : Ending Node Lock Halt Unit) :
    (learnArp devId (some src)).wp allowed ending held node =
      if held .arpt = true then ending.block .arpt held node
      else ending.post () held (node.learnedArp devId src) := by
  rw [wp_learnArp tolerant]
  cases ArpTable.lookupFromDevId devId node.nsol.arpt <;> rfl

/-- What holds where the packet is dropped, and behind the guard of a connected node. -/
theorem ite_connected {inv rest : Prop} (dropped : inv)
    (behind : node.nsol.devState = .connected → rest) :
    if held .state = true then inv
    else if node.nsol.devState ≠ .connected then inv
    else rest := by
  split
  · exact dropped
  · split
    · exact dropped
    · rename_i connected
      exact behind (not_not.mp connected)

/-- The guard at the head of the handlers: an unconnected node drops the packet. -/
theorem wp_whenConnected (tolerant : Tolerant allowed) (dropped : α) (body : Prog α)
    (ending : Ending Node Lock Halt α) :
    (checkConnected >>= fun connected => if connected = false then pure dropped else body).wp
        allowed ending held node =
      if held .state = true then ending.block .state held node
      else if node.nsol.devState ≠ .connected then ending.post dropped held node
      else body.wp allowed ending held node := by
  rw [wp_bind, wp_checkConnected tolerant]
  cases held .state with
  | true => rfl
  | false =>
    by_cases connected : node.nsol.devState = .connected
    · have isConnected : (node.nsol.devState == DevState.connected) = true := by
        simp [connected]
      simp only [isConnected, Bool.true_eq_false, if_false, Bool.false_eq_true]
      rw [if_neg (not_not_intro connected)]
    · have isConnected : (node.nsol.devState == DevState.connected) = false := by
        simp [connected]
      simp only [isConnected, if_true, if_false, Bool.false_eq_true, wp_pure]
      rw [if_pos connected]

/-! ## Registration -/

/-- The beacon handler for a frame: it drops the beacon of an unconnected node, and
otherwise learns from it and hands it on. -/
theorem wp_fwdBeaconWith_air (tolerant : Tolerant allowed) (free : TablesFree held)
    (deliver : Packet → Prog Packet) (ending : Ending Node Lock Halt Packet) :
    (fwdBeaconWith deliver pkt (some src) (some iface)).wp allowed ending held node =
      if held .state = true then ending.block .state held node
      else if node.nsol.devState ≠ .connected then ending.post pkt held node
      else if held .arpt = true then ending.block .arpt held node
      else if isBroadcastDevId pkt.dstDevid = true then
        (deliver (pkt.setDstDevid node.nsol.gwId)).wp allowed ending held
          ((node.learnedArp pkt.srcDevid src).learnedRoute pkt.srcDevid pkt.srcDevid iface)
      else match ArpTable.lookupFromL2addr src node.nsol.arpt with
        | none => ending.halt .exit (Function.update held .arpt true) node
        | some entry =>
            (deliver pkt).wp allowed ending held
              (node.learnedRoute pkt.srcDevid entry.devId iface) := by
  unfold fwdBeaconWith
  rw [wp_whenConnected tolerant]
  refine if_congr Iff.rfl rfl (if_congr Iff.rfl rfl ?_)
  cases isBroadcastDevId pkt.dstDevid with
  | true =>
      simp only [if_true, wp_bind, wp_query, tolerant .layer node (by simp), true_and,
        wp_orHalt, wp_learnArp_air tolerant, wp_learnRoute_air tolerant free.localFwdt,
        Packet.srcDevid_setDstDevid]
  | false =>
      simp only [Bool.false_eq_true, if_false, wp_bind, wp_downstreamDevId tolerant]
      cases held .arpt with
      | true => rfl
      | false =>
          simp only [Bool.false_eq_true, if_false]
          cases ArpTable.lookupFromL2addr src node.nsol.arpt with
          | none => rfl
          | some entry => simp only [wp_learnRoute_air tolerant free.localFwdt]

/-- The beacon handler for a message of a VNF connection: a connected node uses the
missing source address. -/
theorem wp_fwdBeaconWith_vnf (tolerant : Tolerant allowed) (deliver : Packet → Prog Packet)
    (ending : Ending Node Lock Halt Packet) :
    (fwdBeaconWith deliver pkt none none).wp allowed ending held node =
      if held .state = true then ending.block .state held node
      else if node.nsol.devState ≠ .connected then ending.post pkt held node
      else if isBroadcastDevId pkt.dstDevid = true then ending.halt .nullDeref held node
      else if held .arpt = true then ending.block .arpt held node
      else ending.halt .assertion (Function.update held .arpt true) node := by
  unfold fwdBeaconWith
  rw [wp_whenConnected tolerant]
  refine if_congr Iff.rfl rfl (if_congr Iff.rfl rfl ?_)
  cases isBroadcastDevId pkt.dstDevid with
  | true =>
      simp only [if_true, wp_bind, wp_query, tolerant .layer node (by simp), true_and,
        wp_orHalt]
  | false =>
      simp only [Bool.false_eq_true, if_false, wp_bind, wp_downstreamDevId tolerant]

/-- The node of a device after a successful reply through a next hop. -/
def Node.joined (gwId nxthop : DeviceId) (iface : NsoIf) (node : Node) : Node :=
  { node with heap := node.heap + 1 }.updateLayer fun layer =>
    { layer with
      localFwdt := FwdTable.add ⟨node.heap, gwId, nxthop, iface, .active⟩ layer.localFwdt
      gwId := gwId
      devState := .connected }

/-- The reply handler of a device.  A reply that makes it connected needs the ARP
entry of the sender; without one the process exits with both mutexes held. -/
theorem wp_processRegReply (tolerant : Tolerant allowed)
    (ending : Ending Node Lock Halt Packet) :
    (Device.processRegReply pkt (some src) (some iface)).wp allowed ending held node =
      if pkt.dstDevid = node.nsol.devId then
        if held .state = true then ending.block .state held node
        else if node.nsol.devState = .unreg ∧ pkt.byteAt (nsohdrSize + 1) = nrg5RegSuccess then
          if held .arpt = true then
            ending.block .arpt (Function.update held .state true) node
          else match ArpTable.lookupFromL2addr src node.nsol.arpt with
            | none =>
                ending.halt .exit
                  (Function.update (Function.update held .state true) .arpt true) node
            | some entry => ending.post pkt held (node.joined pkt.srcDevid entry.devId iface)
        else ending.post pkt held node
      else if held .state = true then ending.block .state held node
      else if node.nsol.devState ≠ .connected then ending.post pkt held node
      else (deliverFwd pkt).wp allowed ending held node := by
  unfold Device.processRegReply
  rw [wp_bind, wp_query]
  simp only [tolerant .layer node (by simp), true_and, wp_ite]
  by_cases forMe : pkt.dstDevid = node.nsol.devId
  · rw [if_pos forMe, if_pos forMe, wp_bind, wp_acquire]
    cases isHeld : held .state with
    | true => rfl
    | false =>
      simp only [Bool.false_eq_true, if_false, wp_bind, wp_query,
        tolerant .layer node (by simp), true_and, wp_ite]
      by_cases joins : node.nsol.devState = .unreg ∧
          pkt.byteAt (nsohdrSize + 1) = nrg5RegSuccess
      · rw [if_pos joins, if_pos joins, wp_downstreamDevId tolerant,
          Function.update_of_ne (by simp)]
        cases held .arpt with
        | true => rfl
        | false =>
            simp only [Bool.false_eq_true, if_false]
            cases ArpTable.lookupFromL2addr src node.nsol.arpt with
            | none => rfl
            | some entry =>
                simp only [wp_allocFwdEntry tolerant, wp_modify, tolerant .table _ (by simp),
                  tolerant .layer _ (by simp), tolerant (.broadcastSignal _) _ (by simp),
                  true_and, wp_release, wp_pure, update_release _ isHeld]
                rfl
      · rw [if_neg joins, if_neg joins]
        simp only [wp_release, wp_pure, update_release _ isHeld]
  · rw [if_neg forMe, if_neg forMe, wp_whenConnected tolerant]

theorem wp_processBsRegReply (tolerant : Tolerant allowed)
    (ending : Ending Node Lock Halt Packet) :
    (Bs.processBsRegReply pkt).wp allowed ending held node =
      if pkt.dstDevid = node.nsol.devId then
        if held .state = true then ending.block .state held node
        else if node.nsol.devState = .unreg ∧ pkt.byteAt (nsohdrSize + 1) = nrg5RegSuccess then
          ending.post pkt held (node.updateLayer fun layer =>
            { layer with gwId := pkt.srcDevid, devState := .connected })
        else ending.post pkt held node
      else ending.post pkt held node := by
  unfold Bs.processBsRegReply
  rw [wp_bind, wp_query]
  simp only [tolerant .layer node (by simp), true_and, wp_ite]
  by_cases forMe : pkt.dstDevid = node.nsol.devId
  · rw [if_pos forMe, if_pos forMe, wp_bind, wp_acquire]
    cases isHeld : held .state with
    | true => rfl
    | false =>
      simp only [Bool.false_eq_true, if_false, wp_bind, wp_query,
        tolerant .layer node (by simp), true_and, wp_ite]
      by_cases joins : node.nsol.devState = .unreg ∧
          pkt.byteAt (nsohdrSize + 1) = nrg5RegSuccess
      · rw [if_pos joins, if_pos joins]
        simp only [wp_modify, tolerant .layer _ (by simp),
          tolerant (.broadcastSignal _) _ (by simp), true_and, wp_release, wp_pure,
          update_release _ isHeld, Node.updateLayer, id_eq]
      · rw [if_neg joins, if_neg joins]
        simp only [wp_release, wp_pure, update_release _ isHeld]
  · rw [if_neg forMe, if_neg forMe, wp_pure]

/-! ## Deliveries of the base station -/

theorem wp_deliverVtsd (tolerant : Tolerant allowed) (ending : Ending Node Lock Halt Packet) :
    (Bs.deliverVtsd pkt).wp allowed ending held node =
      ending.post pkt held (Bs.sendBytes node.nsol.vtsdFd pkt.bytes node) := by
  simp only [Bs.deliverVtsd, Bs.sendPktToVnf, wp_bind, wp_query, wp_perform, wp_pure,
    tolerant .layer node (by simp), tolerant .send node (by simp), true_and]

theorem wp_deliverVson (tolerant : Tolerant allowed) (ending : Ending Node Lock Halt Packet) :
    (Bs.deliverVson pkt).wp allowed ending held node =
      ending.post pkt held (Bs.sendBytes node.nsol.vsonFd pkt.bytes node) := by
  simp only [Bs.deliverVson, Bs.sendPktToVnf, wp_bind, wp_query, wp_perform, wp_pure,
    tolerant .layer node (by simp), tolerant .send node (by simp), true_and]

/-! ## Topology and routes -/

theorem wp_neighborMaintain_air (tolerant : Tolerant allowed) (free : TablesFree held)
    (ending : Ending Node Lock Halt Packet) :
    (neighborMaintain pkt (some src) (some iface)).wp allowed ending held node =
      if held .arpt = true then ending.block .arpt held node
      else ending.post pkt held
        ((node.learnedArp pkt.srcDevid src).learnedNbr pkt.srcDevid (some iface)) := by
  simp only [neighborMaintain, wp_bind, wp_learnArp_air tolerant,
    wp_learnNbr tolerant free.nbrt, wp_pure]

/-- An advertisement from a VNF connection needs an ARP entry of its sender. -/
theorem wp_neighborMaintain_vnf (tolerant : Tolerant allowed) (free : TablesFree held)
    (ending : Ending Node Lock Halt Packet) :
    (neighborMaintain pkt none none).wp allowed ending held node =
      if held .arpt = true then ending.block .arpt held node
      else match ArpTable.lookupFromDevId pkt.srcDevid node.nsol.arpt with
        | none => ending.halt .nullDeref held node
        | some _ => ending.post pkt held
            ((node.learnedArp pkt.srcDevid []).learnedNbr pkt.srcDevid none) := by
  simp only [neighborMaintain, wp_bind, wp_learnArp tolerant, wp_learnNbr tolerant free.nbrt,
    wp_pure]
  cases ArpTable.lookupFromDevId pkt.srcDevid node.nsol.arpt <;> rfl

theorem wp_fwdTopoReportWith (tolerant : Tolerant allowed) (deliver : Packet → Prog Packet)
    (ending : Ending Node Lock Halt Packet) :
    (fwdTopoReportWith deliver pkt).wp allowed ending held node =
      if held .state = true then ending.block .state held node
      else if node.nsol.devState ≠ .connected then ending.post pkt held node
      else (deliver pkt).wp allowed ending held node :=
  wp_whenConnected tolerant pkt (deliver pkt) ending

/-- The node after `fwd_table_del` of a looked-up entry. -/
def Node.droppedRoute (dst : DeviceId) (node : Node) : Node :=
  match FwdTable.lookup dst node.nsol.sonFwdt with
  | some entry => node.updateSonFwdt (FwdTable.del entry)
  | none => node

/-- The node after one rule, on an interface that exists. -/
def Node.appliedRule (node : Node) (rule : RtRule) : Node :=
  match node.nsol.ifaces[rule.ifIndex.toNat]? with
  | none => node
  | some iface =>
      if rule.action = rtActionAdd then
        let dropped := node.droppedRoute rule.dstId
        { dropped with heap := dropped.heap + 1 }.updateSonFwdt
          (FwdTable.add ⟨dropped.heap, rule.dstId, rule.nhId, iface, .active⟩)
      else if rule.action = rtActionDel then node.droppedRoute rule.dstId
      else node

@[simp]
theorem ifaces_droppedRoute (dst : DeviceId) :
    (node.droppedRoute dst).nsol.ifaces = node.nsol.ifaces := by
  unfold Node.droppedRoute
  cases FwdTable.lookup dst node.nsol.sonFwdt <;> rfl

@[simp]
theorem ifaces_appliedRule (rule : RtRule) :
    (node.appliedRule rule).nsol.ifaces = node.nsol.ifaces := by
  unfold Node.appliedRule
  cases node.nsol.ifaces[rule.ifIndex.toNat]? with
  | none => rfl
  | some iface =>
      dsimp only
      split
      · exact ifaces_droppedRoute rule.dstId
      · split
        · exact ifaces_droppedRoute rule.dstId
        · rfl

theorem wp_dropRoute (tolerant : Tolerant allowed) (dst : DeviceId)
    (ending : Ending Node Lock Halt Unit) :
    (dropRoute (FwdTable.lookup dst node.nsol.sonFwdt)).wp allowed ending held node =
      ending.post () held (node.droppedRoute dst) := by
  unfold Node.droppedRoute
  cases FwdTable.lookup dst node.nsol.sonFwdt with
  | none => rfl
  | some entry => simp only [dropRoute, wp_modify, tolerant .table node (by simp), true_and]

/-- A rule is applied inside the interfaces exactly when its index is. -/
theorem wp_applyRule (rule : RtRule) (ending : Ending Node Lock Halt Unit) :
    (applyRule rule).wp ifacesInRange ending held node ↔
      rule.ifIndex.toNat < node.nsol.ifacesNb ∧
        ending.post () held (node.appliedRule rule) := by
  simp only [applyRule, ifaceAt, wp_bind, wp_query, wp_ite, wp_pure, wp_halt]
  rw [show ifacesInRange (.ifaceAt rule.ifIndex.toNat) node =
    (rule.ifIndex.toNat < node.nsol.ifacesNb) from rfl]
  apply and_congr_right
  intro inRange
  have inArray : rule.ifIndex.toNat < nsoMaxSupportedIfaces :=
    lt_of_lt_of_le inRange node.nsol.ifacesFit
  have slot : node.nsol.ifaces[rule.ifIndex.toNat]? =
      some (node.nsol.ifaces.get ⟨rule.ifIndex.toNat, inRange⟩) :=
    List.getElem?_eq_getElem inRange
  rw [if_pos inArray, slot]
  simp only [tolerant_ifacesInRange .table _ (by simp), true_and,
    wp_dropRoute tolerant_ifacesInRange, wp_allocFwdEntry tolerant_ifacesInRange, wp_modify,
    Node.appliedRule, slot]
  split
  · exact Iff.rfl
  · split
    · exact Iff.rfl
    · exact Iff.rfl

/-- How often the loop of `__route_update` runs. -/
def ruleRounds (size : Int) : Nat := ((size + (rtRuleSize - 1)) / rtRuleSize).toNat

/-- The rules that the loop reads, in order. -/
def Packet.rules (pkt : Packet) (rtData : Nat) : Nat → List RtRule
  | 0 => []
  | rounds + 1 => pkt.ruleAt rtData :: pkt.rules (rtData + rtRuleSize) rounds

theorem ruleRounds_pos {size : Int} (more : 0 < size) :
    ruleRounds size = ruleRounds (size - rtRuleSize) + 1 := by
  simp only [ruleRounds, rtRuleSize]
  omega

theorem ruleRounds_nonpos {size : Int} (done : ¬ 0 < size) : ruleRounds size = 0 := by
  simp only [ruleRounds, rtRuleSize]
  omega

/-- The loop stays inside the interfaces exactly when all the rules that it reads do,
and then it applies them in order. -/
theorem wp_routeLoop (rtData : Nat) (size : Int) (ending : Ending Node Lock Halt Int) :
    (routeLoop pkt rtData size).wp ifacesInRange ending held node ↔
      (∀ rule ∈ pkt.rules rtData (ruleRounds size),
        rule.ifIndex.toNat < node.nsol.ifacesNb) ∧
        ending.post (size - rtRuleSize * ruleRounds size) held
          ((pkt.rules rtData (ruleRounds size)).foldl Node.appliedRule node) := by
  induction rtData, size using routeLoop.induct generalizing node with
  | case1 rtData size more ih =>
      rw [routeLoop, dif_pos more, wp_bind, wp_applyRule]
      simp only [ih, ruleRounds_pos more, Packet.rules, List.forall_mem_cons, List.foldl_cons,
        and_assoc, NsoLayer.ifacesNb, ifaces_appliedRule]
      rw [show size - rtRuleSize - rtRuleSize * (ruleRounds (size - rtRuleSize) : Nat) =
        size - rtRuleSize * (ruleRounds (size - rtRuleSize) + 1 : Nat) by push_cast; ring]
  | case2 rtData size done =>
      rw [routeLoop, dif_neg done, wp_pure, ruleRounds_nonpos done]
      simp [Packet.rules]

/-- The node after the locked check of a device: the intermediate state is left. -/
def Node.promoted (node : Node) : Node :=
  node.updateLayer fun layer =>
    { layer with devState := if layer.devState = .reg then .connected else layer.devState }

theorem promoted_of_not_reg (notReg : node.nsol.devState ≠ .reg) : node.promoted = node := by
  simp only [Node.promoted, Node.updateLayer, if_neg notReg]

theorem wp_admitRouteUpdate (tolerant : Tolerant allowed) (ending : Ending Node Lock Halt Bool) :
    Device.admitRouteUpdate.wp allowed ending held node =
      if held .state = true then ending.block .state held node
      else ending.post (decide (node.nsol.devState ≠ .unreg)) held node.promoted := by
  have answer : (node.promoted.nsol.devState == DevState.connected) =
      decide (node.nsol.devState ≠ .unreg) := by
    simp only [Node.promoted, Node.updateLayer]
    cases node.nsol.devState <;> rfl
  simp only [Device.admitRouteUpdate, wp_bind, wp_acquire]
  cases isHeld : held .state with
  | true => rfl
  | false =>
      simp only [Bool.false_eq_true, if_false, wp_modify, wp_query, wp_release, wp_pure,
        tolerant .layer _ (by simp), true_and, update_release _ isHeld]
      rw [← answer]
      rfl

theorem wp_admitRouteUpdateBs (tolerant : Tolerant allowed)
    (ending : Ending Node Lock Halt Bool) :
    Bs.admitRouteUpdate.wp allowed ending held node =
      if held .state = true then ending.block .state held node
      else ending.post (decide (node.nsol.devState ≠ .unreg)) held node := by
  have answer : (node.nsol.devState == DevState.reg || node.nsol.devState == .connected) =
      decide (node.nsol.devState ≠ .unreg) := by
    cases node.nsol.devState <;> rfl
  simp only [Bs.admitRouteUpdate, wp_bind, wp_acquire]
  cases isHeld : held .state with
  | true => rfl
  | false =>
      simp only [Bool.false_eq_true, if_false, wp_query, wp_release, wp_pure,
        tolerant .layer _ (by simp), true_and, update_release _ isHeld, answer]

/-- The part of `__route_update` behind the check of the registration state. -/
def updateRoutes (pkt : Packet) : Prog Packet := do
  let left ← routeLoop pkt (nsohdrSize + 1) (pkt.byteLen - nsohdrSize - 1)
  if left = 0 then pure pkt else .halt .assertion

/-- `__route_update` of either library, with what its check leaves behind. -/
theorem wp_routeUpdateWith (tolerant : Tolerant allowed) {accept : Prog Bool}
    {promote : Node → Node}
    (admits : ∀ ending : Ending Node Lock Halt Bool, accept.wp allowed ending held node =
      if held .state = true then ending.block .state held node
      else ending.post (decide (node.nsol.devState ≠ .unreg)) held (promote node))
    (ending : Ending Node Lock Halt Packet) :
    (routeUpdateWith accept pkt).wp allowed ending held node =
      if pkt.dstDevid = node.nsol.devId then
        if held .state = true then ending.block .state held node
        else if node.nsol.devState = .unreg then ending.post pkt held (promote node)
        else (updateRoutes pkt).wp allowed ending held (promote node)
      else if held .state = true then ending.block .state held node
      else if node.nsol.devState ≠ .connected then ending.post pkt held node
      else (deliverFwd pkt).wp allowed ending held node := by
  unfold routeUpdateWith
  rw [wp_bind, wp_query]
  simp only [tolerant .layer node (by simp), true_and, wp_ite]
  by_cases forMe : pkt.dstDevid = node.nsol.devId
  · rw [if_pos forMe, if_pos forMe, wp_bind, admits]
    cases held .state with
    | true => rfl
    | false =>
      simp only [Bool.false_eq_true, if_false, wp_ite, decide_eq_false_iff_not, ne_eq,
        not_not]
      rfl
  · rw [if_neg forMe, if_neg forMe]
    exact wp_whenConnected tolerant pkt (deliverFwd pkt) ending

/-- The size that a route update leaves for its rules. -/
def Packet.rulesSize (pkt : Packet) : Int := pkt.byteLen - nsohdrSize - 1

/-- The rules of a route update. -/
def Packet.routeRules (pkt : Packet) : List RtRule :=
  pkt.rules (nsohdrSize + 1) (ruleRounds pkt.rulesSize)

/-- The rules go through exactly when they fill the message and name interfaces. -/
theorem wp_updateRoutes {block : Lock → (Lock → Bool) → Node → Prop}
    {post : Packet → (Lock → Bool) → Node → Prop} :
    (updateRoutes pkt).wp ifacesInRange { post := post, block := block } held node ↔
      (∀ rule ∈ pkt.routeRules, rule.ifIndex.toNat < node.nsol.ifacesNb) ∧
        pkt.rulesSize - rtRuleSize * ruleRounds pkt.rulesSize = 0 ∧
          post pkt held (pkt.routeRules.foldl Node.appliedRule node) := by
  unfold updateRoutes
  rw [wp_bind, wp_routeLoop]
  apply and_congr_right
  intro _
  simp only [wp_ite, wp_pure, wp_halt, Packet.routeRules, Packet.rulesSize]
  split
  · rename_i whole
    simp [whole]
  · rename_i partRule
    simp [partRule]

/-! ## What a route update leaves alone -/

/-- A relation between nodes that does not see the routes of the controller. -/
structure BlindToRoutes (same : Node → Node → Prop) : Prop where
  refl : ∀ node, same node node
  trans : ∀ {node mid after}, same node mid → same mid after → same node after
  routes : ∀ node heap update, same node ({ node with heap := heap }.updateSonFwdt update)

namespace BlindToRoutes

variable {same : Node → Node → Prop}

theorem droppedRoute (blind : BlindToRoutes same) (dst : DeviceId) (node : Node) :
    same node (node.droppedRoute dst) := by
  unfold Node.droppedRoute
  cases FwdTable.lookup dst node.nsol.sonFwdt with
  | none => exact blind.refl node
  | some entry => exact blind.routes node node.heap _

theorem applyRule (blind : BlindToRoutes same) (rule : RtRule) :
    (applyRule rule).wp (fun _ _ => True) (.always (same node)) held node := by
  simp only [Nrg5.applyRule, ifaceAt, wp_bind, wp_query, wp_ite, wp_pure, wp_halt, true_and,
    wp_dropRoute tolerant_true, wp_allocFwdEntry tolerant_true, wp_modify]
  split
  · split
    · cases node.nsol.ifaces[rule.ifIndex.toNat]? with
      | none => exact blind.droppedRoute _ node
      | some found =>
          apply blind.trans (blind.droppedRoute rule.dstId node)
          exact blind.routes _ _ _
    · split
      · exact blind.droppedRoute _ node
      · exact blind.refl node
  · exact blind.refl node

theorem routeLoop (blind : BlindToRoutes same) (rtData : Nat) (size : Int) {start : Node}
    (soFar : same start node) :
    (routeLoop pkt rtData size).wp (fun _ _ => True) (.always (same start)) held node := by
  induction rtData, size using Nrg5.routeLoop.induct generalizing node held with
  | case1 rtData size more ih =>
      rw [Nrg5.routeLoop, dif_pos more, wp_bind]
      apply wp_mono _ _ _ (blind.applyRule (pkt.ruleAt rtData))
      · exact fun _ _ after rest => ih (blind.trans soFar rest)
      · exact fun _ _ after rest => blind.trans soFar rest
      · exact fun _ _ after rest => blind.trans soFar rest
  | case2 rtData size done =>
      rw [Nrg5.routeLoop, dif_neg done, wp_pure]
      exact soFar

theorem updateRoutes (blind : BlindToRoutes same) :
    (updateRoutes pkt).wp (fun _ _ => True) (.always (same node)) held node := by
  unfold Nrg5.updateRoutes
  rw [wp_bind]
  apply wp_mono _ _ _ (blind.routeLoop _ _ (blind.refl node))
  · intro left atEnd after rest
    dsimp only
    split
    · exact rest
    · exact rest
  · exact fun _ _ after rest => rest
  · exact fun _ _ after rest => rest

end BlindToRoutes

/-! ## Data -/

theorem wp_dataProcessRx (tolerant : Tolerant allowed) (free : TablesFree held)
    (ending : Ending Node Lock Halt Packet) :
    (Device.dataProcessRx pkt).wp allowed ending held node =
      if held .state = true then ending.block .state held node
      else if node.nsol.devState ≠ .connected then ending.post pkt held node
      else if pkt.dstDevid = node.nsol.devId then
        ending.post pkt held (node.enqueue (pkt.clone node.env.junk))
      else (deliverFwd pkt).wp allowed ending held node := by
  unfold Device.dataProcessRx
  rw [wp_whenConnected tolerant]
  refine if_congr Iff.rfl rfl (if_congr Iff.rfl rfl ?_)
  simp only [wp_bind, wp_query, tolerant .layer node (by simp), true_and, wp_ite, wp_acquire,
    free.data, Bool.false_eq_true, if_false, tolerant .malloc node (by simp), wp_modify,
    tolerant (.broadcastSignal _) _ (by simp), wp_release, wp_pure, update_release _ free.data,
    id_eq]
  exact if_congr Iff.rfl (ite_self _) rfl

/-- A data packet for the base station needs the network function of its protocol. -/
theorem wp_dataProcessRxBs (tolerant : Tolerant allowed)
    (ending : Ending Node Lock Halt Packet) :
    (Bs.dataProcessRx pkt).wp allowed ending held node =
      if held .state = true then ending.block .state held node
      else if node.nsol.devState ≠ .connected then ending.post pkt held node
      else if pkt.dstDevid = node.nsol.devId then
        match BspcTable.bucketOfProto pkt.proto with
        | none => ending.halt .outOfBounds held node
        | some slot =>
            match BspcTable.lookupIn slot pkt.proto node.nsol.bspcTbl with
            | none => ending.halt .nullDeref held node
            | some pos => ending.post pkt held (Bs.sendBytes pos.sockfd pkt.bytes node)
      else (deliverFwd pkt).wp allowed ending held node := by
  unfold Bs.dataProcessRx
  rw [wp_whenConnected tolerant]
  refine if_congr Iff.rfl rfl (if_congr Iff.rfl rfl ?_)
  simp only [Bs.bspcTableLookup, wp_bind, wp_query, tolerant .layer node (by simp), true_and,
    wp_ite, wp_orHalt, tolerant .table node (by simp)]
  refine if_congr Iff.rfl ?_ rfl
  cases BspcTable.bucketOfProto pkt.proto with
  | none => rfl
  | some slot =>
      dsimp only
      cases BspcTable.lookupIn slot pkt.proto node.nsol.bspcTbl with
      | none => rfl
      | some pos =>
          simp only [Bs.sendPktToVnf, wp_perform, tolerant .send node (by simp), true_and,
            wp_pure]

end Nrg5
