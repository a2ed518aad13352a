import Nrg5.Lib.Threads
import Nrg5.BaseStation
import Nrg5.Device
import Nrg5.Rules

/-!
# Mutexes of the forwarding path

`nso_layer_fwd` takes the mutexes of both forwarding tables and of the ARP table.
A single call gives all of them back exactly when it resolves its destination, or
when it has no route and the pointer that the common end frees happens to be NULL:
the jump for a missing ARP entry leaves the ARP mutex behind.

The consequence for concurrent threads is drawn with the lock discipline of
`Nrg5.Lib.Threads`: while every next hop has its ARP entry, a thread waits for the
ARP mutex only as long as some thread is inside an ARP critical section.
-/

namespace Nrg5

open LockProg

/-! ## One call -/

/-- The call, alone and with every mutex free, returns with every mutex free. -/
def FwdBalanced (node : Node) (pkt : Packet) : Prop :=
  ∃ value, ((nsoLayerFwd pkt).exec (fun _ => false) node).result = .done value ∧
    ∀ lock, ((nsoLayerFwd pkt).exec (fun _ => false) node).held lock = false

/-- A next hop with an ARP entry, or no route and a NULL in the uninitialised pointer. -/
def FwdResolves (node : Node) (pkt : Packet) : Prop :=
  (∀ nxt iface, node.nsol.route pkt.dstDevid = some (nxt, iface) →
    (ArpTable.lookupFromDevId nxt node.nsol.arpt).isSome = true) ∧
  (node.nsol.route pkt.dstDevid = none → node.env.stackAddr = .null)

theorem fwdBalanced_iff_wp (node : Node) (pkt : Packet) :
    FwdBalanced node pkt ↔
      (nsoLayerFwd pkt).wp (fun _ _ => True)
        { post := fun _ held _ => ∀ lock, held lock = false } (fun _ => false) node := by
  rw [wp_done_iff_exec]
  simp [FwdBalanced]

theorem fwdBalanced_iff (node : Node) (pkt : Packet) :
    FwdBalanced node pkt ↔ FwdResolves node pkt := by
  rw [fwdBalanced_iff_wp, wp_nsoLayerFwd tolerant_true rfl rfl]
  simp only [FwdResolves]
  cases node.nsol.route pkt.dstDevid with
  | none => cases node.env.stackAddr <;> simp
  | some found =>
      rcases found with ⟨nxt, iface⟩
      dsimp only
      cases known : ArpTable.lookupFromDevId nxt node.nsol.arpt with
      | some entry => simp [known]
      | none =>
          have stillHeld : ¬ ∀ lock, Function.update (fun _ => false) Lock.arpt true lock =
              false := by
            intro free
            simpa using free .arpt
          cases node.env.stackAddr <;> simp [stillHeld, known]

/-! ## Threads -/

/-- The calls of the threads. -/
inductive ArpCall : Type where
  | nsoLayerFwd (pkt : Packet)
  | neighborMaintain (pkt : Packet) (src : Option L2addr) (iface : Option NsoIf)
  | fwdBeacon (pkt : Packet) (src : Option L2addr) (iface : Option NsoIf)
  | fwdBeaconBs (pkt : Packet) (src : Option L2addr) (iface : Option NsoIf)
  | arpTableAdd (entry : ArpEntry)
  | arpTableDel (entry : ArpEntry)
  | arpTableLookupFromDevId (devId : DeviceId)
  | arpTableLookupFromL2addr (addr : L2addr)
  | arpTableAging

def ArpCall.body : ArpCall → Prog Unit
  | .nsoLayerFwd pkt => do let _ ← Nrg5.nsoLayerFwd pkt
  | .neighborMaintain pkt src iface => do let _ ← Nrg5.neighborMaintain pkt src iface
  | .fwdBeacon pkt src iface => do let _ ← Device.fwdBeacon pkt src iface
  | .fwdBeaconBs pkt src iface => do let _ ← Bs.fwdBeacon pkt src iface
  | .arpTableAdd entry => Nrg5.arpTableAdd entry
  | .arpTableDel entry => Nrg5.arpTableDel entry
  | .arpTableLookupFromDevId devId => do let _ ← Nrg5.arpTableLookupFromDevId devId
  | .arpTableLookupFromL2addr addr => do let _ ← Nrg5.arpTableLookupFromL2addr addr
  | .arpTableAging => Nrg5.arpTableAging

/-- The judgement of the runs in which every next hop has its ARP entry. -/
def NextHopsKnown (op : Op) (node : Node) : Prop :=
  match op with
  | .nextHopArp devId => (ArpTable.lookupFromDevId devId node.nsol.arpt).isSome = true
  | _ => True

/-- What the environment may change: the behaviour of the system calls. -/
def EnvChanges (node node' : Node) : Prop := ∃ env, node' = { node with env := env }

/-- A piece of code that neither keeps nor needs the ARP mutex. -/
def ArpNeutral {α : Type} (prog : Prog α) : Prop :=
  ∀ post : α → Bool → Prop, (∀ value, post value false) →
    prog.track .arpt NextHopsKnown post false

theorem arpNeutral_nextHop (dst : DeviceId) : ArpNeutral (nextHop dst) := by
  intro post atEnd
  simp only [nextHop, findRoute, track_bind, track_acquire, track_query, track_release,
    track_pure, reduceCtorEq, if_false]
  intro node _
  split
  · exact atEnd _
  · simp only [track_bind, track_acquire, track_query, track_release, track_pure,
      reduceCtorEq, if_false]
    exact fun _ _ => atEnd _

theorem arpNeutral_wifiSend (iface : NsoIf) (pkt : Packet) (dst : L2addr) :
    ArpNeutral (wifiSend iface pkt dst) := by
  intro post atEnd
  simp only [wifiSend]
  split
  · exact atEnd _
  · simp only [track_bind, track_perform, track_pure]
    exact fun _ _ => atEnd _

/-- Where every next hop has its ARP entry, the forwarding gives the mutex back. -/
theorem arpNeutral_nsoLayerFwd (pkt : Packet) : ArpNeutral (nsoLayerFwd pkt) := by
  intro post atEnd
  simp only [nsoLayerFwd, track_bind]
  apply arpNeutral_nextHop
  intro route
  cases route with
  | none =>
      simp only [fwdOut, track_bind, track_query]
      intro node _
      cases node.env.stackAddr with
      | null => exact atEnd _
      | wild => trivial
  | some found =>
      rcases found with ⟨nxt, iface⟩
      simp only [track_bind, track_acquire, track_query, if_true, true_and]
      intro node known
      cases found : ArpTable.lookupFromDevId nxt node.nsol.arpt with
      | none => simp [NextHopsKnown, found] at known
      | some entry =>
          simp only [track_bind, track_release, if_true, true_and]
          apply arpNeutral_wifiSend
          exact fun _ => atEnd _

theorem arpNeutral_learnArp (devId : DeviceId) (src : Option L2addr) :
    ArpNeutral (learnArp devId src) := by
  intro post atEnd
  simp only [learnArp, track_bind, track_acquire, track_query, if_true, true_and]
  intro node _
  cases ArpTable.lookupFromDevId devId node.nsol.arpt with
  | some entry =>
      simp only [track_bind, track_modify, track_release, if_true, true_and]
      exact fun _ _ => atEnd _
  | none =>
      cases src with
      | none => simp [orHalt]
      | some mac =>
          simp only [track_bind, track_release, if_true, true_and, orHalt, track_pure, malloc,
            track_perform, arpTableAdd, track_acquire, track_modify]
          exact fun _ _ _ _ => atEnd _

theorem arpNeutral_learnRoute (dest nxthop : DeviceId) (iface : Option NsoIf) :
    ArpNeutral (learnRoute dest nxthop iface) := by
  intro post atEnd
  simp only [learnRoute, track_bind, track_acquire, track_query, reduceCtorEq, if_false]
  intro node _
  cases FwdTable.lookup dest node.nsol.localFwdt with
  | some entry =>
      simp only [track_bind, track_modify, track_release, reduceCtorEq, if_false]
      exact fun _ _ => atEnd _
  | none =>
      cases iface with
      | none => simp [allocFwdEntry, orHalt]
      | some interface =>
          simp only [track_bind, track_release, reduceCtorEq, if_false, allocFwdEntry, orHalt,
            track_pure, malloc, track_perform, track_modify]
          exact fun _ _ _ _ => atEnd _

theorem arpNeutral_learnNbr (devId : DeviceId) (iface : Option NsoIf) :
    ArpNeutral (learnNbr devId iface) := by
  intro post atEnd
  simp only [learnNbr, track_bind, track_acquire, track_query, reduceCtorEq, if_false]
  intro node _
  cases NbrTable.lookup devId node.nsol.nbrt with
  | some entry =>
      simp only [track_bind, track_modify, track_release, reduceCtorEq, if_false]
      exact fun _ _ => atEnd _
  | none =>
      simp only [track_bind, track_release, reduceCtorEq, if_false, malloc, track_perform,
        track_acquire, track_modify]
      exact fun _ _ _ _ => atEnd _

theorem arpNeutral_downstreamDevId (src : Option L2addr) : ArpNeutral (downstreamDevId src) := by
  intro post atEnd
  simp only [downstreamDevId, track_bind, track_acquire, if_true, true_and]
  cases src with
  | none => simp [orHalt]
  | some mac =>
      simp only [orHalt, track_pure, track_query]
      intro node _
      cases ArpTable.lookupFromL2addr mac node.nsol.arpt with
      | none => simp
      | some entry =>
          simp only [track_pure, track_release, if_true, true_and]
          exact atEnd _

theorem arpNeutral_checkConnected : ArpNeutral checkConnected := by
  intro post atEnd
  simp only [checkConnected, track_bind, track_acquire, track_query, track_release, track_pure,
    reduceCtorEq, if_false]
  exact fun _ _ => atEnd _

/-- The beacon handler is neutral when what it hands the beacon to is. -/
theorem arpNeutral_fwdBeaconWith {deliver : Packet → Prog Packet}
    (neutral : ∀ pkt, ArpNeutral (deliver pkt)) (pkt : Packet) (src : Option L2addr)
    (iface : Option NsoIf) : ArpNeutral (fwdBeaconWith deliver pkt src iface) := by
  intro post atEnd
  simp only [fwdBeaconWith, track_bind]
  apply arpNeutral_checkConnected
  intro connected
  cases connected with
  | false =>
      simp only [if_true, track_pure]
      exact atEnd _
  | true =>
    simp only [Bool.true_eq_false, if_false, track_ite]
    cases isBroadcastDevId pkt.dstDevid with
    | true =>
      simp only [if_true, track_bind, track_query]
      intro node _
      cases src with
      | none => simp [orHalt]
      | some mac =>
          simp only [orHalt, track_pure]
          apply arpNeutral_learnArp
          intro _
          apply arpNeutral_learnRoute
          intro _
          exact neutral _ _ atEnd
    | false =>
      simp only [Bool.false_eq_true, if_false, track_bind]
      apply arpNeutral_downstreamDevId
      intro nxtId
      apply arpNeutral_learnRoute
      intro _
      exact neutral _ _ atEnd

theorem arpNeutral_deliverFwd (pkt : Packet) : ArpNeutral (deliverFwd pkt) := by
  intro post atEnd
  simp only [deliverFwd, track_bind]
  apply arpNeutral_nsoLayerFwd
  exact fun _ => atEnd _

theorem arpNeutral_deliverVtsd (pkt : Packet) : ArpNeutral (Bs.deliverVtsd pkt) := by
  intro post atEnd
  simp only [Bs.deliverVtsd, Bs.sendPktToVnf, track_bind, track_query, track_perform, track_pure]
  exact fun _ _ _ _ => atEnd _

/-- Every call of the threads gives the ARP mutex back. -/
theorem arpCall_releases (call : ArpCall) :
    call.body.Releases .arpt NextHopsKnown false := by
  cases call with
  | nsoLayerFwd pkt =>
      simp only [ArpCall.body, Releases, track_bind]
      apply arpNeutral_nsoLayerFwd
      simp
  | neighborMaintain pkt src iface =>
      simp only [ArpCall.body, Releases, neighborMaintain, track_bind]
      apply arpNeutral_learnArp
      intro _
      apply arpNeutral_learnNbr
      simp
  | fwdBeacon pkt src iface =>
      simp only [ArpCall.body, Releases, Device.fwdBeacon, track_bind]
      apply arpNeutral_fwdBeaconWith arpNeutral_deliverFwd
      simp
  | fwdBeaconBs pkt src iface =>
      simp only [ArpCall.body, Releases, Bs.fwdBeacon, track_bind]
      apply arpNeutral_fwdBeaconWith arpNeutral_deliverVtsd
      simp
  | arpTableAdd entry => simp [ArpCall.body, Releases, arpTableAdd]
  | arpTableDel entry => simp [ArpCall.body, Releases, arpTableDel]
  | arpTableLookupFromDevId devId => simp [ArpCall.body, Releases, arpTableLookupFromDevId]
  | arpTableLookupFromL2addr addr => simp [ArpCall.body, Releases, arpTableLookupFromL2addr]
  | arpTableAging => simp [ArpCall.body, Releases, arpTableAging]

/-- A call is balanced exactly when it resolves, and in the runs whose next hops all
have their ARP entry no thread waits for the ARP mutex while nobody is inside an ARP
critical section. -/
theorem nsoLayerFwd_lock_balance (τ : Type) [DecidableEq τ] :
    (∀ (node : Node) (pkt : Packet), FwdBalanced node pkt ↔ FwdResolves node pkt) ∧
      ∀ config : Threads.Config τ Node Lock Op Halt,
        Threads.Reachable ArpCall.body NextHopsKnown EnvChanges config →
          ∀ waiter, config.Waits waiter .arpt → ∃ t, config.InSection t .arpt := by
  constructor
  · exact fwdBalanced_iff
  · intro config reachable waiter waits
    exact Threads.waiting_inSection arpCall_releases reachable waits

/-- One call for a destination whose next hop has no ARP entry leaves the mutex
behind, and the next thread waits for it while no thread is inside a section. -/
theorem waits_outside_section {node : Node} {pkt : Packet} {nxt : DeviceId} {iface : NsoIf}
    (routed : node.nsol.route pkt.dstDevid = some (nxt, iface))
    (unknown : ArpTable.lookupFromDevId nxt node.nsol.arpt = none)
    (isNull : node.env.stackAddr = .null) :
    ∃ config : Threads.Config Bool Node Lock Op Halt,
      Threads.Reachable ArpCall.body (fun _ _ => True) EnvChanges config ∧
        config.Waits true .arpt ∧ ∀ t, ¬ config.InSection t .arpt := by
  have ends : (ArpCall.nsoLayerFwd pkt).body.wp (fun _ _ => True)
      { post := fun _ held _ => held .arpt = true } (fun _ => false) node := by
    simp only [ArpCall.body, wp_bind]
    rw [wp_nsoLayerFwd tolerant_true rfl rfl, routed]
    simp [unknown, isNull]
  rcases (wp_done_iff_exec _ _).mp ends with ⟨_, ⟨value, returns, leaks⟩⟩
  have takes : (ArpCall.arpTableLookupFromDevId nxt).body = .lock .arpt _ := rfl
  exact Threads.waits_of_leak returns (fun _ _ => trivial) leaks takes

/-! ### A device with one route -/

/-- A connected device with one route of the controller, to device 5 through device 7. -/
def routedLayer : NsoLayer :=
  { NsoLayer.initial 1 2 1500 [wlan0] wlan0_fits with
    devState := .connected
    sonFwdt := FwdTable.add ⟨0, 5, 7, wlan0, .active⟩ .empty }

/-- The device without an ARP entry for device 7, in an environment where the
uninitialised pointer is NULL. -/
def orphanNode : Node := Node.start routedLayer { Env.nominal with stackAddr := .null }

/-- The device with the ARP entry. -/
def resolvedNode : Node :=
  orphanNode.updateArpt (ArpTable.add ⟨1, 7, [2, 0, 0, 0, 0, 7], .active⟩)

def pktFor (devId : DeviceId) : Packet := (allocPacket (fun _ => 0) 1500).setDstDevid devId

theorem orphanNode_route : orphanNode.nsol.route (pktFor 5).dstDevid = some (7, wlan0) := by
  simp [orphanNode, Node.start, routedLayer, NsoLayer.route, pktFor, FwdTable.lookup_add]

theorem orphanNode_arp (devId : DeviceId) :
    ArpTable.lookupFromDevId devId orphanNode.nsol.arpt = none := rfl

theorem orphanNode_unbalanced :
    ¬ FwdBalanced orphanNode (pktFor 5) ∧
      ∃ config : Threads.Config Bool Node Lock Op Halt,
        Threads.Reachable ArpCall.body (fun _ _ => True) EnvChanges config ∧
          config.Waits true .arpt ∧ ∀ t, ¬ config.InSection t .arpt := by
  constructor
  · intro balanced
    have resolves := (fwdBalanced_iff _ _).mp balanced
    have known := resolves.1 7 wlan0 orphanNode_route
    simp [orphanNode_arp] at known
  · exact waits_outside_section orphanNode_route (orphanNode_arp 7) rfl

theorem resolvedNode_resolves : FwdResolves resolvedNode (pktFor 5) := by
  have routed : resolvedNode.nsol.route (pktFor 5).dstDevid = some (7, wlan0) := by
    rw [resolvedNode, route_updateArpt, orphanNode_route]
  constructor
  · intro nxt iface same
    simp only [routed, Option.some.injEq, Prod.mk.injEq] at same
    simp [← same.1, resolvedNode, Node.updateArpt, Node.updateLayer,
      ArpTable.lookupFromDevId_add]
  · simp [routed]

/-- One thread between taking and releasing the mutex, and one that waits for it. -/
theorem waiting_reachable : ∃ config : Threads.Config Bool Node Lock Op Halt,
    Threads.Reachable ArpCall.body NextHopsKnown EnvChanges config ∧
      config.Waits true .arpt := by
  let start : Threads.Config Bool Node Lock Op Halt :=
    { state := resolvedNode, owner := fun _ => none, thread := fun _ => .idle }
  let called := start.setThread false (.running ArpCall.arpTableAging.body fun _ => false)
  have calls : Threads.Step ArpCall.body NextHopsKnown EnvChanges start called :=
    .call false ArpCall.arpTableAging rfl
  have locks : ∃ locked, Threads.Step ArpCall.body NextHopsKnown EnvChanges called locked ∧
      locked.thread true = .idle ∧ locked.owner .arpt = some false :=
    ⟨_, .lock false .arpt _ _ rfl rfl, rfl, rfl⟩
  rcases locks with ⟨locked, locks, isIdle, isOwned⟩
  let waiting := locked.setThread true
    (.running (ArpCall.arpTableLookupFromDevId 7).body fun _ => false)
  have waits : Threads.Step ArpCall.body NextHopsKnown EnvChanges locked waiting :=
    .call true (ArpCall.arpTableLookupFromDevId 7) isIdle
  have atLock : ∃ next entered, waiting.thread true = .running (.lock .arpt next) entered :=
    ⟨_, _, rfl⟩
  exact ⟨waiting, ⟨start, ⟨fun _ => rfl, fun _ => rfl⟩,
    ((Relation.ReflTransGen.single calls).tail locks).tail waits⟩, atLock,
    Option.isSome_of_eq_some isOwned⟩

theorem nsoLayerFwd_lock_balance_resolved :
    FwdBalanced resolvedNode (pktFor 5) ∧
      ∃ config : Threads.Config Bool Node Lock Op Halt,
        config.Waits true .arpt ∧ ∃ t, config.InSection t .arpt := by
  rcases waiting_reachable with ⟨config, reachable, waits⟩
  have balanced : FwdBalanced resolvedNode (pktFor 5) :=
    ((nsoLayerFwd_lock_balance Bool).1 resolvedNode (pktFor 5)).mpr resolvedNode_resolves
  exact ⟨balanced, config, waits,
    (nsoLayerFwd_lock_balance Bool).2 config reachable true waits⟩

end Nrg5
