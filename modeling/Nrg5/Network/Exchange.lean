import Nrg5.Network.Relay

/-!
# Data between the base station and its devices

In the runs without rules of the controller an ARP entry for a station has an address of that
station.  So each next hop of a temporary route is a station that hears the frames that are sent
to it, and data comes over the routes from every connected device to the base station and back.
-/

namespace Nrg5

open LockProg

variable {node after : Node} {pkt : Packet} {message : Message} {iface : NsoIf}
  {devId target : DeviceId} {mac src : L2addr}

theorem arpt_learnedNbr (nbrIface : Option NsoIf) :
    (node.learnedNbr devId nbrIface).nsol.arpt = node.nsol.arpt :=
  (quiet_learnedNbr devId nbrIface).arpt

theorem arpt_joined (gwId nxthop : DeviceId) :
    (node.joined gwId nxthop iface).nsol.arpt = node.nsol.arpt := rfl

theorem arpt_joinedBs (gwId : DeviceId) : (node.joinedBs gwId).nsol.arpt = node.nsol.arpt := rfl

namespace Network

variable {ι : Type} {net : Network ι} {state next : NetState ι} {s t sender : Option ι} {i : ι}

/-! ## Addresses of the stations -/

/-- An ARP entry for a station has an address of that station. -/
def Addressed (net : Network ι) (node : Node) : Prop :=
  ∀ t entry, ArpTable.lookupFromDevId (net.station t).devId node.nsol.arpt = some entry →
    ∃ own ∈ (net.station t).ifaces, entry.l2addr = own.ifMac

theorem Addressed.same (addressed : net.Addressed node) (arpt : after.nsol.arpt = node.nsol.arpt) :
    net.Addressed after := by
  intro t entry found
  rw [arpt] at found
  exact addressed t entry found

theorem Addressed.learnedArp (addressed : net.Addressed node) (devId : DeviceId) (mac : L2addr)
    (isTrue : ∀ t, (net.station t).devId = devId →
      ∃ own ∈ (net.station t).ifaces, mac = own.ifMac) :
    net.Addressed (node.learnedArp devId mac) := by
  intro t entry found
  rw [Node.learnedArp] at found
  cases isKnown : ArpTable.lookupFromDevId devId node.nsol.arpt with
  | some known =>
      simp only [isKnown, Node.updateArpt, Node.updateLayer, ArpTable.lookupFromDevId_refresh,
        Option.map_eq_some_iff] at found
      rcases found with ⟨old, foundOld, isEntry⟩
      rcases addressed t old foundOld with ⟨own, isOwn, isMac⟩
      refine ⟨own, isOwn, ?_⟩
      rw [← isEntry, ← isMac]
      split
      · rfl
      · rfl
  | none =>
      simp only [isKnown, Node.updateArpt, Node.updateLayer, ArpTable.lookupFromDevId_add] at found
      split at found
      · rename_i same
        rcases Option.some.inj found with rfl
        exact isTrue t same.symm
      · exact addressed t entry found

theorem Addressed.learnedRoute (addressed : net.Addressed node) (dest nxthop : DeviceId)
    (iface : NsoIf) : net.Addressed (node.learnedRoute dest nxthop iface) :=
  addressed.same (arpt_learnedRoute dest nxthop iface)

theorem Addressed.forwards (addressed : net.Addressed node) (forwards : Forwards pkt node after) :
    net.Addressed after :=
  addressed.same (by rw [nsol_forwards forwards])

theorem Addressed.originates {ifaces : List NsoIf} {own : Message → Prop}
    (addressed : net.Addressed node) (originates : Originates ifaces own node after) :
    net.Addressed after := by
  induction originates with
  | quiet unseen => exact addressed.same unseen.arpt
  | broadcast isOwn before showing isMessage behind ih =>
      apply ih.same
      rw [behind.arpt, nsol_sentOn]
  | forwarded before showing isMessage forwards =>
      exact (addressed.same before.arpt).forwards forwards

theorem Addressed.reports (addressed : net.Addressed node) (reports : Reports message node after) :
    net.Addressed after := by
  cases reports with
  | quiet unseen => exact addressed.same unseen.arpt
  | written fd before showing => exact addressed.same before.arpt

/-! ## What a station learns from a frame -/

section Heard

variable {own : NsoIf} (addressed : net.Addressed node)
  (isSenders : own ∈ (net.station sender).ifaces) (isTrue : net.TrueFrame state sender message)
  (showing : pkt.Shows message)

include addressed isSenders isTrue showing

theorem Addressed.neighbourHeard (isSon : message.proto = protoCpVson)
    (isNbr : message.type = some sonMsgNbr) :
    net.Addressed (node.learnedArp pkt.srcDevid own.ifMac) := by
  apply addressed.learnedArp
  intro t isStation
  rw [showing.src, isTrue.advertisement isSon isNbr] at isStation
  rcases net.distinctIds t sender isStation with rfl
  exact ⟨own, isSenders, rfl⟩

theorem Addressed.beaconHeard (notBc : net.bsId ≠ bcDeviceId) (isTsd : message.proto = protoCpVtsd)
    (isReg : message.type = some tsdMsgReg) (toAll : message.dst = bcDeviceId) :
    net.Addressed (node.learnedArp pkt.srcDevid own.ifMac) := by
  apply addressed.learnedArp
  intro t isStation
  rw [showing.src, (isTrue.beacon isTsd isReg).2 toAll notBc] at isStation
  rcases net.distinctIds t sender isStation with rfl
  exact ⟨own, isSenders, rfl⟩

variable (honest : HonestFrame net.bsId message) (notBc : net.bsId ≠ bcDeviceId)

include honest notBc

theorem addressed_deviceEffect (effect : Device.Effect pkt own.ifMac iface node after)
    (notReg : node.nsol.devState ≠ .reg) : net.Addressed after := by
  cases effect with
  | quiet unseen => exact addressed.same unseen.arpt
  | passed connected isReply notNbr forwards => exact addressed.forwards forwards
  | beacon connected isTsd isReg toAll forwards =>
      have type := honest.msgType showing (.inl isTsd)
      rw [isReg] at type
      rw [showing.proto] at isTsd
      rw [showing.dst] at toAll
      have learned := addressed.beaconHeard isSenders isTrue showing notBc isTsd type toAll
      exact (learned.learnedRoute _ _ iface).forwards forwards
  | relayedBeacon connected isTsd isReg toOne downstream forwards =>
      exact (addressed.learnedRoute _ _ iface).forwards forwards
  | joined isTsd isReply forMe unreg upstream => exact addressed.same (arpt_joined _ _)
  | neighbour isSon isNbr =>
      have type := honest.msgType showing (.inr isSon)
      rw [isNbr] at type
      rw [showing.proto] at isSon
      exact (addressed.neighbourHeard isSenders isTrue showing isSon type).same (arpt_learnedNbr _)
  | routes isSon isRt changes =>
      rw [promoted_of_not_reg notReg] at changes
      exact addressed.same changes.arpt

theorem addressed_bsHears (effect : Bs.Effect pkt (.air own.ifMac iface) node after) :
    net.Addressed after := by
  cases effect with
  | quiet unseen => exact addressed.same unseen.arpt
  | passed notTsd notNbr forwards => exact addressed.forwards forwards
  | delivered fd notTsd => exact addressed.same (congrArg NsoLayer.arpt (nsol_sendBytes _ _))
  | beacon fd fromAir connected isTsd isReg toAll =>
      rcases Bs.Origin.air.inj fromAir with ⟨rfl, rfl⟩
      have type := honest.msgType showing (.inl isTsd)
      rw [isReg] at type
      rw [showing.proto] at isTsd
      rw [showing.dst] at toAll
      have learned := addressed.beaconHeard isSenders isTrue showing notBc isTsd type toAll
      exact (learned.learnedRoute _ _ iface).same (congrArg NsoLayer.arpt (nsol_sendBytes _ _))
  | relayedBeacon fd fromAir connected isTsd isReg toOne downstream =>
      exact (addressed.learnedRoute _ _ _).same (congrArg NsoLayer.arpt (nsol_sendBytes _ _))
  | joined isTsd isReply forMe unreg => exact addressed.same (arpt_joinedBs _)
  | neighbour isSon isNbr =>
      have type := honest.msgType showing (.inr isSon)
      rw [isNbr] at type
      rw [showing.proto] at isSon
      exact (addressed.neighbourHeard isSenders isTrue showing isSon type).same (arpt_learnedNbr _)
  | routes isSon isRt changes => exact addressed.same changes.arpt

end Heard

/-- No address is learned from a network function: the vTSD does not advertise. -/
theorem addressed_bsReads (addressed : net.Addressed node) (notSon : pkt.proto ≠ protoCpVson)
    (effect : Bs.Effect pkt .vnf node after) : net.Addressed after := by
  cases effect with
  | quiet unseen => exact addressed.same unseen.arpt
  | passed notTsd notNbr forwards => exact addressed.forwards forwards
  | delivered fd notTsd => exact addressed.same (congrArg NsoLayer.arpt (nsol_sendBytes _ _))
  | beacon fd fromAir connected isTsd isReg toAll => exact nomatch fromAir
  | relayedBeacon fd fromAir connected isTsd isReg toOne downstream => exact nomatch fromAir
  | joined isTsd isReply forMe unreg => exact addressed.same (arpt_joinedBs _)
  | neighbour isSon isNbr => exact absurd isSon notSon
  | routes isSon isRt changes => exact absurd isSon notSon

theorem addressed_initial (initial : net.Initial state) (s : Option ι) :
    net.Addressed (state.node s) := by
  cases s with
  | some i =>
      rcases initial.device i with ⟨gwId, env, isStart⟩
      rw [isStart]
      exact fun t entry found => nomatch found
  | none =>
      rcases initial.baseStation with ⟨gwId, vnfs, vtsdFd, vsonFd, env, isStart⟩
      rw [isStart]
      exact fun t entry found => nomatch found

theorem addressed_leaves (notBc : net.bsId ≠ bcDeviceId) (agreement : net.Agreement state)
    (routed : net.Routed state) (fromVtsd : ∀ pkt, net.Reads state pkt → pkt.proto ≠ protoCpVson)
    (addressed : net.Addressed (state.node s)) (leaves : net.Leaves state s after) :
    net.Addressed after := by
  cases leaves with
  | quiet unseen => exact addressed.same unseen.arpt
  | originates originates => exact addressed.originates originates
  | beacons originates => exact addressed.originates originates
  | reports own reports => exact addressed.reports reports
  | hears isOwn hears effect =>
      rcases routed.hears agreement hears with
        ⟨sender, message, ⟨own, isSenders, rfl⟩, honest, isTrue, showing⟩
      exact addressed_deviceEffect addressed isSenders isTrue showing honest notBc effect
        (agreement.nodes _).notReg
  | bsHears isOwn hears effect =>
      rcases routed.hears agreement hears with
        ⟨sender, message, ⟨own, isSenders, rfl⟩, honest, isTrue, showing⟩
      exact addressed_bsHears addressed isSenders isTrue showing honest notBc effect
  | bsReads reads effect => exact addressed_bsReads addressed (fromVtsd _ reads) effect

variable [DecidableEq ι]

/-- The answers of the vTSD are no messages of vSON. -/
theorem notVson_reads (withoutVson : net.WithoutVson) (reachable : net.Reachable state)
    (reads : net.Reads state pkt) : pkt.proto ≠ protoCpVson := by
  rcases reachable_iff_loggedRun.mp reachable with ⟨calls, run⟩
  rcases reads with ⟨bytes, rest, stream, left, junk, source, front, isRead⟩
  rcases source with isReply | isFunction
  · rcases (allTraced_run run).replies bytes isReply with ⟨isTsd, isMessage⟩
    rcases Vtsd.shows_readPktFromVnf isMessage front isRead with ⟨shown, showing, _, proto, _⟩
    rw [showing.proto, proto, isTsd]
    exact son_ne_tsd.symm
  · rcases Vtsd.shows_readPktFromVnf (net.functionsWhole _ isFunction) front isRead with
      ⟨shown, showing, _, proto, _⟩
    rw [showing.proto, proto]
    exact withoutVson bytes isFunction

theorem addressed_run (truly : net.AdvertisesTruly) (withoutVson : net.WithoutVson)
    (notBc : net.bsId ≠ bcDeviceId) (run : net.RouteRun state) (s : Option ι) :
    net.Addressed (state.node s) := by
  induction run generalizing s with
  | start initial => exact addressed_initial initial s
  | @step state next before step noRule ih =>
      have agreement := agreement_reachable truly.honestly before.reachable
      have routed := routed_run truly withoutVson before
      rcases step_cases before.reachable (fun s => (agreement.nodes s).config) step.step with
        ⟨t, leaves, others, _⟩ | ⟨_, _, _, _, _, _, nodes, _⟩
      · rcases eq_or_ne s t with rfl | isOther
        · exact addressed_leaves notBc agreement routed
            (fun _ => notVson_reads withoutVson before.reachable) (ih s) leaves
        · rw [others s isOther]
          exact ih s
      · rw [nodes]
        exact ih s

/-! ## Routes of stations -/

omit [DecidableEq ι] in
/-- The next hop of a station hears what the station sends to it. -/
theorem passes_of_nextHop (agreement : net.Agreement state) (routed : net.Routed state)
    (addressed : ∀ s, net.Addressed (state.node s))
    (noRule : ∀ s, (state.node s).nsol.sonFwdt = .empty)
    (isNext : net.NextHop state target (net.station s).devId (net.station t).devId) :
    net.Passes state target s t := by
  rcases isNext with ⟨u, entry, isStation, found, isNext, known⟩
  rcases net.distinctIds u s isStation with rfl
  constructor
  · cases isState : (state.node u).nsol.devState with
    | unreg =>
        rw [(routed.nodes u).unlearned isState] at found
        exact absurd found (by simp)
    | reg => exact absurd isState (agreement.nodes u).notReg
    | connected => rfl
  · have noSonRoute : FwdTable.lookup target (state.node u).nsol.sonFwdt = none := by
      rw [noRule u]
      rfl
    refine ⟨entry.iface, ?_⟩
    rw [NsoLayer.route, noSonRoute]
    dsimp only
    rw [found, Option.map_some, isNext]
  · rcases Option.isSome_iff_exists.mp known with ⟨arpEntry, isKnown⟩
    exact ⟨arpEntry, isKnown, addressed u t arpEntry isKnown⟩

omit [DecidableEq ι] in
/-- A route over identifiers is a route over stations. -/
theorem stations_of_route {x : DeviceId} {path : List DeviceId}
    (passes : ∀ s u, net.NextHop state (net.station t).devId (net.station s).devId
      (net.station u).devId → net.Passes state (net.station t).devId s u)
    (route : HopRoute (net.NextHop state (net.station t).devId) (net.station t).devId x path)
    (isStation : (net.station s).devId = x) :
    ∃ stations, HopRoute (net.Passes state (net.station t).devId) t s stations ∧
      stations.map (fun u => (net.station u).devId) = path := by
  induction route generalizing s with
  | arrived =>
      rcases net.distinctIds s t isStation with rfl
      exact ⟨[s], .arrived, rfl⟩
  | @hop x y rest onTheWay isNext onward ih =>
      have isKnown : ∃ u, (net.station u).devId = y := by
        cases onward with
        | arrived => exact ⟨t, rfl⟩
        | hop _ isLater _ =>
            rcases isLater with ⟨u, _, isU, _⟩
            exact ⟨u, isU⟩
      rcases isKnown with ⟨u, rfl⟩
      subst isStation
      rcases ih rfl with ⟨stations, onwards, isRest⟩
      refine ⟨s :: stations, .hop ?_ (passes s u isNext) onwards, ?_⟩
      · rintro rfl
        exact onTheWay rfl
      · rw [List.map_cons, isRest]

/-- In the runs without rules every temporary route is a route of stations that hear each other. -/
theorem route_of_reaches (truly : net.AdvertisesTruly) (withoutVson : net.WithoutVson)
    (notBc : net.bsId ≠ bcDeviceId) (run : net.RouteRun state)
    (reaches : net.Reaches state (net.station t).devId (net.station s).devId) :
    ∃ path, HopRoute (net.Passes state (net.station t).devId) t s path := by
  have routed := routed_run truly withoutVson run
  have agreement := agreement_reachable truly.honestly run.reachable
  have addressed := addressed_run truly withoutVson notBc run
  rcases reaches with ⟨_, ids, route⟩
  rcases stations_of_route
    (fun _ _ isNext => passes_of_nextHop agreement routed addressed run.noRule isNext)
    route rfl with ⟨path, hops, _⟩
  exact ⟨path, hops⟩

/-- The base station is connected before any of its devices. -/
theorem bsConnected_of_connected (truly : net.AdvertisesTruly) (withoutVson : net.WithoutVson)
    (notBc : net.bsId ≠ bcDeviceId) (run : net.RouteRun state)
    (connected : (state.node (some i)).nsol.devState = .connected) :
    (state.node none).nsol.devState = .connected := by
  have joined := ((routed_run truly withoutVson run).nodes (some i)).joined i rfl connected
  rcases route_of_reaches truly withoutVson notBc run joined.2 with ⟨path, hops⟩
  cases hops with
  | hop _ isNext _ => exact isNext.connected

/-! ## Data over the temporary routes -/

/-- Data of one station comes to another one over a route, if the stations of the route run and
have buffers for it. -/
def CanSend (net : Network ι) (state : NetState ι) (s t : Option ι) (dst : Option DeviceId) :
    Prop :=
  ∃ path, HopRoute (net.Passes state (net.station t).devId) t s path ∧
    ∀ buf proto, dispatch proto = .data →
      (t = none → (NsoLayer.functionOf proto (state.node none).nsol).isSome = true) →
      nsohdrSize ≤ storedLength (net.station s).mtu buf.length →
      (∀ u ∈ path, Running state u ∧
        storedLength (net.station s).mtu buf.length ≤ (net.station u).mtu) →
      ∃ final, net.Brings state (sendCall state s buf dst proto) t path final

/-- Every connected device can send to the base station without naming it, the base station can
send to every connected device, and every station to the connected devices that it has a route
for. -/
structure DataExchanged (net : Network ι) (state : NetState ι) : Prop where
  toBs : ∀ i, (state.node (some i)).nsol.devState = .connected →
    net.CanSend state (some i) none none
  fromBs : ∀ i, (state.node (some i)).nsol.devState = .connected →
    net.CanSend state none (some i) (some (net.station (some i)).devId)
  routes : ∀ s t, ∀ entry ∈ (state.node s).nsol.localFwdt.ll,
    entry.dest = (net.station t).devId → s ≠ t →
      (state.node t).nsol.devState = .connected →
        net.CanSend state s t (some (net.station t).devId)

/-- In the runs without rules data is exchanged over the temporary routes, also between stations
that do not hear each other. -/
theorem data_exchanged (truly : net.AdvertisesTruly) (withoutVson : net.WithoutVson)
    (notBc : net.bsId ≠ bcDeviceId) (run : net.RouteRun state) : net.DataExchanged state := by
  have routed := routed_run truly withoutVson run
  have agreement := agreement_reachable truly.honestly run.reachable
  rcases reachable_iff_loggedRun.mp run.reachable with ⟨calls, dataRun⟩
  have canSend : ∀ s t dst, s ≠ t → net.Reaches state (net.station t).devId (net.station s).devId →
      (state.node t).nsol.devState = .connected →
      dst.getD (state.node s).nsol.gwId = (net.station t).devId → net.CanSend state s t dst := by
    intro s t dst apart reaches connected toTarget
    rcases route_of_reaches truly withoutVson notBc run reaches with ⟨path, hops⟩
    refine ⟨path, hops, ?_⟩
    intro buf proto isData function header enough
    exact data_relayed dataRun hops apart (fun u isMem => (enough u isMem).1) connected toTarget
      isData function header fun u isMem => (enough u isMem).2
  refine ⟨?_, ?_, ?_⟩
  · intro i connected
    exact canSend (some i) none none (Option.some_ne_none i)
      ((routed.nodes (some i)).joined i rfl connected).1
      (bsConnected_of_connected truly withoutVson notBc run connected)
      ((agreement.nodes (some i)).gateway connected)
  · intro i connected
    exact canSend none (some i) _ (Option.some_ne_none i).symm
      ((routed.nodes (some i)).joined i rfl connected).2 connected rfl
  · intro s t entry isMem isTarget apart connected
    have sound := routed.nodes s
    have isFound : (FwdTable.lookup entry.dest (state.node s).nsol.localFwdt).isSome = true := by
      apply (sound.covers.find_isSome _).mpr ⟨entry, isMem, by simp⟩
      intro other isMatch
      rw [FwdTable.bucket, beq_iff_eq.mp isMatch]
    rcases Option.isSome_iff_exists.mp isFound with ⟨first, found⟩
    have reaches := (sound.routes entry.dest first found).1
    rw [isTarget] at reaches
    exact canSend s t _ apart reaches connected rfl

theorem notBc_oneRadio : oneRadio.bsId ≠ bcDeviceId := by decide +kernel

theorem oneRadio_exchanges : oneRadio.DataExchanged oneJoined.state ∧
    (oneJoined.state.node (some ())).nsol.devState = .connected :=
  ⟨data_exchanged oneRadio_truly oneRadio_withoutVson notBc_oneRadio oneJoined_run,
    by decide +kernel⟩

end Network

end Nrg5
