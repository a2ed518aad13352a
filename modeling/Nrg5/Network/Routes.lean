import Nrg5.Network.Provenance
import Nrg5.Network.Schedule

/-!
# Temporary routes without loops

In the runs without rules of the controller every temporary route reaches its target
station by station, and each next hop on it has an ARP entry.  The second
advertisement of a base station with two interfaces can break that: its receivers may
read it as the advertisement of a station that does not exist.
-/

namespace Nrg5

open LockProg

variable {node mid after : Node} {pkt : Packet} {message : Message} {iface : NsoIf} {src : L2addr}

namespace Network

variable {ι : Type} {net : Network ι} {state next : NetState ι} {s : Option ι} {i : ι}

/-! ## Runs without rules -/

variable [DecidableEq ι]

/-- The states of the runs in which no rule of the controller is installed and a unicast frame
is received only by the station that it names. -/
inductive RouteRun (net : Network ι) : NetState ι → Prop where
  | start {state : NetState ι} (initial : net.Initial state) : RouteRun net state
  | step {state next : NetState ι} (before : RouteRun net state) (step : net.OwnStep state next)
      (noRule : ∀ s, (next.node s).nsol.sonFwdt = .empty) : RouteRun net next

theorem RouteRun.reachable (run : net.RouteRun state) : net.Reachable state := by
  induction run with
  | start initial => exact .start initial
  | step before step noRule ih => exact .step ih step.step

omit [DecidableEq ι] in
/-- The rules of a station are empty when it starts. -/
theorem noRule_initial (initial : net.Initial state) (s : Option ι) :
    (state.node s).nsol.sonFwdt = .empty := by
  cases s with
  | some i =>
      rcases initial.device i with ⟨gwId, env, isStart⟩
      rw [isStart]
      rfl
  | none =>
      rcases initial.baseStation with ⟨gwId, vnfs, vtsdFd, vsonFd, env, isStart⟩
      rw [isStart]
      rfl

theorem RouteRun.noRule (run : net.RouteRun state) (s : Option ι) :
    (state.node s).nsol.sonFwdt = .empty := by
  cases run with
  | start initial => exact noRule_initial initial s
  | step before step noRule => exact noRule s

/-! ## Calls that install no rule -/

theorem sonFwdt_forwards (forwards : Forwards pkt node after) :
    after.nsol.sonFwdt = node.nsol.sonFwdt := by
  rw [nsol_forwards forwards]

theorem sonFwdt_originates {ifaces : List NsoIf} {own : Message → Prop}
    (originates : Originates ifaces own node after) : after.nsol.sonFwdt = node.nsol.sonFwdt := by
  induction originates with
  | quiet unseen => exact unseen.sonFwdt
  | broadcast isOwn before showing isMessage behind ih => rw [behind.sonFwdt, nsol_sentOn, ih]
  | forwarded before showing isMessage forwards => rw [sonFwdt_forwards forwards, before.sonFwdt]

theorem sonFwdt_reports (reports : Reports message node after) :
    after.nsol.sonFwdt = node.nsol.sonFwdt := by
  cases reports with
  | quiet unseen => exact unseen.sonFwdt
  | written fd before showing => exact before.sonFwdt

theorem sonFwdt_neighbour (devId : DeviceId) (nbrIface : Option NsoIf) :
    ((node.learnedArp devId src).learnedNbr devId nbrIface).nsol.sonFwdt = node.nsol.sonFwdt := by
  rw [(@quiet_learnedNbr (node.learnedArp devId src) devId nbrIface).sonFwdt]
  exact (learnsOnly_learnedArp devId src).sonFwdt

theorem sonFwdt_beacon (devId : DeviceId) :
    ((node.learnedArp devId src).learnedRoute devId devId iface).nsol.sonFwdt =
      node.nsol.sonFwdt :=
  ((learnsOnly_learnedArp devId src).trans (learnsOnly_learnedRoute devId devId)).sonFwdt

theorem sonFwdt_joined (gwId nxthop : DeviceId) :
    (node.joined gwId nxthop iface).nsol.sonFwdt = node.nsol.sonFwdt := rfl

theorem sonFwdt_joinedBs (gwId : DeviceId) :
    (node.joinedBs gwId).nsol.sonFwdt = node.nsol.sonFwdt := rfl

theorem sonFwdt_deviceEffect (notRoutes : ¬ UpdatesRoutes pkt)
    (effect : Device.Effect pkt src iface node after) :
    after.nsol.sonFwdt = node.nsol.sonFwdt := by
  cases effect with
  | quiet unseen => exact unseen.sonFwdt
  | passed connected isReply notNbr forwards => exact sonFwdt_forwards forwards
  | beacon connected isTsd isReg toAll forwards =>
      rw [sonFwdt_forwards forwards, sonFwdt_beacon]
  | relayedBeacon connected isTsd isReg toOne downstream forwards =>
      rw [sonFwdt_forwards forwards, (learnsOnly_learnedRoute _ _).sonFwdt]
  | joined isTsd isReply forMe unreg upstream => exact sonFwdt_joined _ _
  | neighbour isSon isNbr => exact sonFwdt_neighbour _ _
  | routes isSon isRt changes => exact absurd ⟨isSon, isRt⟩ notRoutes

theorem sonFwdt_bsEffect {origin : Bs.Origin} (notRoutes : ¬ UpdatesRoutes pkt)
    (effect : Bs.Effect pkt origin node after) : after.nsol.sonFwdt = node.nsol.sonFwdt := by
  cases effect with
  | quiet unseen => exact unseen.sonFwdt
  | passed notTsd notNbr forwards => exact sonFwdt_forwards forwards
  | delivered fd notTsd => rw [nsol_sendBytes]
  | beacon fd fromAir connected isTsd isReg toAll => rw [nsol_sendBytes, sonFwdt_beacon]
  | relayedBeacon fd fromAir connected isTsd isReg toOne downstream =>
      rw [nsol_sendBytes, (learnsOnly_learnedRoute _ _).sonFwdt]
  | joined isTsd isReply forMe unreg => exact sonFwdt_joinedBs _
  | neighbour isSon isNbr => exact sonFwdt_neighbour _ _
  | routes isSon isRt changes => exact absurd ⟨isSon, isRt⟩ notRoutes

/-- A call that keeps the rules continues the run. -/
theorem RouteRun.call (run : net.RouteRun state) {body : Prog Unit}
    (step : net.OwnStep state (Network.run state s body))
    (kept : (body.exec (state.held s) (state.node s)).state.nsol.sonFwdt =
      (state.node s).nsol.sonFwdt) : net.RouteRun (Network.run state s body) := by
  apply run.step step
  apply @forall_node_run _ _ _ _ _ (fun _ node => node.nsol.sonFwdt = .empty) run.noRule
  rw [kept]
  exact run.noRule s

theorem RouteRun.answer (run : net.RouteRun state) (services : Vtsd.Services) {fd : Nat}
    {request reply : List UInt8} (written : (fd, request) ∈ (state.node none).vnfTx)
    (answers : Vtsd.listenToBs services request = some reply) :
    net.RouteRun { state with replies := state.replies ++ [reply] } :=
  run.step (.vtsd services written answers) run.noRule

/-- Of the calls of a device only an update of its routes installs a rule. -/
theorem sonFwdt_deviceEvent {held : Lock → Bool} (free : TablesFree held)
    (small : node.nsol.mtu + tailroom < 16384) {event : Device.Event}
    (isHandler : ∀ rx, event = .receive rx → rx.handler = dispatch rx.pkt.proto)
    (notRoutes : ∀ pkt ∈ event.read, ¬ UpdatesRoutes pkt) :
    (event.body.exec held node).state.nsol.sonFwdt = node.nsol.sonFwdt := by
  cases event with
  | environment env => exact ((wp_always_iff _).mp (environment_quiet env)).sonFwdt
  | receive rx =>
      rcases rx with ⟨handler, pkt, src, iface⟩
      have isDispatch := isHandler _ rfl
      dsimp only at isDispatch
      rw [Device.Event.body, isDispatch]
      apply sonFwdt_deviceEffect (notRoutes pkt rfl)
      apply (wp_always_iff (Device.Effect pkt src iface node)).mp
      rw [wp_bind]
      exact deviceRx_effect free
  | beacon => exact sonFwdt_originates ((wp_always_iff _).mp tsdBroadcastBeacons_originates)
  | topoReport =>
      exact sonFwdt_originates
        ((wp_always_iff _).mp (@deviceTopoReport_originates _ _ [] free small))
  | advertise => exact sonFwdt_originates ((wp_always_iff _).mp sonNbrAdvertise_originates)
  | send buf dst proto =>
      apply @sonFwdt_originates _ _ [] _
      apply (wp_always_iff (Originates [] _ node)).mp
      rw [Device.Event.body, wp_bind]
      exact nsoLayerSend_originates free buf dst proto
  | recv size =>
      apply Quiet.sonFwdt
      apply (wp_always_iff (Quiet node)).mp
      rw [Device.Event.body, wp_bind]
      exact nsoLayerRecv_quiet free size

/-- As for a device: a message that updates no routes leaves the rules as they are. -/
theorem sonFwdt_bsEvent {held : Lock → Bool} (free : TablesFree held)
    (small : node.nsol.mtu + tailroom < 16384) {event : Bs.Event}
    (isHandler : ∀ rx, event = .receive rx → rx.handler = dispatch rx.pkt.proto)
    (notRoutes : ∀ pkt ∈ event.read, ¬ UpdatesRoutes pkt) :
    (event.body.exec held node).state.nsol.sonFwdt = node.nsol.sonFwdt := by
  cases event with
  | environment env => exact ((wp_always_iff _).mp (environment_quiet env)).sonFwdt
  | receive rx =>
      rcases rx with ⟨handler, pkt, origin⟩
      have isDispatch := isHandler _ rfl
      dsimp only at isDispatch
      rw [Bs.Event.body, isDispatch]
      apply sonFwdt_bsEffect (notRoutes pkt rfl)
      apply (wp_always_iff (Bs.Effect pkt origin node)).mp
      rw [wp_bind]
      exact Bs.rx_effect free
  | vnfMessage pkt =>
      apply sonFwdt_bsEffect (notRoutes pkt rfl)
      apply (wp_always_iff (Bs.Effect pkt .vnf node)).mp
      rw [Bs.Event.body, wp_bind]
      exact Bs.processVnfRx_effect free
  | register => exact sonFwdt_reports ((wp_always_iff _).mp tsdBsReg_reports)
  | topoReport => exact sonFwdt_reports ((wp_always_iff _).mp (bsTopoReport_reports free small))
  | advertise => exact sonFwdt_originates ((wp_always_iff _).mp sonNbrAdvertise_originates)
  | send buf dst proto =>
      apply @sonFwdt_originates _ _ [] _
      apply (wp_always_iff (Originates [] _ node)).mp
      rw [Bs.Event.body, wp_bind]
      exact nsoLayerSend_originates free buf dst proto
  | recv size =>
      apply Quiet.sonFwdt
      apply (wp_always_iff (Quiet node)).mp
      rw [Bs.Event.body, wp_bind]
      exact nsoLayerRecv_quiet free size

theorem RouteRun.small (run : net.RouteRun state) (s : Option ι) :
    (state.node s).nsol.mtu + tailroom < 16384 := by
  rcases reachable_iff_loggedRun.mp run.reachable with ⟨calls, logged⟩
  rw [((allTraced_run logged).nodes s).config.mtu]
  exact (net.station s).lengthFits

/-- A device goes on with any call that reads no update of its routes. -/
theorem RouteRun.device (run : net.RouteRun state) {event : Device.Event}
    (alive : state.exited (some i) = false) (may : net.DeviceMay state i event)
    (goes : ¬ Waits state (some i) event.body) (own : net.TakesOwn state (some i) (.inl event))
    (notRoutes : ∀ pkt ∈ event.read, ¬ UpdatesRoutes pkt) :
    net.RouteRun (Network.run state (some i) event.body) := by
  apply run.call (.device i event alive may goes own)
  have free := tablesFree_reachable run.reachable (some i) alive
  refine sonFwdt_deviceEvent free (run.small (some i)) ?_ notRoutes
  rintro rx rfl
  exact may.2.1

theorem RouteRun.baseStation (run : net.RouteRun state) {event : Bs.Event}
    (alive : state.exited none = false) (may : net.BsMay state event)
    (goes : ¬ Waits state none event.body) (own : net.TakesOwn state none (.inr event))
    (notRoutes : ∀ pkt ∈ event.read, ¬ UpdatesRoutes pkt) :
    net.RouteRun (Network.run state none event.body) := by
  apply run.call (.baseStation event alive may goes own)
  have free := tablesFree_reachable run.reachable none alive
  refine sonFwdt_bsEvent free (run.small none) ?_ notRoutes
  rintro rx rfl
  rcases may with ⟨_, _, _, _, _, isHandler⟩
  exact isHandler

/-- A run that is played installs no rule. -/
theorem routeRun_played {turns : List (Turn ι)} (initial : net.Initial state)
    (plays : net.Plays state turns) : net.RouteRun (net.played state turns).state := by
  apply @played_keeps _ _ _ _ _ (fun scene => net.RouteRun scene.state) _ plays (.start initial)
  intro turn scene after takes run
  rcases take_cases takes with ⟨i, event, calls, may, own, notRoutes⟩ |
    ⟨event, calls, may, own, notRoutes⟩ | ⟨services, fd, request, reply, written, answers, rfl⟩
  · rcases of_deviceCall calls with ⟨phase, _, goes, rfl⟩
    exact run.device goes.1 may goes.2 own notRoutes
  · rcases of_bsCall calls with ⟨phase, _, goes, rfl⟩
    exact run.baseStation goes.1 may goes.2 own notRoutes
  · exact run.answer services written answers

/-! ## Sound routes -/

omit [DecidableEq ι] in
/-- At the start nobody has a route or is connected. -/
theorem routed_initial (initial : net.Initial state) : net.Routed state := by
  have fresh : ∀ (s : Option ι) station gwId env, net.Sound state s
      (Node.start (Station.initialLayer station gwId) env) := by
    intro s station gwId env
    refine ⟨fun _ target => rfl, HashedTable.covers_empty, ?_, ?_, ?_, ?_, ?_, ?_⟩
    · exact fun target entry found => nomatch found
    · exact fun mac entry found => nomatch found
    · exact fun _ t iface isOwn entry found => nomatch found
    · exact fun i isDevice connected => DevState.noConfusion connected
    · exact fun entry isMem => absurd isMem List.not_mem_nil
    · exact fun entry isMem => absurd isMem List.not_mem_nil
  constructor
  · intro s
    cases s with
    | some i =>
        rcases initial.device i with ⟨gwId, env, isStart⟩
        rw [isStart]
        exact fresh _ _ _ _
    | none =>
        rcases initial.baseStation with ⟨gwId, vnfs, vtsdFd, vsonFd, env, isStart⟩
        have layer := fresh none (net.station none) gwId env
        rw [isStart]
        exact ⟨layer.unlearned, layer.covers, layer.routes, layer.arpKnown, layer.arpTrue,
          layer.joined, layer.frames, layer.requests⟩
  · rw [initial.noReply]
    exact fun reply isMem => absurd isMem List.not_mem_nil

omit [DecidableEq ι] in
theorem sound_leaves (truly : net.AdvertisesTruly) (withoutVson : net.WithoutVson)
    (agreement : net.Agreement state) (routed : net.Routed state) (grows : Grows state next)
    (noRule : (state.node s).nsol.sonFwdt = .empty) (leaves : net.Leaves state s after)
    (isNode : next.node s = after) : net.Sound next s after := by
  have agrees := agreement.nodes s
  have sound := (routed.nodes s).mono grows
  cases leaves with
  | quiet unseen => exact sound.routesOnly unseen.toRoutesOnly
  | originates originates =>
      exact sound_originates (fun _ isOwn => isOwn) sound noRule
        (fun message own => true_own truly agrees.config own) originates
  | @beacons i after originates =>
      apply sound_originates (fun _ isOwn => isOwn) sound noRule _ originates
      rintro message rfl
      refine ⟨?_, ?_, ?_⟩
      · exact fun _ _ => ⟨reaches_self (some i), fun _ _ => rfl⟩
      · exact fun _ isReply => absurd (Option.some.inj isReply) (by decide)
      · exact fun isSon => absurd isSon.symm son_ne_tsd
  | reports own reports =>
      cases reports with
      | quiet unseen => exact sound.routesOnly unseen.toRoutesOnly
      | written fd before showing =>
          exact (sound.routesOnly before.toRoutesOnly).sendBytes showing (true_ownReport own) fd
  | hears isOwn hears effect =>
      rcases routed.hears agreement hears with ⟨sender, message, fromOwn, honest, isTrue, showing⟩
      exact sound_deviceEffect agrees sound noRule isOwn fromOwn honest (isTrue.mono grows) showing
        effect isNode
  | bsHears isOwn hears effect =>
      rcases routed.hears agreement hears with ⟨sender, message, fromOwn, honest, isTrue, showing⟩
      exact sound_bsHears sound noRule isOwn fromOwn honest (isTrue.mono grows) showing effect
        isNode
  | bsReads reads effect =>
      rcases routed.reads agreement withoutVson reads with ⟨message, honest, isTrue, showing⟩
      exact sound_bsReads sound noRule (isTrue.mono grows) showing effect

/-- A step leaves all the stations sound. -/
theorem routed_step (truly : net.AdvertisesTruly) (withoutVson : net.WithoutVson)
    (reachable : net.Reachable state) (noRule : ∀ s, (state.node s).nsol.sonFwdt = .empty)
    (routed : net.Routed state) (step : net.Step state next) : net.Routed next := by
  have agreement := agreement_reachable truly.honestly reachable
  rcases step_cases reachable (fun s => (agreement.nodes s).config) step with
    ⟨s, leaves, others, replies⟩ | ⟨services, fd, request, reply, written, answers, nodes, replies⟩
  · have grows : Grows state next := by
      intro t
      rcases eq_or_ne t s with rfl | isOther
      · exact leaves_keeps agreement routed leaves
      · rw [others t isOther]
        exact .refl _
    constructor
    · intro t
      rcases eq_or_ne t s with rfl | isOther
      · exact sound_leaves truly withoutVson agreement routed grows (noRule t) leaves rfl
      · rw [others t isOther]
        exact (routed.nodes t).mono grows
    · rw [replies]
      exact fun reply isMem => (routed.replies reply isMem).mono grows
  · have grows : Grows state next := by
      intro t
      rw [nodes]
      exact .refl _
    constructor
    · intro t
      rw [nodes]
      exact (routed.nodes t).mono grows
    · rw [replies]
      intro answer isMem
      rcases List.mem_append.mp isMem with old | isNew
      · exact (routed.replies answer old).mono grows
      · rcases List.mem_singleton.mp isNew with rfl
        exact (true_answer ((routed.nodes none).requests _ written) answers).mono grows

/-- The invariant holds in all the runs. -/
theorem routed_run (truly : net.AdvertisesTruly) (withoutVson : net.WithoutVson)
    (run : net.RouteRun state) : net.Routed state := by
  induction run with
  | start initial => exact routed_initial initial
  | step before step noRule ih =>
      exact routed_step truly withoutVson before.reachable before.noRule ih step.step

/-- The next hops from a station reach the target, which is a station, and come by no station
twice. -/
def RouteTo (net : Network ι) (state : NetState ι) (target x : DeviceId) : Prop :=
  (∃ t, (net.station t).devId = target) ∧
    ∃ path, HopRoute (net.NextHop state target) target x path ∧ path.Nodup

/-- Every temporary route for another station reaches it, every connected device has one to the
base station, and the base station has one to every connected device. -/
structure TemporaryRoutes (net : Network ι) (state : NetState ι) : Prop where
  routes : ∀ s, ∀ entry ∈ (state.node s).nsol.localFwdt.ll,
    entry.dest ≠ (net.station s).devId → net.RouteTo state entry.dest (net.station s).devId
  toBs : ∀ i, (state.node (some i)).nsol.devState = .connected →
    net.RouteTo state net.bsId (net.station (some i)).devId
  fromBs : ∀ i, (state.node (some i)).nsol.devState = .connected →
    net.RouteTo state (net.station (some i)).devId net.bsId

omit [DecidableEq ι] in
theorem Reaches.routeTo {target x : DeviceId} (reaches : net.Reaches state target x) :
    net.RouteTo state target x := by
  rcases reaches with ⟨isStation, path, route⟩
  exact ⟨isStation, path, route, route.nodup nextHop_unique⟩

/-- In the runs without rules the temporary routes are sound and free of loops, unless a second
advertisement reads as a control message. -/
theorem temporary_routes_sound (truly : net.AdvertisesTruly) (withoutVson : net.WithoutVson)
    (run : net.RouteRun state) : net.TemporaryRoutes state := by
  have routed := routed_run truly withoutVson run
  refine ⟨?_, ?_, ?_⟩
  · intro s entry isMem _
    have sound := routed.nodes s
    have isFound : (FwdTable.lookup entry.dest (state.node s).nsol.localFwdt).isSome = true := by
      apply (sound.covers.find_isSome _).mpr ⟨entry, isMem, by simp⟩
      intro other isMatch
      rw [FwdTable.bucket, beq_iff_eq.mp isMatch]
    rcases Option.isSome_iff_exists.mp isFound with ⟨first, found⟩
    exact (sound.routes entry.dest first found).1.routeTo
  · exact fun i connected => ((routed.nodes (some i)).joined i rfl connected).1.routeTo
  · exact fun i connected => ((routed.nodes (some i)).joined i rfl connected).2.routeTo

/-! ### A base station with one radio or two, and a device that joins -/

/-- A base station with some interfaces, and a device with one. -/
def radios (ifaces : List NsoIf) : Option Unit → Station
  | none => ⟨deviceIdOfBytes [0, 0, 0xf0, 1, 0, 0, sonMsgNbr, 1], ifaces.take nsoMaxSupportedIfaces,
      List.length_take_le _ _, 1500, control_fits, length_fits⟩
  | some _ => ⟨2, [wlan2], single_fits _, 1500, control_fits, length_fits⟩

theorem distinctIds_oneRadio : ∀ s t,
    (radios [wlan0] s).devId = (radios [wlan0] t).devId → s = t := by decide +kernel

theorem distinctMacs_oneRadio : ∀ s t, ∀ i ∈ (radios [wlan0] s).ifaces,
    ∀ j ∈ (radios [wlan0] t).ifaces, i.ifMac = j.ifMac → s = t := by decide

/-- With one interface there is no second advertisement to misread. -/
def oneRadio : Network Unit where
  station := radios [wlan0]
  distinctIds := distinctIds_oneRadio
  distinctMacs := distinctMacs_oneRadio
  functions := fun _ => False
  functionsWhole := fun _ isFunction => isFunction.elim
  functionsNotTsd := notTsd_of_none

theorem distinctIds_twoRadios : ∀ s t,
    (radios [wlan0, wlan3] s).devId = (radios [wlan0, wlan3] t).devId → s = t := by decide +kernel

theorem distinctMacs_twoRadios : ∀ s t, ∀ i ∈ (radios [wlan0, wlan3] s).ifaces,
    ∀ j ∈ (radios [wlan0, wlan3] t).ifaces, i.ifMac = j.ifMac → s = t := by decide

def twoRadios : Network Unit where
  station := radios [wlan0, wlan3]
  distinctIds := distinctIds_twoRadios
  distinctMacs := distinctMacs_twoRadios
  functions := fun _ => False
  functionsWhole := fun _ isFunction => isFunction.elim
  functionsNotTsd := notTsd_of_none

/-- The base station registers and advertises itself, and the device joins it.  It hears the
advertisement of one of the interfaces, and the frame with the reply. -/
def deviceJoins (heard replied : Nat) : List (Turn Unit) :=
  [.baseStation .register, .vtsd 0, .bsReads 0, .baseStation .topoReport, .baseStation .advertise,
    .deviceHears () none heard 0, .device () .beacon, .bsHears (some ()) 0 heard, .vtsd 2,
    .bsReads 1, .deviceHears () none replied 0]

def oneJoined : Scene Unit := oneRadio.played oneRadio.started (deviceJoins 0 1)

theorem oneJoined_plays : oneRadio.Plays oneRadio.started (deviceJoins 0 1) := by decide +kernel

theorem oneJoined_run : oneRadio.RouteRun oneJoined.state :=
  routeRun_played (initial_started _) oneJoined_plays

theorem oneRadio_truly : oneRadio.AdvertisesTruly := by
  intro s message isSecond
  cases s <;> exact nomatch isSecond

theorem oneRadio_withoutVson : oneRadio.WithoutVson := fun _ isFunction => isFunction.elim

theorem oneRadio_routes : oneRadio.TemporaryRoutes oneJoined.state ∧
    (oneJoined.state.node (some ())).nsol.devState = .connected :=
  ⟨temporary_routes_sound oneRadio_truly oneRadio_withoutVson oneJoined_run, by decide +kernel⟩

/-! ### A second advertisement that reads as the one of a neighbour -/

/-- What the receiver of the second advertisement takes for the identifier of its sender. -/
def ghost : DeviceId := deviceIdOfBytes [255, 255, 255, 255, 255, 255, 2, 0]

/-- No station has this identifier, so no next hop leads on from it. -/
theorem ghost_isLost {state : NetState Unit} {path : List DeviceId} :
    ¬ HopRoute (twoRadios.NextHop state twoRadios.bsId) twoRadios.bsId ghost path := by
  intro route
  have isNobody : ∀ s, (twoRadios.station s).devId ≠ ghost := by
    intro s
    rcases s with _ | ⟨_⟩ <;> decide +kernel +revert
  generalize isGhost : ghost = x at route
  cases route with
  | arrived => exact isNobody none isGhost.symm
  | hop onTheWay isNext onward =>
      rcases isNext with ⟨s, entry, isStation, _⟩
      exact isNobody s (isStation.trans isGhost.symm)

def twoJoined : Scene Unit := twoRadios.played twoRadios.started (deviceJoins 1 2)

theorem twoJoined_plays : twoRadios.Plays twoRadios.started (deviceJoins 1 2) := by decide +kernel

/-- The device is connected, and its route to the base station goes to nobody. -/
theorem twoRadios_lost : twoRadios.ThreadRun twoJoined ∧ twoRadios.RouteRun twoJoined.state ∧
    (∀ s, twoJoined.state.exited s = false) ∧ ¬ twoRadios.TemporaryRoutes twoJoined.state := by
  refine ⟨threadRun_played (initial_started _) twoJoined_plays,
    routeRun_played (initial_started _) twoJoined_plays, by decide +kernel, ?_⟩
  intro routes
  have connected : (twoJoined.state.node (some ())).nsol.devState = .connected := by
    decide +kernel
  rcases routes.toBs () connected with ⟨_, path, route, _⟩
  have viaGhost : (FwdTable.lookup twoRadios.bsId
      (twoJoined.state.node (some ())).nsol.localFwdt).map FwdEntry.nxthop = some ghost := by
    decide +kernel
  generalize isDevice : (twoRadios.station (some ())).devId = x at route
  cases route with
  | arrived => exact absurd isDevice (by decide +kernel)
  | hop onTheWay isNext onward =>
      rcases isNext with ⟨s, entry, isStation, found, rfl, _⟩
      rcases twoRadios.distinctIds _ _ (isStation.trans isDevice.symm) with rfl
      rw [found] at viaGhost
      rw [Option.some.inj viaGhost] at onward
      exact ghost_isLost onward

end Network

end Nrg5
