import Nrg5.Network.Model

/-!
# What a call of a station leaves

Every step of a network is one of a few: a station sends a message of its own, it
treats a message of the air or of a network function, or the vTSD answers.  `Leaves` has one
case for each call of a station, with the messages that the call adds to the air and to what
the network functions read.  An invariant of the network is proved by cases of `Leaves`, and
then holds after every call.
-/

namespace Nrg5

open LockProg

variable {node after : Node} {message : Message}

/-- The configuration of a node never changes. -/
structure Configured (station : Station) (node : Node) : Prop where
  devId : node.nsol.devId = station.devId
  ifaces : node.nsol.ifaces = station.ifaces
  mtu : node.nsol.mtu = station.mtu

/-- The messages that a node sends of its own accord, beacons apart. -/
inductive Own (node : Node) : Message → Prop where
  | advertisement {message : Message}
      (advertised : Advertised node.nsol.devId node.nsol.ifaces message) : Own node message
  | topoReport : Own node ⟨node.nsol.devId, node.nsol.gwId, protoCpVson, some sonMsgTopo⟩
  | data (dst : DeviceId) (type : Option UInt8) {proto : UInt16} (isData : dispatch proto = .data) :
      Own node ⟨node.nsol.devId, dst, proto, type⟩

/-- The messages that a base station writes of its own accord. -/
inductive OwnReport (node : Node) : Message → Prop where
  | topoReport : OwnReport node ⟨node.nsol.devId, node.nsol.gwId, protoCpVson, some sonMsgTopo⟩
  | register : OwnReport node ⟨node.nsol.devId, node.nsol.devId, protoCpVtsd, some tsdMsgBsReg⟩

namespace Network

variable {ι : Type} {net : Network ι} {state next : NetState ι} {s : Option ι} {i : ι}
  {held : Lock → Bool}

/-- The node of a station after a call. -/
inductive Leaves (net : Network ι) (state : NetState ι) : Option ι → Node → Prop where
  | quiet {s : Option ι} {after : Node} (unseen : Quiet (state.node s) after) :
      Leaves net state s after
  | originates {s : Option ι} {after : Node}
      (originates : Originates (net.station s).ifaces (Own (state.node s)) (state.node s) after) :
      Leaves net state s after
  | beacons {i : ι} {after : Node} (originates : Originates (net.station (some i)).ifaces
      (· = ⟨(net.station (some i)).devId, bcDeviceId, protoCpVtsd, some tsdMsgReg⟩)
      (state.node (some i)) after) : Leaves net state (some i) after
  | reports {message : Message} {after : Node} (own : OwnReport (state.node none) message)
      (reports : Reports message (state.node none) after) : Leaves net state none after
  | hears {i : ι} {pkt : Packet} {src : L2addr} {iface : NsoIf} {after : Node}
      (isOwn : iface ∈ (net.station (some i)).ifaces) (hears : net.Hears state (some i) pkt src)
      (effect : Device.Effect pkt src iface (state.node (some i)) after) :
      Leaves net state (some i) after
  | bsHears {pkt : Packet} {src : L2addr} {iface : NsoIf} {after : Node}
      (isOwn : iface ∈ (net.station none).ifaces) (hears : net.Hears state none pkt src)
      (effect : Bs.Effect pkt (.air src iface) (state.node none) after) :
      Leaves net state none after
  | bsReads {pkt : Packet} {after : Node} (reads : net.Reads state pkt)
      (effect : Bs.Effect pkt .vnf (state.node none) after) : Leaves net state none after

theorem leaves_send (free : TablesFree held) (buf : List UInt8) (dst : Option DeviceId)
    {proto : UInt16} (isData : dispatch proto = .data) :
    (nsoLayerSend buf dst proto).wp (fun _ _ => True) (.always (net.Leaves state s)) held
      (state.node s) := by
  apply wp_always_mono _ (@nsoLayerSend_originates _ _ ((net.station s).ifaces) free buf dst proto)
  intro after originates
  apply Leaves.originates
  apply originates.mono
  rintro message ⟨type, rfl⟩
  exact .data _ _ isData

theorem leaves_advertise (config : Configured (net.station s) (state.node s)) :
    sonNbrAdvertise.wp (fun _ _ => True) (.always (net.Leaves state s)) held (state.node s) := by
  apply wp_always_mono _ sonNbrAdvertise_originates
  intro after originates
  rw [config.ifaces] at originates
  apply Leaves.originates
  apply originates.mono
  intro message advertised
  rw [← config.ifaces] at advertised
  exact .advertisement advertised

theorem leaves_deviceEvent (config : Configured (net.station (some i)) (state.node (some i)))
    (free : TablesFree held) (event : Device.Event) (may : net.DeviceMay state i event) :
    event.body.wp (fun _ _ => True) (.always (net.Leaves state (some i))) held
      (state.node (some i)) := by
  have fits := (net.station (some i)).lengthFits
  cases event with
  | environment env => exact wp_always_mono (fun _ unseen => .quiet unseen) (environment_quiet env)
  | receive rx =>
      rcases rx with ⟨handler, pkt, src, iface⟩
      rcases may with ⟨hears, isHandler, isOwn⟩
      dsimp only at hears isHandler isOwn
      rw [isHandler, Device.Event.body, wp_bind]
      exact wp_always_mono (fun _ effect => .hears isOwn hears effect) (deviceRx_effect free)
  | beacon =>
      have beacons := @tsdBroadcastBeacons_originates held (state.node (some i))
      rw [config.ifaces, config.devId] at beacons
      exact wp_always_mono (fun _ originates => .beacons originates) beacons
  | topoReport =>
      apply wp_always_mono _ (@deviceTopoReport_originates _ _ ((net.station (some i)).ifaces)
        free (by rw [config.mtu]; exact fits))
      intro after originates
      apply Leaves.originates
      apply originates.mono
      rintro message rfl
      exact .topoReport
  | advertise => exact leaves_advertise config
  | send buf dst proto =>
      rw [Device.Event.body, wp_bind]
      exact leaves_send free buf dst may
  | recv size =>
      rw [Device.Event.body, wp_bind]
      exact wp_always_mono (fun _ unseen => .quiet unseen) (nsoLayerRecv_quiet free size)

theorem leaves_bsEvent (config : Configured (net.station none) (state.node none))
    (free : TablesFree held) (event : Bs.Event) (may : net.BsMay state event) :
    event.body.wp (fun _ _ => True) (.always (net.Leaves state none)) held (state.node none) := by
  have fits := (net.station none).lengthFits
  cases event with
  | environment env => exact wp_always_mono (fun _ unseen => .quiet unseen) (environment_quiet env)
  | receive rx =>
      rcases rx with ⟨handler, pkt, origin⟩
      rcases may with ⟨src, iface, isOwn, fromAir, hears, isHandler⟩
      dsimp only at fromAir hears isHandler
      rw [isHandler, fromAir, Bs.Event.body, wp_bind]
      exact wp_always_mono (fun _ effect => .bsHears isOwn hears effect) (Bs.rx_effect free)
  | vnfMessage pkt =>
      rw [Bs.Event.body, wp_bind]
      exact wp_always_mono (fun _ effect => .bsReads may effect) (Bs.processVnfRx_effect free)
  | register =>
      exact wp_always_mono (fun _ reports => .reports .register reports) tsdBsReg_reports
  | topoReport =>
      exact wp_always_mono (fun _ reports => .reports .topoReport reports)
        (bsTopoReport_reports free (by rw [config.mtu]; exact fits))
  | advertise => exact leaves_advertise config
  | send buf dst proto =>
      rw [Bs.Event.body, wp_bind]
      exact leaves_send free buf dst may
  | recv size =>
      rw [Bs.Event.body, wp_bind]
      exact wp_always_mono (fun _ unseen => .quiet unseen) (nsoLayerRecv_quiet free size)

/-- What a step changes: the node of one station, or the answers of the vTSD. -/
theorem step_cases [DecidableEq ι] (reachable : net.Reachable state)
    (config : ∀ s, Configured (net.station s) (state.node s)) (step : net.Step state next) :
    (∃ s, net.Leaves state s (next.node s) ∧ (∀ t, t ≠ s → next.node t = state.node t) ∧
      next.replies = state.replies) ∨
    ∃ services fd request reply, (fd, request) ∈ (state.node none).vnfTx ∧
      Vtsd.listenToBs services request = some reply ∧ next.node = state.node ∧
      next.replies = state.replies ++ [reply] := by
  have free := tablesFree_reachable reachable
  have called : ∀ (s : Option ι) (body : Prog Unit),
      body.wp (fun _ _ => True) (.always (net.Leaves state s)) (state.held s) (state.node s) →
      ∃ t, net.Leaves state t ((run state s body).node t) ∧
        (∀ other, other ≠ t → (run state s body).node other = state.node other) ∧
        (run state s body).replies = state.replies := by
    intro s body leaves
    refine ⟨s, ?_, fun other isOther => node_run_other isOther, rfl⟩
    rw [node_run_self]
    exact (wp_always_iff _).mp leaves
  cases step with
  | device i event alive may goes =>
      exact .inl (called _ _ (leaves_deviceEvent (config _) (free _ alive) event may))
  | baseStation event alive may goes =>
      exact .inl (called _ _ (leaves_bsEvent (config _) (free _ alive) event may))
  | vtsd services written answers =>
      exact .inr ⟨services, _, _, _, written, answers, rfl, rfl⟩

end Network

end Nrg5
