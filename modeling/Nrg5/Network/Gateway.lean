import Nrg5.Network.Calls
import Nrg5.Network.Schedule

/-!
# One gateway for all

The identifier that a device adopts as its gateway is the source of the first
successful reply it gets.  The reply has it from the destination of the beacon that
the vTSD answered, and the beacon from the gateway of the first relay, or from the
base station itself.  So what every message in flight says about the base station
is kept together with the gateways: a beacon for one station is for the base
station, and a reply is from it.
-/

namespace Nrg5

open LockProg

variable {station : Station} {bsId : DeviceId} {node mid after : Node} {pkt : Packet}
  {message : Message}

/-! ## Honest messages -/

/-- What a frame in the air says about the base station. -/
structure HonestFrame (bsId : DeviceId) (message : Message) : Prop where
  typed : message.proto = protoCpVtsd ∨ message.proto = protoCpVson → message.type.isSome = true
  beacon : message.proto = protoCpVtsd → message.type = some tsdMsgReg →
    message.dst = bcDeviceId ∨ message.dst = bsId
  reply : message.proto = protoCpVtsd →
    message.type = some tsdMsgRegReply ∨ message.type = some tsdMsgBsRegReply →
      message.src = bsId

/-- What a message for the vTSD says about the base station. -/
def HonestRequest (bsId : DeviceId) (message : Message) : Prop :=
  message.proto = protoCpVtsd →
    message.type = some tsdMsgReg ∨ message.type = some tsdMsgBsReg → message.dst = bsId

theorem honestFrame_of_other (typed : message.type.isSome = true)
    (notTsd : message.proto ≠ protoCpVtsd) : HonestFrame bsId message :=
  ⟨fun _ => typed, fun isTsd => absurd isTsd notTsd, fun isTsd => absurd isTsd notTsd⟩

/-- A first relay sends the beacon on to its gateway. -/
theorem HonestFrame.setDst (honest : HonestFrame bsId message) :
    HonestFrame bsId { message with dst := bsId } :=
  ⟨honest.typed, fun _ _ => .inr rfl, honest.reply⟩

theorem HonestFrame.msgType (honest : HonestFrame bsId message) (showing : pkt.Shows message)
    (control : pkt.proto = protoCpVtsd ∨ pkt.proto = protoCpVson) :
    message.type = some pkt.msgType := by
  rw [showing.proto] at control
  exact showing.type (honest.typed control)

/-- A beacon that arrives at the base station is for the base station. -/
theorem HonestFrame.request (honest : HonestFrame bsId message)
    (toOne : message.dst ≠ bcDeviceId) (isReg : message.type = some tsdMsgReg) :
    HonestRequest bsId message := by
  intro isTsd _
  rcases honest.beacon isTsd isReg with toAll | toBs
  · exact absurd toAll toOne
  · exact toBs

/-! ## Nodes that agree on the gateway -/

/-- A node that is connected has the base station as its gateway, and what it has sent is
honest. -/
structure Agrees (station : Station) (bsId : DeviceId) (node : Node) : Prop where
  config : Configured station node
  notReg : node.nsol.devState ≠ .reg
  gateway : node.nsol.devState = .connected → node.nsol.gwId = bsId
  frames : ∀ entry ∈ node.air, ∃ mac message, IsFrame mac message entry.2 ∧
    HonestFrame bsId message
  requests : ∀ entry ∈ node.vnfTx, nsohdrSize < entry.2.length →
    HonestRequest bsId (messageOf entry.2)

/-- The state and the gateway stay, or the node joins. -/
def Moves (node after : Node) : Prop :=
  (after.nsol.devState = node.nsol.devState ∧ after.nsol.gwId = node.nsol.gwId) ∨
    (node.nsol.devState = .unreg ∧ after.nsol.devState = .connected)

theorem Configured.congr (config : Configured station node)
    (devId : after.nsol.devId = node.nsol.devId) (ifaces : after.nsol.ifaces = node.nsol.ifaces)
    (mtu : after.nsol.mtu = node.nsol.mtu) : Configured station after :=
  ⟨devId.trans config.devId, ifaces.trans config.ifaces, mtu.trans config.mtu⟩

theorem Agrees.joins (agrees : Agrees station bsId node) (config : Configured station after)
    (connected : after.nsol.devState = .connected) (gwId : after.nsol.gwId = bsId)
    (air : after.air = node.air) (vnfTx : after.vnfTx = node.vnfTx) :
    Agrees station bsId after := by
  refine ⟨config, ?_, ?_, ?_, ?_⟩
  · rw [connected]
    decide
  · exact fun _ => gwId
  · rw [air]
    exact agrees.frames
  · rw [vnfTx]
    exact agrees.requests

theorem Agrees.routesOnly (agrees : Agrees station bsId node) (changes : RoutesOnly node after) :
    Agrees station bsId after := by
  refine ⟨agrees.config.congr changes.devId changes.ifaces changes.mtu, ?_, ?_, ?_, ?_⟩
  · rw [changes.devState]
    exact agrees.notReg
  · rw [changes.devState, changes.gwId]
    exact agrees.gateway
  · rw [changes.air]
    exact agrees.frames
  · rw [changes.vnfTx]
    exact agrees.requests

theorem Agrees.learns (agrees : Agrees station bsId node) (learns : LearnsOnly node after) :
    Agrees station bsId after := by
  refine ⟨agrees.config.congr learns.devId learns.ifaces learns.mtu, ?_, ?_, ?_, ?_⟩
  · rw [learns.devState]
    exact agrees.notReg
  · rw [learns.devState, learns.gwId]
    exact agrees.gateway
  · rw [learns.air]
    exact agrees.frames
  · rw [learns.vnfTx]
    exact agrees.requests

theorem Agrees.sentOn (agrees : Agrees station bsId node) (showing : pkt.Shows message)
    (honest : HonestFrame bsId message) (iface : NsoIf) (dest : L2addr) :
    Agrees station bsId (node.sentOn iface pkt dest) := by
  refine ⟨agrees.config.congr ?_ ?_ ?_, ?_, ?_, ?_, ?_⟩
  · rw [nsol_sentOn]
  · rw [nsol_sentOn]
  · rw [nsol_sentOn]
  · rw [nsol_sentOn]
    exact agrees.notReg
  · rw [nsol_sentOn]
    exact agrees.gateway
  · intro entry isMem
    rcases mem_air_sentOn showing isMem with old | isFrame
    · exact agrees.frames entry old
    · exact ⟨_, _, isFrame, honest⟩
  · rw [vnfTx_sentOn]
    exact agrees.requests

theorem Agrees.forwards (agrees : Agrees station bsId node) (showing : pkt.Shows message)
    (honest : HonestFrame bsId message) (forwards : Forwards pkt node after) :
    Agrees station bsId after := by
  cases forwards with
  | kept => exact agrees
  | sent dest route => exact agrees.sentOn showing honest _ dest

theorem Agrees.sendBytes (agrees : Agrees station bsId node) (showing : pkt.Shows message)
    (honest : HonestRequest bsId message) (fd : Nat) :
    Agrees station bsId (Bs.sendBytes fd pkt.bytes node) := by
  refine ⟨agrees.config.congr rfl rfl rfl, agrees.notReg, agrees.gateway, agrees.frames, ?_⟩
  intro entry isMem typed
  rcases mem_vnfTx_sendBytes isMem with old | ⟨count, isPrefix⟩
  · exact agrees.requests entry old typed
  · rw [isPrefix] at typed ⊢
    rw [messageOf_accepted typed, showing.message]
    exact honest

theorem moves_of_routesOnly (changes : RoutesOnly node after) : Moves node after :=
  .inl ⟨changes.devState, changes.gwId⟩

/-! ## Own messages -/

theorem agrees_originates {ifaces : List NsoIf} {own : Message → Prop}
    (agrees : Agrees station bsId node) (honest : ∀ message, own message → HonestFrame bsId message)
    (originates : Originates ifaces own node after) :
    Agrees station bsId after ∧ after.nsol.devState = node.nsol.devState ∧
      after.nsol.gwId = node.nsol.gwId := by
  induction originates with
  | quiet unseen =>
      exact ⟨agrees.routesOnly unseen.toRoutesOnly, unseen.devState, unseen.gwId⟩
  | @broadcast iface pkt message mid after isOwn before showing isMessage behind ih =>
      rcases ih with ⟨soFar, devState, gwId⟩
      have sent := soFar.sentOn showing (honest _ isMessage) iface bcMac
      refine ⟨sent.routesOnly behind.toRoutesOnly, ?_, ?_⟩
      · rw [behind.devState, nsol_sentOn, devState]
      · rw [behind.gwId, nsol_sentOn, gwId]
  | forwarded before showing isMessage forwards =>
      have same := nsol_forwards forwards
      refine ⟨(agrees.routesOnly before.toRoutesOnly).forwards showing (honest _ isMessage)
        forwards, ?_, ?_⟩
      · rw [same, before.devState]
      · rw [same, before.gwId]

theorem agrees_reports (agrees : Agrees station bsId node) (honest : HonestRequest bsId message)
    (reports : Reports message node after) : Agrees station bsId after ∧ Moves node after := by
  cases reports with
  | quiet unseen =>
      exact ⟨agrees.routesOnly unseen.toRoutesOnly, moves_of_routesOnly unseen.toRoutesOnly⟩
  | @written pkt mid fd before showing =>
      refine ⟨(agrees.routesOnly before.toRoutesOnly).sendBytes showing honest fd, ?_⟩
      exact .inl ⟨before.devState, before.gwId⟩

theorem honest_control {devId dst : DeviceId} {proto : UInt16} {type : UInt8}
    (beacon : proto = protoCpVtsd → type = tsdMsgReg → dst = bcDeviceId)
    (notReply : proto = protoCpVtsd → type ≠ tsdMsgRegReply ∧ type ≠ tsdMsgBsRegReply) :
    HonestFrame bsId ⟨devId, dst, proto, some type⟩ := by
  refine ⟨fun _ => rfl, ?_, ?_⟩
  · intro isTsd isReg
    exact .inl (beacon isTsd (Option.some.inj isReg))
  · rintro isTsd (isReply | isReply)
    · exact absurd (Option.some.inj isReply) (notReply isTsd).1
    · exact absurd (Option.some.inj isReply) (notReply isTsd).2

theorem honest_data {devId dst : DeviceId} {proto : UInt16} {type : Option UInt8}
    (isData : dispatch proto = .data) : HonestFrame bsId ⟨devId, dst, proto, type⟩ := by
  rcases dispatch_data isData with ⟨notTsd, notSon⟩
  refine ⟨?_, fun isTsd => absurd isTsd notTsd, fun isTsd => absurd isTsd notTsd⟩
  rintro (isTsd | isSon)
  · exact absurd isTsd notTsd
  · exact absurd isSon notSon

/-! ## Received messages -/

/-- What a device makes of an honest frame keeps the agreement. -/
theorem agrees_deviceEffect {src : L2addr} {iface : NsoIf} (agrees : Agrees station bsId node)
    (showing : pkt.Shows message) (honest : HonestFrame bsId message)
    (effect : Device.Effect pkt src iface node after) :
    Agrees station bsId after ∧ Moves node after := by
  cases effect with
  | quiet unseen =>
      exact ⟨agrees.routesOnly unseen.toRoutesOnly, moves_of_routesOnly unseen.toRoutesOnly⟩
  | passed connected isReply notNbr forwards =>
      have same := nsol_forwards forwards
      exact ⟨agrees.forwards showing honest forwards, .inl ⟨by rw [same], by rw [same]⟩⟩
  | beacon connected isTsd isReg toAll forwards =>
      have learns := (@learnsOnly_learnedArp node pkt.srcDevid src).trans
        (@learnsOnly_learnedRoute _ iface pkt.srcDevid pkt.srcDevid)
      have redirected := showing.setDstDevid node.nsol.gwId
      rw [agrees.gateway connected] at redirected forwards
      have same := nsol_forwards forwards
      refine ⟨(agrees.learns learns).forwards redirected honest.setDst forwards, .inl ⟨?_, ?_⟩⟩
      · rw [same, learns.devState]
      · rw [same, learns.gwId]
  | @relayedBeacon after entry connected isTsd isReg toOne downstream forwards =>
      have learns := @learnsOnly_learnedRoute node iface pkt.srcDevid entry.devId
      have same := nsol_forwards forwards
      refine ⟨(agrees.learns learns).forwards showing honest forwards, .inl ⟨?_, ?_⟩⟩
      · rw [same, learns.devState]
      · rw [same, learns.gwId]
  | @joined entry isTsd isReply forMe unreg upstream =>
      have type := honest.msgType showing (.inl isTsd)
      rw [isReply] at type
      have fromBs := honest.reply (by rw [← showing.proto, isTsd]) (.inl type)
      have config : Configured station (node.joined pkt.srcDevid entry.devId iface) :=
        agrees.config.congr (devId_joined _ _) (ifaces_joined _ _) (mtu_joined _ _)
      refine ⟨agrees.joins config ?_ ?_ ?_ ?_, .inr ⟨unreg, devState_joined _ _⟩⟩
      · exact devState_joined _ _
      · rw [gwId_joined, showing.src, fromBs]
      · exact air_joined _ _
      · exact vnfTx_joined _ _
  | neighbour isSon isNbr =>
      have learns := @learnsOnly_learnedArp node pkt.srcDevid src
      have unseen := @quiet_learnedNbr (node.learnedArp pkt.srcDevid src) pkt.srcDevid
        (some iface)
      refine ⟨(agrees.learns learns).routesOnly unseen.toRoutesOnly, .inl ⟨?_, ?_⟩⟩
      · rw [unseen.devState, learns.devState]
      · rw [unseen.gwId, learns.gwId]
  | routes isSon isRt changes =>
      rw [promoted_of_not_reg agrees.notReg] at changes
      exact ⟨agrees.routesOnly changes, moves_of_routesOnly changes⟩

/-- What a base station makes of an honest message keeps the agreement. -/
theorem agrees_bsEffect {origin : Bs.Origin} (agrees : Agrees station bsId node)
    (showing : pkt.Shows message) (honest : HonestFrame bsId message)
    (effect : Bs.Effect pkt origin node after) : Agrees station bsId after ∧ Moves node after := by
  cases effect with
  | quiet unseen =>
      exact ⟨agrees.routesOnly unseen.toRoutesOnly, moves_of_routesOnly unseen.toRoutesOnly⟩
  | passed notTsd notNbr forwards =>
      have same := nsol_forwards forwards
      exact ⟨agrees.forwards showing honest forwards, .inl ⟨by rw [same], by rw [same]⟩⟩
  | delivered fd notTsd =>
      have request : HonestRequest bsId message :=
        fun isTsd => absurd (showing.proto.trans isTsd) notTsd
      exact ⟨agrees.sendBytes showing request fd, .inl ⟨rfl, rfl⟩⟩
  | @beacon src iface fd fromAir connected isTsd isReg toAll =>
      have learns := (@learnsOnly_learnedArp node pkt.srcDevid src).trans
        (@learnsOnly_learnedRoute _ iface pkt.srcDevid pkt.srcDevid)
      have redirected := showing.setDstDevid node.nsol.gwId
      rw [agrees.gateway connected] at redirected ⊢
      refine ⟨(agrees.learns learns).sendBytes redirected (fun _ _ => rfl) fd, .inl ⟨?_, ?_⟩⟩
      · rw [nsol_sendBytes, learns.devState]
      · rw [nsol_sendBytes, learns.gwId]
  | @relayedBeacon src iface entry fd fromAir connected isTsd isReg toOne downstream =>
      have learns := @learnsOnly_learnedRoute node iface pkt.srcDevid entry.devId
      have type := honest.msgType showing (.inl isTsd)
      rw [isReg] at type
      rw [showing.dst] at toOne
      refine ⟨(agrees.learns learns).sendBytes showing (honest.request toOne type) fd,
        .inl ⟨?_, ?_⟩⟩
      · rw [nsol_sendBytes, learns.devState]
      · rw [nsol_sendBytes, learns.gwId]
  | joined isTsd isReply forMe unreg =>
      have type := honest.msgType showing (.inl isTsd)
      rw [isReply] at type
      have fromBs := honest.reply (by rw [← showing.proto, isTsd]) (.inr type)
      have config : Configured station (node.joinedBs pkt.srcDevid) :=
        agrees.config.congr (devId_joinedBs _) (ifaces_joinedBs _) (mtu_joinedBs _)
      refine ⟨agrees.joins config ?_ ?_ ?_ ?_, .inr ⟨unreg, devState_joinedBs _⟩⟩
      · exact devState_joinedBs _
      · rw [gwId_joinedBs, showing.src, fromBs]
      · exact air_joinedBs _
      · exact vnfTx_joinedBs _
  | neighbour isSon isNbr =>
      have learns := @learnsOnly_learnedArp node pkt.srcDevid (origin.src.getD [])
      have unseen := @quiet_learnedNbr (node.learnedArp pkt.srcDevid (origin.src.getD []))
        pkt.srcDevid origin.iface
      refine ⟨(agrees.learns learns).routesOnly unseen.toRoutesOnly, .inl ⟨?_, ?_⟩⟩
      · rw [unseen.devState, learns.devState]
      · rw [unseen.gwId, learns.gwId]
  | routes isSon isRt changes =>
      exact ⟨agrees.routesOnly changes, moves_of_routesOnly changes⟩

/-! ## The vTSD -/

theorem honest_listenToBs {services : Vtsd.Services} {request reply : List UInt8}
    (honest : nsohdrSize < request.length → HonestRequest bsId (messageOf request))
    (answers : Vtsd.listenToBs services request = some reply) :
    HonestFrame bsId (messageOf reply) := by
  have unsupported : ∀ src dst, HonestFrame bsId
      ⟨src, dst, protoCpVtsd, some Vtsd.unsupportedMsgtypeError⟩ := by
    intro src dst
    exact honest_control (fun _ isReg => absurd isReg (by decide)) fun _ => by decide
  have swapped : ∀ dst type, type = Vtsd.msgDevRegReply ∨ type = Vtsd.msgBsRegReply →
      HonestFrame bsId ⟨bsId, dst, protoCpVtsd, some type⟩ := by
    intro dst type isReply
    refine ⟨fun _ => rfl, ?_, fun _ _ => rfl⟩
    intro _ isReg
    rcases isReply with rfl | rfl
    · exact absurd (Option.some.inj isReg) (by decide)
    · exact absurd (Option.some.inj isReg) (by decide)
  rcases Vtsd.listenToBs_answers answers with ⟨typed, isTsd, registers⟩ | isError
  · rcases registers with ⟨isReg, isAnswer⟩ | ⟨isReg, isAnswer⟩
    · rw [isAnswer.message, honest typed isTsd (.inl isReg)]
      exact swapped _ _ (.inl rfl)
    · rw [isAnswer.message, honest typed isTsd (.inr isReg)]
      exact swapped _ _ (.inr rfl)
  · rw [isError.message]
    exact unsupported _ _

/-! ## Networks -/

namespace Network

variable {ι : Type} {net : Network ι} {state next : NetState ι}

/-- All the stations agree, and the vTSD has answered honestly. -/
structure Agreement (net : Network ι) (state : NetState ι) : Prop where
  nodes : ∀ s, Agrees (net.station s) net.bsId (state.node s)
  replies : ∀ reply ∈ state.replies, HonestFrame net.bsId (messageOf reply) ∧
    nsohdrSize < reply.length ∧ Bs.IsMessage (net.station none).mtu reply

theorem agreement_initial (initial : net.Initial state) : net.Agreement state := by
  have fresh : ∀ station gwId env, Agrees station net.bsId
      (Node.start (Station.initialLayer station gwId) env) := by
    intro station gwId env
    refine ⟨⟨rfl, rfl, rfl⟩, ?_, ?_, ?_, ?_⟩
    · exact fun isReg => DevState.noConfusion isReg
    · exact fun connected => DevState.noConfusion connected
    · exact fun entry isMem => absurd isMem List.not_mem_nil
    · exact fun entry isMem => absurd isMem List.not_mem_nil
  constructor
  · intro s
    cases s with
    | some i =>
        rcases initial.device i with ⟨gwId, env, isStart⟩
        rw [isStart]
        exact fresh _ _ _
    | none =>
        rcases initial.baseStation with ⟨gwId, vnfs, vtsdFd, vsonFd, env, isStart⟩
        have layer := fresh (net.station none) gwId env
        rw [isStart]
        exact ⟨⟨rfl, rfl, rfl⟩, layer.notReg, layer.gateway, layer.frames, layer.requests⟩
  · rw [initial.noReply]
    exact fun reply isMem => absurd isMem List.not_mem_nil

theorem Agreement.hears (agreement : net.Agreement state) {s : Option ι} {src : L2addr}
    (hears : net.Hears state s pkt src) :
    ∃ message, HonestFrame net.bsId message ∧ pkt.Shows message := by
  rcases shows_of_hears hears
    (fun sender => (agreement.nodes sender).frames) with ⟨_, message, honest, showing⟩
  exact ⟨message, honest, showing⟩

theorem Agreement.reads (agreement : net.Agreement state) (reads : net.Reads state pkt) :
    ∃ message, HonestFrame net.bsId message ∧ pkt.Shows message := by
  rcases reads with ⟨bytes, rest, stream, left, junk, source, front, isRead⟩
  rcases source with isReply | isOther
  · rcases agreement.replies bytes isReply with ⟨honest, typed, isMessage⟩
    rcases Vtsd.shows_readPktFromVnf isMessage front isRead with ⟨shown, showing, _, _, whole⟩
    rw [← whole typed] at honest
    exact ⟨shown, honest, showing⟩
  · rcases Vtsd.shows_readPktFromVnf (net.functionsWhole _ isOther) front isRead with
      ⟨shown, showing, typed, proto, _⟩
    refine ⟨shown, honestFrame_of_other typed ?_, showing⟩
    rw [proto]
    exact net.functionsNotTsd _ isOther

/-- No station has an identifier and a first address that make a beacon for another gateway
or a reply of another gateway of its second advertisement. -/
def AdvertisesHonestly (net : Network ι) : Prop :=
  ∀ s message, secondMessage (net.station s).devId (net.station s).ifaces = some message →
    HonestFrame net.bsId message

theorem honest_own {s : Option ι} (honestly : net.AdvertisesHonestly)
    (config : Configured (net.station s) node) (own : Own node message) :
    HonestFrame net.bsId message := by
  cases own with
  | advertisement advertised =>
      cases advertised with
      | first =>
          exact honest_control (fun isTsd => absurd isTsd son_ne_tsd)
            fun isTsd => absurd isTsd son_ne_tsd
      | second isSecond =>
          rw [config.devId, config.ifaces] at isSecond
          exact honestly s message isSecond
      | later proto typed =>
          apply honestFrame_of_other typed
          rw [proto]
          decide
  | topoReport =>
      exact honest_control (fun isTsd => absurd isTsd son_ne_tsd) fun isTsd =>
        absurd isTsd son_ne_tsd
  | data dst type isData => exact honest_data isData

theorem honest_ownReport (isBs : node.nsol.devId = bsId) (own : OwnReport node message) :
    HonestRequest bsId message := by
  cases own with
  | topoReport => exact fun isTsd => absurd isTsd son_ne_tsd
  | register => exact fun _ _ => isBs

theorem Agreement.leaves (honestly : net.AdvertisesHonestly) (agreement : net.Agreement state)
    {s : Option ι} (leaves : net.Leaves state s after) :
    Agrees (net.station s) net.bsId after ∧ Moves (state.node s) after := by
  have agrees := agreement.nodes s
  cases leaves with
  | quiet unseen =>
      exact ⟨agrees.routesOnly unseen.toRoutesOnly, moves_of_routesOnly unseen.toRoutesOnly⟩
  | originates originates =>
      rcases agrees_originates agrees (fun _ own => honest_own honestly agrees.config own)
        originates
        with ⟨stays, devState, gwId⟩
      exact ⟨stays, .inl ⟨devState, gwId⟩⟩
  | @beacons i after originates =>
      have honest : ∀ message, message = ⟨(net.station (some i)).devId, bcDeviceId, protoCpVtsd,
          some tsdMsgReg⟩ → HonestFrame net.bsId message := by
        rintro message rfl
        exact honest_control (fun _ _ => rfl) fun _ => by decide
      rcases agrees_originates agrees honest originates with ⟨stays, devState, gwId⟩
      exact ⟨stays, .inl ⟨devState, gwId⟩⟩
  | reports own reports =>
      exact agrees_reports agrees (honest_ownReport agrees.config.devId own) reports
  | hears isOwn hears effect =>
      rcases agreement.hears hears with ⟨message, honest, showing⟩
      exact agrees_deviceEffect agrees showing honest effect
  | bsHears isOwn hears effect =>
      rcases agreement.hears hears with ⟨message, honest, showing⟩
      exact agrees_bsEffect agrees showing honest effect
  | bsReads reads effect =>
      rcases agreement.reads reads with ⟨message, honest, showing⟩
      exact agrees_bsEffect agrees showing honest effect

theorem Agreement.answers (agreement : net.Agreement state) {services : Vtsd.Services} {fd : Nat}
    {request reply : List UInt8} (written : (fd, request) ∈ (state.node none).vnfTx)
    (answers : Vtsd.listenToBs services request = some reply) :
    HonestFrame net.bsId (messageOf reply) ∧ nsohdrSize < reply.length ∧
      Bs.IsMessage (net.station none).mtu reply := by
  have fits := (net.station none).controlFits
  have packed : ∀ src dst type, Vtsd.Answers src dst type reply →
      nsohdrSize < reply.length ∧ Bs.IsMessage (net.station none).mtu reply :=
    fun src dst type isAnswer =>
      ⟨isAnswer.long, Nat.le_of_lt isAnswer.long, Nat.le_trans isAnswer.short fits,
        isAnswer.lengthField⟩
  refine ⟨honest_listenToBs ((agreement.nodes none).requests _ written) answers, ?_⟩
  rcases Vtsd.listenToBs_answers answers with ⟨_, _, ⟨_, isAnswer⟩ | ⟨_, isAnswer⟩⟩ | isError
  · exact packed _ _ _ isAnswer
  · exact packed _ _ _ isAnswer
  · exact packed _ _ _ isError

variable [DecidableEq ι]

theorem agreement_step (honestly : net.AdvertisesHonestly) (reachable : net.Reachable state)
    (agreement : net.Agreement state)
    (step : net.Step state next) :
    net.Agreement next ∧ ∀ s, Moves (state.node s) (next.node s) := by
  rcases step_cases reachable (fun s => (agreement.nodes s).config) step with
    ⟨s, leaves, others, replies⟩ | ⟨services, fd, request, reply, written, answers, nodes, replies⟩
  · rcases agreement.leaves honestly leaves with ⟨agrees, moves⟩
    refine ⟨⟨?_, ?_⟩, ?_⟩
    · intro t
      rcases eq_or_ne t s with rfl | isOther
      · exact agrees
      · rw [others t isOther]
        exact agreement.nodes t
    · rw [replies]
      exact agreement.replies
    · intro t
      rcases eq_or_ne t s with rfl | isOther
      · exact moves
      · exact .inl (by rw [others t isOther]; exact ⟨rfl, rfl⟩)
  · rw [nodes]
    refine ⟨⟨?_, ?_⟩, fun s => .inl ⟨rfl, rfl⟩⟩
    · rw [nodes]
      exact agreement.nodes
    · rw [replies]
      intro answer isMem
      rcases List.mem_append.mp isMem with old | isNew
      · exact agreement.replies answer old
      · rcases List.mem_singleton.mp isNew with rfl
        exact agreement.answers written answers

theorem agreement_reachable (honestly : net.AdvertisesHonestly) (reachable : net.Reachable state) :
    net.Agreement state := by
  induction reachable with
  | start initial => exact agreement_initial initial
  | step before step ih => exact (agreement_step honestly before ih step).1

/-- A station that is connected stays so, with its gateway. -/
theorem connected_later (honestly : net.AdvertisesHonestly) (reachable : net.Reachable state)
    (later : Relation.ReflTransGen net.Step state next) {s : Option ι}
    (connected : (state.node s).nsol.devState = .connected) :
    net.Reachable next ∧ (next.node s).nsol.devState = .connected ∧
      (next.node s).nsol.gwId = (state.node s).nsol.gwId := by
  induction later with
  | refl => exact ⟨reachable, connected, rfl⟩
  | tail _ step ih =>
      rcases ih with ⟨mid, still, sameGw⟩
      refine ⟨mid.step step, ?_⟩
      have moves := (agreement_step honestly mid (agreement_reachable honestly mid) step).2 s
      rcases moves with ⟨same, gw⟩ | ⟨unreg, _⟩
      · exact ⟨same.trans still, gw.trans sameGw⟩
      · exact absurd (still.symm.trans unreg) DevState.noConfusion

/-- A station moves from unregistered to connected and nowhere else, it sets its gateway in
that step only, and its gateway is the base station. -/
structure GatewayAgreement (net : Network ι) (state : NetState ι) : Prop where
  states : ∀ s, (state.node s).nsol.devState = .unreg ∨ (state.node s).nsol.devState = .connected
  gateway : ∀ s, (state.node s).nsol.devState = .connected → (state.node s).nsol.gwId = net.bsId
  moves : ∀ next, net.Step state next → ∀ s, Moves (state.node s) (next.node s)
  later : ∀ next, Relation.ReflTransGen net.Step state next → ∀ s,
    (state.node s).nsol.devState = .connected →
      (next.node s).nsol.devState = .connected ∧
        (next.node s).nsol.gwId = (state.node s).nsol.gwId

/-- All runs of a network agree on the gateway, unless a second advertisement reads as a
false beacon or reply. -/
theorem gateway_agreement (honestly : net.AdvertisesHonestly) (reachable : net.Reachable state) :
    net.GatewayAgreement state := by
  have agreement := agreement_reachable honestly reachable
  refine ⟨?_, fun s => (agreement.nodes s).gateway, ?_, ?_⟩
  · intro s
    cases isState : (state.node s).nsol.devState with
    | unreg => exact .inl rfl
    | reg => exact absurd isState (agreement.nodes s).notReg
    | connected => exact .inr rfl
  · exact fun next step => (agreement_step honestly reachable agreement step).2
  · exact fun next later s connected => (connected_later honestly reachable later connected).2

/-! ### A device behind a relay -/

def wlan2 : NsoIf := { ifIndex := 0, ifMac := [2, 0, 0, 0, 0, 2], macSize := rfl }

def wlan3 : NsoIf := { ifIndex := 1, ifMac := [2, 0, 0, 0, 0, 3], macSize := rfl }

def wlan6 : NsoIf := { ifIndex := 0, ifMac := [2, 0, 0, 0, 0, 6], macSize := rfl }

theorem single_fits (iface : NsoIf) : [iface].length ≤ nsoMaxSupportedIfaces := by
  rw [List.length_singleton]
  decide

theorem control_fits : nsohdrSize + 2 ≤ 1500 := by decide

theorem length_fits : 1500 + tailroom < 16384 := by decide

/-- A base station, a device near it and a device far from it. -/
def chain (bsId farId : DeviceId) (ifaces : List NsoIf) : Option (Fin 2) → Station
  | none => ⟨bsId, ifaces.take nsoMaxSupportedIfaces, List.length_take_le _ _, 1500, control_fits,
      length_fits⟩
  | some i => ⟨if i = 0 then 2 else farId, [if i = 0 then wlan2 else wlan6], single_fits _, 1500,
      control_fits, length_fits⟩

theorem distinctIds_plain : ∀ s t,
    (chain 1 3 [wlan0] s).devId = (chain 1 3 [wlan0] t).devId → s = t := by decide +kernel

theorem distinctMacs_plain : ∀ s t, ∀ i ∈ (chain 1 3 [wlan0] s).ifaces,
    ∀ j ∈ (chain 1 3 [wlan0] t).ifaces, i.ifMac = j.ifMac → s = t := by decide +kernel

theorem notTsd_of_none (message : List UInt8) (isFunction : False) :
    (messageOf message).proto ≠ protoCpVtsd :=
  isFunction.elim

def plainNetwork : Network (Fin 2) where
  station := chain 1 3 [wlan0]
  distinctIds := distinctIds_plain
  distinctMacs := distinctMacs_plain
  functions := fun _ => False
  functionsWhole := fun _ isFunction => isFunction.elim
  functionsNotTsd := notTsd_of_none

/-- The base station registers and advertises itself, the near device joins it and advertises
itself. -/
def nearJoins : List (Turn (Fin 2)) :=
  [.baseStation .register, .vtsd 0, .bsReads 0, .baseStation .topoReport, .baseStation .advertise,
    .deviceHears 0 none 0 0, .device 0 .beacon, .bsHears (some 0) 0 0, .vtsd 2, .bsReads 1,
    .deviceHears 0 none 1 0, .device 0 .topoReport, .device 0 .topoReport, .device 0 .advertise]

/-- The far device hears the near one and joins by it. -/
def farJoins : List (Turn (Fin 2)) :=
  [.deviceHears 1 (some 0) 3 0, .device 1 .beacon, .deviceHears 0 (some 1) 0 0,
    .bsHears (some 0) 4 0, .vtsd 3, .bsReads 2, .deviceHears 0 none 2 0,
    .deviceHears 1 (some 0) 5 0]

def allJoined : Scene (Fin 2) := plainNetwork.played plainNetwork.started (nearJoins ++ farJoins)

theorem allJoined_plays : plainNetwork.Plays plainNetwork.started (nearJoins ++ farJoins) := by
  decide +kernel

theorem allJoined_connected : ∀ s, (allJoined.state.node s).nsol.devState = .connected := by
  decide +kernel

theorem allJoined_agreement :
    plainNetwork.ThreadRun allJoined ∧ plainNetwork.GatewayAgreement allJoined.state ∧
      ∀ s, (allJoined.state.node s).nsol.devState = .connected := by
  have run := threadRun_played (initial_started plainNetwork) allJoined_plays
  refine ⟨run, gateway_agreement ?_ run.reachable, allJoined_connected⟩
  intro s message isSecond
  cases s <;> exact nomatch isSecond

/-! ### A second advertisement that reads as a reply -/

/-- Behind the second header of the base station a receiver reads a successful reply for the far
device: the type and the answer are the last bytes of the identifier of the base station. -/
def misleading : DeviceId := deviceIdOfBytes [9, 9, 0xf0, 0, 0, 0, tsdMsgRegReply, 0]

def misledId : DeviceId := deviceIdOfBytes [0, 0, 0, 1, 0xf7, 0x48, 9, 9]

theorem distinctIds_twoHeaders : ∀ s t, (chain misleading misledId [wlan0, wlan3] s).devId =
    (chain misleading misledId [wlan0, wlan3] t).devId → s = t := by decide +kernel

theorem distinctMacs_twoHeaders : ∀ s t,
    ∀ i ∈ (chain misleading misledId [wlan0, wlan3] s).ifaces,
    ∀ j ∈ (chain misleading misledId [wlan0, wlan3] t).ifaces, i.ifMac = j.ifMac → s = t := by
  decide +kernel

def twoHeaders : Network (Fin 2) where
  station := chain misleading misledId [wlan0, wlan3]
  distinctIds := distinctIds_twoHeaders
  distinctMacs := distinctMacs_twoHeaders
  functions := fun _ => False
  functionsWhole := fun _ isFunction => isFunction.elim
  functionsNotTsd := notTsd_of_none

/-- The near device has joined and advertised itself, and the far device broadcasts its beacon.
Then the near device hears the beacon, and the second advertisement of the base station, and
sends it on to the far device. -/
def misleads : List (Turn (Fin 2)) :=
  [.baseStation .register, .vtsd 0, .bsReads 0, .baseStation .topoReport, .baseStation .advertise,
    .deviceHears 0 none 0 0, .device 0 .beacon, .bsHears (some 0) 0 0, .vtsd 2, .bsReads 1,
    .deviceHears 0 none 2 0, .device 0 .topoReport, .device 0 .topoReport, .device 0 .advertise,
    .deviceHears 1 (some 0) 3 0, .device 1 .beacon, .deviceHears 0 (some 1) 0 0,
    .deviceHears 0 none 1 0, .deviceHears 1 (some 0) 5 0]

def misled : Scene (Fin 2) := twoHeaders.played twoHeaders.started misleads

theorem misled_plays : twoHeaders.Plays twoHeaders.started misleads := by decide +kernel

/-- The far device is connected, and its gateway is no station. -/
theorem misled_disagrees : twoHeaders.ThreadRun misled ∧ twoHeaders.Reachable misled.state ∧
    ¬ twoHeaders.GatewayAgreement misled.state := by
  have run := threadRun_played (initial_started twoHeaders) misled_plays
  refine ⟨run, run.reachable, ?_⟩
  intro agreement
  have gateway := agreement.gateway (some 1) (by decide +kernel)
  exact absurd gateway (by decide +kernel)

end Network

end Nrg5
