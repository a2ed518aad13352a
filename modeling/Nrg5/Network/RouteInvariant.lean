import Nrg5.Lib.HopRoute
import Nrg5.Network.Gateway

/-!
# What the stations know of the temporary routes

A temporary route leads from station to station: each one's next hop is its own
`local_fwdt` entry for the target.  Next hops are only added, so a route that is
there stays.  A station adds one in three places, each time towards the sender of
the frame it treats: to the device of a beacon, to the relay of a beacon, and to the
station that passed a reply on.  The sender has a route of its own to the target,
and what the frames in the air and the messages for the vTSD say keeps that.
-/

namespace Nrg5

open LockProg

variable {node mid after : Node} {pkt : Packet} {message : Message} {iface : NsoIf}
  {target devId nxthop gwId : DeviceId} {mac addr src : L2addr}

/-! ## Tables that only grow -/

/-- What a node has learned stays. -/
structure Keeps (node after : Node) : Prop where
  route : ∀ target entry, FwdTable.lookup target node.nsol.localFwdt = some entry →
    ∃ kept, FwdTable.lookup target after.nsol.localFwdt = some kept ∧
      kept.nxthop = entry.nxthop
  arp : ∀ devId, (ArpTable.lookupFromDevId devId node.nsol.arpt).isSome = true →
    (ArpTable.lookupFromDevId devId after.nsol.arpt).isSome = true

theorem Keeps.trans (first : Keeps node mid) (second : Keeps mid after) : Keeps node after := by
  constructor
  · intro target entry found
    rcases first.route target entry found with ⟨half, foundHalf, sameHalf⟩
    rcases second.route target half foundHalf with ⟨kept, foundKept, same⟩
    exact ⟨kept, foundKept, same.trans sameHalf⟩
  · exact fun devId known => second.arp devId (first.arp devId known)

theorem keeps_of_tables (arpt : after.nsol.arpt = node.nsol.arpt)
    (localFwdt : after.nsol.localFwdt = node.nsol.localFwdt) : Keeps node after := by
  constructor
  · intro target entry found
    rw [localFwdt]
    exact ⟨entry, found, rfl⟩
  · intro devId known
    rw [arpt]
    exact known

theorem Keeps.refl (node : Node) : Keeps node node := keeps_of_tables rfl rfl

theorem keeps_learnedArp (devId : DeviceId) (mac : L2addr) :
    Keeps node (node.learnedArp devId mac) := by
  unfold Node.learnedArp
  constructor
  · intro target entry found
    cases ArpTable.lookupFromDevId devId node.nsol.arpt <;> exact ⟨entry, found, rfl⟩
  · intro other known
    cases isKnown : ArpTable.lookupFromDevId devId node.nsol.arpt with
    | some entry =>
        simp only [Node.updateArpt, Node.updateLayer, ArpTable.lookupFromDevId_refresh,
          Option.isSome_map]
        exact known
    | none =>
        simp only [Node.updateArpt, Node.updateLayer, ArpTable.lookupFromDevId_add]
        split
        · rfl
        · exact known

theorem keeps_learnedRoute (dest nxthop : DeviceId) (iface : NsoIf) :
    Keeps node (node.learnedRoute dest nxthop iface) := by
  unfold Node.learnedRoute
  cases isKnown : FwdTable.lookup dest node.nsol.localFwdt with
  | some known =>
      refine ⟨?_, fun devId isArp => isArp⟩
      intro target entry found
      simp only [Node.updateLocalFwdt, Node.updateLayer, FwdTable.lookup_refresh, found,
        Option.map_some, Option.some.injEq, exists_eq_left']
      split <;> rfl
  | none =>
      refine ⟨?_, fun devId isArp => isArp⟩
      intro target entry found
      simp only [Node.updateLocalFwdt, Node.updateLayer, FwdTable.lookup_add]
      rw [if_neg]
      · exact ⟨entry, found, rfl⟩
      · rintro rfl
        rw [isKnown] at found
        simp at found

theorem keeps_joined (noRoute : ∀ target, FwdTable.lookup target node.nsol.localFwdt = none) :
    Keeps node (node.joined gwId nxthop iface) := by
  refine ⟨?_, fun devId isArp => isArp⟩
  intro target entry found
  rw [noRoute] at found
  simp at found

theorem arp_learnedArp (devId : DeviceId) (mac : L2addr) :
    (ArpTable.lookupFromDevId devId (node.learnedArp devId mac).nsol.arpt).isSome = true := by
  unfold Node.learnedArp
  cases isKnown : ArpTable.lookupFromDevId devId node.nsol.arpt with
  | some entry =>
      simp only [Node.updateArpt, Node.updateLayer, ArpTable.lookupFromDevId_refresh, isKnown,
        Option.isSome_map]
      rfl
  | none =>
      simp only [Node.updateArpt, Node.updateLayer, ArpTable.lookupFromDevId_add, if_true]
      rfl

theorem l2addr_learnedArp {entry : ArpEntry}
    (found : ArpTable.lookupFromL2addr mac (node.learnedArp devId addr).nsol.arpt = some entry) :
    (∃ known, ArpTable.lookupFromL2addr mac node.nsol.arpt = some known ∧
      known.devId = entry.devId) ∨ (addr = mac ∧ entry.devId = devId) := by
  unfold Node.learnedArp at found
  cases isKnown : ArpTable.lookupFromDevId devId node.nsol.arpt with
  | some known =>
      simp only [isKnown, Node.updateArpt, Node.updateLayer, ArpTable.lookupFromL2addr_refresh,
        Option.map_eq_some_iff] at found
      rcases found with ⟨old, foundOld, isEntry⟩
      refine .inl ⟨old, foundOld, ?_⟩
      rw [← isEntry]
      split <;> rfl
  | none =>
      simp only [isKnown, Node.updateArpt, Node.updateLayer, ArpTable.lookupFromL2addr_add] at found
      split at found
      · rename_i same
        rcases Option.some.inj found with rfl
        exact .inr ⟨same, rfl⟩
      · exact .inl ⟨entry, found, rfl⟩

theorem lookup_learnedRoute {entry : FwdEntry} {dest : DeviceId}
    (found : FwdTable.lookup target (node.learnedRoute dest nxthop iface).nsol.localFwdt =
      some entry) :
    (∃ known, FwdTable.lookup target node.nsol.localFwdt = some known ∧
      known.nxthop = entry.nxthop ∧ known.iface = entry.iface) ∨
    (target = dest ∧ entry.nxthop = nxthop ∧ entry.iface = iface) := by
  unfold Node.learnedRoute at found
  cases isKnown : FwdTable.lookup dest node.nsol.localFwdt with
  | some known =>
      simp only [isKnown, Node.updateLocalFwdt, Node.updateLayer, FwdTable.lookup_refresh,
        Option.map_eq_some_iff] at found
      rcases found with ⟨old, foundOld, isEntry⟩
      refine .inl ⟨old, foundOld, ?_⟩
      rw [← isEntry]
      split <;> exact ⟨rfl, rfl⟩
  | none =>
      simp only [isKnown, Node.updateLocalFwdt, Node.updateLayer, FwdTable.lookup_add] at found
      split at found
      · rename_i same
        rcases Option.some.inj found with rfl
        exact .inr ⟨same.symm, rfl, rfl⟩
      · exact .inl ⟨entry, found, rfl, rfl⟩

theorem lookup_learnedRoute_isSome (dest nxthop : DeviceId) (iface : NsoIf) :
    (FwdTable.lookup dest (node.learnedRoute dest nxthop iface).nsol.localFwdt).isSome = true := by
  unfold Node.learnedRoute
  cases isKnown : FwdTable.lookup dest node.nsol.localFwdt with
  | some known =>
      simp only [Node.updateLocalFwdt, Node.updateLayer, FwdTable.lookup_refresh, isKnown,
        Option.isSome_map]
      rfl
  | none =>
      simp only [Node.updateLocalFwdt, Node.updateLayer, FwdTable.lookup_add, if_true]
      rfl

theorem covers_learnedRoute (covers : node.nsol.localFwdt.Covers FwdTable.bucket)
    (dest nxthop : DeviceId) (iface : NsoIf) :
    (node.learnedRoute dest nxthop iface).nsol.localFwdt.Covers FwdTable.bucket := by
  unfold Node.learnedRoute
  cases FwdTable.lookup dest node.nsol.localFwdt with
  | some known => exact covers.write fun index entry => rfl
  | none => exact covers.addTail

@[simp]
theorem localFwdt_learnedArp (devId : DeviceId) (mac : L2addr) :
    (node.learnedArp devId mac).nsol.localFwdt = node.nsol.localFwdt := by
  unfold Node.learnedArp
  cases ArpTable.lookupFromDevId devId node.nsol.arpt <;> rfl

namespace Network

variable {ι : Type} {net : Network ι} {state next : NetState ι} {s : Option ι} {i : ι}

/-! ## Routes -/

/-- The next hop of a station's temporary route, for which its ARP table has an entry. -/
def NextHop (net : Network ι) (state : NetState ι) (target x y : DeviceId) : Prop :=
  ∃ s entry, (net.station s).devId = x ∧
    FwdTable.lookup target (state.node s).nsol.localFwdt = some entry ∧ entry.nxthop = y ∧
      (ArpTable.lookupFromDevId y (state.node s).nsol.arpt).isSome = true

/-- The next hops lead from a station to the target, which is a station. -/
def Reaches (net : Network ι) (state : NetState ι) (target x : DeviceId) : Prop :=
  (∃ t, (net.station t).devId = target) ∧ ∃ path, HopRoute (net.NextHop state target) target x path

theorem nextHop_unique (x y z : DeviceId) (first : net.NextHop state target x y)
    (second : net.NextHop state target x z) : y = z := by
  rcases first with ⟨s, entry, isX, found, rfl, _⟩
  rcases second with ⟨t, other, isX', found', rfl, _⟩
  rcases net.distinctIds s t (isX.trans isX'.symm) with rfl
  rw [found] at found'
  rw [Option.some.inj found']

/-- The tables of the stations only grow. -/
def Grows (state next : NetState ι) : Prop := ∀ s, Keeps (state.node s) (next.node s)

theorem Reaches.mono {x : DeviceId} (grows : Grows state next)
    (reaches : net.Reaches state target x) :
    net.Reaches next target x := by
  rcases reaches with ⟨isStation, path, route⟩
  refine ⟨isStation, path, route.mono ?_⟩
  rintro x y ⟨s, entry, isX, found, rfl, known⟩
  rcases (grows s).route target entry found with ⟨kept, foundKept, same⟩
  exact ⟨s, kept, isX, foundKept, same, (grows s).arp _ known⟩

theorem reaches_self (s : Option ι) :
    net.Reaches state (net.station s).devId (net.station s).devId :=
  ⟨⟨s, rfl⟩, _, .arrived⟩

/-- A station whose next hop has a route has one. -/
theorem reaches_hop {entry : FwdEntry}
    (found : FwdTable.lookup target (state.node s).nsol.localFwdt = some entry)
    (known : (ArpTable.lookupFromDevId entry.nxthop (state.node s).nsol.arpt).isSome = true)
    (onward : net.Reaches state target entry.nxthop) :
    net.Reaches state target (net.station s).devId := by
  rcases onward with ⟨isStation, path, route⟩
  refine ⟨isStation, ?_⟩
  by_cases arrived : (net.station s).devId = target
  · rw [arrived]
    exact ⟨_, .arrived⟩
  · exact ⟨_, .hop arrived ⟨s, entry, rfl, found, rfl, known⟩ route⟩

/-! ## What messages say about routes -/

/-- A message of a station: the sender of a beacon has a route to its device, the sender of a
reply one to the base station, and the base station has one to the device of the reply. -/
structure TrueFrame (net : Network ι) (state : NetState ι) (sender : Option ι)
    (message : Message) : Prop where
  beacon : message.proto = protoCpVtsd → message.type = some tsdMsgReg →
    net.Reaches state message.src (net.station sender).devId ∧
      (message.dst = bcDeviceId → net.bsId ≠ bcDeviceId →
        message.src = (net.station sender).devId)
  reply : message.proto = protoCpVtsd → message.type = some tsdMsgRegReply →
    net.Reaches state net.bsId (net.station sender).devId ∧ net.Reaches state message.dst net.bsId
  advertisement : message.proto = protoCpVson → message.type = some sonMsgNbr →
    message.src = (net.station sender).devId

/-- A message for the vTSD: the base station has a route to the device that registers. -/
def TrueRequest (net : Network ι) (state : NetState ι) (message : Message) : Prop :=
  message.proto = protoCpVtsd → message.type = some tsdMsgReg →
    net.Reaches state message.src net.bsId

theorem TrueFrame.mono (grows : Grows state next) (isTrue : net.TrueFrame state s message) :
    net.TrueFrame next s message := by
  refine ⟨?_, ?_, isTrue.advertisement⟩
  · intro isTsd isReg
    rcases isTrue.beacon isTsd isReg with ⟨reaches, own⟩
    exact ⟨reaches.mono grows, own⟩
  · intro isTsd isReply
    rcases isTrue.reply isTsd isReply with ⟨toBs, fromBs⟩
    exact ⟨toBs.mono grows, fromBs.mono grows⟩

theorem TrueRequest.mono (grows : Grows state next) (isTrue : net.TrueRequest state message) :
    net.TrueRequest next message :=
  fun isTsd isReg => (isTrue isTsd isReg).mono grows

theorem trueFrame_of_other (notReg : message.proto = protoCpVtsd → message.type ≠ some tsdMsgReg)
    (notReply : message.proto = protoCpVtsd → message.type ≠ some tsdMsgRegReply)
    (notNbr : message.proto = protoCpVson → message.type ≠ some sonMsgNbr) :
    net.TrueFrame state s message :=
  ⟨fun isTsd isReg => absurd isReg (notReg isTsd), fun isTsd isReply =>
    absurd isReply (notReply isTsd), fun isSon isNbr => absurd isNbr (notNbr isSon)⟩

/-! ## What a station holds -/

/-- The routes of a station lead to their targets, its ARP entries name the stations, and what
it has sent is true.  The ARP table can be wrong where beacons for the base station look like
beacons for all, but there every route of a beacon is one hop. -/
structure Sound (net : Network ι) (state : NetState ι) (s : Option ι) (node : Node) : Prop where
  unlearned : node.nsol.devState = .unreg →
    ∀ target, FwdTable.lookup target node.nsol.localFwdt = none
  covers : node.nsol.localFwdt.Covers FwdTable.bucket
  routes : ∀ target entry, FwdTable.lookup target node.nsol.localFwdt = some entry →
    net.Reaches state target (net.station s).devId ∧ entry.iface ∈ (net.station s).ifaces
  arpKnown : ∀ mac entry, ArpTable.lookupFromL2addr mac node.nsol.arpt = some entry →
    (ArpTable.lookupFromDevId entry.devId node.nsol.arpt).isSome = true
  arpTrue : net.bsId ≠ bcDeviceId ∨ node.nsol.devState = .unreg →
    ∀ t, ∀ iface ∈ (net.station t).ifaces, ∀ entry,
      ArpTable.lookupFromL2addr iface.ifMac node.nsol.arpt = some entry →
        entry.devId = (net.station t).devId
  joined : ∀ i, s = some i → node.nsol.devState = .connected →
    net.Reaches state net.bsId (net.station s).devId ∧
      net.Reaches state (net.station s).devId net.bsId
  frames : ∀ entry ∈ node.air, ∃ iface ∈ (net.station s).ifaces, ∃ message,
    IsFrame iface.ifMac message entry.2 ∧ net.TrueFrame state s message
  requests : ∀ entry ∈ node.vnfTx, nsohdrSize < entry.2.length →
    net.TrueRequest state (messageOf entry.2)

theorem Sound.mono (grows : Grows state next) (sound : net.Sound state s node) :
    net.Sound next s node := by
  refine ⟨sound.unlearned, sound.covers, ?_, sound.arpKnown, sound.arpTrue, ?_, ?_, ?_⟩
  · intro target entry found
    rcases sound.routes target entry found with ⟨reaches, isOwn⟩
    exact ⟨reaches.mono grows, isOwn⟩
  · intro i isDevice connected
    rcases sound.joined i isDevice connected with ⟨toBs, fromBs⟩
    exact ⟨toBs.mono grows, fromBs.mono grows⟩
  · intro entry isMem
    rcases sound.frames entry isMem with ⟨iface, isOwn, message, isFrame, isTrue⟩
    exact ⟨iface, isOwn, message, isFrame, isTrue.mono grows⟩
  · exact fun entry isMem typed => (sound.requests entry isMem typed).mono grows

theorem Sound.routesOnly (sound : net.Sound state s node) (changes : RoutesOnly node after) :
    net.Sound state s after := by
  refine ⟨?_, ?_, ?_, ?_, ?_, ?_, ?_, ?_⟩
  · rw [changes.devState, changes.localFwdt]
    exact sound.unlearned
  · rw [changes.localFwdt]
    exact sound.covers
  · rw [changes.localFwdt]
    exact sound.routes
  · rw [changes.arpt]
    exact sound.arpKnown
  · rw [changes.devState, changes.arpt]
    exact sound.arpTrue
  · rw [changes.devState]
    exact sound.joined
  · rw [changes.air]
    exact sound.frames
  · rw [changes.vnfTx]
    exact sound.requests

theorem Sound.sentOn (sound : net.Sound state s node) (showing : pkt.Shows message)
    (isTrue : net.TrueFrame state s message) (isOwn : iface ∈ (net.station s).ifaces)
    (dest : L2addr) : net.Sound state s (node.sentOn iface pkt dest) := by
  refine ⟨?_, ?_, ?_, ?_, ?_, ?_, ?_, ?_⟩
  · rw [nsol_sentOn]
    exact sound.unlearned
  · rw [nsol_sentOn]
    exact sound.covers
  · rw [nsol_sentOn]
    exact sound.routes
  · rw [nsol_sentOn]
    exact sound.arpKnown
  · rw [nsol_sentOn]
    exact sound.arpTrue
  · rw [nsol_sentOn]
    exact sound.joined
  · intro entry isMem
    rcases mem_air_sentOn showing isMem with old | isFrame
    · exact sound.frames entry old
    · exact ⟨iface, isOwn, message, isFrame, isTrue⟩
  · rw [vnfTx_sentOn]
    exact sound.requests

/-- Without rules of the controller a packet leaves on an interface of the station. -/
theorem Sound.forwards (sound : net.Sound state s node) (noRule : node.nsol.sonFwdt = .empty)
    (showing : pkt.Shows message) (isTrue : net.TrueFrame state s message)
    (forwards : Forwards pkt node after) : net.Sound state s after := by
  cases forwards with
  | kept => exact sound
  | @sent nxt iface dest route =>
      have isOwn : iface ∈ (net.station s).ifaces := by
        have noSonRoute : FwdTable.lookup pkt.dstDevid node.nsol.sonFwdt = none := by
          rw [noRule]
          rfl
        simp only [NsoLayer.route, noSonRoute, Option.map_eq_some_iff, Prod.mk.injEq] at route
        rcases route with ⟨entry, found, rfl, rfl⟩
        exact (sound.routes _ entry found).2
      exact sound.sentOn showing isTrue isOwn dest

theorem Sound.sendBytes (sound : net.Sound state s node) (showing : pkt.Shows message)
    (isTrue : net.TrueRequest state message) (fd : Nat) :
    net.Sound state s (Bs.sendBytes fd pkt.bytes node) := by
  refine ⟨sound.unlearned, sound.covers, sound.routes, sound.arpKnown, sound.arpTrue,
    sound.joined, sound.frames, ?_⟩
  intro entry isMem typed
  rcases mem_vnfTx_sendBytes isMem with old | ⟨count, isPrefix⟩
  · exact sound.requests entry old typed
  · rw [isPrefix] at typed ⊢
    rw [messageOf_accepted typed, showing.message]
    exact isTrue

theorem Sound.learnedArp (sound : net.Sound state s node) (devId : DeviceId) (mac : L2addr)
    (isTrue : net.bsId ≠ bcDeviceId ∨ node.nsol.devState = .unreg →
      ∀ t, ∀ iface ∈ (net.station t).ifaces, mac = iface.ifMac → devId = (net.station t).devId) :
    net.Sound state s (node.learnedArp devId mac) := by
  have learns := @learnsOnly_learnedArp node devId mac
  refine ⟨?_, ?_, ?_, ?_, ?_, ?_, ?_, ?_⟩
  · rw [learns.devState, localFwdt_learnedArp]
    exact sound.unlearned
  · rw [localFwdt_learnedArp]
    exact sound.covers
  · rw [localFwdt_learnedArp]
    exact sound.routes
  · intro other entry found
    rcases l2addr_learnedArp found with ⟨known, foundKnown, same⟩ | ⟨_, isNew⟩
    · rw [← same]
      exact (keeps_learnedArp devId mac).arp _ (sound.arpKnown other known foundKnown)
    · rw [isNew]
      exact arp_learnedArp devId mac
  · intro may t iface isOwn entry found
    rw [learns.devState] at may
    rcases l2addr_learnedArp found with ⟨known, foundKnown, same⟩ | ⟨isMac, isNew⟩
    · rw [← same]
      exact sound.arpTrue may t iface isOwn known foundKnown
    · rw [isNew]
      exact isTrue may t iface isOwn isMac
  · rw [learns.devState]
    exact sound.joined
  · rw [learns.air]
    exact sound.frames
  · rw [learns.vnfTx]
    exact sound.requests

theorem Sound.learnedRoute (sound : net.Sound state s node) (nxthop : DeviceId)
    (isOwn : iface ∈ (net.station s).ifaces)
    (registered : node.nsol.devState ≠ .unreg) {dest : DeviceId}
    (reaches : net.Reaches state dest (net.station s).devId) :
    net.Sound state s (node.learnedRoute dest nxthop iface) := by
  have learns := @learnsOnly_learnedRoute node iface dest nxthop
  refine ⟨?_, ?_, ?_, ?_, ?_, ?_, ?_, ?_⟩
  · rw [learns.devState]
    exact fun unreg => absurd unreg registered
  · exact covers_learnedRoute sound.covers dest nxthop iface
  · intro target entry found
    rcases lookup_learnedRoute found with ⟨known, foundKnown, _, same⟩ | ⟨rfl, _, isIface⟩
    · rw [← same]
      exact sound.routes target known foundKnown
    · rw [isIface]
      exact ⟨reaches, isOwn⟩
  · rw [arpt_learnedRoute]
    exact sound.arpKnown
  · rw [arpt_learnedRoute, learns.devState]
    exact sound.arpTrue
  · rw [learns.devState]
    exact sound.joined
  · rw [learns.air]
    exact sound.frames
  · rw [learns.vnfTx]
    exact sound.requests

theorem Sound.joins (sound : net.Sound state s node) (isOwn : iface ∈ (net.station s).ifaces)
    (unreg : node.nsol.devState = .unreg)
    (toBs : net.Reaches state net.bsId (net.station s).devId)
    (fromBs : net.Reaches state (net.station s).devId net.bsId) :
    net.Sound state s (node.joined net.bsId nxthop iface) := by
  refine ⟨fun isUnreg => DevState.noConfusion isUnreg, sound.covers.addTail, ?_, sound.arpKnown,
    fun _ => sound.arpTrue (.inr unreg), fun _ _ _ => ⟨toBs, fromBs⟩, sound.frames,
    sound.requests⟩
  intro target entry found
  simp only [Node.joined, Node.updateLayer, FwdTable.lookup_add, sound.unlearned unreg] at found
  split at found
  · rename_i isTarget
    rcases Option.some.inj found with rfl
    rw [← isTarget]
    exact ⟨toBs, isOwn⟩
  · simp at found

theorem Sound.joinsBs (sound : net.Sound state none node) (gwId : DeviceId)
    (unreg : node.nsol.devState = .unreg) : net.Sound state none (node.joinedBs gwId) :=
  ⟨fun isUnreg => DevState.noConfusion isUnreg, sound.covers, sound.routes, sound.arpKnown,
    fun _ => sound.arpTrue (.inr unreg), (fun _ isDevice => nomatch isDevice), sound.frames,
    sound.requests⟩

/-! ## What every call keeps -/

theorem keeps_of_nsol (same : after.nsol = node.nsol) : Keeps node after :=
  keeps_of_tables (by rw [same]) (by rw [same])

theorem keeps_originates {ifaces : List NsoIf} {own : Message → Prop}
    (originates : Originates ifaces own node after) : Keeps node after := by
  induction originates with
  | quiet unseen => exact keeps_of_tables unseen.arpt unseen.localFwdt
  | @broadcast iface pkt message mid after isOwn before showing isMessage behind ih =>
      have sent : Keeps mid (mid.sentOn iface pkt bcMac) := keeps_of_nsol (nsol_sentOn _ _)
      exact (ih.trans sent).trans (keeps_of_tables behind.arpt behind.localFwdt)
  | forwarded before showing isMessage forwards =>
      exact (keeps_of_tables before.arpt before.localFwdt).trans
        (keeps_of_nsol (nsol_forwards forwards))

theorem keeps_deviceEffect (sound : net.Sound state s node) (notReg : node.nsol.devState ≠ .reg)
    (effect : Device.Effect pkt src iface node after) : Keeps node after := by
  cases effect with
  | quiet unseen => exact keeps_of_tables unseen.arpt unseen.localFwdt
  | passed connected isReply notNbr forwards => exact keeps_of_nsol (nsol_forwards forwards)
  | beacon connected isTsd isReg toAll forwards =>
      exact ((keeps_learnedArp _ _).trans (keeps_learnedRoute _ _ _)).trans
        (keeps_of_nsol (nsol_forwards forwards))
  | relayedBeacon connected isTsd isReg toOne downstream forwards =>
      exact (keeps_learnedRoute _ _ _).trans (keeps_of_nsol (nsol_forwards forwards))
  | joined isTsd isReply forMe unreg upstream => exact keeps_joined (sound.unlearned unreg)
  | neighbour isSon isNbr =>
      have unseen := @quiet_learnedNbr (node.learnedArp pkt.srcDevid src) pkt.srcDevid (some iface)
      exact (keeps_learnedArp _ _).trans (keeps_of_tables unseen.arpt unseen.localFwdt)
  | routes isSon isRt changes =>
      rw [promoted_of_not_reg notReg] at changes
      exact keeps_of_tables changes.arpt changes.localFwdt

theorem keeps_joinedBs (gwId : DeviceId) : Keeps node (node.joinedBs gwId) :=
  keeps_of_tables rfl rfl

theorem keeps_bsEffect {origin : Bs.Origin} (effect : Bs.Effect pkt origin node after) :
    Keeps node after := by
  cases effect with
  | quiet unseen => exact keeps_of_tables unseen.arpt unseen.localFwdt
  | passed notTsd notNbr forwards => exact keeps_of_nsol (nsol_forwards forwards)
  | delivered fd notTsd => exact keeps_of_nsol (nsol_sendBytes _ _)
  | beacon fd fromAir connected isTsd isReg toAll =>
      exact ((keeps_learnedArp _ _).trans (keeps_learnedRoute _ _ _)).trans
        (keeps_of_nsol (nsol_sendBytes _ _))
  | relayedBeacon fd fromAir connected isTsd isReg toOne downstream =>
      exact (keeps_learnedRoute _ _ _).trans (keeps_of_nsol (nsol_sendBytes _ _))
  | joined isTsd isReply forMe unreg => exact keeps_joinedBs _
  | neighbour isSon isNbr =>
      have unseen := @quiet_learnedNbr (node.learnedArp pkt.srcDevid (origin.src.getD []))
        pkt.srcDevid origin.iface
      exact (keeps_learnedArp _ _).trans (keeps_of_tables unseen.arpt unseen.localFwdt)
  | routes isSon isRt changes => exact keeps_of_tables changes.arpt changes.localFwdt

/-! ## What a run knows -/

/-- All the stations are sound, and so are the answers of the vTSD. -/
structure Routed (net : Network ι) (state : NetState ι) : Prop where
  nodes : ∀ s, net.Sound state s (state.node s)
  replies : ∀ reply ∈ state.replies, net.TrueFrame state none (messageOf reply)

theorem leaves_keeps (agreement : net.Agreement state) (routed : net.Routed state)
    (leaves : net.Leaves state s after) : Keeps (state.node s) after := by
  cases leaves with
  | quiet unseen => exact keeps_of_tables unseen.arpt unseen.localFwdt
  | originates originates => exact keeps_originates originates
  | beacons originates => exact keeps_originates originates
  | reports own reports =>
      cases reports with
      | quiet unseen => exact keeps_of_tables unseen.arpt unseen.localFwdt
      | written fd before showing => exact keeps_of_tables before.arpt before.localFwdt
  | hears isOwn hears effect =>
      exact keeps_deviceEffect (routed.nodes _) (agreement.nodes _).notReg effect
  | bsHears isOwn hears effect => exact keeps_bsEffect effect
  | bsReads reads effect => exact keeps_bsEffect effect

theorem Routed.hears (routed : net.Routed state) (agreement : net.Agreement state)
    (hears : net.Hears state s pkt src) :
    ∃ sender message, (∃ iface ∈ (net.station sender).ifaces, src = iface.ifMac) ∧
      HonestFrame net.bsId message ∧ net.TrueFrame state sender message ∧ pkt.Shows message := by
  have frames : ∀ sender, ∀ entry ∈ (state.node sender).air, ∃ mac message,
      IsFrame mac message entry.2 ∧ (∃ iface ∈ (net.station sender).ifaces, mac = iface.ifMac) ∧
        HonestFrame net.bsId message ∧ net.TrueFrame state sender message := by
    intro sender entry isMem
    rcases (agreement.nodes sender).frames entry isMem with ⟨mac, message, isFrame, honest⟩
    rcases (routed.nodes sender).frames entry isMem with
      ⟨iface, isOwn, sameMessage, sameFrame, isTrue⟩
    rcases isFrame.message.symm.trans sameFrame.message with rfl
    exact ⟨_, _, sameFrame, ⟨iface, isOwn, rfl⟩, honest, isTrue⟩
  rcases shows_of_hears hears frames with ⟨sender, message, ⟨fromOwn, honest, isTrue⟩, showing⟩
  exact ⟨sender, message, fromOwn, honest, isTrue, showing⟩

/-- No network function sends messages of vSON. -/
def WithoutVson (net : Network ι) : Prop :=
  ∀ message, net.functions message → (messageOf message).proto ≠ protoCpVson

theorem Routed.reads (routed : net.Routed state) (agreement : net.Agreement state)
    (withoutVson : net.WithoutVson) (reads : net.Reads state pkt) :
    ∃ message, HonestFrame net.bsId message ∧ net.TrueFrame state none message ∧
      pkt.Shows message := by
  rcases reads with ⟨bytes, rest, stream, left, junk, source, front, isRead⟩
  rcases source with isReply | isOther
  · rcases agreement.replies bytes isReply with ⟨honest, typed, isMessage⟩
    rcases Vtsd.shows_readPktFromVnf isMessage front isRead with ⟨shown, showing, _, _, whole⟩
    have isTrue := routed.replies bytes isReply
    rw [← whole typed] at honest isTrue
    exact ⟨shown, honest, isTrue, showing⟩
  · rcases Vtsd.shows_readPktFromVnf (net.functionsWhole _ isOther) front isRead with
      ⟨shown, showing, typed, proto, _⟩
    have notTsd : shown.proto ≠ protoCpVtsd := by
      rw [proto]
      exact net.functionsNotTsd _ isOther
    have notSon : shown.proto ≠ protoCpVson := by
      rw [proto]
      exact withoutVson _ isOther
    exact ⟨shown, honestFrame_of_other typed notTsd,
      trueFrame_of_other (fun isTsd => absurd isTsd notTsd) (fun isTsd => absurd isTsd notTsd)
        fun isSon => absurd isSon notSon, showing⟩

/-! ## Received messages -/

/-- What a sender's address tells: it is no other station's. -/
theorem owner_of_address {sender t : Option ι} {own other : NsoIf}
    (isOwn : own ∈ (net.station sender).ifaces) (isOther : other ∈ (net.station t).ifaces)
    (same : own.ifMac = other.ifMac) : (net.station sender).devId = (net.station t).devId := by
  rw [net.distinctMacs sender t own isOwn other isOther same]

/-- A station that treats the beacon of a device itself has a route of one hop to it. -/
theorem reaches_beacon (sound : net.Sound next s node) {devId : DeviceId}
    (isStation : ∃ t, (net.station t).devId = devId)
    (isNode : (next.node s).nsol =
      ((node.learnedArp devId src).learnedRoute devId devId iface).nsol) :
    net.Reaches next devId (net.station s).devId := by
  rcases Option.isSome_iff_exists.mp (@lookup_learnedRoute_isSome (node.learnedArp devId src)
    devId devId iface) with ⟨entry, found⟩
  have foundNext := found
  rw [← isNode] at foundNext
  rcases lookup_learnedRoute found with ⟨known, foundKnown, _, _⟩ | ⟨_, isNext, _⟩
  · rw [localFwdt_learnedArp] at foundKnown
    exact (sound.routes devId known foundKnown).1
  · apply reaches_hop foundNext
    · rw [isNode, arpt_learnedRoute, isNext]
      exact arp_learnedArp devId src
    · rw [isNext]
      rcases isStation with ⟨t, rfl⟩
      exact reaches_self t

/-- A station that treats a relayed beacon has a route to its device by way of the relay. -/
theorem reaches_relayed (sound : net.Sound next s node) {devId nxthop : DeviceId}
    (known : (ArpTable.lookupFromDevId nxthop node.nsol.arpt).isSome = true)
    (onward : net.Reaches next devId nxthop)
    (isNode : (next.node s).nsol = (node.learnedRoute devId nxthop iface).nsol) :
    net.Reaches next devId (net.station s).devId := by
  rcases Option.isSome_iff_exists.mp (@lookup_learnedRoute_isSome node devId nxthop iface) with
    ⟨entry, found⟩
  have foundNext := found
  rw [← isNode] at foundNext
  rcases lookup_learnedRoute found with ⟨old, foundOld, _, _⟩ | ⟨_, isNext, _⟩
  · exact (sound.routes devId old foundOld).1
  · apply reaches_hop foundNext
    · rw [isNode, arpt_learnedRoute, isNext]
      exact known
    · rw [isNext]
      exact onward

/-- A device that joins has a route to the base station by way of the sender of the reply. -/
theorem reaches_joined {nxthop : DeviceId}
    (known : (ArpTable.lookupFromDevId nxthop node.nsol.arpt).isSome = true)
    (onward : net.Reaches next net.bsId nxthop)
    (isNode : next.node s = node.joined net.bsId nxthop iface) :
    net.Reaches next net.bsId (net.station s).devId := by
  have found : FwdTable.lookup net.bsId (next.node s).nsol.localFwdt =
      some ⟨node.heap, net.bsId, nxthop, iface, .active⟩ := by
    rw [isNode, Node.joined, Node.updateLayer, FwdTable.lookup_add, if_pos rfl]
  apply reaches_hop found
  · rw [isNode]
    exact known
  · exact onward

variable {sender : Option ι}

/-! ## What a station learns from a frame -/

section Heard

variable {own : NsoIf} (sound : net.Sound next s node)
  (isSenders : own ∈ (net.station sender).ifaces) (isOwn : iface ∈ (net.station s).ifaces)
  (honest : HonestFrame net.bsId message) (isTrue : net.TrueFrame next sender message)
  (showing : pkt.Shows message)

include sound isSenders isTrue showing

/-- An advertisement tells the address of its sender. -/
theorem Sound.neighbourHeard (isSon : message.proto = protoCpVson)
    (isNbr : message.type = some sonMsgNbr) :
    net.Sound next s (node.learnedArp pkt.srcDevid own.ifMac) := by
  apply sound.learnedArp
  intro _ t other isOther isMac
  rw [showing.src, isTrue.advertisement isSon isNbr]
  exact owner_of_address isSenders isOther isMac

include isOwn

/-- A beacon for everyone tells the address of its sender, and a route of one hop to it. -/
theorem Sound.beaconHeard (connected : node.nsol.devState = .connected)
    (isTsd : message.proto = protoCpVtsd) (isReg : message.type = some tsdMsgReg)
    (toAll : message.dst = bcDeviceId)
    (isNode : (next.node s).nsol = ((node.learnedArp pkt.srcDevid own.ifMac).learnedRoute
      pkt.srcDevid pkt.srcDevid iface).nsol) :
    net.Reaches next message.src (net.station s).devId ∧
      net.Sound next s ((node.learnedArp pkt.srcDevid own.ifMac).learnedRoute
        pkt.srcDevid pkt.srcDevid iface) := by
  rcases isTrue.beacon isTsd isReg with ⟨fromSender, isOrigin⟩
  have reaches := reaches_beacon sound (by rw [showing.src]; exact fromSender.1) isNode
  have learned := sound.learnedArp pkt.srcDevid own.ifMac (by
    rintro (notBc | unreg) t other isOther isMac
    · rw [showing.src, isOrigin toAll notBc]
      exact owner_of_address isSenders isOther isMac
    · exact absurd (connected.symm.trans unreg) DevState.noConfusion)
  have registered : (node.learnedArp pkt.srcDevid own.ifMac).nsol.devState ≠ .unreg := by
    rw [(@learnsOnly_learnedArp node pkt.srcDevid own.ifMac).devState, connected]
    exact DevState.noConfusion
  have routed := learned.learnedRoute pkt.srcDevid isOwn registered reaches
  rw [showing.src] at reaches
  exact ⟨reaches, routed⟩

include honest

/-- A relayed beacon tells a route over the device that it came from. -/
theorem Sound.relayedHeard {entry : ArpEntry} (connected : node.nsol.devState = .connected)
    (isTsd : message.proto = protoCpVtsd) (isReg : message.type = some tsdMsgReg)
    (toOne : message.dst ≠ bcDeviceId)
    (downstream : ArpTable.lookupFromL2addr own.ifMac node.nsol.arpt = some entry)
    (isNode : (next.node s).nsol = (node.learnedRoute pkt.srcDevid entry.devId iface).nsol) :
    net.Reaches next message.src (net.station s).devId ∧
      net.Sound next s (node.learnedRoute pkt.srcDevid entry.devId iface) := by
  have notBc : net.bsId ≠ bcDeviceId := by
    rcases honest.beacon isTsd isReg with toAll | toBs
    · exact absurd toAll toOne
    · rw [← toBs]
      exact toOne
  have isSender := sound.arpTrue (.inl notBc) sender own isSenders entry downstream
  have onward := (isTrue.beacon isTsd isReg).1
  rw [← isSender, ← showing.src] at onward
  have reaches := reaches_relayed sound (sound.arpKnown _ entry downstream) onward isNode
  have registered : node.nsol.devState ≠ .unreg := by
    rw [connected]
    exact DevState.noConfusion
  have routed := sound.learnedRoute entry.devId isOwn registered reaches
  rw [showing.src] at reaches
  exact ⟨reaches, routed⟩

end Heard

/-! ## What a frame leaves -/

/-- What a device makes of a true frame leaves it sound. -/
theorem sound_deviceEffect (agrees : Agrees (net.station (some i)) net.bsId node)
    (sound : net.Sound next (some i) node) (noRule : node.nsol.sonFwdt = .empty)
    (isOwn : iface ∈ (net.station (some i)).ifaces)
    (fromOwn : ∃ own ∈ (net.station sender).ifaces, src = own.ifMac)
    (honest : HonestFrame net.bsId message) (isTrue : net.TrueFrame next sender message)
    (showing : pkt.Shows message) (effect : Device.Effect pkt src iface node after)
    (isNode : next.node (some i) = after) : net.Sound next (some i) after := by
  rcases fromOwn with ⟨own, isSenders, rfl⟩
  cases effect with
  | quiet unseen => exact sound.routesOnly unseen.toRoutesOnly
  | passed connected isReply notNbr forwards =>
      apply sound.forwards noRule showing _ forwards
      have type := honest.msgType showing
      rw [showing.proto] at isReply notNbr type
      refine ⟨?_, ?_, ?_⟩
      · intro isTsd isReg
        rw [type (.inl isTsd), isReply isTsd] at isReg
        exact absurd (Option.some.inj isReg) (by decide)
      · intro isTsd isRegReply
        exact ⟨(sound.joined i rfl connected).1, (isTrue.reply isTsd isRegReply).2⟩
      · intro isSon isNbr
        rw [type (.inr isSon)] at isNbr
        exact absurd (Option.some.inj isNbr) (notNbr isSon)
  | beacon connected isTsd isReg toAll forwards =>
      have type := honest.msgType showing (.inl isTsd)
      rw [isReg] at type
      rw [showing.proto] at isTsd
      rw [showing.dst] at toAll
      have learns := @learnsOnly_learnedArp node pkt.srcDevid own.ifMac
      have same := nsol_forwards forwards
      rw [← isNode] at same
      rcases sound.beaconHeard isSenders isOwn isTrue showing connected isTsd type toAll same with
        ⟨reaches, routed⟩
      have redirected := showing.setDstDevid node.nsol.gwId
      rw [agrees.gateway connected] at redirected forwards
      apply routed.forwards _ redirected _ forwards
      · rw [(@learnsOnly_learnedRoute _ iface pkt.srcDevid pkt.srcDevid).sonFwdt, learns.sonFwdt]
        exact noRule
      · refine ⟨?_, ?_, ?_⟩
        · exact fun _ _ => ⟨reaches, fun isBc notBc => absurd isBc notBc⟩
        · intro _ isReply
          rw [type] at isReply
          exact absurd (Option.some.inj isReply) (by decide)
        · exact fun isSon => absurd (isSon.symm.trans isTsd) son_ne_tsd
  | @relayedBeacon after entry connected isTsd isReg toOne downstream forwards =>
      have type := honest.msgType showing (.inl isTsd)
      rw [isReg] at type
      rw [showing.proto] at isTsd
      rw [showing.dst] at toOne
      have same := nsol_forwards forwards
      rw [← isNode] at same
      rcases sound.relayedHeard isSenders isOwn honest isTrue showing connected isTsd type toOne
        downstream same with ⟨reaches, routed⟩
      apply routed.forwards _ showing _ forwards
      · rw [(@learnsOnly_learnedRoute node iface pkt.srcDevid entry.devId).sonFwdt]
        exact noRule
      · refine ⟨?_, ?_, ?_⟩
        · exact fun _ _ => ⟨reaches, fun toAll => absurd toAll toOne⟩
        · intro _ isReply
          rw [type] at isReply
          exact absurd (Option.some.inj isReply) (by decide)
        · exact fun isSon => absurd (isSon.symm.trans isTsd) son_ne_tsd
  | @joined entry isTsd isReply forMe unreg upstream =>
      have type := honest.msgType showing (.inl isTsd)
      rw [isReply] at type
      rw [showing.proto] at isTsd
      rw [showing.dst, agrees.config.devId] at forMe
      have fromBs := honest.reply isTsd (.inl type)
      rcases isTrue.reply isTsd type with ⟨onward, back⟩
      rw [← sound.arpTrue (.inr unreg) sender own isSenders entry upstream] at onward
      rw [forMe] at back
      rw [showing.src, fromBs] at isNode ⊢
      have toBs := reaches_joined (sound.arpKnown _ entry upstream) onward isNode
      exact sound.joins isOwn unreg toBs back
  | neighbour isSon isNbr =>
      have type := honest.msgType showing (.inr isSon)
      rw [isNbr] at type
      rw [showing.proto] at isSon
      have unseen := @quiet_learnedNbr (node.learnedArp pkt.srcDevid own.ifMac) pkt.srcDevid
        (some iface)
      exact (sound.neighbourHeard isSenders isTrue showing isSon type).routesOnly
        unseen.toRoutesOnly
  | routes isSon isRt changes =>
      rw [promoted_of_not_reg agrees.notReg] at changes
      exact sound.routesOnly changes

/-- What a base station makes of a true frame leaves it sound. -/
theorem sound_bsHears (sound : net.Sound next none node) (noRule : node.nsol.sonFwdt = .empty)
    (isOwn : iface ∈ (net.station none).ifaces)
    (fromOwn : ∃ own ∈ (net.station sender).ifaces, src = own.ifMac)
    (honest : HonestFrame net.bsId message) (isTrue : net.TrueFrame next sender message)
    (showing : pkt.Shows message) (effect : Bs.Effect pkt (.air src iface) node after)
    (isNode : next.node none = after) : net.Sound next none after := by
  rcases fromOwn with ⟨own, isSenders, rfl⟩
  cases effect with
  | quiet unseen => exact sound.routesOnly unseen.toRoutesOnly
  | passed notTsd notNbr forwards =>
      rcases notTsd with fromVnf | notTsd
      · exact nomatch fromVnf
      rcases notNbr with fromVnf | notNbr
      · exact nomatch fromVnf
      rw [showing.proto] at notTsd
      apply sound.forwards noRule showing _ forwards
      apply trueFrame_of_other (fun isTsd => absurd isTsd notTsd) fun isTsd => absurd isTsd notTsd
      intro isSon isNbr
      rw [← showing.proto] at isSon
      rw [honest.msgType showing (.inr isSon)] at isNbr
      exact absurd (Option.some.inj isNbr) (notNbr isSon)
  | delivered fd notTsd =>
      rw [showing.proto] at notTsd
      exact sound.sendBytes showing (fun isTsd => absurd isTsd notTsd) fd
  | beacon fd fromAir connected isTsd isReg toAll =>
      rcases Bs.Origin.air.inj fromAir with ⟨rfl, rfl⟩
      have type := honest.msgType showing (.inl isTsd)
      rw [isReg] at type
      rw [showing.proto] at isTsd
      rw [showing.dst] at toAll
      have same := congrArg Node.nsol isNode
      rw [nsol_sendBytes] at same
      rcases sound.beaconHeard isSenders isOwn isTrue showing connected isTsd type toAll same with
        ⟨reaches, routed⟩
      exact routed.sendBytes (showing.setDstDevid node.nsol.gwId) (fun _ _ => reaches) fd
  | @relayedBeacon _ _ entry fd fromAir connected isTsd isReg toOne downstream =>
      rcases Bs.Origin.air.inj fromAir with ⟨rfl, rfl⟩
      have type := honest.msgType showing (.inl isTsd)
      rw [isReg] at type
      rw [showing.proto] at isTsd
      rw [showing.dst] at toOne
      have same := congrArg Node.nsol isNode
      rw [nsol_sendBytes] at same
      rcases sound.relayedHeard isSenders isOwn honest isTrue showing connected isTsd type toOne
        downstream same with ⟨reaches, routed⟩
      exact routed.sendBytes showing (fun _ _ => reaches) fd
  | joined isTsd isReply forMe unreg => exact sound.joinsBs pkt.srcDevid unreg
  | neighbour isSon isNbr =>
      have type := honest.msgType showing (.inr isSon)
      rw [isNbr] at type
      rw [showing.proto] at isSon
      have unseen := @quiet_learnedNbr (node.learnedArp pkt.srcDevid own.ifMac) pkt.srcDevid
        (some iface)
      exact (sound.neighbourHeard isSenders isTrue showing isSon type).routesOnly
        unseen.toRoutesOnly
  | routes isSon isRt changes => exact sound.routesOnly changes

/-- What a base station makes of a message of a network function leaves it sound. -/
theorem sound_bsReads (sound : net.Sound next none node) (noRule : node.nsol.sonFwdt = .empty)
    (isTrue : net.TrueFrame next none message) (showing : pkt.Shows message)
    (effect : Bs.Effect pkt .vnf node after) : net.Sound next none after := by
  cases effect with
  | quiet unseen => exact sound.routesOnly unseen.toRoutesOnly
  | passed notTsd notNbr forwards => exact sound.forwards noRule showing isTrue forwards
  | delivered fd notTsd =>
      rw [showing.proto] at notTsd
      exact sound.sendBytes showing (fun isTsd => absurd isTsd notTsd) fd
  | beacon fd fromAir connected isTsd isReg toAll => exact nomatch fromAir
  | relayedBeacon fd fromAir connected isTsd isReg toOne downstream => exact nomatch fromAir
  | joined isTsd isReply forMe unreg => exact sound.joinsBs pkt.srcDevid unreg
  | neighbour isSon isNbr =>
      have unseen := @quiet_learnedNbr (node.learnedArp pkt.srcDevid []) pkt.srcDevid none
      -- A message of a network function has no address, and no interface has an empty one.
      have learned := sound.learnedArp pkt.srcDevid [] (by
        intro _ t other _ isMac
        have six := other.macSize
        rw [← isMac] at six
        exact nomatch six)
      exact learned.routesOnly unseen.toRoutesOnly
  | routes isSon isRt changes => exact sound.routesOnly changes

/-! ## Own messages -/

theorem sound_originates {ifaces : List NsoIf} {own : Message → Prop}
    (areOwn : ∀ iface ∈ ifaces, iface ∈ (net.station s).ifaces)
    (sound : net.Sound next s node) (noRule : node.nsol.sonFwdt = .empty)
    (isTrue : ∀ message, own message → net.TrueFrame next s message)
    (originates : Originates ifaces own node after) : net.Sound next s after := by
  induction originates with
  | quiet unseen => exact sound.routesOnly unseen.toRoutesOnly
  | broadcast isOwn before showing isMessage behind ih =>
      exact (ih.sentOn showing (isTrue _ isMessage) (areOwn _ isOwn) bcMac).routesOnly
        behind.toRoutesOnly
  | forwarded before showing isMessage forwards =>
      apply (sound.routesOnly before.toRoutesOnly).forwards _ showing (isTrue _ isMessage) forwards
      rw [before.sonFwdt]
      exact noRule

/-- No second advertisement reads as an advertisement, a beacon or a reply. -/
def AdvertisesTruly (net : Network ι) : Prop :=
  ∀ s message, secondMessage (net.station s).devId (net.station s).ifaces = some message →
    (message.proto = protoCpVson → message.type ≠ some sonMsgNbr) ∧
      (message.proto = protoCpVtsd → message.type ≠ some tsdMsgReg ∧
        message.type ≠ some tsdMsgRegReply ∧ message.type ≠ some tsdMsgBsRegReply)

/-- The type of a second advertisement is a byte of the identifier of its station. -/
theorem typed_secondMessage {devId : DeviceId} {ifaces : List NsoIf}
    (isSecond : secondMessage devId ifaces = some message) : message.type.isSome = true := by
  cases ifaces with
  | nil => exact nomatch isSecond
  | cons first others =>
      cases others with
      | nil => exact nomatch isSecond
      | cons second rest =>
          rcases Option.some.inj isSecond with rfl
          have inside :
            nsohdrSize < (ethHeader first.ifMac bcMac ++ deviceIdBytes devId).length := by
            rw [List.length_append, length_ethHeader, length_deviceIdBytes]
            decide
          simp only [messageOf, List.getElem?_eq_getElem inside, Option.isSome_some]

theorem AdvertisesTruly.honestly (truly : net.AdvertisesTruly) : net.AdvertisesHonestly := by
  intro s message isSecond
  rcases truly s message isSecond with ⟨_, notTsd⟩
  refine ⟨fun _ => typed_secondMessage isSecond, ?_, ?_⟩
  · exact fun isTsd isReg => absurd isReg (notTsd isTsd).1
  · rintro isTsd (isReply | isReply)
    · exact absurd isReply (notTsd isTsd).2.1
    · exact absurd isReply (notTsd isTsd).2.2

theorem true_own (truly : net.AdvertisesTruly) (config : Configured (net.station s) node)
    (own : Own node message) : net.TrueFrame next s message := by
  cases own with
  | advertisement advertised =>
      cases advertised with
      | first =>
          refine ⟨fun isTsd => absurd isTsd son_ne_tsd, fun isTsd => absurd isTsd son_ne_tsd, ?_⟩
          exact fun _ _ => config.devId
      | second isSecond =>
          rw [config.devId, config.ifaces] at isSecond
          rcases truly s message isSecond with ⟨notNbr, notTsd⟩
          exact trueFrame_of_other (fun isTsd => (notTsd isTsd).1) (fun isTsd => (notTsd isTsd).2.1)
            notNbr
      | later proto typed =>
          apply trueFrame_of_other <;>
          · intro isControl
            rw [proto] at isControl
            exact absurd isControl (by decide)
  | topoReport =>
      refine trueFrame_of_other (fun isTsd => absurd isTsd son_ne_tsd)
        (fun isTsd => absurd isTsd son_ne_tsd) ?_
      exact fun _ isNbr => absurd (Option.some.inj isNbr) (by decide)
  | data dst type isData =>
      rcases dispatch_data isData with ⟨notTsd, notSon⟩
      exact trueFrame_of_other (fun isTsd => absurd isTsd notTsd) (fun isTsd => absurd isTsd notTsd)
        fun isSon => absurd isSon notSon

theorem true_ownReport (own : OwnReport node message) : net.TrueRequest next message := by
  cases own with
  | topoReport => exact fun isTsd => absurd isTsd son_ne_tsd
  | register => exact fun _ isReg => absurd (Option.some.inj isReg) (by decide)

/-- The vTSD answers the registration of a device to which the base station has a route. -/
theorem true_answer {services : Vtsd.Services} {request reply : List UInt8}
    (isTrue : nsohdrSize < request.length → net.TrueRequest state (messageOf request))
    (answers : Vtsd.listenToBs services request = some reply) :
    net.TrueFrame state none (messageOf reply) := by
  have notSon : ∀ message : Message, message.proto = protoCpVtsd →
      message.proto = protoCpVson → message.type ≠ some sonMsgNbr :=
    fun message isTsd isSon => absurd (isSon.symm.trans isTsd) son_ne_tsd
  rcases Vtsd.listenToBs_answers answers with ⟨typed, isTsd, registers⟩ | isError
  · rcases registers with ⟨isReg, isAnswer⟩ | ⟨isReg, isAnswer⟩
    · rw [isAnswer.message]
      refine ⟨?_, ?_, ?_⟩
      · exact fun _ isBeacon => absurd (Option.some.inj isBeacon) (by decide)
      · exact fun _ _ => ⟨reaches_self none, isTrue typed isTsd isReg⟩
      · exact fun isSon => absurd isSon.symm son_ne_tsd
    · rw [isAnswer.message]
      apply trueFrame_of_other _ _ (notSon _ rfl)
      · exact fun _ isBeacon => absurd (Option.some.inj isBeacon) (by decide)
      · exact fun _ isReply => absurd (Option.some.inj isReply) (by decide)
  · rw [isError.message]
    apply trueFrame_of_other _ _ (notSon _ rfl)
    · exact fun _ isBeacon => absurd (Option.some.inj isBeacon) (by decide)
    · exact fun _ isReply => absurd (Option.some.inj isReply) (by decide)

end Network

end Nrg5
