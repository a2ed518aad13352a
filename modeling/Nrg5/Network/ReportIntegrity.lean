import Nrg5.Network.Routes
import Nrg5.Vson.Facts
import Nrg5.Vson.Southbound

/-!
# The topology that the controller sees

A report passes the relays, the base station and its connection as it is, or it is cut and vSON
raises on it.  So the graph of vSON shows what the stations had when they reported: their own
interfaces, and links to stations that have advertised themselves.
-/

namespace Nrg5

open ByteMemory LockProg

namespace Vson

open TopologyGraph

variable {bytes left payload : List UInt8} {count size : Nat} {hdr : NsoHdr} {msg : SonMsg}
  {layer : NsoLayer} {junk : Memory} {repo : TopoRepo} {ID : PyInt} {report : Report}

/-! ## Beginnings -/

theorem fullRecv_take {rest : List UInt8}
    (reads : fullRecv size (bytes.take count) = some (payload, rest)) :
    fullRecv size bytes = some (payload, bytes.drop size) ∧
      rest = (bytes.drop size).take (count - size) := by
  rw [fullRecv, Option.ite_none_right_eq_some, Option.some.injEq, Prod.mk.injEq] at reads
  rcases reads with ⟨inside, rfl, rfl⟩
  rw [List.length_take] at inside
  rw [fullRecv, if_pos (by omega), List.take_take, Nat.min_eq_left (by omega), List.drop_take]
  exact ⟨rfl, rfl⟩

/-- What vSON reads of the beginning of a message is what it reads of the whole. -/
theorem receiveSON_take (reads : receiveSON (bytes.take count) = some (hdr, msg, left)) :
    ∃ behind, receiveSON bytes = some (hdr, msg, behind) := by
  rcases Option.bind_eq_some_iff.mp reads with ⟨⟨nsoHdr, rest⟩, isHdr, goesOn⟩
  rcases Option.bind_eq_some_iff.mp goesOn with ⟨⟨payload, last⟩, isPayload, unpacks⟩
  rcases Option.bind_eq_some_iff.mp unpacks with ⟨answer, isAnswer, isAll⟩
  rcases fullRecv_take isHdr with ⟨wholeHdr, rfl⟩
  rcases fullRecv_take isPayload with ⟨wholePayload, -⟩
  rcases Prod.mk.inj (Option.some.inj isAll) with ⟨rfl, isRest⟩
  rcases Prod.mk.inj isRest with ⟨rfl, -⟩
  refine ⟨(bytes.drop nsohdrSize).drop ((unpackHdr nsoHdr).length - nsohdrSize), ?_⟩
  rw [receiveSON, wholeHdr]
  dsimp only [Option.bind_eq_bind, Option.bind_some]
  rw [wholePayload]
  dsimp only [Option.bind_some]
  rw [isAnswer]
  rfl

theorem topoMsg_of_unpackSON {src : PyInt}
    (unpacks : unpackSON src payload = some (.topoRepo repo)) :
    ∃ body, payload = sonMsgTopo :: body ∧ unpackTopoRepo src body = some repo := by
  cases payload with
  | nil => cases unpacks
  | cons msgTyp body =>
      simp only [unpackSON] at unpacks
      split at unpacks
      · rename_i isTopo
        rcases Option.map_eq_some_iff.mp unpacks with ⟨read, isRead, same⟩
        rcases SonMsg.topoRepo.inj same with rfl
        exact ⟨body, by rw [isTopo]; rfl, isRead⟩
      · cases unpacks

/-- The header of a report that is read, and its type. -/
theorem receiveSON_message (reads : receiveSON bytes = some (hdr, .topoRepo repo, left)) :
    hdr.proto = (messageOf bytes).proto.toNat ∧ (messageOf bytes).type = some sonMsgTopo := by
  rcases Option.bind_eq_some_iff.mp reads with ⟨⟨nsoHdr, rest⟩, isHdr, goesOn⟩
  rcases Option.bind_eq_some_iff.mp goesOn with ⟨⟨payload, last⟩, isPayload, unpacks⟩
  rcases Option.bind_eq_some_iff.mp unpacks with ⟨answer, isAnswer, isAll⟩
  rcases Prod.mk.inj (Option.some.inj isAll) with ⟨rfl, isRest⟩
  rcases Prod.mk.inj isRest with ⟨rfl, -⟩
  simp only [fullRecv, Option.ite_none_right_eq_some, Option.some.injEq,
    Prod.mk.injEq] at isHdr isPayload
  rcases isHdr with ⟨long, rfl, rfl⟩
  rcases isPayload with ⟨-, rfl, -⟩
  constructor
  · have two : ((bytes.take nsohdrSize).drop 16).take 2 = (bytes.drop 16).take 2 := by
      rw [List.drop_take, List.take_take]
      rfl
    have small := beNat_lt ((bytes.drop 16).take 2)
    have length : ((bytes.drop 16).take 2).length = 2 := by
      simp only [nsohdrSize] at long
      rw [List.length_take, List.length_drop]
      omega
    rw [length] at small
    rw [unpackHdr, messageOf, two, UInt16.toNat_ofNat']
    exact (Nat.mod_eq_of_lt small).symm
  · rcases topoMsg_of_unpackSON isAnswer with ⟨body, isFront, -⟩
    have first := congrArg List.head? isFront
    rw [List.head?_take] at first
    split at first
    · cases first
    · rw [List.head?_drop] at first
      exact first

/-! ## The call of the graph -/

/-- The keyword arguments of `put_node_info`. -/
def TopoRepo.kwargs (repo : TopoRepo) : Report :=
  ⟨some repo.battery, some repo.intfs, some repo.nbrs⟩

/-- `__listen_to_bs` on a message, up to the call of `put_node_info`. -/
def reportOf (bytes : List UInt8) : Option (PyInt × Report) :=
  match receiveSON bytes with
  | some (hdr, .topoRepo repo, _) =>
      if hdr.src ≠ 0 ∧ hdr.dst ≠ 0 ∧ hdr.length ≠ 0 ∧ hdr.proto = protoCpVson.toNat then
        some (hdr.src, repo.kwargs)
      else none
  | _ => none

theorem of_reportOf (reads : reportOf bytes = some (ID, report)) :
    ∃ hdr repo left, receiveSON bytes = some (hdr, .topoRepo repo, left) ∧ ID = hdr.src ∧
      report = repo.kwargs ∧ hdr.proto = protoCpVson.toNat := by
  rw [reportOf] at reads
  split at reads
  · rename_i hdr repo left received
    rw [Option.ite_none_right_eq_some, Option.some.injEq, Prod.mk.injEq] at reads
    rcases reads with ⟨⟨_, _, _, isSon⟩, rfl, rfl⟩
    exact ⟨hdr, repo, left, received, rfl, rfl, isSon⟩
  · cases reads

/-- What vSON reads of the report of a layer is what the layer had. -/
theorem receiveSON_report (isReport : IsReport layer junk bytes)
    (small : layer.mtu + tailroom < 16384) (counted : layer.nbrt.size = layer.nbrt.ll.length)
    (indexes : ∀ entry ∈ layer.nbrt.ll, ∀ iface, entry.iface = some iface → iface.ifIndex < 256)
    (reads : receiveSON bytes = some (hdr, .topoRepo repo, left)) :
    hdr.src = idNumber layer.devId ∧ repo = topoRepoOf layer ∧ NbrIfaces layer := by
  rcases isReport with ⟨body, isBody, inBuffer, rfl⟩
  have whole : nsohdrSize + 1 + body.length < 16384 := by omega
  have size := length_topoData isBody
  have few : layer.nbrt.ll.length < 65536 := by
    simp only [topoSize] at size
    omega
  rw [receiveSON_control whole, Option.ite_none_right_eq_some] at reads
  rcases Option.map_eq_some_iff.mp reads.2 with ⟨read, isRead, same⟩
  rcases Prod.mk.inj same with ⟨rfl, isRest⟩
  rcases SonMsg.topoRepo.inj (Prod.mk.inj isRest).1 with rfl
  refine ⟨rfl, ?_, topoData_isSome.mp (Option.isSome_of_eq_some isBody)⟩
  rcases Nat.eq_zero_or_pos layer.ifacesNb with noIface | hasIface
  · rcases Option.map_eq_some_iff.mp isBody with ⟨records, _, rfl⟩
    rw [noIface] at isRead
    cases isRead
  · rw [unpackTopoRepo_topoData isBody hasIface counted few indexes] at isRead
    exact (Option.some.inj isRead).symm

end Vson

namespace Network

open Vson

variable {ι : Type} {net : Network ι} {state next : NetState ι} {calls later : List (LoggedCall ι)}
  {s : Option ι} {bytes : List UInt8}

/-! ## The topology of a network -/

/-- Only stations report and advertise, and the interface pointers of a layer lie where their
indexes say. -/
structure OwnTopology (net : Network ι) : Prop where
  indexed : ∀ s (index : Nat) iface, (net.station s).ifaces[index]? = some iface →
    iface.ifIndex = index
  seconds : ∀ s message,
    secondMessage (net.station s).devId (net.station s).ifaces = some message →
      message.proto = protoCpVson →
        message.type ≠ some sonMsgTopo ∧ message.type ≠ some sonMsgNbr
  functions : ∀ message, net.functions message → (messageOf message).proto = protoCpVson →
    ∃ type, (messageOf message).type = some type ∧ type ≠ sonMsgTopo ∧ type ≠ sonMsgNbr

/-- A number that names a station which has reported. -/
def Named (net : Network ι) (calls : List (LoggedCall ι)) (s : Option ι) (a : PyInt) : Prop :=
  a = idNumber (net.station s).devId ∧ ∃ call, .report call ∈ calls ∧ call.station = s

/-- A link from a station that has reported to one that has advertised itself. -/
structure TrueLink (net : Network ι) (calls : List (LoggedCall ι)) (link : Link) : Prop where
  reporter : ∃ s, net.Named calls s link.beginID ∧
    ∃ iface ∈ (net.station s).ifaces, link.intfIdx = (iface.ifIndex : Nat)
  advertiser : ∃ t, .advertise t ∈ calls ∧ link.endID = idNumber (net.station t).devId
  quality : link.lq = 1

/-- What is true of the stations. -/
def topology (net : Network ι) (calls : List (LoggedCall ι)) : Facts where
  battery a value := ∃ call, .report call ∈ calls ∧
    a = idNumber (net.station call.station).devId ∧ value = call.layer.battery.toNat
  interface a intf := ∃ s, net.Named calls s a ∧ intf.quality = 0 ∧
    ∃ iface ∈ (net.station s).ifaces, intf.index = (iface.ifIndex : Nat)
  link := net.TrueLink calls

theorem Named.mono {a : PyInt} (subset : calls ⊆ later) (named : net.Named calls s a) :
    net.Named later s a := by
  rcases named with ⟨isId, call, isCall, isStation⟩
  exact ⟨isId, call, subset isCall, isStation⟩

theorem topology_mono (subset : calls ⊆ later) :
    (net.topology calls).Within (net.topology later) := by
  constructor
  · rintro a value ⟨call, isCall, isId, isValue⟩
    exact ⟨call, subset isCall, isId, isValue⟩
  · rintro a intf ⟨s, named, isOwn⟩
    exact ⟨s, named.mono subset, isOwn⟩
  · rintro link ⟨⟨s, named, isOwn⟩, ⟨t, isCall, isEnd⟩, quality⟩
    exact ⟨⟨s, named.mono subset, isOwn⟩, ⟨t, subset isCall, isEnd⟩, quality⟩

/-- A neighbour is a station that has advertised itself. -/
theorem NbrOrigin.advertises {devId : DeviceId} (own : net.OwnTopology)
    (origin : net.NbrOrigin calls devId) :
    ∃ t, .advertise t ∈ calls ∧ devId = (net.station t).devId := by
  cases origin with
  | advertised isCall => exact ⟨_, isCall, rfl⟩
  | stacked isCall isSecond isSon isNbr =>
      exact absurd isNbr (own.seconds _ _ isSecond isSon).2
  | function isFunction isSon onlyNbr =>
      rcases own.functions _ isFunction isSon with ⟨type, isType, _, notNbr⟩
      exact absurd (onlyNbr type isType) notNbr

theorem OwnTopology.ifIndex_lt (own : net.OwnTopology) {iface : NsoIf}
    (isOwn : iface ∈ (net.station s).ifaces) : iface.ifIndex < (net.station s).ifaces.length := by
  rcases List.mem_iff_getElem?.mp isOwn with ⟨index, isIndex⟩
  rw [own.indexed s index iface isIndex]
  exact (List.getElem?_eq_some_iff.mp isIndex).1

/-- What is read of the layer of a report is true. -/
theorem reports_layer (own : net.OwnTopology) {call : ReportCall ι} (isCall : .report call ∈ calls)
    (founded : net.SettledFrom calls call.station call.layer.settled)
    (ifaces : NbrIfaces call.layer) :
    (net.topology calls).Reports (idNumber call.layer.devId) (topoRepoOf call.layer).kwargs := by
  have devId : call.layer.devId = (net.station call.station).devId := founded.devId
  have isOwn : call.layer.ifaces = (net.station call.station).ifaces := founded.ifaces
  have named : net.Named calls call.station (idNumber call.layer.devId) := by
    rw [devId]
    exact ⟨rfl, call, isCall, rfl⟩
  constructor
  · intro value isValue
    rcases Option.some.inj isValue with rfl
    exact ⟨call, isCall, named.1, rfl⟩
  · intro intf isIntf
    rcases List.mem_map.mp isIntf with ⟨index, inRange, rfl⟩
    rw [List.mem_range, NsoLayer.ifacesNb, isOwn] at inRange
    refine ⟨call.station, named, rfl, _, List.getElem_mem inRange, ?_⟩
    rw [own.indexed _ _ _ (List.getElem?_eq_getElem inRange)]
  · intro link isLink
    rcases List.mem_map.mp isLink with ⟨entry, isMem, rfl⟩
    rcases Option.isSome_iff_exists.mp (ifaces entry isMem) with ⟨iface, isIface⟩
    have neighbour := founded.neighbours entry isMem
    rcases neighbour.origin.advertises own with ⟨t, advertises, isEnd⟩
    refine ⟨⟨call.station, named, iface, neighbour.iface iface isIface, ?_⟩, ⟨t, advertises, ?_⟩,
      ?_⟩
    · rw [linkTo, isIface]
      rfl
    · rw [linkTo, isEnd]
    · rw [linkTo, neighbour.metric]
      rfl

theorem Cut.beginning {whole : List UInt8} (cut : net.Cut whole bytes) :
    ∃ count, bytes = whole.take count := by
  cases cut with
  | whole => exact ⟨_, List.take_length.symm⟩
  | short tooLong => exact ⟨_, rfl⟩

/-- What vSON reads on the connection is true. -/
theorem reads_true (own : net.OwnTopology) (all : net.AllTraced calls state) {fd : Nat}
    {entry : List UInt8} (isMem : (fd, entry) ∈ (state.node none).vnfTx) {ID : PyInt}
    {report : TopologyGraph.Report} (reads : reportOf entry = some (ID, report)) :
    (net.topology calls).Reports ID report := by
  rcases (all.nodes none).writes _ isMem with ⟨bytes, count, isBeginning, _, full, source, cut⟩
  rcases cut.beginning with ⟨inside, rfl⟩
  rw [List.take_take] at isBeginning
  dsimp only at isBeginning
  rcases of_reportOf reads with ⟨hdr, repo, left, received, rfl, rfl, isSon⟩
  rw [isBeginning] at received
  rcases receiveSON_take received with ⟨behind, receives⟩
  rcases receiveSON_message receives with ⟨proto, isTopo⟩
  rw [isSon, UInt16.toNat_inj] at proto
  cases source with
  | @sent call _ isCall isData isPacket =>
      rcases isPacket.header with ⟨type, header⟩
      rw [header] at proto
      rw [show call.proto = protoCpVson from proto.symm] at isData
      exact absurd isData (by decide)
  | @reported call _ isCall isReport =>
      have founded := all.reports call isCall
      have isOwn : call.layer.ifaces = (net.station call.station).ifaces := founded.ifaces
      have fits := (net.station call.station).lengthFits
      rw [← all.small call isCall] at fits
      have indexes : ∀ entry ∈ call.layer.nbrt.ll, ∀ iface, entry.iface = some iface →
          iface.ifIndex < 256 := by
        intro entry isMem iface isIface
        have known := own.ifIndex_lt ((founded.neighbours entry isMem).iface iface isIface)
        have few := (net.station call.station).ifacesFit
        simp only [nsoMaxSupportedIfaces] at few
        omega
      rcases receiveSON_report isReport fits founded.counted indexes receives with
        ⟨src, rfl, ifaces⟩
      rw [src]
      exact reports_layer own isCall founded ifaces
  | @function message behind isFunction twice =>
      have long := (net.functionsWhole _ isFunction).header
      rw [(@messageOf_behind message behind long).2.2] at proto
      rcases own.functions _ isFunction proto.symm with ⟨type, isType, notTopo, _⟩
      have typed : nsohdrSize < message.length := by
        by_contra short
        simp only [messageOf, List.getElem?_eq_none (Nat.not_lt.mp short)] at isType
        cases isType
      rw [messageOf_append behind typed, isType] at isTopo
      exact absurd (Option.some.inj isTopo) notTopo
  | advertised isCall header =>
      rw [header] at isTopo
      exact absurd (Option.some.inj isTopo) (by decide)
  | stacked isCall isStacked =>
      rcases isStacked.reads with isSecond | isOther
      · exact absurd isTopo (own.seconds _ _ isSecond proto.symm).1
      · rw [isOther] at proto
        exact absurd proto (by decide)
  | registered isTsd =>
      rw [isTsd] at proto
      exact absurd proto (by decide)

/-! ## Runs with vSON -/

variable [DecidableEq ι] {host : ByteOrder} {topo : Topo}

/-- The runs of a network with vSON: its southbound interface may read any message that the base
station wrote, and the other calls of the graph come from the users of its northbound interface
and from the device monitor, in any order. -/
inductive SonRun (net : Network ι) (host : ByteOrder) :
    List (LoggedCall ι) → NetState ι → Topo → Prop where
  | start {state : NetState ι} (initial : net.Initial state) : SonRun net host [] state .init
  | network {calls later : List (LoggedCall ι)} {state next : NetState ι} {topo : Topo}
      (before : SonRun net host calls state topo) (step : net.LoggedStep calls state later next) :
      SonRun net host later next topo
  | report {calls : List (LoggedCall ι)} {state : NetState ι} {topo : Topo}
      (before : SonRun net host calls state topo) {fd : Nat} {entry : List UInt8}
      (written : (fd, entry) ∈ (state.node none).vnfTx) {ID : PyInt}
      {report : TopologyGraph.Report} (reads : reportOf entry = some (ID, report)) (write : Write) :
      SonRun net host calls state ((Topo.Op.putNodeInfo ID report write).call host topo).2
  | other {calls : List (LoggedCall ι)} {state : NetState ι} {topo : Topo}
      (before : SonRun net host calls state topo) (op : Topo.Op)
      (notReport : ∀ ID report write, op ≠ .putNodeInfo ID report write)
      (iterates : op.Iterates topo) : SonRun net host calls state (op.call host topo).2

theorem SonRun.logged (run : net.SonRun host calls state topo) : net.LoggedRun calls state := by
  induction run with
  | start initial => exact .start initial
  | network before step ih => exact ih.step step
  | report before written reads write ih => exact ih
  | other before op notReport iterates ih => exact ih

theorem sonRun_of_loggedRun (host : ByteOrder) (logged : net.LoggedRun calls state) :
    net.SonRun host calls state .init := by
  induction logged with
  | start initial => exact .start initial
  | step before step ih => exact ih.network step

theorem SonRun.shaped (run : net.SonRun host calls state topo) : topo.Shaped := by
  induction run with
  | start initial => exact Topo.valid_init.toShaped
  | network before step ih => exact ih
  | report before written reads write ih => exact Topo.shaped_call ih trivial
  | other before op notReport iterates ih => exact Topo.shaped_call ih iterates

theorem LoggedStep.subset (step : net.LoggedStep calls state later next) : calls ⊆ later := by
  cases step with
  | device i event alive may goes => exact List.subset_append_left _ _
  | baseStation event alive may goes => exact List.subset_append_left _ _
  | vtsd services written answers => exact List.Subset.refl _

/-- In every run the graph of vSON shows what is true of the stations. -/
theorem topology_true (own : net.OwnTopology) (run : net.SonRun host calls state topo) :
    (net.topology calls).Graph topo.nodes := by
  induction run with
  | start initial => exact Facts.graph_empty
  | network before step ih => exact ih.mono (topology_mono step.subset)
  | report before written reads write ih =>
      apply ih.call before.shaped
      exact reads_true own (allTraced_run before.logged) written reads
  | other before op notReport iterates ih =>
      apply ih.call before.shaped
      cases op with
      | putNodeInfo ID report write => exact absurd rfl (notReport ID report write)
      | _ => trivial

/-! ### A device that has joined and advertised itself -/

/-- The device joins the base station, reports and advertises itself.  The base station hears it
and reports. -/
def nbrReported : List (Turn Unit) :=
  deviceJoins 0 1 ++ [.device () .topoReport, .device () .topoReport, .device () .advertise,
    .bsHears (some ()) 3 0, .baseStation .topoReport]

def reportedState : NetState Unit := (oneRadio.played oneRadio.started nbrReported).state

theorem nbrReported_plays : oneRadio.Plays oneRadio.started nbrReported := by decide +kernel

/-- The report that vSON reads, the last message of the base station. -/
def lastWritten : Nat × List UInt8 := (reportedState.node none).vnfTx.getD 3 (0, [])

def lastReport : PyInt × TopologyGraph.Report :=
  (reportOf lastWritten.2).getD (0, ⟨none, none, none⟩)

def bsNumber : PyInt := idNumber oneRadio.bsId

def deviceNumber : PyInt := idNumber 2

/-- The stations are registered at vSON one by one. -/
def bsPushed : Topo.Op := .pushNode bsNumber "bs" true true [bsNumber] .completes

def devicePushed : Topo.Op :=
  .pushNode deviceNumber "device" true false [deviceNumber, bsNumber] .completes

def bothPushed : Topo := (devicePushed.call .little (bsPushed.call .little .init).2).2

def graphReported : Topo :=
  ((Topo.Op.putNodeInfo lastReport.1 lastReport.2 .completes).call .little bothPushed).2

theorem bsPushed_order : (bsPushed.call .little .init).2.order = [bsNumber] := by decide +kernel

theorem lastWritten_reads : reportOf lastWritten.2 = some lastReport := by
  have isReport : (reportOf lastWritten.2).isSome = true := by decide +kernel
  rcases Option.isSome_iff_exists.mp isReport with ⟨read, reads⟩
  rw [lastReport, reads, Option.getD_some]

theorem lastWritten_written : lastWritten ∈ (reportedState.node none).vnfTx := by decide +kernel

theorem graphReported_run : ∃ calls, oneRadio.SonRun .little calls reportedState graphReported := by
  have reachable := (threadRun_played (initial_started oneRadio) nbrReported_plays).reachable
  rcases reachable_iff_loggedRun.mp reachable with ⟨calls, logged⟩
  have atBs := (sonRun_of_loggedRun .little logged).other bsPushed nofun fun _ => .refl _
  have atBoth := atBs.other devicePushed nofun fun _ => by rw [bsPushed_order]
  exact ⟨calls, atBoth.report lastWritten_written lastWritten_reads .completes⟩

theorem oneRadio_ownTopology : oneRadio.OwnTopology := by
  refine ⟨?_, ?_, fun message isFunction => isFunction.elim⟩
  · intro s index iface isIface
    have single : ∃ own : NsoIf, (oneRadio.station s).ifaces = [own] ∧ own.ifIndex = 0 := by
      cases s <;> exact ⟨_, rfl, rfl⟩
    rcases single with ⟨own, isSingle, isZero⟩
    rw [isSingle] at isIface
    cases index with
    | zero =>
        rcases Option.some.inj isIface with rfl
        exact isZero
    | succ index => cases isIface
  · intro s message isSecond
    cases s <;> exact nomatch isSecond

/-- The graph shows the link that the base station reported, and it is true. -/
theorem graphReported_true : ∃ calls,
    oneRadio.SonRun .little calls reportedState graphReported ∧
    (oneRadio.topology calls).Graph graphReported.nodes ∧
    (graphReported.nodes.lookup bsNumber).map (fun node => node.oLinks.map Link.endID) =
      some [deviceNumber] := by
  rcases graphReported_run with ⟨calls, run⟩
  exact ⟨calls, run, topology_true oneRadio_ownTopology run, by decide +kernel⟩

end Network

end Nrg5
