import Nrg5.Network.Settled

/-!
# The size of a control packet

The topology report grows with the neighbour table and the beacon with the
credentials, and neither builder compares what it writes with the MTU or with the
14 bits of the length field.  A packet is well formed exactly when its body fits.
-/

namespace Nrg5

open ByteMemory LockProg

variable {held : Lock → Bool} {node : Node} {layer : NsoLayer} {pkt : Packet} {body : List UInt8}

/-! ## Packets of a given size -/

/-- The length field of a packet in network byte order. -/
def Packet.wireLength (pkt : Packet) : Nat := pkt.swapLenVer.length

/-- A packet whose builder wrote `written` bytes: the length field and `byte_len` count
them, and they fit the MTU and the 14 bits of the field. -/
structure Packet.WellSized (pkt : Packet) (mtu written : Nat) : Prop where
  typed : nsohdrSize + 1 ≤ written
  length : pkt.wireLength = written
  byteLen : pkt.byteLen = written
  fits : written ≤ mtu
  noWrap : written < 16384

/-- The call returns a packet for which something holds: it stays inside its buffers, and
it reads no NULL pointer. -/
def Produces (build : Prog Packet) (holds : Packet → Prop) (held : Lock → Bool) (node : Node) :
    Prop :=
  ∃ pkt, (build.exec held node).result = .done pkt ∧ holds pkt

theorem produces_iff_wp {build : Prog Packet} {holds : Packet → Prop} :
    Produces build holds held node ↔
      build.wp (fun _ _ => True) { post := fun pkt _ _ => holds pkt } held node := by
  rw [wp_done_iff_exec (fun pkt _ _ => holds pkt) build]
  simp only [implies_true, true_and, Produces]

/-- What `finishControl` makes of an empty packet. -/
theorem finishControl_wellSized_iff {mtu written : Nat} (empty : pkt.byteLen = 0)
    (typed : nsohdrSize + 1 ≤ written) :
    (finishControl pkt written).WellSized mtu written ↔ written ≤ mtu ∧ written < 16384 := by
  have sized := @Packet.length_setLength pkt written
  have length : (finishControl pkt written).wireLength = written % 16384 := by
    rw [Packet.wireLength, finishControl, Packet.swapLenVer_swapLenVer, Packet.length_incLen, sized]
  have noBytes : (pkt.setLength written).byteLen = 0 := empty
  have byteLen : (finishControl pkt written).byteLen = (written % 16384 : Nat) := by
    rw [finishControl, Packet.byteLen_swapLenVer, Packet.byteLen_incLen, sized, noBytes,
      Int.zero_add]
  constructor
  · exact fun wellSized => ⟨wellSized.fits, wellSized.noWrap⟩
  · rintro ⟨fits, noWrap⟩
    rw [Nat.mod_eq_of_lt noWrap] at length byteLen
    exact ⟨typed, length, byteLen, fits, noWrap⟩

/-- `putBody` on a packet that `beginControl` made: within the tailroom it returns. -/
theorem wp_putBody_wellSized (junk : Memory) (mtu : Nat) (src dst : DeviceId)
    (proto : UInt16) (type : UInt8) (body : List UInt8) :
    (putBody (beginControl junk mtu src dst proto type) body).wp (fun _ _ => True)
        { post := fun pkt _ _ => pkt.WellSized mtu (nsohdrSize + 1 + body.length) } held node ↔
      nsohdrSize + 1 + body.length ≤ mtu ∧ nsohdrSize + 1 + body.length < 16384 := by
  have size : (beginControl junk mtu src dst proto type).size = mtu := rfl
  rw [putBody, wp_ite, size]
  split
  · rw [wp_pure]
    exact finishControl_wellSized_iff rfl (by omega)
  · rename_i tooLong
    simp only [wp_halt, false_iff]
    omega

/-! ## The topology report -/

theorem length_nbrRecord {entry : NbrEntry} {record : List UInt8}
    (isRecord : nbrRecord entry = some record) : record.length = 10 := by
  rcases Option.map_eq_some_iff.mp isRecord with ⟨iface, _, rfl⟩
  simp

theorem length_nbrRecords {entries : List NbrEntry} {records : List (List UInt8)}
    (areRecords : entries.mapM nbrRecord = some records) :
    records.flatten.length = 10 * entries.length := by
  induction entries generalizing records with
  | nil =>
      rcases Option.some.inj areRecords with rfl
      rfl
  | cons entry rest ih =>
      rw [List.mapM_cons] at areRecords
      rcases Option.bind_eq_some_iff.mp areRecords with ⟨record, isRecord, tailRecords⟩
      rcases Option.bind_eq_some_iff.mp tailRecords with ⟨others, areOthers, isAll⟩
      rcases Option.some.inj isAll with rfl
      rw [List.flatten_cons, List.length_append, length_nbrRecord isRecord, ih areOthers,
        List.length_cons]
      omega

theorem length_ifaceRecords (ifacesNb : Nat) : (ifaceRecords ifacesNb).length = 2 * ifacesNb := by
  simp [ifaceRecords, List.length_flatMap, Nat.mul_comm]

/-- The bytes of a topology report: 25, two for each interface and ten for each neighbour. -/
def topoSize (layer : NsoLayer) : Nat := 25 + 2 * layer.ifacesNb + 10 * layer.nbrt.ll.length

theorem length_topoData (isBody : topoData layer = some body) :
    nsohdrSize + 1 + body.length = topoSize layer := by
  rcases Option.map_eq_some_iff.mp isBody with ⟨records, areRecords, rfl⟩
  simp only [List.length_append, List.length_cons, List.length_nil, length_ifaceRecords,
    length_beBytes, length_nbrRecords areRecords, nsohdrSize, topoSize]
  omega

/-- Every neighbour was learned on an interface. -/
def NbrIfaces (layer : NsoLayer) : Prop := ∀ entry ∈ layer.nbrt.ll, entry.iface.isSome = true

theorem topoData_isSome : (topoData layer).isSome = true ↔ NbrIfaces layer := by
  have records : ∀ entries : List NbrEntry, (entries.mapM nbrRecord).isSome = true ↔
      ∀ entry ∈ entries, entry.iface.isSome = true := by
    intro entries
    induction entries with
    | nil => simp
    | cons entry rest ih =>
        rw [List.forall_mem_cons, ← ih, List.mapM_cons]
        cases isIface : entry.iface with
        | none => simp [nbrRecord, isIface]
        | some iface => cases rest.mapM nbrRecord <;> simp [nbrRecord, isIface]
  rw [topoData, Option.isSome_map]
  exact records _

theorem getTopoReportPkt_produces_iff (free : TablesFree held) :
    Produces getTopoReportPkt (fun pkt => pkt.WellSized node.nsol.mtu (topoSize node.nsol)) held
        node ↔
      NbrIfaces node.nsol ∧ topoSize node.nsol ≤ node.nsol.mtu ∧ topoSize node.nsol < 16384 := by
  rw [produces_iff_wp]
  unfold getTopoReportPkt
  simp only [wp_bind, wp_query, wp_acquire, wp_release, wp_orHalt, true_and, free.nbrt,
    Bool.false_eq_true, if_false]
  cases isBody : topoData node.nsol with
  | none =>
      have noIface := (@topoData_isSome node.nsol).not
      rw [isBody] at noIface
      simp only [false_iff, not_and]
      exact fun ifaces => absurd ifaces (noIface.mp (by simp))
  | some body =>
      have ifaces := topoData_isSome.mp (by rw [isBody]; rfl)
      have builds := @wp_putBody_wellSized
        (Function.update (Function.update held .nbrt true) .nbrt false) node node.env.junk
        node.nsol.mtu node.nsol.devId node.nsol.gwId protoCpVson
        sonMsgTopo body
      rw [length_topoData isBody] at builds
      simp only [ifaces, true_and]
      exact builds

/-! ### The neighbours of a device -/

theorem nbrIfaces_of_nbrt {after : Node} (ifaces : NbrIfaces node.nsol)
    (same : after.settled.nbrt = node.settled.nbrt) : NbrIfaces after.nsol := by
  change ∀ entry ∈ after.settled.nbrt.ll, entry.iface.isSome = true
  rw [same]
  exact ifaces

theorem nbrIfaces_keeps {α : Type} {prog : Prog α} (ifaces : NbrIfaces node.nsol)
    (keeps : KeepsSettled prog) :
    prog.wp (fun _ _ => True) (.always fun after => NbrIfaces after.nsol) held node := by
  apply KeepsSettled.always keeps
  exact fun _ same => nbrIfaces_of_nbrt ifaces (congrArg Settled.nbrt same)

theorem nbrIfaces_learns {after : Node} {iface : NsoIf} (ifaces : NbrIfaces node.nsol)
    (learns : Learns pkt (some iface) node after) : NbrIfaces after.nsol := by
  cases learns with
  | same unchanged => exact nbrIfaces_of_nbrt ifaces (congrArg Settled.nbrt unchanged)
  | learned addr isNbr learns =>
      have nbrt : after.nsol.nbrt =
          NbrTable.learned addr pkt.srcDevid (some iface) node.nsol.nbrt :=
        congrArg Settled.nbrt learns
      intro entry isMem
      rw [nbrt] at isMem
      rcases NbrTable.mem_learned isMem with rfl | ⟨status, wasMem⟩
      · rfl
      · exact ifaces { entry with status := status } wasMem

theorem nbrIfaces_rx (free : TablesFree held) (ifaces : NbrIfaces node.nsol) (rx : Device.Rx) :
    rx.body.wp (fun _ _ => True) (.always fun after => NbrIfaces after.nsol) held node := by
  rcases rx with ⟨handler, pkt, src, iface⟩
  cases handler with
  | tsd =>
      exact nbrIfaces_keeps ifaces
        (keeps_bind (keepsSettled_deviceTsd _ _ _) fun _ => keeps_pure _)
  | son =>
      rw [Device.Rx.body, wp_bind]
      exact wp_always_mono (fun _ learns => nbrIfaces_learns ifaces learns)
        (deviceSon_learns pkt (some src) (some iface))
  | data =>
      apply wp_always_mono _ (dataProcessRx_queue free pkt)
      rintro after (same | ⟨_, junk, queue⟩)
      · exact nbrIfaces_of_nbrt ifaces (congrArg Settled.nbrt same)
      · exact nbrIfaces_of_nbrt ifaces (by rw [queue])

theorem nbrIfaces_event (free : TablesFree held) (ifaces : NbrIfaces node.nsol)
    (event : Device.Event) :
    event.body.wp (fun _ _ => True) (.always fun after => NbrIfaces after.nsol) held node := by
  cases event with
  | environment env => exact nbrIfaces_keeps ifaces (keepsSettled_modify _)
  | receive rx =>
      rw [Device.Event.body, wp_bind]
      exact nbrIfaces_rx free ifaces rx
  | beacon => exact nbrIfaces_keeps ifaces parts_keepsSettled.ofTsdBroadcastBeacons
  | topoReport => exact nbrIfaces_keeps ifaces parts_keepsSettled.ofDeviceTopoReport
  | advertise => exact nbrIfaces_keeps ifaces parts_keepsSettled.ofSonNbrAdvertise
  | send buf dst proto =>
      exact nbrIfaces_keeps ifaces (keepsSettled_discard (keepsSettled_send buf dst proto))
  | recv size =>
      rw [Device.Event.body, wp_bind]
      apply (wp_always_iff fun after : Node => NbrIfaces after.nsol).mpr
      rcases @nsoLayerRecv_queue held node free size with same | queue
      · exact nbrIfaces_of_nbrt ifaces (congrArg Settled.nbrt same)
      · exact nbrIfaces_of_nbrt ifaces (by rw [queue])

/-- A device learns each neighbour on one of its interfaces. -/
theorem nbrIfaces_reachable (reachable : Device.Reachable held node) : NbrIfaces node.nsol := by
  induction reachable with
  | start isStart =>
      rcases isStart with ⟨_, _, _, _, _, _, rfl⟩
      exact fun entry isMem => absurd isMem List.not_mem_nil
  | call before event going ih =>
      exact (wp_always_iff _).mp (nbrIfaces_event (Device.tablesFree_reachable before) ih event)

/-! ## The beacon -/

/-- The size of the credentials at hand, or of those that the AAA server answers. -/
def credSize (node : Node) : Int :=
  if node.nsol.aaaCredSize = 0 then node.env.aaaSize else node.nsol.aaaCredSize

/-- The credentials fit their array: those that are received, and those that are copied. -/
def CredentialsFit (node : Node) : Prop :=
  (node.nsol.aaaCredSize = 0 → node.env.aaaBytes.length ≤ aaaRegCredSize) ∧
    0 ≤ credSize node ∧ credSize node ≤ aaaRegCredSize

/-- The bytes of a beacon. -/
def beaconSize (node : Node) : Nat := nsohdrSize + 1 + (credSize node).toNat

theorem getNsoBeacon_produces_iff :
    Produces Device.getNsoBeacon (fun pkt => pkt.WellSized node.nsol.mtu (beaconSize node)) held
        node ↔
      CredentialsFit node ∧ beaconSize node ≤ node.nsol.mtu := by
  rw [produces_iff_wp]
  have copied : ∀ (layer : NsoLayer) (after : Node), layer.aaaCredSize = credSize node →
      ((if 0 ≤ layer.aaaCredSize ∧ layer.aaaCredSize ≤ aaaRegCredSize then
        (putBody (beginControl node.env.junk node.nsol.mtu node.nsol.devId bcDeviceId protoCpVtsd
          tsdMsgReg) (layer.aaaRegCred.read 0 layer.aaaCredSize.toNat)).wp (fun _ _ => True)
          { post := fun pkt _ _ => pkt.WellSized node.nsol.mtu (beaconSize node) } held after
      else False) ↔
        (0 ≤ credSize node ∧ credSize node ≤ aaaRegCredSize) ∧
        beaconSize node ≤ node.nsol.mtu) := by
    intro layer after isSize
    rw [isSize]
    split
    · rename_i inArray
      have body := @wp_putBody_wellSized held after node.env.junk node.nsol.mtu node.nsol.devId
        bcDeviceId protoCpVtsd tsdMsgReg (layer.aaaRegCred.read 0 (credSize node).toNat)
      rw [Memory.length_read] at body
      rw [beaconSize, body]
      simp only [aaaRegCredSize, nsohdrSize] at inArray ⊢
      simp only [inArray, true_and, and_iff_left_iff_imp]
      omega
    · rename_i outside
      simp [outside]
  unfold Device.getNsoBeacon getRegPkt ensureCredentials aaaGetCredentials
  simp only [wp_bind, wp_query, wp_ite, wp_pure, wp_modify, wp_halt, true_and]
  rcases eq_or_ne node.nsol.aaaCredSize 0 with uncached | cached
  · rw [if_pos uncached]
    split
    · rename_i received
      refine Iff.trans (copied _ _ ?_) ?_
      · simp only [Node.updateLayer, NsoLayer.storeCredentials, credSize, uncached, if_true]
      · simp only [CredentialsFit, uncached, received, true_implies, true_and]
    · rename_i overrun
      simp only [CredentialsFit, uncached, overrun, true_implies, false_and]
  · rw [if_neg cached]
    refine Iff.trans (copied _ _ ?_) ?_
    · simp only [credSize, if_neg cached]
    · simp only [CredentialsFit, cached, false_implies, true_and]

/-! ## The neighbour advertisement -/

theorem getNbrAdvPkt_produces_iff :
    Produces getNbrAdvPkt (fun pkt => pkt.WellSized node.nsol.mtu (nsohdrSize + 1)) held node ↔
      nsohdrSize + 1 ≤ node.nsol.mtu := by
  rw [produces_iff_wp]
  unfold getNbrAdvPkt
  simp only [wp_bind, wp_query, wp_pure, true_and]
  rw [finishControl_wellSized_iff rfl (Nat.le_refl _)]
  simp only [nsohdrSize, and_iff_left_iff_imp]
  omega

/-! ## All three -/

/-- Each control packet that the node would build now is well formed and in its buffer. -/
structure ControlPacketsWellSized (held : Lock → Bool) (node : Node) : Prop where
  topoReport : Produces getTopoReportPkt
    (fun pkt => pkt.WellSized node.nsol.mtu (topoSize node.nsol)) held node
  beacon : Produces Device.getNsoBeacon (fun pkt => pkt.WellSized node.nsol.mtu (beaconSize node))
    held node
  advertisement : Produces getNbrAdvPkt
    (fun pkt => pkt.WellSized node.nsol.mtu (nsohdrSize + 1)) held node

/-- What the neighbour table, the credentials and the MTU must be for that. -/
structure ControlPacketsFit (node : Node) : Prop where
  topoReport : topoSize node.nsol ≤ node.nsol.mtu ∧ topoSize node.nsol < 16384
  credentials : CredentialsFit node
  beacon : beaconSize node ≤ node.nsol.mtu

/-- A neighbour advertisement, as the receive thread hands it to its handler. -/
def arrivedAdvertisement (devId : DeviceId) : Device.Rx :=
  { handler := .son
    pkt := finishControl (beginControl (fun _ => 0) 1500 devId bcDeviceId protoCpVson sonMsgNbr)
      (nsohdrSize + 1)
    src := [2, 0, 0, 0, 0, 9]
    iface := wlan0 }

/-- A device receives the advertisements of two others, the AAA server has four bytes of
credentials for it, and it broadcasts a beacon with them. -/
def neighbourhood : List Device.Event :=
  [.receive (arrivedAdvertisement 7), .receive (arrivedAdvertisement 8),
    .environment { Env.nominal with aaaSize := 4, aaaBytes := [1, 2, 3, 4] }, .beacon]

def settledIn : (Lock → Bool) × Node :=
  LockProg.callAll Device.Event.body neighbourhood (fun _ => false) Device.freshDevice

theorem settledIn_reachable : Device.Reachable settledIn.1 settledIn.2 := by
  apply Sequence.callAll Device.freshDevice_reachable
  decide +kernel

/-- The AAA server announces and sends 2000 bytes. -/
def overlongCredentials : Node :=
  Node.start (NsoLayer.initial 1 0 1500 [wlan0] wlan0_fits)
    { Env.nominal with aaaSize := 2000, aaaBytes := List.replicate 2000 0 }

end Nrg5
