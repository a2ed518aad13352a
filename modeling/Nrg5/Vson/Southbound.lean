import Nrg5.Aging
import Nrg5.ControlSize
import Nrg5.Network.Message
import Nrg5.VnfReaders
import Nrg5.Vson.Graph

/-!
# The southbound interface of vSON

`__process_topo_repo` unpacks the body of a topology report.  `struct.unpack` raises
when the size of its argument is not the size of the format, and `M` has no value when
a report without interfaces comes to test it.  Both end the call without a result.
-/

namespace Nrg5

open ByteMemory LockProg

namespace Vson

/-- What `__process_topo_repo` gets out of a report, and the bytes behind the last
neighbour. -/
structure TopoRepo where
  battery : PyInt
  intfs : List Interface
  nbrs : List Link
  nbrsRaw : List UInt8
deriving DecidableEq

/-- The loop over the interfaces; the argument counts those that are still to come. -/
def unpackIntfs : Nat → List UInt8 → Option (List Interface)
  | 0, _ => some []
  | count + 1, idx :: q :: itfsRaw =>
      if itfsRaw.length = count * 2 then
        (unpackIntfs count itfsRaw).map (⟨idx.toNat, q.toNat⟩ :: ·)
      else none
  | _ + 1, _ => none

/-- The loop over the neighbours. -/
def unpackNbrs (src : PyInt) : Nat → List UInt8 → Option (List Link × List UInt8)
  | 0, nbrsRaw => some ([], nbrsRaw)
  | count + 1, nbrsRaw =>
      match nbrsRaw.drop 8 with
      | lq :: intfIdx :: rest =>
          if rest.length = count * 10 then
            (unpackNbrs src count rest).map fun (links, left) =>
              (⟨src, beNat (nbrsRaw.take 8), lq.toNat, intfIdx.toNat⟩ :: links, left)
          else none
      | _ => none

/-- The unpacking in `__process_topo_repo`. -/
def unpackTopoRepo (src : PyInt) (msg : List UInt8) : Option TopoRepo :=
  match msg with
  | batt :: N :: rest =>
      if N = 0 then none
      else if rest.length < N.toNat * 2 + 2 then none
      else
        let itfsRaw := rest.take (N.toNat * 2)
        let M := beNat ((rest.drop (N.toNat * 2)).take 2)
        let nbrsRaw := rest.drop (N.toNat * 2 + 2)
        match unpackIntfs N.toNat itfsRaw, unpackNbrs src M nbrsRaw with
        | some intfs, some (nbrs, left) => some ⟨batt.toNat, intfs, nbrs, left⟩
        | _, _ => none
  | _ => none

/-- The messages `__process_SON` tells apart. -/
inductive SonMsg : Type where
  | topoRepo (repo : TopoRepo)
  | unsupported
deriving DecidableEq

/-- `__process_SON` up to the call of `put_node_info`. -/
def unpackSON (src : PyInt) (payload : List UInt8) : Option SonMsg :=
  match payload with
  | msgTyp :: msg =>
      if msgTyp = 0 then (unpackTopoRepo src msg).map .topoRepo else some .unsupported
  | [] => none

/-- A `recv` that returns the full requested length. -/
def fullRecv (size : Nat) (bytes : List UInt8) : Option (List UInt8 × List UInt8) :=
  if size ≤ bytes.length then some (bytes.take size, bytes.drop size) else none

/-- `__receive_nso_hdr` and `__process_SON` on the bytes of a connection: the header, the
message and the bytes left over. -/
def receiveSON (bytes : List UInt8) : Option (NsoHdr × SonMsg × List UInt8) := do
  let (nsoHdr, rest) ← fullRecv nsohdrSize bytes
  let hdr := unpackHdr nsoHdr
  let (payload, left) ← fullRecv (hdr.length - nsohdrSize) rest
  let msg ← unpackSON hdr.src payload
  return (hdr, msg, left)

/-! ## Reading back the lists -/

theorem unpackIntfs_ifaceRecords (first count : Nat) (fits : first + count ≤ 256) :
    unpackIntfs count ((List.range' first count).flatMap fun index => [UInt8.ofNat index, 0]) =
      some ((List.range' first count).map fun (index : Nat) => ⟨index, 0⟩) := by
  induction count generalizing first with
  | zero => rfl
  | succ count ih =>
      have small : first % 256 = first := Nat.mod_eq_of_lt (by omega)
      simp only [List.range'_succ, List.flatMap_cons, List.cons_append, List.nil_append,
        unpackIntfs, List.map_cons]
      rw [if_pos (by simp [List.length_flatMap]), ih (first + 1) (by omega)]
      simp [small]

/-- The number that `struct.unpack("!Q", …)` makes of an identifier. -/
def idNumber (devId : DeviceId) : Nat := beNat (deviceIdBytes devId)

/-- The link that a node reports for an entry of its neighbour table. -/
def linkTo (devId : DeviceId) (entry : NbrEntry) : Link :=
  { beginID := idNumber devId
    endID := idNumber entry.devId
    lq := entry.metric % 256
    intfIdx := (entry.iface.elim 0 NsoIf.ifIndex : Nat) }

theorem unpackNbrs_records {src : DeviceId} {entries : List NbrEntry} {records : List (List UInt8)}
    (areRecords : entries.mapM nbrRecord = some records)
    (indexes : ∀ entry ∈ entries, ∀ iface, entry.iface = some iface → iface.ifIndex < 256) :
    unpackNbrs (idNumber src) entries.length records.flatten =
      some (entries.map (linkTo src), []) := by
  induction entries generalizing records with
  | nil =>
      rcases Option.some.inj areRecords with rfl
      rfl
  | cons entry rest ih =>
      rw [List.mapM_cons] at areRecords
      rcases Option.bind_eq_some_iff.mp areRecords with ⟨record, isRecord, tailRecords⟩
      rcases Option.bind_eq_some_iff.mp tailRecords with ⟨others, areOthers, isAll⟩
      rcases Option.some.inj isAll with rfl
      rcases Option.map_eq_some_iff.mp isRecord with ⟨iface, isIface, rfl⟩
      have eight := length_deviceIdBytes entry.devId
      have small : iface.ifIndex % 256 = iface.ifIndex :=
        Nat.mod_eq_of_lt (indexes entry List.mem_cons_self iface isIface)
      have metric : ((entry.metric % 256).toNat : Int) = entry.metric % 256 := by omega
      have metricSmall : (entry.metric % 256).toNat % 256 = (entry.metric % 256).toNat := by omega
      rw [List.forall_mem_cons] at indexes
      simp only [List.flatten_cons, List.append_assoc, List.length_cons, unpackNbrs,
        List.drop_left' eight, List.take_left' eight, List.cons_append, List.nil_append]
      rw [if_pos (by rw [length_nbrRecords areOthers, Nat.mul_comm]), ih areOthers indexes.2]
      simp [linkTo, idNumber, isIface, small, metric, metricSmall, -CharP.cast_eq_zero]

/-! ## The report of a node -/

/-- The report of a layer as it should be read. -/
def topoRepoOf (layer : NsoLayer) : TopoRepo :=
  { battery := layer.battery.toNat
    intfs := (List.range layer.ifacesNb).map fun (index : Nat) => ⟨index, 0⟩
    nbrs := layer.nbrt.ll.map (linkTo layer.devId)
    nbrsRaw := [] }

/-- The interface pointers of the layer lie where their indexes say. -/
def IndexedIfaces (layer : NsoLayer) : Prop :=
  ∀ (index : Nat) (iface : NsoIf), layer.ifaces[index]? = some iface → iface.ifIndex = index

theorem unpackTopoRepo_topoData {layer : NsoLayer} {body : List UInt8}
    (isBody : topoData layer = some body) (hasIface : 1 ≤ layer.ifacesNb)
    (counts : layer.nbrt.size = layer.nbrt.ll.length) (few : layer.nbrt.ll.length < 65536)
    (indexes : ∀ entry ∈ layer.nbrt.ll, ∀ iface, entry.iface = some iface →
      iface.ifIndex < 256) :
    unpackTopoRepo (idNumber layer.devId) body = some (topoRepoOf layer) := by
  rcases Option.map_eq_some_iff.mp isBody with ⟨records, areRecords, rfl⟩
  have ifacesFit : layer.ifacesNb ≤ nsoMaxSupportedIfaces := layer.ifacesFit
  have count : (UInt8.ofNat layer.ifacesNb).toNat = layer.ifacesNb := by
    rw [UInt8.toNat_ofNat']
    apply Nat.mod_eq_of_lt
    simp only [nsoMaxSupportedIfaces] at ifacesFit
    omega
  have nonzero : UInt8.ofNat layer.ifacesNb ≠ 0 := by
    intro isZero
    rw [isZero] at count
    exact absurd count (by simpa using (by omega : (0 : Nat) ≠ layer.ifacesNb))
  have intfs : (ifaceRecords layer.ifacesNb).length = layer.ifacesNb * 2 := by
    rw [length_ifaceRecords, Nat.mul_comm]
  have two := length_beBytes 2 (layer.nbrt.size % 65536).toNat
  have nbrs : beNat (beBytes 2 (layer.nbrt.size % 65536).toNat) = layer.nbrt.ll.length := by
    rw [beNat_beBytes]
    omega
  have allIndexes := unpackIntfs_ifaceRecords 0 layer.ifacesNb
    (by simp only [nsoMaxSupportedIfaces] at ifacesFit; omega)
  rw [← List.range_eq_range'] at allIndexes
  have behind : (ifaceRecords layer.ifacesNb ++ beBytes 2 (layer.nbrt.size % 65536).toNat).length =
      layer.ifacesNb * 2 + 2 := by
    rw [List.length_append, intfs, two]
  simp only [unpackTopoRepo, List.cons_append, List.nil_append, List.append_assoc, count,
    if_neg nonzero]
  rw [if_neg (by simp only [List.length_append, intfs, two]; omega), List.take_left' intfs,
    List.drop_left' intfs, List.take_left' two, nbrs, ← List.append_assoc,
    List.drop_left' behind, unpackNbrs_records areRecords indexes]
  simp only [ifaceRecords, allIndexes, topoRepoOf]

end Vson

/-! ## Neighbour tables of a run -/

namespace NbrTable

/-- The tables that adds, status writes, deletes and aging lead to.  A new entry is a new
object, and names the interface it was learned on. -/
inductive Reachable (ifaces : List NsoIf) : NbrTable → Prop where
  | init : Reachable ifaces .empty
  | add {table : NbrTable} (before : Reachable ifaces table) (entry : NbrEntry)
      (isNew : entry.addr ∉ table.ll.map NbrEntry.addr)
      (learned : ∃ iface ∈ ifaces, entry.iface = some iface) : Reachable ifaces (table.add entry)
  | refresh {table : NbrTable} (before : Reachable ifaces table) (entry : NbrEntry) :
      Reachable ifaces (table.refresh entry)
  | del {table : NbrTable} (before : Reachable ifaces table) (entry : NbrEntry)
      (isMem : entry ∈ table.ll) : Reachable ifaces (table.del entry)
  | aging {table : NbrTable} (before : Reachable ifaces table) : Reachable ifaces table.aging

variable {ifaces : List NsoIf} {table : NbrTable}

theorem aging_eq : table.aging = kind.apply .aging table := rfl

theorem sound_of_reachable (reachable : Reachable ifaces table) :
    table.Sound bucket NbrEntry.addr := by
  induction reachable with
  | init => exact HashedTable.sound_empty
  | add _ entry isNew _ sound => exact sound.addHead isNew
  | refresh _ entry sound => exact sound.write (fun _ _ => rfl) fun _ => rfl
  | del _ entry isMem sound => exact sound.unlink isMem
  | aging _ sound =>
      rw [aging_eq]
      exact @AgingKind.sound_aging _ _ kind _ sound

theorem learned_of_reachable (reachable : Reachable ifaces table) :
    ∀ entry ∈ table.ll, ∃ iface ∈ ifaces, entry.iface = some iface := by
  have written : ∀ {table : NbrTable} (same : NbrEntry → Bool) (status : EntryStatus),
      (∀ entry ∈ table.ll, ∃ iface ∈ ifaces, entry.iface = some iface) →
      ∀ entry ∈ (table.write same fun other => { other with status := status }).ll,
        ∃ iface ∈ ifaces, entry.iface = some iface := by
    intro table same status learned entry isMem
    rcases HashedTable.mem_ll_write.mp isMem with ⟨other, isOther, rfl⟩
    rcases learned other isOther with ⟨iface, isOwn, isIface⟩
    refine ⟨iface, isOwn, ?_⟩
    split
    · exact isIface
    · exact isIface
  induction reachable with
  | init => exact fun entry isMem => absurd isMem List.not_mem_nil
  | add _ entry _ learned ih => exact List.forall_mem_cons.mpr ⟨learned, ih⟩
  | refresh _ entry ih => exact written _ _ ih
  | del _ entry _ ih => exact fun other isMem => ih other (List.mem_of_mem_filter isMem)
  | aging _ ih =>
      rw [aging_eq, AgingKind.aging_eq]
      exact fun entry isMem => written _ _ ih entry (HashedTable.mem_ll_unlinkAll.mp isMem).1

end NbrTable

/-! ## The bytes of a report -/

namespace Packet

variable {pkt : Packet}

/-- What `struct.unpack` reads in the header of a packet that is sent. -/
theorem unpackHdr_bytes (whole : nsohdrSize ≤ pkt.bytes.length) :
    unpackHdr (pkt.bytes.take nsohdrSize) =
      ⟨beNat (deviceIdBytes pkt.srcDevid), beNat (deviceIdBytes pkt.dstDevid), pkt.proto.toNat,
        pkt.swapLenVer.lenVer⟩ := by
  simp only [bytes, Memory.length_read, nsohdrSize] at whole
  have slice : ∀ start count, start + count ≤ 20 →
      ((pkt.bytes.take nsohdrSize).drop start).take count =
        pkt.buf.read (pkt.data + start) count := by
    intro start count inside
    rw [bytes, nsohdrSize, Memory.read_take _ whole, Memory.read_slice _ inside]
  have src := slice 0 8 (by omega)
  have protoSmall := beNat_lt (pkt.buf.read (pkt.data + 16) 2)
  rw [Memory.length_read] at protoSmall
  simp only [List.drop_zero, Nat.add_zero] at src
  simp only [unpackHdr, NsoHdr.mk.injEq]
  refine ⟨?_, ?_, ?_, ?_⟩
  · rw [src, srcDevid, deviceIdBytes_deviceIdOfBytes (Memory.length_read _ _ _)]
  · rw [slice 8 8 (by omega), dstDevid, deviceIdBytes_deviceIdOfBytes (Memory.length_read _ _ _)]
  · rw [slice 16 2 (by omega), proto, UInt16.toNat_ofNat']
    exact (Nat.mod_eq_of_lt protoSmall).symm
  · rw [slice 18 2 (by omega), swapLenVer, lenVer_setLenVer, Nat.mod_eq_of_lt (swap16_lt _),
      beNat_eq_of_two (Memory.length_read _ _ _)]
    rfl

/-- The two highest bits of the byte behind the length that `alloc_packet` leaves: it zeroes
the byte only when the MTU reaches so far. -/
def versionBits (junk : Memory) (mtu : Nat) : Nat :=
  if 83 < mtu then 0 else (junk 83).toNat / 64

/-- Neither `ver` nor `length` is written over them. -/
theorem lenVer_beginControl (junk : Memory) (mtu : Nat) (src dst : DeviceId) (proto : UInt16)
    (type : UInt8) :
    (beginControl junk mtu src dst proto type).lenVer / 16384 = versionBits junk mtu := by
  have allocated : (allocPacket junk mtu).lenVer / 16384 = versionBits junk mtu := by
    have low := ((allocPacket junk mtu).buf 82).toNat_lt
    have word : (allocPacket junk mtu).lenVer = ((allocPacket junk mtu).buf 82).toNat +
        256 * ((allocPacket junk mtu).buf 83).toNat := by
      simp [lenVer, Memory.read, allocPacket, headroom, leNat, List.range_succ]
    have high : ((allocPacket junk mtu).buf 83).toNat =
        if 83 < mtu then 0 else (junk 83).toNat := by
      simp only [allocPacket]
      split <;> rfl
    rw [word, high, versionBits]
    split <;> omega
  have untouched : ((((allocPacket junk mtu).setSrcDevid src).setDstDevid dst).setProto
      proto).lenVer = (allocPacket junk mtu).lenVer := by
    rw [setProto, lenVer_put (by simp), setDstDevid, lenVer_put (by simp), setSrcDevid,
      lenVer_put (by simp)]
  have small := (allocPacket junk mtu).lenVer_lt
  rw [beginControl, lenVer_put (by simp [nsohdrSize]), setVer, lenVer_setLenVer, untouched,
    ← allocated]
  omega

/-- A control packet with its body, as it is sent. -/
def control (junk : Memory) (mtu : Nat) (src dst : DeviceId) (proto : UInt16) (type : UInt8)
    (body : List UInt8) : Packet :=
  finishControl ((beginControl junk mtu src dst proto type).put (nsohdrSize + 1) body)
    (nsohdrSize + 1 + body.length)

variable {junk : Memory} {mtu : Nat} {src dst : DeviceId} {proto : UInt16} {type : UInt8}
  {body : List UInt8}

theorem length_control (small : nsohdrSize + 1 + body.length < 16384) :
    (control junk mtu src dst proto type body).bytes.length = nsohdrSize + 1 + body.length := by
  rw [bytes, Memory.length_read, control, finishControl, byteLen_swapLenVer, byteLen_incLen,
    length_setLength, Nat.mod_eq_of_lt small]
  exact congrArg Int.toNat (Int.zero_add _)

theorem drop_control (small : nsohdrSize + 1 + body.length < 16384) :
    (control junk mtu src dst proto type body).bytes.drop nsohdrSize = type :: body := by
  have length := @length_control junk mtu src dst proto type _ small
  rw [bytes, Memory.length_read] at length
  rw [bytes, length, Nat.add_assoc, Memory.read_append, List.drop_left' (Memory.length_read _ _ _),
    Memory.read_append]
  have behindHeader : ∀ start count, nsohdrSize ≤ start →
      (control junk mtu src dst proto type body).buf.read (headroom + start) count =
        ((beginControl junk mtu src dst proto type).put (nsohdrSize + 1) body).buf.read
          (headroom + start) count := by
    intro start count behind
    simp only [nsohdrSize] at behind
    refine (read_put_disjoint (.inr ?_)).trans (read_put_disjoint (.inr ?_))
    · rw [length_leBytes]
      exact behind
    · rw [length_leBytes]
      exact behind
  have isType : ((beginControl junk mtu src dst proto type).put (nsohdrSize + 1) body).buf.read
      (headroom + nsohdrSize) 1 = [type] := by
    refine (read_put_disjoint (.inl ?_)).trans (read_put_same rfl)
    exact Nat.le_refl _
  have isBody : ((beginControl junk mtu src dst proto type).put (nsohdrSize + 1) body).buf.read
      (headroom + (nsohdrSize + 1)) body.length = body := read_put_same rfl
  have data : (control junk mtu src dst proto type body).data = headroom := rfl
  rw [data, Nat.add_assoc, behindHeader _ _ (Nat.le_refl _), behindHeader _ _ (Nat.le_succ _),
    isType, isBody]
  rfl

theorem unpackHdr_control (small : nsohdrSize + 1 + body.length < 16384) :
    unpackHdr ((control junk mtu src dst proto type body).bytes.take nsohdrSize) =
      ⟨Vson.idNumber src, Vson.idNumber dst, proto.toNat,
        versionBits junk mtu * 16384 + (nsohdrSize + 1 + body.length)⟩ := by
  have showing := shows_control junk mtu src dst proto type body
    (by omega : nsohdrSize < nsohdrSize + 1 + body.length) small
  have word : (control junk mtu src dst proto type body).swapLenVer.lenVer =
      versionBits junk mtu * 16384 + (nsohdrSize + 1 + body.length) := by
    have begun := lenVer_beginControl junk mtu src dst proto type
    have begunSmall := (beginControl junk mtu src dst proto type).lenVer_lt
    rw [control, finishControl, swapLenVer_swapLenVer]
    change (((beginControl junk mtu src dst proto type).put (nsohdrSize + 1) body).setLength
      (nsohdrSize + 1 + body.length)).lenVer = _
    rw [setLength, lenVer_setLenVer, lenVer_put (.inr (by decide)), begun]
    omega
  rw [unpackHdr_bytes (by rw [length_control small]; omega), word]
  have isSrc : (control junk mtu src dst proto type body).srcDevid = src := showing.src
  have isDst : (control junk mtu src dst proto type body).dstDevid = dst := showing.dst
  have isProto : (control junk mtu src dst proto type body).proto = proto := showing.proto
  rw [isSrc, isDst, isProto]
  rfl

end Packet

/-! ## What vSON reads -/

namespace Vson

variable {held : Lock → Bool} {node : Nrg5.Node} {junk : Memory} {mtu : Nat} {src dst : DeviceId}
  {body : List UInt8}

/-- A topology report is read whole exactly when the length word has no version bits. -/
theorem receiveSON_control (small : nsohdrSize + 1 + body.length < 16384) :
    receiveSON (Packet.control junk mtu src dst protoCpVson sonMsgTopo body).bytes =
      if Packet.versionBits junk mtu = 0 then
        (unpackTopoRepo (idNumber src) body).map fun repo =>
          (⟨idNumber src, idNumber dst, protoCpVson.toNat, nsohdrSize + 1 + body.length⟩,
            .topoRepo repo, [])
      else none := by
  have length := @Packet.length_control junk mtu src dst protoCpVson sonMsgTopo _ small
  have header : fullRecv nsohdrSize
      (Packet.control junk mtu src dst protoCpVson sonMsgTopo body).bytes =
      some ((Packet.control junk mtu src dst protoCpVson sonMsgTopo body).bytes.take nsohdrSize,
        sonMsgTopo :: body) := by
    rw [fullRecv, if_pos (by omega), Packet.drop_control small]
  rw [receiveSON, header]
  simp only [Option.bind_eq_bind, Option.bind_some, Packet.unpackHdr_control small]
  split
  · rename_i noVersion
    have rest : fullRecv (Packet.versionBits junk mtu * 16384 + (nsohdrSize + 1 + body.length) -
        nsohdrSize) (sonMsgTopo :: body) = some (sonMsgTopo :: body, []) := by
      have all : Packet.versionBits junk mtu * 16384 + (nsohdrSize + 1 + body.length) -
          nsohdrSize = (sonMsgTopo :: body).length := by
        rw [List.length_cons]
        omega
      rw [all, fullRecv, if_pos (Nat.le_refl _), List.take_length, List.drop_length]
    rw [rest]
    simp only [Option.bind_some, unpackSON, sonMsgTopo, if_true, noVersion, Nat.zero_mul,
      Nat.zero_add]
    cases unpackTopoRepo (idNumber src) body <;> rfl
  · rename_i version
    have short : fullRecv (Packet.versionBits junk mtu * 16384 + (nsohdrSize + 1 + body.length) -
        nsohdrSize) (sonMsgTopo :: body) = none := by
      rw [fullRecv, if_neg]
      rw [List.length_cons]
      omega
    rw [short]
    rfl

/-- vSON reads the report of a layer out of the packet, and nothing is left over. -/
def Reads (layer : NsoLayer) (pkt : Packet) : Prop :=
  ∃ hdr, receiveSON pkt.bytes = some (hdr, .topoRepo (topoRepoOf layer), []) ∧
    hdr.src = idNumber layer.devId

theorem indexes_of_learned {layer : NsoLayer} (indexed : IndexedIfaces layer)
    (learned : NbrTable.Reachable layer.ifaces layer.nbrt) :
    ∀ entry ∈ layer.nbrt.ll, ∀ iface, entry.iface = some iface → iface.ifIndex < 256 := by
  intro entry isMem iface isIface
  rcases NbrTable.learned_of_reachable learned entry isMem with ⟨own, isOwn, isSame⟩
  rcases Option.some.inj (isSame.symm.trans isIface) with rfl
  rcases List.mem_iff_getElem?.mp isOwn with ⟨index, isIndex⟩
  have inRange := (List.getElem?_eq_some_iff.mp isIndex).1
  have few := layer.ifacesFit
  rw [indexed index own isIndex]
  simp only [nsoMaxSupportedIfaces] at few
  omega

/-- Where the report fits its buffer the call returns it. -/
theorem getTopoReportPkt_produces {holds : Packet → Prop} (free : TablesFree held)
    (isBody : topoData node.nsol = some body)
    (inBuffer : nsohdrSize + 1 + body.length ≤ node.nsol.mtu + tailroom) :
    Produces getTopoReportPkt holds held node ↔
      holds (Packet.control node.env.junk node.nsol.mtu node.nsol.devId node.nsol.gwId protoCpVson
        sonMsgTopo body) := by
  have size : (beginControl node.env.junk node.nsol.mtu node.nsol.devId node.nsol.gwId protoCpVson
      sonMsgTopo).size = node.nsol.mtu := rfl
  rw [produces_iff_wp]
  unfold getTopoReportPkt putBody
  simp only [wp_bind, wp_query, wp_acquire, wp_release, wp_orHalt, wp_ite, wp_pure, true_and,
    free.nbrt, Bool.false_eq_true, if_false, isBody, size]
  rw [if_pos inBuffer]
  rfl

/-- vSON reads the topology report as it was written exactly when no byte of the allocator
is left in the length word. -/
theorem topo_report_read_iff (free : TablesFree held) (indexed : IndexedIfaces node.nsol)
    (learned : NbrTable.Reachable node.nsol.ifaces node.nsol.nbrt)
    (hasIface : 1 ≤ node.nsol.ifacesNb) (fits : topoSize node.nsol ≤ node.nsol.mtu)
    (small : node.nsol.mtu ≤ 16383) :
    Produces getTopoReportPkt (Reads node.nsol) held node ↔
      84 ≤ node.nsol.mtu ∨ (node.env.junk 83).toNat < 64 := by
  have sound := NbrTable.sound_of_reachable learned
  have indexes := indexes_of_learned indexed learned
  have ifaces : NbrIfaces node.nsol := by
    intro entry isMem
    rcases NbrTable.learned_of_reachable learned entry isMem with ⟨iface, _, isIface⟩
    rw [isIface]
    rfl
  rcases Option.isSome_iff_exists.mp (topoData_isSome.mpr ifaces) with ⟨body, isBody⟩
  have size := length_topoData isBody
  have few : node.nsol.nbrt.ll.length < 65536 := by
    simp only [topoSize] at fits
    omega
  have repo := unpackTopoRepo_topoData isBody hasIface sound.size few indexes
  have reads : Reads node.nsol (Packet.control node.env.junk node.nsol.mtu node.nsol.devId
      node.nsol.gwId protoCpVson sonMsgTopo body) ↔
      Packet.versionBits node.env.junk node.nsol.mtu = 0 := by
    rw [Reads, receiveSON_control (by omega), repo]
    split
    · rename_i noVersion
      exact iff_of_true ⟨_, rfl, rfl⟩ noVersion
    · rename_i version
      exact iff_of_false (by rintro ⟨hdr, isNone, _⟩; simp at isNone) version
  have noVersion : Packet.versionBits node.env.junk node.nsol.mtu = 0 ↔
      84 ≤ node.nsol.mtu ∨ (node.env.junk 83).toNat < 64 := by
    rw [Packet.versionBits]
    split <;> omega
  rw [getTopoReportPkt_produces free isBody (by omega), reads, noVersion]

/-! ### A neighbour that is read, and a report whose length is not -/

/-- A node with one interface and the least MTU of an Ethernet interface or more. -/
def reporter (mtu : Nat) (nbrt : NbrTable) (junk : Memory) : Nrg5.Node :=
  Node.start { NsoLayer.initial 1 2 mtu [wlan0] wlan0_fits with nbrt := nbrt }
    { Env.nominal with junk := junk }

def farNeighbour : NbrEntry := ⟨0, 0x0807060504030201, 300, some wlan0, .active⟩

theorem indexed_reporter (mtu : Nat) (nbrt : NbrTable) (junk : Memory) :
    IndexedIfaces (reporter mtu nbrt junk).nsol := by
  intro index iface isIface
  rcases List.getElem?_eq_some_iff.mp isIface with ⟨inRange, isOnly⟩
  have isFirst : index = 0 := Nat.lt_one_iff.mp inRange
  subst isFirst
  rw [← isOnly]
  rfl

theorem farNeighbour_read :
    Produces getTopoReportPkt
      (Reads (reporter 1500 (.add farNeighbour .empty) fun _ => 0xff).nsol) (fun _ => false)
      (reporter 1500 (.add farNeighbour .empty) fun _ => 0xff) := by
  apply (topo_report_read_iff ⟨rfl, rfl, rfl, rfl⟩ (indexed_reporter _ _ _) _ (by decide)
    (by decide) (by decide)).mpr
  · exact .inl (by decide)
  · exact .add .init farNeighbour List.not_mem_nil ⟨wlan0, List.mem_cons_self, rfl⟩

/-- An MTU of 68 bytes, and an allocator that leaves ones behind the bytes that are zeroed. -/
theorem version_bits_misread :
    (IndexedIfaces (reporter 68 .empty fun _ => 0xff).nsol ∧
      NbrTable.Reachable (reporter 68 .empty fun _ => 0xff).nsol.ifaces
        (reporter 68 .empty fun _ => 0xff).nsol.nbrt ∧
      1 ≤ (reporter 68 .empty fun _ => 0xff).nsol.ifacesNb ∧
      topoSize (reporter 68 .empty fun _ => 0xff).nsol ≤ 68) ∧
      ¬ Produces getTopoReportPkt (Reads (reporter 68 .empty fun _ => 0xff).nsol)
        (fun _ => false) (reporter 68 .empty fun _ => 0xff) := by
  refine ⟨⟨indexed_reporter _ _ _, .init, by decide, by decide⟩, ?_⟩
  intro produces
  have reads := (@getTopoReportPkt_produces _ _ [100, 1, 0, 0, 0, 0] _ ⟨rfl, rfl, rfl, rfl⟩ (by
    decide) (by decide)).mp produces
  rcases reads with ⟨hdr, isRead, _⟩
  rw [receiveSON_control (by decide), if_neg (by decide)] at isRead
  simp at isRead

end Vson

end Nrg5
