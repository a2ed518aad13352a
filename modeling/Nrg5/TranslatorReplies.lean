import Nrg5.Lib.RecvEach
import Nrg5.Network.PacketOrigin
import Nrg5.Translator

/-!
# The way back through the translator

For each device the translator has a thread that reads what the application server sends on the
connection of the device and writes it to the base station, with a header for the device.  The
echo server sends back what it receives.
-/

namespace Nrg5

open ByteMemory ByteStream

namespace Translator

/-- `_NsoInfo`. -/
structure NsoInfo where
  srcId : List UInt8
  gwId : List UInt8
  proto : Nat
deriving DecidableEq

/-- What `__recv_nso_msg` takes from a header for a new entry of the map. -/
def nsoInfoOf (hdr : List UInt8) : NsoInfo :=
  ⟨srcIdOf hdr, (hdr.drop 8).take 8, beNat ((hdr.drop 16).take 2)⟩

/-- `__pack_nso_packet`. -/
def packNsoPacket (nsoInfo : NsoInfo) (data : List UInt8) : List UInt8 :=
  nsoInfo.gwId ++ (nsoInfo.srcId ++ (beBytes 2 nsoInfo.proto ++
    (beBytes 2 ((nsohdrSize + data.length) % 16384) ++ data)))

/-- `__rx_from_app_server`: what it hands to `sendall`, until the connection to the server waits,
fails or ends. -/
def rxFromAppServer (nsoInfo : NsoInfo) (sock : ByteStream) : List (List UInt8) :=
  (recvEach 1024 sock).map (packNsoPacket nsoInfo)

end Translator

/-- The loop of the echo server: what it hands to `sendall`.  It does not leave the loop at the
end of a connection, but sends nothing more. -/
def Echo.handle (request : ByteStream) : List (List UInt8) := recvEach 1024 request

namespace Translator

variable {nsoInfo : NsoInfo} {data bytes buf : List UInt8}

/-! ## Messages of the translator -/

section Packed

variable (gwEight : nsoInfo.gwId.length = 8) (srcEight : nsoInfo.srcId.length = 8)

include gwEight srcEight

theorem length_packNsoPacket : (packNsoPacket nsoInfo data).length = nsohdrSize + data.length := by
  simp only [packNsoPacket, List.length_append, gwEight, srcEight, length_beBytes, nsohdrSize]
  omega

theorem drop_packNsoPacket : (packNsoPacket nsoInfo data).drop nsohdrSize = data := by
  have front : packNsoPacket nsoInfo data = (nsoInfo.gwId ++ (nsoInfo.srcId ++
      (beBytes 2 nsoInfo.proto ++ beBytes 2 ((nsohdrSize + data.length) % 16384)))) ++ data := by
    simp only [packNsoPacket, List.append_assoc]
  rw [front]
  apply List.drop_left'
  simp [gwEight, srcEight, nsohdrSize]

/-- The base station can read the messages of the translator. -/
theorem isMessage_packNsoPacket {size : Nat} (fits : nsohdrSize + data.length ≤ size)
    (short : nsohdrSize + data.length < 16384) :
    Bs.IsMessage size (packNsoPacket nsoInfo data) := by
  have length := @length_packNsoPacket _ data gwEight srcEight
  refine ⟨by omega, by omega, ?_⟩
  have front : packNsoPacket nsoInfo data =
      (nsoInfo.gwId ++ (nsoInfo.srcId ++ beBytes 2 nsoInfo.proto)) ++
        (beBytes 2 ((nsohdrSize + data.length) % 16384) ++ data) := by
    simp only [packNsoPacket, List.append_assoc]
  have lengthField : ((packNsoPacket nsoInfo data).drop 18).take 2 =
      beBytes 2 (nsohdrSize + data.length) := by
    rw [front, List.drop_left' (by simp [gwEight, srcEight]),
      List.take_left' (length_beBytes _ _), Nat.mod_eq_of_lt short]
  rw [Bs.messageLength, lengthField, beNat_beBytes, length]
  simp only [nsohdrSize] at short ⊢
  omega

/-- The header is one for the device, from the gateway. -/
theorem messageOf_packNsoPacket : ∃ type, messageOf (packNsoPacket nsoInfo data) =
    ⟨deviceIdOfBytes nsoInfo.gwId, deviceIdOfBytes nsoInfo.srcId,
      UInt16.ofNat (beNat (beBytes 2 nsoInfo.proto)), type⟩ := by
  have gw : (packNsoPacket nsoInfo data).take 8 = nsoInfo.gwId := List.take_left' gwEight
  have behind : (packNsoPacket nsoInfo data).drop 8 = nsoInfo.srcId ++ (beBytes 2 nsoInfo.proto ++
      (beBytes 2 ((nsohdrSize + data.length) % 16384) ++ data)) := List.drop_left' gwEight
  have src : ((packNsoPacket nsoInfo data).drop 8).take 8 = nsoInfo.srcId := by
    rw [behind, List.take_left' srcEight]
  have proto : ((packNsoPacket nsoInfo data).drop 16).take 2 = beBytes 2 nsoInfo.proto := by
    have rest : (packNsoPacket nsoInfo data).drop 16 =
        ((packNsoPacket nsoInfo data).drop 8).drop 8 := by rw [List.drop_drop]
    rw [rest, behind, List.drop_left' srcEight, List.take_left' (length_beBytes _ _)]
  simp only [messageOf, gw, src, proto, Message.mk.injEq, true_and, exists_eq']

end Packed

/-! ## Packets for the translator -/

/-- The fields of a packet of `nso_layer_send` as they stand on the wire. -/
theorem fields_isDataPacket {src dst : DeviceId} {proto : UInt16} {mtu : Nat}
    (isPacket : IsDataPacket src dst proto mtu buf bytes) :
    ∃ lenVer, lenVer < 256 ^ 2 ∧ lenVer % 16384 = bytes.length ∧
      bytes = deviceIdBytes src ++ (deviceIdBytes dst ++ (beBytes 2 proto.toNat ++
        (beBytes 2 lenVer ++ bytes.drop nsohdrSize))) := by
  have whole := isPacket.whole
  simp only [nsohdrSize] at whole
  have slice : ∀ start count, start + count ≤ 20 →
      ((bytes.drop start).take count).length = count := by
    intro start count inside
    rw [List.length_take, List.length_drop]
    omega
  rcases isPacket.header with ⟨type, header⟩
  rcases Message.mk.inj header with ⟨isSrc, isDst, isProto, _⟩
  have srcBytes : (bytes.drop 0).take 8 = deviceIdBytes src := by
    rw [← deviceIdBytes_deviceIdOfBytes (slice 0 8 (by omega)), ← isSrc, List.drop_zero]
  have dstBytes : (bytes.drop 8).take 8 = deviceIdBytes dst := by
    rw [← isDst, deviceIdBytes_deviceIdOfBytes (slice 8 8 (by omega))]
  have numberOf : ∀ start, start + 2 ≤ 20 → beNat ((bytes.drop start).take 2) < 256 ^ 2 ∧
      beBytes 2 (beNat ((bytes.drop start).take 2)) = (bytes.drop start).take 2 := by
    intro start inside
    have inRange := beNat_lt ((bytes.drop start).take 2)
    have back := beBytes_beNat ((bytes.drop start).take 2)
    rw [slice start 2 inside] at inRange back
    exact ⟨inRange, back⟩
  have protoBytes : (bytes.drop 16).take 2 = beBytes 2 proto.toNat := by
    rcases numberOf 16 (by omega) with ⟨inRange, back⟩
    have number : (UInt16.ofNat (beNat ((bytes.drop 16).take 2))).toNat =
        beNat ((bytes.drop 16).take 2) := UInt16.toNat_ofNat_of_lt' inRange
    rw [← isProto, number, back]
  have cut : ∀ start count, (bytes.drop start).take count ++ bytes.drop (start + count) =
      bytes.drop start := by
    intro start count
    rw [← List.drop_drop, List.take_append_drop]
  rcases numberOf 18 (by omega) with ⟨inRange, back⟩
  refine ⟨beNat ((bytes.drop 18).take 2), inRange, ?_, ?_⟩
  · rw [isPacket.length, ← isPacket.lengthField, Bs.messageLength]
  · rw [back, ← srcBytes, ← dstBytes, ← protoBytes, nsohdrSize, cut 18 2, cut 16 2, cut 8 8,
      cut 0 8, List.drop_zero]

/-- The packet of a call of `nso_layer_send` is one that the translator can read. -/
theorem dataPacket_of_isDataPacket {src dst : DeviceId} {proto : UInt16} {mtu : Nat}
    (isPacket : IsDataPacket src dst proto mtu buf bytes)
    (carriesData : nsohdrSize < bytes.length) :
    ∃ packet : DataPacket, packet.bytes = bytes ∧ packet.srcId = deviceIdBytes src ∧
      packet.payload = bytes.drop nsohdrSize ∧
      nsoInfoOf packet.hdr = ⟨deviceIdBytes src, deviceIdBytes dst, proto.toNat⟩ := by
  rcases fields_isDataPacket isPacket with ⟨lenVer, inRange, lengthField, fields⟩
  have protoFits : proto.toNat < 256 ^ 2 := proto.toNat_lt
  have payloadLength : (bytes.drop nsohdrSize).length = bytes.length - nsohdrSize :=
    List.length_drop
  have short : bytes.length < 16384 := by
    rw [← lengthField]
    exact Nat.mod_lt _ (by decide)
  have isLenVer : lenVer / 16384 * 16384 + (nsohdrSize + (bytes.drop nsohdrSize).length) =
      lenVer := by
    omega
  have positive : 1 ≤ (bytes.drop nsohdrSize).length := by omega
  have fits : (bytes.drop nsohdrSize).length ≤ 16363 := by
    rw [payloadLength, nsohdrSize]
    omega
  refine ⟨⟨deviceIdBytes src, deviceIdBytes dst, proto.toNat, lenVer / 16384,
    bytes.drop nsohdrSize, length_deviceIdBytes src, length_deviceIdBytes dst, protoFits,
    Nat.div_lt_of_lt_mul inRange, positive, fits⟩, ?_, rfl, rfl, ?_⟩
  · conv => rhs; rw [fields]
    simp only [DataPacket.bytes, DataPacket.hdr, isLenVer, List.append_assoc]
  · have front : (deviceIdBytes src ++ (deviceIdBytes dst ++ (beBytes 2 proto.toNat ++
        beBytes 2 lenVer))).drop 8 = deviceIdBytes dst ++ (beBytes 2 proto.toNat ++
          beBytes 2 lenVer) := List.drop_left' (length_deviceIdBytes src)
    have behind : (deviceIdBytes src ++ (deviceIdBytes dst ++ (beBytes 2 proto.toNat ++
        beBytes 2 lenVer))).drop 16 = beBytes 2 proto.toNat ++ beBytes 2 lenVer := by
      have twice := congrArg (List.drop 8) front
      rw [List.drop_drop, List.drop_left' (length_deviceIdBytes dst)] at twice
      exact twice
    simp only [nsoInfoOf, srcIdOf, DataPacket.hdr, isLenVer, NsoInfo.mk.injEq]
    refine ⟨List.take_left' (length_deviceIdBytes src), ?_, ?_⟩
    · rw [front, List.take_left' (length_deviceIdBytes dst)]
    · rw [behind, List.take_left' (length_beBytes _ _), beNat_beBytes,
        Nat.mod_eq_of_lt protoFits]

/-- A packet that comes in one piece, or in a piece for the header and one for the payload, opens
the connection of its device. -/
theorem handle_one {packet : DataPacket} {stream : ByteStream} (segmented : stream.Segmented)
    (content : stream.content = packet.bytes)
    (hdrUncut : ¬ CutInside stream.chunks 0 nsohdrSize)
    (uncut : ¬ CutInside stream.chunks nsohdrSize packet.bytes.length) :
    handle [] stream =
      ⟨[(packet.hdr, packet.payload)], [⟨packet.srcId, packet.payload⟩]⟩ := by
  have length : packet.bytes.length = nsohdrSize + packet.payload.length := by
    rw [DataPacket.bytes, List.length_append, DataPacket.length_hdr]
  have received : (handle [] stream).received = [(packet.hdr, packet.payload)] := by
    have ends : CutAt stream.chunks (0 + packet.bytes.length) := by
      refine ⟨stream.chunks.length, ?_⟩
      rw [List.take_length, Nat.zero_add, ← content]
      rfl
    apply (@received_iff [] stream [packet] segmented (by rw [content]; simp)).mpr
    rw [length] at uncut
    simp only [pieces, List.flatMap_cons, List.flatMap_nil, List.append_nil, Uncut, Nat.zero_add]
    exact ⟨⟨hdrUncut, uncut, trivial⟩, ends, trivial⟩
  have connections := @handle_connections [] stream
  rw [received, List.foldl_cons, List.foldl_nil, DataPacket.srcIdOf_hdr, forward] at connections
  rw [← received, ← connections]

end Translator

end Nrg5
