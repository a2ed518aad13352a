import Nrg5.Lib.Bytes
import Nrg5.Lib.ByteStream
import Nrg5.Packet

/-!
# The DPTR translator

`trans.py` reads a header with one `recv` and the data behind it with another one, and
forwards the data on the connection of the source.  The second `recv` asks for as many
bytes as the length field says, and the length field counts the header too.  Whatever
raises ends the service of the base station.

The application server accepts every connection and every byte.
-/

namespace Nrg5

namespace Translator

open ByteMemory ByteStream

/-- `_MapEntry`: a connection to the application server and what was written to it. -/
structure MapEntry where
  srcId : List UInt8
  written : List UInt8
deriving DecidableEq

/-- `lookup_from_src_id`, `add_entry` for a new device, and `sendall`. -/
def forward (srcId data : List UInt8) : List MapEntry → List MapEntry
  | [] => [⟨srcId, data⟩]
  | entry :: rest =>
      if entry.srcId = srcId then { entry with written := entry.written ++ data } :: rest
      else entry :: forward srcId data rest

/-- What the service read, as pairs of a header and its data, and the connections it opened
in this order. -/
structure Service where
  received : List (List UInt8 × List UInt8)
  connections : List MapEntry

def srcIdOf (hdr : List UInt8) : List UInt8 := hdr.take 8

/-- `len_ver & 0x3fff`. -/
def dataLen (hdr : List UInt8) : Nat := beNat ((hdr.drop 18).take 2) % 16384

/-- The loop of `handle`.  An empty or short header raises, and so does empty data. -/
def handle (connections : List MapEntry) (stream : ByteStream) : Service :=
  match _isHdr : recv nsohdrSize stream with
  | .waits => ⟨[], connections⟩
  | .error => ⟨[], connections⟩
  | .bytes hdr rest =>
      if _short : hdr.length ≠ nsohdrSize then ⟨[], connections⟩
      else
        match _isData : recv (dataLen hdr) rest with
        | .waits => ⟨[], connections⟩
        | .error => ⟨[], connections⟩
        | .bytes data left =>
            if data = [] then ⟨[], connections⟩
            else
              let service := handle (forward (srcIdOf hdr) data connections) left
              { service with received := (hdr, data) :: service.received }
termination_by stream.content.length
decreasing_by
  have hdrLength := length_of_recv _isHdr
  have dataLength := length_of_recv _isData
  simp only [nsohdrSize] at _short
  omega

/-! ## Data packets -/

/-- A data packet of a base station; its version is in the two high bits of the length
word. -/
structure DataPacket where
  srcId : List UInt8
  dstId : List UInt8
  proto : Nat
  ver : Nat
  payload : List UInt8
  srcEight : srcId.length = 8
  dstEight : dstId.length = 8
  protoFits : proto < 2 ^ 16
  verFits : ver < 4
  notEmpty : 1 ≤ payload.length
  fits : payload.length ≤ 16363

namespace DataPacket

def hdr (packet : DataPacket) : List UInt8 :=
  packet.srcId ++ (packet.dstId ++ (beBytes 2 packet.proto ++
    beBytes 2 (packet.ver * 16384 + (nsohdrSize + packet.payload.length))))

def bytes (packet : DataPacket) : List UInt8 := packet.hdr ++ packet.payload

variable {packet : DataPacket}

theorem length_hdr : packet.hdr.length = nsohdrSize := by
  simp [hdr, packet.srcEight, packet.dstEight, nsohdrSize]

theorem srcIdOf_hdr : srcIdOf packet.hdr = packet.srcId := List.take_left' packet.srcEight

theorem dataLen_hdr : dataLen packet.hdr = nsohdrSize + packet.payload.length := by
  have version := packet.verFits
  have fits := packet.fits
  have behind : (packet.srcId ++ (packet.dstId ++ beBytes 2 packet.proto)).length = 18 := by
    simp [packet.srcEight, packet.dstEight]
  rw [dataLen, hdr, ← List.append_assoc packet.dstId, ← List.append_assoc packet.srcId,
    List.drop_left' behind, List.take_of_length_le (by rw [length_beBytes]), beNat_beBytes]
  simp only [nsohdrSize]
  omega

end DataPacket

/-- The two pieces of each packet. -/
def pieces (packets : List DataPacket) : List Nat :=
  packets.flatMap fun packet => [nsohdrSize, packet.payload.length]

/-- The payloads that came from one device, in order. -/
def payloadsFrom (srcId : List UInt8) (packets : List DataPacket) : List UInt8 :=
  (packets.filter fun packet => packet.srcId = srcId).flatMap DataPacket.payload

/-- Every header and every payload is read for itself, and each device has one connection
with its payloads. -/
structure Translated (packets : List DataPacket) (service : Service) : Prop where
  aligned : service.received = packets.map fun packet => (packet.hdr, packet.payload)
  connections : ∀ srcId, (service.connections.filter fun entry => entry.srcId = srcId) =
    if srcId ∈ packets.map DataPacket.srcId then [⟨srcId, payloadsFrom srcId packets⟩] else []

/-! ## Connections -/

section Connections

variable {srcId other data : List UInt8} {connections : List MapEntry} {entry : MapEntry}

/-- The connections of one device. -/
def ofDevice (srcId : List UInt8) (connections : List MapEntry) : List MapEntry :=
  connections.filter fun entry => entry.srcId = srcId

theorem ofDevice_forward_other (isOther : other ≠ srcId) :
    ofDevice other (forward srcId data connections) = ofDevice other connections := by
  induction connections with
  | nil => simp [forward, ofDevice, isOther.symm]
  | cons first rest ih =>
      rw [forward]
      split
      · rename_i same
        simp [ofDevice, same, isOther.symm]
      · simp only [ofDevice, List.filter_cons] at ih ⊢
        rw [ih]

theorem ofDevice_forward_new (isNew : ofDevice srcId connections = []) :
    ofDevice srcId (forward srcId data connections) = [⟨srcId, data⟩] := by
  induction connections with
  | nil => simp [forward, ofDevice]
  | cons first rest ih =>
      have notFirst : first.srcId ≠ srcId := by
        intro same
        simp [ofDevice, same] at isNew
      simp only [ofDevice, List.filter_cons, notFirst, decide_false, Bool.false_eq_true,
        if_false] at isNew
      rw [forward, if_neg notFirst]
      simp only [ofDevice, List.filter_cons, notFirst, decide_false, Bool.false_eq_true, if_false]
      exact ih isNew

theorem ofDevice_forward_known (isKnown : ofDevice srcId connections = [entry]) :
    ofDevice srcId (forward srcId data connections) =
      [{ entry with written := entry.written ++ data }] := by
  induction connections with
  | nil => simp [ofDevice] at isKnown
  | cons first rest ih =>
      rw [forward]
      split
      · rename_i same
        simp only [ofDevice, List.filter_cons, same, decide_true, if_true, List.cons.injEq]
          at isKnown ⊢
        rcases isKnown with ⟨rfl, noOther⟩
        exact ⟨by rw [same], noOther⟩
      · rename_i notFirst
        simp only [ofDevice, List.filter_cons, notFirst, decide_false, Bool.false_eq_true,
          if_false] at isKnown ⊢
        exact ih isKnown

/-- The connections after some packets, seen from one device. -/
theorem ofDevice_foldl (srcId : List UInt8) (packets : List DataPacket) :
    ofDevice srcId (packets.foldl (fun connections packet =>
        forward packet.srcId packet.payload connections) []) =
      if srcId ∈ packets.map DataPacket.srcId then [⟨srcId, payloadsFrom srcId packets⟩]
      else [] := by
  induction packets using List.reverseRecOn with
  | nil => rfl
  | append_singleton packets packet ih =>
      rw [List.foldl_append, List.foldl_cons, List.foldl_nil]
      rcases eq_or_ne srcId packet.srcId with rfl | isOther
      · have isLast : packet.srcId ∈ (packets ++ [packet]).map DataPacket.srcId := by simp
        rw [if_pos isLast]
        by_cases seen : packet.srcId ∈ packets.map DataPacket.srcId
        · rw [if_pos seen] at ih
          rw [ofDevice_forward_known ih]
          simp [payloadsFrom, List.filter_append]
        · rw [if_neg seen] at ih
          rw [ofDevice_forward_new ih]
          have isNew : packets.filter (fun other => other.srcId = packet.srcId) = [] := by
            rw [List.filter_eq_nil_iff]
            intro other isMem same
            exact seen (List.mem_map.mpr ⟨other, isMem, by simpa using same⟩)
          simp [payloadsFrom, List.filter_append, isNew]
      · rw [ofDevice_forward_other isOther, ih]
        simp [payloadsFrom, List.filter_append, isOther, isOther.symm]

end Connections

variable {connections : List MapEntry} {stream : ByteStream} {packet : DataPacket}
  {packets : List DataPacket}

theorem handle_connections : (handle connections stream).connections =
    (handle connections stream).received.foldl
      (fun connections read => forward (srcIdOf read.1) read.2 connections) connections := by
  fun_induction handle connections stream with
  | case7 connections stream hdr rest isHdr whole data left isData notEmpty service ih => exact ih
  | _ => rfl

theorem translated_iff : Translated packets (handle [] stream) ↔
    (handle [] stream).received = packets.map fun packet => (packet.hdr, packet.payload) := by
  constructor
  · exact Translated.aligned
  · intro aligned
    refine ⟨aligned, ?_⟩
    intro srcId
    rw [handle_connections, aligned, List.foldl_map]
    simp only [DataPacket.srcIdOf_hdr]
    exact ofDevice_foldl srcId packets

/-! ## Framing -/

theorem handle_short {hdr : List UInt8} {rest : ByteStream}
    (reads : recv nsohdrSize stream = .bytes hdr rest) (short : hdr.length ≠ nsohdrSize) :
    handle connections stream = ⟨[], connections⟩ := by
  rw [handle]
  split
  · rfl
  · rfl
  · rename_i got left isHdr
    rw [reads] at isHdr
    simp only [Recv.bytes.injEq] at isHdr
    rcases isHdr with ⟨rfl, rfl⟩
    rw [dif_pos short]

theorem handle_turn {hdr data : List UInt8} {rest left : ByteStream}
    (readsHdr : recv nsohdrSize stream = .bytes hdr rest) (whole : hdr.length = nsohdrSize)
    (readsData : recv (dataLen hdr) rest = .bytes data left) (notEmpty : data ≠ []) :
    handle connections stream =
      { handle (forward (srcIdOf hdr) data connections) left with
        received := (hdr, data) ::
          (handle (forward (srcIdOf hdr) data connections) left).received } := by
  conv => lhs; rw [handle]
  split
  · rename_i waits
    rw [readsHdr] at waits
    simp at waits
  · rename_i fails
    rw [readsHdr] at fails
    simp at fails
  · rename_i got behind isHdr
    rw [readsHdr] at isHdr
    simp only [Recv.bytes.injEq] at isHdr
    rcases isHdr with ⟨rfl, rfl⟩
    rw [dif_neg (not_not_intro whole)]
    split
    · rename_i waits
      rw [readsData] at waits
      simp at waits
    · rename_i fails
      rw [readsData] at fails
      simp at fails
    · rename_i _ _ isData
      rw [readsData] at isData
      simp only [Recv.bytes.injEq] at isData
      rcases isData with ⟨rfl, rfl⟩
      rw [if_neg notEmpty]

theorem handle_nil (isEmpty : stream.content = []) (segmented : stream.Segmented) :
    (handle connections stream).received = [] := by
  rw [handle]
  split
  · rfl
  · rfl
  · rename_i got left isHdr
    rw [recv_nil segmented isEmpty (by decide) isHdr, dif_pos (by decide)]

/-- The first turn where the header arrives in one piece: the data that is read with it is
the payload exactly when the stream is cut behind the payload and not inside. -/
theorem handle_packet {tail : List UInt8} (segmented : stream.Segmented)
    (front : stream.content = packet.bytes ++ tail)
    (hdrUncut : ¬ CutInside stream.chunks 0 nsohdrSize) :
    ∃ data left, handle connections stream =
        { handle (forward packet.srcId data connections) left with
          received := (packet.hdr, data) ::
            (handle (forward packet.srcId data connections) left).received } ∧
      stream.Behind (packet.hdr ++ data) left ∧
      (data.length = packet.payload.length ↔
        ¬ CutInside stream.chunks nsohdrSize (nsohdrSize + packet.payload.length) ∧
          CutAt stream.chunks (nsohdrSize + packet.payload.length)) := by
  have hdrLength := @DataPacket.length_hdr packet
  have typed := packet.notEmpty
  rw [DataPacket.bytes, List.append_assoc] at front
  have isHdr : stream.content.take nsohdrSize = packet.hdr := by
    rw [front, List.take_left' hdrLength]
  rcases recv_uncut segmented (by decide) (by rw [front, List.length_append]; omega) hdrUncut with
    ⟨rest, readsHdr, behindHdr⟩
  rw [isHdr] at readsHdr behindHdr
  have restFront : rest.content = packet.payload ++ tail :=
    List.append_cancel_left (behindHdr.content.symm.trans front)
  have enough : packet.payload.length ≤ rest.content.length := by
    rw [restFront, List.length_append]
    omega
  have wanted : packet.payload.length < dataLen packet.hdr := by
    rw [DataPacket.dataLen_hdr, nsohdrSize]
    omega
  have inStream := @ByteStream.Behind.cutInside _ _ _ 0 packet.payload.length behindHdr
  have atStream := behindHdr.cuts packet.payload.length (by omega)
  rw [hdrLength, Nat.add_zero] at inStream
  rw [hdrLength] at atStream
  rw [← inStream, ← atStream, ← DataPacket.srcIdOf_hdr]
  by_cases cut : CutInside rest.chunks 0 packet.payload.length
  · rcases recv_behind behindHdr.segmented (List.length_pos_iff.mp (by omega))
      (by omega : 0 < dataLen packet.hdr) with
      ⟨data, left, readsData, behindData, notEmpty, _, _⟩
    refine ⟨data, left, ?_, behindHdr.trans behindData, ?_⟩
    · exact handle_turn readsHdr hdrLength readsData (List.length_pos_iff.mp notEmpty)
    · rcases cut with ⟨position, isCut, positive, inside⟩
      have stops := recv_stops readsData isCut positive
      exact iff_of_false (by omega) fun whole => whole.1 ⟨position, isCut, positive, inside⟩
  · rcases recv_piece behindHdr.segmented (by omega) wanted enough cut with
      ⟨data, left, readsData, behindData, least, whole⟩
    refine ⟨data, left, ?_, behindHdr.trans behindData, by simp [cut, whole]⟩
    exact handle_turn readsHdr hdrLength readsData (List.length_pos_iff.mp (by omega))

theorem length_bytes_pos : 0 < packet.bytes.length := by
  rw [DataPacket.bytes, List.length_append, DataPacket.length_hdr, nsohdrSize]
  omega

/-- The pieces of a stream are read one by one exactly when no cut lies inside one of them
and a cut lies behind every packet. -/
theorem received_iff (segmented : stream.Segmented)
    (front : stream.content = packets.flatMap DataPacket.bytes) :
    ((handle connections stream).received =
        packets.map fun packet => (packet.hdr, packet.payload)) ↔
      Uncut stream.chunks 0 (pieces packets) ∧
        CutAfter stream.chunks 0 (packets.map fun packet => packet.bytes.length) := by
  induction packets generalizing connections stream with
  | nil =>
      rw [List.flatMap_nil] at front
      simp [handle_nil front segmented, pieces, Uncut, CutAfter]
  | cons packet others ih =>
      have first := front
      rw [List.flatMap_cons] at first
      have size : packet.bytes.length = nsohdrSize + packet.payload.length := by
        rw [DataPacket.bytes, List.length_append, DataPacket.length_hdr]
      have cuts : Uncut stream.chunks 0 (pieces (packet :: others)) ↔
          ¬ CutInside stream.chunks 0 nsohdrSize ∧
            ¬ CutInside stream.chunks nsohdrSize packet.bytes.length ∧
            Uncut stream.chunks packet.bytes.length (pieces others) := by
        simp only [pieces, List.flatMap_cons, List.cons_append, List.nil_append, Uncut,
          Nat.zero_add, size]
      rw [cuts, List.map_cons, List.map_cons, CutAfter, Nat.zero_add]
      by_cases hdrCut : CutInside stream.chunks 0 nsohdrSize
      · rcases recv_cut segmented hdrCut with ⟨hdr, rest, reads, _, _, short⟩
        rw [handle_short reads (by omega)]
        exact iff_of_false (by simp) fun framed => framed.1.1 hdrCut
      · rcases handle_packet segmented first hdrCut with
          ⟨data, left, turn, behind, whole⟩
        rw [← size] at whole
        rw [turn]
        by_cases isPayload : data.length = packet.payload.length
        · have isData : data = packet.payload ∧ left.content = others.flatMap DataPacket.bytes := by
            have parts := behind.content.symm.trans first
            rw [DataPacket.bytes, List.append_assoc, List.append_assoc] at parts
            exact List.append_inj (List.append_cancel_left parts) isPayload
          rcases isData with ⟨rfl, leftFront⟩
          have leftUncut := @ByteStream.Behind.uncut _ _ _ 0 behind (pieces others)
          have leftAfter := @ByteStream.Behind.cutAfter _ _ _ 0 behind
            (others.map fun packet => packet.bytes.length) (by simp [length_bytes_pos])
          rw [← DataPacket.bytes, Nat.add_zero] at leftUncut leftAfter
          rw [← leftUncut, ← leftAfter, List.cons.injEq, ih behind.segmented leftFront]
          simp only [hdrCut, (whole.mp rfl).1, (whole.mp rfl).2, not_false_eq_true, true_and]
        · refine iff_of_false ?_ fun framed => ?_
          · intro same
            simp only [List.cons.injEq, Prod.mk.injEq, true_and] at same
            exact isPayload (congrArg List.length same.1)
          · exact isPayload (whole.mpr ⟨framed.1.2.1, framed.2.1⟩)

/-- The translator keeps the payloads apart exactly when no piece of the stream ends inside a
header or a payload and one ends behind every packet. -/
theorem translated_iff_framed (packets : List DataPacket) (stream : ByteStream)
    (segmented : stream.Segmented)
    (written : stream.content = packets.flatMap DataPacket.bytes) :
    Translated packets (handle [] stream) ↔
      Uncut stream.chunks 0 (pieces packets) ∧
        CutAfter stream.chunks 0 (packets.map fun packet => packet.bytes.length) := by
  rw [translated_iff, received_iff segmented written]

/-! ### Two devices, with a piece for each packet and with one piece for both -/

def fromDevice (id : UInt8) (payload : List UInt8) (notEmpty : 1 ≤ payload.length)
    (fits : payload.length ≤ 16363) : DataPacket :=
  ⟨List.replicate 8 id, List.replicate 8 9, 1, 0, payload, rfl, rfl, by decide, by decide, notEmpty,
    fits⟩

def twoDevices : List DataPacket :=
  [fromDevice 1 [10, 11] (by decide) (by decide), fromDevice 2 [20] (by decide) (by decide),
    fromDevice 1 [12] (by decide) (by decide)]

theorem twoDevices_translated :
    Translated twoDevices (handle [] ⟨twoDevices.map DataPacket.bytes, .waits⟩) := by
  have ends : ∀ position, CutAt (twoDevices.map DataPacket.bytes) position ↔
      position = 0 ∨ position = 22 ∨ position = 43 ∨ position = 64 := by
    intro position
    have sizes : (twoDevices.map DataPacket.bytes).map List.length = [22, 21, 21] := by decide
    simp only [twoDevices, List.map_cons, List.map_nil, List.cons.injEq, and_true] at sizes
    simp only [twoDevices, List.map_cons, List.map_nil, cutAt_cons, cutAt_nil, sizes]
    constructor
    · rintro (rfl | ⟨_, rfl | ⟨_, rfl | ⟨_, rfl, rfl⟩, rfl⟩, rfl⟩) <;> simp
    · rintro (rfl | rfl | rfl | rfl) <;> simp
  refine (translated_iff_framed twoDevices _ (by decide) rfl).mpr ⟨?_, ?_⟩
  · have sizes : pieces twoDevices = [20, 2, 20, 1, 20, 1] := by decide
    rw [sizes]
    refine ⟨?_, ?_, ?_, ?_, ?_, ?_, trivial⟩ <;>
    · rintro ⟨position, isCut, after, before⟩
      have isEnd := (ends position).mp isCut
      omega
  · have sizes : (twoDevices.map fun packet => packet.bytes.length) = [22, 21, 21] := by decide
    rw [sizes]
    refine ⟨?_, ?_, ?_, trivial⟩ <;>
    · rw [ends]
      omega

/-- The first two packets arrive together: the read of the data takes the next header. -/
theorem coalesced_not_translated :
    (⟨[twoDevices.flatMap DataPacket.bytes], .waits⟩ : ByteStream).Segmented ∧
      (⟨[twoDevices.flatMap DataPacket.bytes], .waits⟩ : ByteStream).content =
        twoDevices.flatMap DataPacket.bytes ∧
      ¬ Translated twoDevices (handle [] ⟨[twoDevices.flatMap DataPacket.bytes], .waits⟩) := by
  refine ⟨by decide, rfl, ?_⟩
  intro translated
  have framed := (received_iff (by decide) rfl).mp translated.aligned
  have size : (twoDevices.flatMap DataPacket.bytes).length = 64 := by decide
  rcases cutAt_cons.mp framed.2.1 with isZero | ⟨behind, isNil, isPosition⟩
  · exact absurd isZero (by decide)
  · rw [cutAt_nil.mp isNil, size] at isPosition
    exact absurd isPosition (by decide)

end Translator

end Nrg5
