import Nrg5.Rules
import Nrg5.Data

/-!
# Application data from sender to receiver

`nso_layer_send` clamps a data packet to the MTU after it has stored the size in the
14-bit length field, so the clamp compares the size modulo 2^14.  What the packet
holds and what `nso_layer_recv` gives back follow from the length that is stored,
and both are what the interface promises exactly when the stored length is the
smaller of the whole size and the MTU.
-/

namespace Nrg5

open ByteMemory LockProg

/-! ## The packet that is built -/

/-- The length that `__make_data_pkt` stores for a number of data bytes. -/
def storedLength (mtu size : Nat) : Nat :=
  if mtu < (nsohdrSize + size) % 16384 then mtu else (nsohdrSize + size) % 16384

/-- The size of the data is small enough for the length field, or its remainder still
reaches the MTU. -/
def SizeFits (mtu size : Nat) : Prop :=
  size + nsohdrSize < 16384 ∨ mtu ≤ (size + nsohdrSize) % 16384

theorem sizeFits_iff {mtu size : Nat} (small : mtu ≤ 16383) :
    storedLength mtu size = min (size + nsohdrSize) mtu ↔ SizeFits mtu size := by
  simp only [storedLength, SizeFits]
  split
  · simp only [nsohdrSize] at *
    omega
  · simp only [nsohdrSize] at *
    omega

/-- The packet holds the header fields, a length and the bytes of its data. -/
structure Packet.Carries (pkt : Packet) (src dst : DeviceId) (proto : UInt16) (total : Nat)
    (data : List UInt8) : Prop where
  length : pkt.swapLenVer.length = total
  byteLen : pkt.byteLen = total
  src : pkt.srcDevid = src
  dst : pkt.dstDevid = dst
  proto : pkt.proto = proto
  payload : pkt.buf.read (pkt.data + nsohdrSize) data.length = data

/-- The end of `__make_data_pkt`: fill in the data, advance and swap the length word. -/
theorem carries_finished {opened : Packet} {src dst : DeviceId} {proto : UInt16} {total : Nat}
    {data : List UInt8} (length : opened.length = total) (byteLen : opened.byteLen = 0)
    (isSrc : opened.srcDevid = src) (isDst : opened.dstDevid = dst)
    (isProto : opened.proto = proto) :
    ((opened.put nsohdrSize data).incLen
      (opened.put nsohdrSize data).length).swapLenVer.Carries src dst proto total data := by
  have filledLenVer : (opened.put nsohdrSize data).lenVer = opened.lenVer :=
    Packet.lenVer_put (.inr le_rfl)
  have filledLength : (opened.put nsohdrSize data).length = total := by
    rw [Packet.length, filledLenVer, ← Packet.length, length]
  rw [filledLength]
  generalize filledEq : opened.put nsohdrSize data = filled at filledLength
  have written : filled.buf.read (filled.data + nsohdrSize) data.length = data := by
    rw [← filledEq]
    exact Packet.read_put_same rfl
  constructor
  · rw [Packet.swapLenVer_swapLenVer, Packet.length_incLen, filledLength]
  · rw [Packet.byteLen_swapLenVer, Packet.byteLen_incLen, ← filledEq, Packet.put_byteLen,
      byteLen, Int.zero_add]
  · rw [Packet.srcDevid_swapLenVer, Packet.srcDevid_incLen, ← filledEq,
      Packet.srcDevid_put (by decide), isSrc]
  · rw [Packet.dstDevid_swapLenVer, Packet.dstDevid_incLen, ← filledEq,
      Packet.dstDevid_put (.inr (by decide)), isDst]
  · rw [Packet.proto_swapLenVer, Packet.proto_incLen, ← filledEq,
      Packet.proto_put (.inr (by decide)), isProto]
  · exact (Packet.read_put_disjoint (.inr (by simp [nsohdrSize]))).trans written

section Build

variable {junk : Memory} {layer : NsoLayer} {buf : List UInt8} {dst : DeviceId}
  {proto : UInt16}

/-- The header before its length is stored. -/
def dataHeader (junk : Memory) (layer : NsoLayer) (dst : DeviceId) (proto : UInt16) : Packet :=
  ((((allocPacket junk layer.mtu).setSrcDevid layer.devId).setDstDevid dst).setProto
    proto).setVer 0

/-- The header with its length stored and clamped. -/
def sizedHeader (junk : Memory) (layer : NsoLayer) (size : Nat) (dst : DeviceId)
    (proto : UInt16) : Packet :=
  let summed := (dataHeader junk layer dst proto).setLength (nsohdrSize + size)
  if layer.mtu < summed.length then summed.setLength layer.mtu else summed

theorem length_sizedHeader (size : Nat) :
    (sizedHeader junk layer size dst proto).length = storedLength layer.mtu size := by
  simp only [sizedHeader, storedLength, Packet.length_setLength]
  split
  · rw [Packet.length_setLength, Nat.mod_eq_of_lt (by omega)]
  · rw [Packet.length_setLength]

/-- Whichever way the clamp goes, only the length word is stored. -/
theorem sizedHeader_eq (size : Nat) :
    ∃ word, sizedHeader junk layer size dst proto =
      (dataHeader junk layer dst proto).setLenVer word := by
  simp only [sizedHeader]
  by_cases clamps : layer.mtu <
      ((dataHeader junk layer dst proto).setLength (nsohdrSize + size)).length
  · rw [if_pos clamps]
    exact ⟨_, Packet.setLenVer_setLenVer _ _⟩
  · rw [if_neg clamps]
    exact ⟨_, rfl⟩

theorem makeDataPkt_eq :
    makeDataPkt junk layer buf dst proto =
      let sized := sizedHeader junk layer buf.length dst proto
      if nsohdrSize ≤ sized.length then
        let filled := sized.put nsohdrSize (buf.take (sized.length - nsohdrSize))
        some (filled.incLen filled.length).swapLenVer
      else none := rfl

theorem makeDataPkt_some (header : nsohdrSize ≤ storedLength layer.mtu buf.length) :
    ∃ pkt, makeDataPkt junk layer buf dst proto = some pkt ∧
      pkt.Carries layer.devId dst proto (storedLength layer.mtu buf.length)
        (buf.take (storedLength layer.mtu buf.length - nsohdrSize)) := by
  have length := @length_sizedHeader junk layer dst proto buf.length
  rcases sizedHeader_eq buf.length with ⟨word, isHeader⟩
  simp only [makeDataPkt_eq]
  rw [length, if_pos header]
  refine ⟨_, rfl, carries_finished length ?_ ?_ ?_ ?_⟩
  · rw [isHeader]
    rfl
  · rw [isHeader, dataHeader, Packet.setVer]
    simp
  · rw [isHeader, dataHeader, Packet.setVer]
    simp
  · rw [isHeader, dataHeader, Packet.setVer]
    simp

/-- With a stored length below the header size the copy has no end. -/
theorem makeDataPkt_none (short : storedLength layer.mtu buf.length < nsohdrSize) :
    makeDataPkt junk layer buf dst proto = none := by
  simp only [makeDataPkt_eq]
  rw [length_sizedHeader, if_neg (Nat.not_le.mpr short)]

end Build

/-! ## The packet that is taken from the queue -/

/-- A packet with the bytes of the one that was sent gives them back. -/
theorem readData_carried {pkt queued : Packet} {src dst : DeviceId} {proto : UInt16}
    {total size : Nat} {data : List UInt8} (carries : pkt.Carries src dst proto total data)
    (sameBytes : queued.bytes = pkt.bytes) (dataLength : data.length = total - nsohdrSize)
    (header : nsohdrSize ≤ total) (room : total ≤ size) :
    readData queued size = some ⟨src, dst, proto, data⟩ := by
  have pktBytes : pkt.bytes.length = total := by
    rw [Packet.bytes, Memory.length_read, carries.byteLen, Int.toNat_natCast]
  have queuedBytes : queued.byteLen.toNat = total := by
    have lengths := congrArg List.length sameBytes
    rw [pktBytes, Packet.bytes, Memory.length_read] at lengths
    exact lengths
  rcases Packet.header_congr sameBytes.symm (by rw [pktBytes]; exact header) with
    ⟨sameSrc, sameDst, sameProto, sameLength⟩
  have payload : queued.buf.read (queued.data + nsohdrSize) (total - nsohdrSize) = data := by
    have fromQueued := @Memory.read_slice queued.buf queued.data queued.byteLen.toNat nsohdrSize
      (total - nsohdrSize) (by omega)
    have fromPkt := @Memory.read_slice pkt.buf pkt.data pkt.byteLen.toNat nsohdrSize
      (total - nsohdrSize) (by rw [carries.byteLen]; omega)
    have sent := carries.payload
    rw [dataLength] at sent
    rw [← fromQueued, ← sent, ← fromPkt]
    exact congrArg (fun bytes => (bytes.drop nsohdrSize).take (total - nsohdrSize)) sameBytes
  have dataSize : (queued.swapLenVer.length : Int) - nsohdrSize = (total - nsohdrSize : Nat) := by
    rw [← sameLength, carries.length]
    omega
  have notCut : ¬ (size : Int) < (total - nsohdrSize : Nat) := by omega
  simp only [readData, dataSize]
  rw [if_neg notCut, if_pos (Int.natCast_nonneg _)]
  simp only [Int.toNat_natCast, payload, ← sameSrc, ← sameDst, ← sameProto, carries.src,
    carries.dst, carries.proto]

theorem nsoLayerRecv_done {held : Lock → Bool} {node : Node} {queued : Packet}
    {rest : List Packet} {size : Nat} {delivered : Delivered}
    (connected : node.nsol.devState = .connected) (stateFree : held .state = false)
    (dataFree : held .data = false) (queue : node.nsol.dataPq = queued :: rest)
    (reads : readData queued size = some delivered) :
    ((nsoLayerRecv size).exec held node).result = .done delivered := by
  have ends : (nsoLayerRecv size).wp (fun _ _ => True)
      { post := fun value _ _ => value = delivered } held node := by
    rw [wp_nsoLayerRecv tolerant_true dataFree, stateFree, if_neg Bool.false_ne_true,
      if_pos connected, queue]
    dsimp only
    rw [reads]
  rcases (wp_done_iff_exec _ _).mp ends with ⟨_, value, isDone, rfl⟩
  exact isDone

/-! ## The round trip -/

/-- How many bytes of a buffer a packet takes. -/
def takenSize (mtu size : Nat) : Nat := min size (mtu - nsohdrSize)

/-- What the interface promises of one buffer: the packet holds the first bytes of it that
fit the MTU, the call reports their number, and a receiver gets exactly these bytes with
the same source, destination and protocol. -/
structure DataRoundTrips (sender : NsoLayer) (buf : List UInt8) (dst : Option DeviceId)
    (proto : UInt16) : Prop where
  packet : ∀ junk, ∃ pkt,
    makeDataPkt junk sender buf (dst.getD sender.gwId) proto = some pkt ∧
      pkt.Carries sender.devId (dst.getD sender.gwId) proto
        (min (buf.length + nsohdrSize) sender.mtu)
        (buf.take (takenSize sender.mtu buf.length))
  reported : ∀ held node value, node.nsol = sender →
    ((nsoLayerSend buf dst proto).exec held node).result = .done value →
      value = takenSize sender.mtu buf.length
  received : ∀ junk pkt queued held node rest size,
    makeDataPkt junk sender buf (dst.getD sender.gwId) proto = some pkt →
    queued.bytes = pkt.bytes → node.nsol.dataPq = queued :: rest →
    node.nsol.devState = .connected → held .state = false → held .data = false →
    sender.mtu ≤ size →
      ((nsoLayerRecv size).exec held node).result =
        .done ⟨sender.devId, dst.getD sender.gwId, proto,
          buf.take (takenSize sender.mtu buf.length)⟩

theorem sendResult_eq (layer : NsoLayer) (size : Nat) :
    sendResult layer size = takenSize layer.mtu size := by
  simp only [sendResult, takenSize]
  split
  · omega
  · omega

theorem nsoLayerSend_reports {buf : List UInt8} {dst : Option DeviceId} {proto : UInt16}
    {held : Lock → Bool} {node : Node} {value : Nat}
    (returns : ((nsoLayerSend buf dst proto).exec held node).result = .done value) :
    value = takenSize node.nsol.mtu buf.length := by
  have ends : (nsoLayerSend buf dst proto).wp (fun _ _ => True)
      { post := fun value _ _ => value = takenSize node.nsol.mtu buf.length
        halt := fun _ _ _ => True
        block := fun _ _ _ => True } held node := by
    rw [wp_nsoLayerSend tolerant_true]
    split
    · trivial
    · split
      · cases makeDataPkt node.env.junk node.nsol buf (dst.getD node.nsol.gwId) proto with
        | none => trivial
        | some pkt =>
            apply wp_of_forall
            · exact fun _ _ => trivial
            · exact fun _ _ _ => sendResult_eq node.nsol buf.length
            · exact fun _ _ _ => trivial
            · exact fun _ _ _ => trivial
      · trivial
  have atEnd := ((wp_iff_exec _ _).mp ends).2
  rw [Ending.Holds, returns] at atEnd
  exact atEnd

/-- The promise is kept exactly when the size fits the length field, or its remainder
still reaches the MTU. -/
theorem data_round_trip_iff (sender : NsoLayer) (header : nsohdrSize ≤ sender.mtu)
    (small : sender.mtu ≤ 16383) (buf : List UInt8) (dst : Option DeviceId) (proto : UInt16) :
    DataRoundTrips sender buf dst proto ↔ SizeFits sender.mtu buf.length := by
  rw [← sizeFits_iff small]
  constructor
  · intro roundTrips
    rcases roundTrips.packet fun _ => 0 with ⟨pkt, isMade, carries⟩
    rcases Nat.lt_or_ge (storedLength sender.mtu buf.length) nsohdrSize with short | whole
    · rw [makeDataPkt_none short] at isMade
      exact absurd isMade (by simp)
    · rcases makeDataPkt_some whole with ⟨pkt', isMade', carries'⟩
      rw [isMade] at isMade'
      rcases Option.some.inj isMade' with rfl
      exact carries'.length.symm.trans carries.length
  · intro fits
    have whole : nsohdrSize ≤ storedLength sender.mtu buf.length := by
      rw [fits]
      omega
    have taken : buf.take (storedLength sender.mtu buf.length - nsohdrSize) =
        buf.take (takenSize sender.mtu buf.length) := by
      rw [fits, takenSize]
      congr 1
      omega
    have dataLength : (buf.take (takenSize sender.mtu buf.length)).length =
        min (buf.length + nsohdrSize) sender.mtu - nsohdrSize := by
      rw [List.length_take, takenSize]
      omega
    have made : ∀ junk, ∃ pkt,
        makeDataPkt junk sender buf (dst.getD sender.gwId) proto = some pkt ∧
          pkt.Carries sender.devId (dst.getD sender.gwId) proto
            (min (buf.length + nsohdrSize) sender.mtu)
            (buf.take (takenSize sender.mtu buf.length)) := by
      intro junk
      have some := @makeDataPkt_some junk _ _ (dst.getD sender.gwId) proto whole
      rwa [taken, fits] at some
    refine ⟨made, ?_, ?_⟩
    · rintro held node value rfl returns
      exact nsoLayerSend_reports returns
    · intro junk pkt queued held node rest size isMade sameBytes queue connected stateFree
        dataFree room
      rcases made junk with ⟨pkt', isMade', carries⟩
      rw [isMade] at isMade'
      rcases Option.some.inj isMade' with rfl
      apply nsoLayerRecv_done connected stateFree dataFree queue
      apply readData_carried carries sameBytes dataLength
      · omega
      · omega

/-! ### A layer with an MTU of 1500 bytes -/

def senderLayer : NsoLayer := NsoLayer.initial 1 2 1500 [wlan0] wlan0_fits

/-- A buffer of 16364 bytes wraps the length field to zero. -/
theorem wrapped_buffer :
    nsohdrSize ≤ senderLayer.mtu ∧ senderLayer.mtu ≤ 16383 ∧
      ¬ DataRoundTrips senderLayer (List.replicate 16364 7) (some 5) 0x0800 := by
  refine ⟨by decide, by decide, ?_⟩
  intro roundTrips
  rcases roundTrips.packet fun _ => 0 with ⟨pkt, isMade, _⟩
  have short : storedLength senderLayer.mtu (List.replicate 16364 (7 : UInt8)).length <
      nsohdrSize := by
    rw [List.length_replicate]
    decide
  rw [makeDataPkt_none short] at isMade
  exact absurd isMade (by simp)

theorem small_buffer : DataRoundTrips senderLayer [1, 2, 3] (some 5) 0x0800 :=
  (data_round_trip_iff senderLayer (by decide) (by decide) [1, 2, 3] (some 5) 0x0800).mpr
    (.inl (by decide))

end Nrg5
