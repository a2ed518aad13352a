import Nrg5.RxLoop
import Nrg5.Control
import Nrg5.DataRoundTrip

/-!
# Messages in packets and frames

What the stations of a network tell each other is in the NSO header and in the type
byte behind it.  `messageOf` reads them from the bytes of a packet.  They survive
what the stations do with a packet: a frame carries the message of the packet it is
made of, and a receiver whose buffer has room for the type byte reads it back.

The invariants of a network speak about the messages in flight and not about frames, and this
is where the two meet.  A frame that is too short for a header carries no message, and one that
ends behind the header carries a message without a type; both are kept apart because the code
takes them for different things.
-/

namespace Nrg5

open ByteMemory LockProg

/-- What a station reads of a packet before it chooses a handler. -/
structure Message where
  src : DeviceId
  dst : DeviceId
  proto : UInt16
  /-- A message can end behind its header. -/
  type : Option UInt8
deriving DecidableEq

def messageOf (bytes : List UInt8) : Message :=
  { src := deviceIdOfBytes (bytes.take 8)
    dst := deviceIdOfBytes ((bytes.drop 8).take 8)
    proto := UInt16.ofNat (beNat ((bytes.drop 16).take 2))
    type := bytes[nsohdrSize]? }

/-- A buffer that holds the type byte holds the whole message. -/
theorem messageOf_take {bytes : List UInt8} {count : Nat} (room : nsohdrSize < count) :
    messageOf (bytes.take count) = messageOf bytes := by
  simp only [nsohdrSize] at room
  simp only [messageOf, nsohdrSize, List.drop_take, List.take_take]
  rw [Nat.min_eq_left (by omega), Nat.min_eq_left (by omega), Nat.min_eq_left (by omega),
    List.getElem?_take_of_lt room]

theorem messageOf_append {bytes : List UInt8} (rest : List UInt8)
    (whole : nsohdrSize < bytes.length) : messageOf (bytes ++ rest) = messageOf bytes := by
  rw [← messageOf_take whole, List.take_left]

/-! ## Packets -/

/-- The packet has a whole header, and its bytes show the message. -/
structure Packet.Shows (pkt : Packet) (message : Message) : Prop where
  header : (nsohdrSize : Int) ≤ pkt.byteLen
  message : messageOf pkt.bytes = message

variable {pkt : Packet} {message : Message}

/-- The accessors of a packet read the fields of its message. -/
theorem messageOf_bytes (header : (nsohdrSize : Int) ≤ pkt.byteLen) :
    messageOf pkt.bytes =
      { src := pkt.srcDevid
        dst := pkt.dstDevid
        proto := pkt.proto
        type := if (nsohdrSize : Int) < pkt.byteLen then some pkt.msgType else none } := by
  have slices : ∀ start count, start + count ≤ 20 →
      (pkt.bytes.drop start).take count = pkt.buf.read (pkt.data + start) count := by
    intro start count inside
    simp only [nsohdrSize] at header
    exact Memory.read_slice pkt.buf (by omega)
  have source := slices 0 8 (by omega)
  simp only [List.drop_zero, Nat.add_zero] at source
  have type : pkt.bytes[nsohdrSize]? =
      if (nsohdrSize : Int) < pkt.byteLen then some pkt.msgType else none := by
    split
    · rename_i typed
      have inside : nsohdrSize < pkt.bytes.length := by
        rw [Packet.bytes, Memory.length_read]
        omega
      rw [List.getElem?_eq_getElem inside]
      exact congrArg some (Memory.getElem_read pkt.buf inside)
    · rename_i untyped
      rw [List.getElem?_eq_none]
      rw [Packet.bytes, Memory.length_read]
      omega
  simp only [messageOf, source, slices 8 8 (by omega), slices 16 2 (by omega), type]
  rfl

theorem Packet.Shows.src (showing : pkt.Shows message) : pkt.srcDevid = message.src := by
  rw [← showing.message, messageOf_bytes showing.header]

theorem Packet.Shows.dst (showing : pkt.Shows message) : pkt.dstDevid = message.dst := by
  rw [← showing.message, messageOf_bytes showing.header]

theorem Packet.Shows.proto (showing : pkt.Shows message) : pkt.proto = message.proto := by
  rw [← showing.message, messageOf_bytes showing.header]

theorem Packet.Shows.type (showing : pkt.Shows message) (typed : message.type.isSome = true) :
    message.type = some pkt.msgType := by
  rw [← showing.message, messageOf_bytes showing.header] at typed ⊢
  simp only at typed ⊢
  split at typed
  · rename_i long
    rw [if_pos long]
  · simp at typed

/-- The first relay of a beacon rewrites the destination and nothing else. -/
theorem Packet.Shows.setDstDevid (showing : pkt.Shows message) (dst : DeviceId) :
    (pkt.setDstDevid dst).Shows { message with dst := dst } := by
  have header : (nsohdrSize : Int) ≤ (pkt.setDstDevid dst).byteLen := showing.header
  refine ⟨header, ?_⟩
  rw [messageOf_bytes header, ← showing.message, messageOf_bytes showing.header]
  simp only [Packet.srcDevid_setDstDevid, Packet.dstDevid_setDstDevid,
    Packet.proto_setDstDevid, Packet.msgType_setDstDevid, Packet.byteLen_setDstDevid]

/-! ## Frames -/

/-- A frame of a layer 2 address with a message. -/
structure IsFrame (mac : L2addr) (message : Message) (frame : List UInt8) : Prop where
  long : ethHlen + nsohdrSize ≤ frame.length
  type : (frame.drop 12).take 2 = ethTypeNso
  source : (frame.drop ethAlen).take ethAlen = mac
  message : messageOf (frame.drop ethHlen) = message

/-- A frame is the header of its interface in front of the bytes of the packet. -/
theorem bytes_prependEth (room : ethHlen ≤ pkt.data) (sized : 0 ≤ pkt.byteLen)
    {source dest : L2addr} (six : source.length = ethAlen) :
    (pkt.prependEth source dest).bytes = ethHeader source dest ++ pkt.bytes := by
  have headerLength : (ethHeader source dest).length = ethHlen := by
    simp [ethHeader, six, ethAlen, ethHlen, ethTypeNso]
  have total : (pkt.byteLen + (ethHlen : Int)).toNat = ethHlen + pkt.byteLen.toNat := by
    simp only [ethHlen]
    omega
  have front := Memory.read_write_same pkt.buf (pkt.data - ethHlen) (ethHeader source dest)
  rw [headerLength] at front
  have behind : (pkt.buf.write (pkt.data - ethHlen) (ethHeader source dest)).read pkt.data
      pkt.byteLen.toNat = pkt.buf.read pkt.data pkt.byteLen.toNat := by
    apply Memory.read_write_disjoint
    right
    rw [headerLength]
    omega
  simp only [Packet.bytes, Packet.prependEth, total]
  rw [Memory.read_append, front, Nat.sub_add_cancel room, behind]

/-- What `wifi_send` hands out carries the message of its packet. -/
theorem isFrame_prependEth (showing : pkt.Shows message) (room : ethHlen ≤ pkt.data)
    {source dest : L2addr} (six : source.length = ethAlen) :
    IsFrame source message (pkt.prependEth source dest).bytes := by
  have header := showing.header
  simp only [nsohdrSize] at header
  rw [bytes_prependEth room (by omega) six]
  have destLength : ((Memory.ofList dest).read 0 ethAlen).length = ethAlen := by simp
  have headerLength : (ethHeader source dest).length = ethHlen := by
    simp [ethHeader, six, ethAlen, ethHlen, ethTypeNso]
  constructor
  · rw [List.length_append, headerLength, Packet.bytes, Memory.length_read]
    simp only [nsohdrSize]
    omega
  · have front : ethHeader source dest = ((Memory.ofList dest).read 0 ethAlen ++ source) ++
        ethTypeNso := rfl
    rw [front, List.append_assoc,
      List.drop_left' (by rw [List.length_append, destLength, six]; rfl)]
    rfl
  · have front : ethHeader source dest = (Memory.ofList dest).read 0 ethAlen ++
        (source ++ ethTypeNso) := by simp [ethHeader]
    rw [front, List.append_assoc, List.drop_left' destLength, List.append_assoc,
      List.take_left' six]
  · rw [List.drop_left' headerLength]
    exact showing.message

/-- What a receiver with room for the type byte reads from a frame. -/
theorem wifiReceive_frame {mac : L2addr} {frame : List UInt8} {stale : Packet} {received : Received}
    (isFrame : IsFrame mac message frame) (room : ethHlen ≤ stale.data)
    (fits : nsohdrSize < stale.size) (receives : wifiReceive stale (.frame frame) = received) :
    received.pkt.Shows message ∧ ∃ dest, received.addrs = some (mac, dest) := by
  have long := isFrame.long
  simp only [ethHlen, nsohdrSize] at long fits
  have isNso : IsNsoFrame frame := ⟨by simp only [ethHlen]; omega, isFrame.type⟩
  rcases wifiReceive_nso isNso room with ⟨buf, byteLen, tail, accepted, bytes⟩
  rw [accepted] at receives
  rcases receives with rfl
  dsimp only
  refine ⟨⟨?_, ?_⟩, frame.take ethAlen, ?_⟩
  · have lengths := congrArg List.length bytes
    rw [Packet.bytes, Memory.length_read, List.length_take, List.length_drop] at lengths
    simp only [ethHlen] at lengths
    simp only [nsohdrSize]
    omega
  · rw [bytes, messageOf_take fits]
    exact isFrame.message
  · rw [isFrame.source]

/-! ## The packets that a node builds -/

/-- A finished control packet is long enough to show its type. -/
theorem shows_finishControl {size : Nat} (typed : nsohdrSize < size) (fits : size < 16384)
    (empty : pkt.byteLen = 0) :
    (finishControl pkt size).Shows
      { src := pkt.srcDevid
        dst := pkt.dstDevid
        proto := pkt.proto
        type := some pkt.msgType } := by
  have sized : (pkt.setLength size).length = size := by
    rw [Packet.length_setLength, Nat.mod_eq_of_lt fits]
  have noBytes : (pkt.setLength size).byteLen = 0 := empty
  have byteLen : (finishControl pkt size).byteLen = size := by
    rw [finishControl, sized, Packet.byteLen_swapLenVer, Packet.byteLen_incLen, noBytes,
      Int.zero_add]
  have msgType : (finishControl pkt size).msgType = pkt.msgType := by
    have swapped : ∀ packet : Packet, ∀ word, (packet.setLenVer word).msgType = packet.msgType :=
      fun packet word => Packet.byteAt_put_disjoint (.inr (by simp [nsohdrSize]))
    exact (swapped _ _).trans (swapped _ _)
  have header : (nsohdrSize : Int) ≤ (finishControl pkt size).byteLen := by
    rw [byteLen]
    omega
  refine ⟨header, ?_⟩
  rw [messageOf_bytes header, byteLen, if_pos (by exact_mod_cast typed), msgType]
  simp only [finishControl, Packet.srcDevid_swapLenVer, Packet.dstDevid_swapLenVer,
    Packet.proto_swapLenVer, Packet.srcDevid_incLen, Packet.dstDevid_incLen,
    Packet.proto_incLen, Packet.setLength, Packet.srcDevid_setLenVer,
    Packet.dstDevid_setLenVer, Packet.proto_setLenVer]

theorem put_nil (offset : Nat) : pkt.put offset [] = pkt := by
  have unchanged : pkt.buf.write (pkt.data + offset) [] = pkt.buf := by
    funext index
    simp only [Memory.write, List.length_nil, Nat.add_zero]
    rw [if_neg (by omega)]
  simp only [Packet.put, unchanged]

/-- The packets of `nso_tsd.c` and `nso_son.c` show what they are built from. -/
theorem shows_control (junk : Memory) (mtu : Nat) (src dst : DeviceId) (proto : UInt16)
    (type : UInt8) (body : List UInt8) {size : Nat} (typed : nsohdrSize < size)
    (fits : size < 16384) :
    (finishControl ((beginControl junk mtu src dst proto type).put (nsohdrSize + 1) body)
      size).Shows ⟨src, dst, proto, some type⟩ := by
  generalize isBegun : (beginControl junk mtu src dst proto type).put (nsohdrSize + 1) body = begun
  have isSrc : begun.srcDevid = src := by
    rw [← isBegun, Packet.srcDevid_put (by decide), beginControl, Packet.srcDevid_put (by decide),
      Packet.setVer]
    simp
  have isDst : begun.dstDevid = dst := by
    rw [← isBegun, Packet.dstDevid_put (.inr (by decide)), beginControl,
      Packet.dstDevid_put (.inr (by decide)), Packet.setVer]
    simp
  have isProto : begun.proto = proto := by
    rw [← isBegun, Packet.proto_put (.inr (by decide)), beginControl,
      Packet.proto_put (.inr (by decide)), Packet.setVer]
    simp
  have isType : begun.msgType = type := by
    have written : ∀ packet : Packet, (packet.put nsohdrSize [type]).msgType = type :=
      fun packet => Memory.write_inside packet.buf [type] Nat.one_pos
    rw [← isBegun, Packet.msgType, Packet.byteAt_put_disjoint (.inl (by decide))]
    exact written _
  have finished := @shows_finishControl begun _ typed fits (by rw [← isBegun]; rfl)
  rwa [isSrc, isDst, isProto, isType] at finished

/-- A data packet shows its sender; it has a type only when it has data. -/
theorem shows_makeDataPkt {junk : Memory} {layer : NsoLayer} {buf : List UInt8} {dst : DeviceId}
    {proto : UInt16} (isMade : makeDataPkt junk layer buf dst proto = some pkt) :
    ∃ type, pkt.Shows ⟨layer.devId, dst, proto, type⟩ := by
  by_cases header : nsohdrSize ≤ storedLength layer.mtu buf.length
  · rcases makeDataPkt_some header with
      ⟨made, isSome, carries⟩
    rw [isSome] at isMade
    rcases Option.some.inj isMade with rfl
    have whole : (nsohdrSize : Int) ≤ made.byteLen := by
      rw [carries.byteLen]
      exact_mod_cast header
    have message := messageOf_bytes whole
    rw [carries.src, carries.dst, carries.proto] at message
    exact ⟨_, whole, message⟩
  · rw [makeDataPkt_none (Nat.not_le.mp header)] at isMade
    simp at isMade

end Nrg5
