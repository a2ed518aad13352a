import Nrg5.Common

/-!
# Packets and the NSO header

`packet_t` is one allocation: the bookkeeping fields and a buffer with a headroom
of 64 bytes before the data and a tailroom of 64 bytes behind it.  `data` and
`tail` are kept as offsets into the buffer.  Only the first `size` bytes of the
buffer are zeroed when it is allocated, so what the rest holds is an argument of
`allocPacket`.

The header has the source and destination identifiers, the protocol and one
16-bit word.  The word is a union whose two bit-fields `length` (14 bits) and
`ver` (2 bits) are both members of the union, so both start at its lowest bit.
-/

namespace Nrg5

open ByteMemory

/-- `HEADROOM`. -/
def headroom : Nat := 64

/-- `TAILROOM`. -/
def tailroom : Nat := 64

/-- `sizeof(struct nsohdr)`. -/
def nsohdrSize : Nat := 20

/-- `NSO_PROTO_CP_VTSD`. -/
def protoCpVtsd : UInt16 := 0xF000

/-- `NSO_PROTO_CP_VSON`. -/
def protoCpVson : UInt16 := 0xF001

/-- `packet_t`; `data` and `tail` are offsets into `buf`. -/
structure Packet where
  size : Nat
  byteLen : Int
  data : Nat
  tail : Int
  buf : Memory

/-- `alloc_packet`: `junk` is what the allocator left in the buffer. -/
def allocPacket (junk : Memory) (size : Nat) : Packet :=
  { size := size
    byteLen := 0
    data := headroom
    tail := headroom
    buf := fun offset => if offset < size then 0 else junk offset }

/-- `htons` and `ntohs` on a little-endian host. -/
def swap16 (word : Nat) : Nat := word % 256 * 256 + word / 256 % 256

theorem swap16_lt (word : Nat) : swap16 word < 65536 := by
  simp only [swap16]
  omega

@[simp]
theorem swap16_swap16 (word : Nat) : swap16 (swap16 word) = word % 65536 := by
  have low : (word % 256 * 256 + word / 256 % 256) % 256 = word / 256 % 256 := by omega
  have high : (word % 256 * 256 + word / 256 % 256) / 256 % 256 = word % 256 := by omega
  simp only [swap16, low, high]
  omega

namespace Packet

/-- `packet_inc_len`. -/
def incLen (pkt : Packet) (size : Int) : Packet :=
  { pkt with byteLen := pkt.byteLen + size, tail := pkt.tail + size }

/-- `packet_reset`. -/
def reset (pkt : Packet) : Packet :=
  { pkt with byteLen := 0, data := headroom, tail := headroom }

/-- `packet_clone` of the device library. -/
def clone (junk : Memory) (pkt : Packet) : Packet :=
  let newPkt := allocPacket junk pkt.size
  { newPkt with
    byteLen := pkt.byteLen
    data := pkt.data
    tail := pkt.data + pkt.byteLen
    buf := newPkt.buf.write pkt.data (pkt.buf.read pkt.data pkt.byteLen.toNat) }

/-- The bytes a call hands to `sendto` or `send`. -/
def bytes (pkt : Packet) : List UInt8 := pkt.buf.read pkt.data pkt.byteLen.toNat

/-- `*(pkt->data + offset)`. -/
def byteAt (pkt : Packet) (offset : Nat) : UInt8 := pkt.buf (pkt.data + offset)

/-- Copy bytes to `pkt->data + offset`. -/
def put (pkt : Packet) (offset : Nat) (bytes : List UInt8) : Packet :=
  { pkt with buf := pkt.buf.write (pkt.data + offset) bytes }

/-! ### Header fields -/

def srcDevid (pkt : Packet) : DeviceId := deviceIdOfBytes (pkt.buf.read pkt.data 8)

def dstDevid (pkt : Packet) : DeviceId := deviceIdOfBytes (pkt.buf.read (pkt.data + 8) 8)

/-- `ntohs(hdr->proto)`. -/
def proto (pkt : Packet) : UInt16 := UInt16.ofNat (beNat (pkt.buf.read (pkt.data + 16) 2))

/-- `hdr->len_ver`, in host order. -/
def lenVer (pkt : Packet) : Nat := leNat (pkt.buf.read (pkt.data + 18) 2)

/-- `hdr->length`: the low 14 bits of the word. -/
def length (pkt : Packet) : Nat := pkt.lenVer % 16384

/-- The message type of a control packet. -/
def msgType (pkt : Packet) : UInt8 := pkt.byteAt nsohdrSize

def setSrcDevid (pkt : Packet) (devId : DeviceId) : Packet := pkt.put 0 (deviceIdBytes devId)

def setDstDevid (pkt : Packet) (devId : DeviceId) : Packet := pkt.put 8 (deviceIdBytes devId)

/-- `hdr->proto = htons(proto)`. -/
def setProto (pkt : Packet) (proto : UInt16) : Packet := pkt.put 16 (beBytes 2 proto.toNat)

def setLenVer (pkt : Packet) (word : Nat) : Packet := pkt.put 18 (leBytes 2 word)

/-- `hdr->length = value`: the bit-field keeps the low 14 bits of the value. -/
def setLength (pkt : Packet) (value : Nat) : Packet :=
  pkt.setLenVer (pkt.lenVer / 16384 * 16384 + value % 16384)

/-- `hdr->ver = value`: a member of the union, so it lies over the two lowest bits. -/
def setVer (pkt : Packet) (value : Nat) : Packet :=
  pkt.setLenVer (pkt.lenVer / 4 * 4 + value % 4)

/-- `hdr->len_ver = htons(hdr->len_ver)`, and back with `ntohs`. -/
def swapLenVer (pkt : Packet) : Packet := pkt.setLenVer (swap16 pkt.lenVer)

/-! ### Reading a field after a write -/

variable {pkt : Packet}

@[simp] theorem put_size (offset : Nat) (bytes : List UInt8) :
    (pkt.put offset bytes).size = pkt.size := rfl

@[simp] theorem put_byteLen (offset : Nat) (bytes : List UInt8) :
    (pkt.put offset bytes).byteLen = pkt.byteLen := rfl

@[simp] theorem put_data (offset : Nat) (bytes : List UInt8) :
    (pkt.put offset bytes).data = pkt.data := rfl

@[simp] theorem put_tail (offset : Nat) (bytes : List UInt8) :
    (pkt.put offset bytes).tail = pkt.tail := rfl

theorem read_put_same {offset count : Nat} {bytes : List UInt8} (whole : bytes.length = count) :
    (pkt.put offset bytes).buf.read (pkt.data + offset) count = bytes := by
  subst whole
  exact Memory.read_write_same _ _ _

theorem read_put_disjoint {offset start count : Nat} {bytes : List UInt8}
    (disjoint : start + count ≤ offset ∨ offset + bytes.length ≤ start) :
    (pkt.put offset bytes).buf.read (pkt.data + start) count =
      pkt.buf.read (pkt.data + start) count := by
  apply Memory.read_write_disjoint
  omega

theorem byteAt_put_disjoint {offset start : Nat} {bytes : List UInt8}
    (disjoint : start < offset ∨ offset + bytes.length ≤ start) :
    (pkt.put offset bytes).byteAt start = pkt.byteAt start := by
  rcases disjoint with before | after
  · exact Memory.write_before _ _ (by simp only [put_data]; omega)
  · exact Memory.write_after _ _ (by simp only [put_data]; omega)

/-! Advancing a packet leaves its bytes alone. -/

@[simp] theorem srcDevid_incLen (size : Int) : (pkt.incLen size).srcDevid = pkt.srcDevid := rfl

@[simp] theorem dstDevid_incLen (size : Int) : (pkt.incLen size).dstDevid = pkt.dstDevid := rfl

@[simp] theorem proto_incLen (size : Int) : (pkt.incLen size).proto = pkt.proto := rfl

@[simp] theorem length_incLen (size : Int) : (pkt.incLen size).length = pkt.length := rfl

@[simp] theorem buf_incLen (size : Int) : (pkt.incLen size).buf = pkt.buf := rfl

@[simp] theorem data_incLen (size : Int) : (pkt.incLen size).data = pkt.data := rfl

@[simp] theorem byteLen_incLen (size : Int) :
    (pkt.incLen size).byteLen = pkt.byteLen + size := rfl

/-- A write behind the header or in another field leaves the fields alone. -/
theorem srcDevid_put {offset : Nat} {bytes : List UInt8} (behind : 8 ≤ offset) :
    (pkt.put offset bytes).srcDevid = pkt.srcDevid := by
  have same := @read_put_disjoint pkt _ _ 8 bytes (Or.inl (by omega))
  simp only [Nat.add_zero] at same
  simp only [srcDevid, put_data, same]

theorem dstDevid_put {offset : Nat} {bytes : List UInt8}
    (outside : offset + bytes.length ≤ 8 ∨ 16 ≤ offset) :
    (pkt.put offset bytes).dstDevid = pkt.dstDevid := by
  simp only [dstDevid, put_data]
  rw [read_put_disjoint (by omega)]

theorem proto_put {offset : Nat} {bytes : List UInt8}
    (outside : offset + bytes.length ≤ 16 ∨ 18 ≤ offset) :
    (pkt.put offset bytes).proto = pkt.proto := by
  simp only [proto, put_data]
  rw [read_put_disjoint (by omega)]

theorem lenVer_put {offset : Nat} {bytes : List UInt8}
    (outside : offset + bytes.length ≤ 18 ∨ 20 ≤ offset) :
    (pkt.put offset bytes).lenVer = pkt.lenVer := by
  simp only [lenVer, put_data]
  rw [read_put_disjoint (by omega)]

@[simp] theorem srcDevid_setSrcDevid (devId : DeviceId) :
    (pkt.setSrcDevid devId).srcDevid = devId := by
  have same := @read_put_same pkt 0 _ _ (length_deviceIdBytes devId)
  simp only [Nat.add_zero] at same
  simp only [srcDevid, setSrcDevid, put_data, same, deviceIdOfBytes_deviceIdBytes]

@[simp] theorem dstDevid_setDstDevid (devId : DeviceId) :
    (pkt.setDstDevid devId).dstDevid = devId := by
  simp only [dstDevid, setDstDevid, put_data]
  rw [read_put_same (length_deviceIdBytes devId), deviceIdOfBytes_deviceIdBytes]

@[simp] theorem proto_setProto (value : UInt16) : (pkt.setProto value).proto = value := by
  have inRange : value.toNat < 256 ^ 2 := value.toNat_lt
  simp only [proto, setProto, put_data]
  rw [read_put_same (length_beBytes 2 _), beNat_beBytes, Nat.mod_eq_of_lt inRange]
  exact UInt16.ofNat_toNat

@[simp] theorem lenVer_setLenVer (word : Nat) :
    (pkt.setLenVer word).lenVer = word % 65536 := by
  simp only [lenVer, setLenVer, put_data]
  rw [read_put_same (length_leBytes 2 _), leNat_leBytes]
  norm_num

theorem setLenVer_setLenVer (first second : Nat) :
    (pkt.setLenVer first).setLenVer second = pkt.setLenVer second := by
  simp only [setLenVer, put]
  rw [Memory.write_write _ _ (by simp)]

theorem lenVer_lt (pkt : Packet) : pkt.lenVer < 65536 := by
  have bound := leNat_lt (pkt.buf.read (pkt.data + 18) 2)
  simpa [lenVer] using bound

@[simp] theorem length_setLength (value : Nat) :
    (pkt.setLength value).length = value % 16384 := by
  have small := pkt.lenVer_lt
  simp only [length, setLength, lenVer_setLenVer]
  omega

@[simp] theorem swapLenVer_swapLenVer : pkt.swapLenVer.swapLenVer = pkt := by
  have small := pkt.lenVer_lt
  have back : swap16 pkt.swapLenVer.lenVer = pkt.lenVer := by
    simp only [swapLenVer, lenVer_setLenVer, Nat.mod_eq_of_lt (swap16_lt _), swap16_swap16]
    omega
  have sameBytes : leBytes 2 pkt.lenVer = pkt.buf.read (pkt.data + 18) 2 := by
    have stored := leBytes_leNat (pkt.buf.read (pkt.data + 18) 2)
    rwa [Memory.length_read] at stored
  rw [swapLenVer, back, swapLenVer, setLenVer_setLenVer, setLenVer, sameBytes, put,
    Memory.write_read]

theorem length_swapLenVer :
    pkt.swapLenVer.length = beNat (pkt.buf.read (pkt.data + 18) 2) % 16384 := by
  rw [length, swapLenVer, lenVer_setLenVer, Nat.mod_eq_of_lt (swap16_lt _),
    beNat_eq_of_two (Memory.length_read _ _ _)]
  rfl

@[simp] theorem data_setSrcDevid (devId : DeviceId) :
    (pkt.setSrcDevid devId).data = pkt.data := rfl

@[simp] theorem data_setDstDevid (devId : DeviceId) :
    (pkt.setDstDevid devId).data = pkt.data := rfl

@[simp] theorem byteLen_setDstDevid (devId : DeviceId) :
    (pkt.setDstDevid devId).byteLen = pkt.byteLen := rfl

@[simp] theorem srcDevid_setDstDevid (devId : DeviceId) :
    (pkt.setDstDevid devId).srcDevid = pkt.srcDevid := srcDevid_put (by omega)

@[simp] theorem proto_setDstDevid (devId : DeviceId) :
    (pkt.setDstDevid devId).proto = pkt.proto := proto_put (by simp)

@[simp] theorem srcDevid_setProto (value : UInt16) :
    (pkt.setProto value).srcDevid = pkt.srcDevid := srcDevid_put (by omega)

@[simp] theorem dstDevid_setProto (value : UInt16) :
    (pkt.setProto value).dstDevid = pkt.dstDevid := dstDevid_put (by omega)

@[simp] theorem srcDevid_setLenVer (word : Nat) :
    (pkt.setLenVer word).srcDevid = pkt.srcDevid := srcDevid_put (by omega)

@[simp] theorem dstDevid_setLenVer (word : Nat) :
    (pkt.setLenVer word).dstDevid = pkt.dstDevid := dstDevid_put (by omega)

@[simp] theorem proto_setLenVer (word : Nat) :
    (pkt.setLenVer word).proto = pkt.proto := proto_put (by omega)

@[simp] theorem srcDevid_swapLenVer : pkt.swapLenVer.srcDevid = pkt.srcDevid :=
  srcDevid_setLenVer _

@[simp] theorem dstDevid_swapLenVer : pkt.swapLenVer.dstDevid = pkt.dstDevid :=
  dstDevid_setLenVer _

@[simp] theorem proto_swapLenVer : pkt.swapLenVer.proto = pkt.proto := proto_setLenVer _

@[simp] theorem byteLen_swapLenVer : pkt.swapLenVer.byteLen = pkt.byteLen := rfl

@[simp] theorem data_swapLenVer : pkt.swapLenVer.data = pkt.data := rfl

/-- The header of a packet that is in the buffer whole depends only on its bytes. -/
theorem header_congr {left right : Packet} (same : left.bytes = right.bytes)
    (whole : nsohdrSize ≤ left.bytes.length) :
    left.srcDevid = right.srcDevid ∧ left.dstDevid = right.dstDevid ∧
      left.proto = right.proto ∧ left.swapLenVer.length = right.swapLenVer.length := by
  simp only [nsohdrSize] at whole
  have slices : ∀ start count, start + count ≤ 20 →
      left.buf.read (left.data + start) count = right.buf.read (right.data + start) count := by
    intro start count inside
    have wholeRight := whole
    rw [same] at wholeRight
    simp only [bytes, Memory.length_read] at whole wholeRight same
    rw [← @Memory.read_slice left.buf _ left.byteLen.toNat _ _ (by omega), same,
      Memory.read_slice right.buf (by omega)]
  have source := slices 0 8 (by omega)
  simp only [Nat.add_zero] at source
  refine ⟨?_, ?_, ?_, ?_⟩
  · simp only [srcDevid, source]
  · simp only [dstDevid, slices 8 8 (by omega)]
  · simp only [proto, slices 16 2 (by omega)]
  · simp only [length_swapLenVer, slices 18 2 (by omega)]

@[simp] theorem msgType_setDstDevid (devId : DeviceId) :
    (pkt.setDstDevid devId).msgType = pkt.msgType :=
  byteAt_put_disjoint (by simp [nsohdrSize])

end Packet

end Nrg5
