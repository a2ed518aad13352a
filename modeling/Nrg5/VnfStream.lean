import Nrg5.Survival.BaseStation

/-!
# Messages on a VNF connection

A network function writes its messages one behind the other on a stream, and the
base station reads them back with `read_pkt_from_vnf`, whatever pieces the stream
comes in.  Each call takes exactly the bytes of one message and stores them; the
`byte_len` it sets counts the header twice, because the length field it reads
already includes the header.
-/

namespace Nrg5

namespace Bs

open ByteMemory LockProg

/-! ## One message -/

/-- The length field of a message: the low 14 bits of the word behind the protocol. -/
def messageLength (message : List UInt8) : Nat :=
  beNat ((message.drop 18).take 2) % 16384

/-- A message with its header, its right length and room in the buffer. -/
structure IsMessage (size : Nat) (message : List UInt8) : Prop where
  header : nsohdrSize ≤ message.length
  fits : message.length ≤ size
  lengthField : messageLength message = message.length

/-- The packet that holds exactly a message. -/
structure Packet.Holds (pkt : Packet) (message : List UInt8) : Prop where
  bytes : pkt.bytes = message
  byteLen : pkt.byteLen = message.length
  tail : pkt.tail = pkt.data + pkt.byteLen

variable {size : Nat} {message rest : List UInt8} {stream : ByteStream} {junk : Memory}

theorem length_headed {header : List UInt8} (whole : header.length = nsohdrSize) :
    ((allocPacket junk size).put 0 header).swapLenVer.length = messageLength header := by
  have slice := @Memory.read_write_slice (allocPacket junk size).buf
    ((allocPacket junk size).data) 18 2 header (by rw [whole]; decide)
  rw [Packet.length_swapLenVer, messageLength, ← slice]
  rfl

theorem messageLength_take {count : Nat} (enough : nsohdrSize ≤ count) :
    messageLength (message.take count) = messageLength message := by
  simp only [nsohdrSize] at enough
  rw [messageLength, messageLength, List.drop_take, List.take_take, Nat.min_eq_left (by omega)]

/-- What a call reads: the bytes of the message and nothing else, with a `byte_len` that
is larger by the size of the header. -/
theorem readPktFromVnf_whole (long : nsohdrSize ≤ message.length)
    (lengthField : messageLength message = message.length)
    (front : stream.content = message ++ rest) :
    ∃ pkt left, readPktFromVnf junk size stream = some (pkt, left) ∧
      left.content = rest ∧
      pkt.byteLen = message.length + nsohdrSize ∧
      pkt.tail = pkt.data + pkt.byteLen ∧
      pkt.buf.read pkt.data message.length = message := by
  have header : (message.take nsohdrSize).length = nsohdrSize := by
    rw [List.length_take]
    exact Nat.min_eq_left long
  have headFront :
      stream.content = message.take nsohdrSize ++ (message.drop nsohdrSize ++ rest) := by
    rw [front, ← List.append_assoc, List.take_append_drop]
  rcases ByteStream.recvAll_complete headFront with ⟨behindHeader, readHeader, bodyFront, _⟩
  rcases ByteStream.recvAll_complete bodyFront with ⟨left, readBody, leftContent, _⟩
  rw [header] at readHeader
  let headed := (allocPacket junk size).put 0 (message.take nsohdrSize)
  have lengthRead : headed.swapLenVer.length = message.length := by
    rw [length_headed header, messageLength_take le_rfl, lengthField]
  have bodyLength : (message.length : Int) - nsohdrSize = (message.drop nsohdrSize).length := by
    rw [List.length_drop]
    omega
  rw [← bodyLength] at readBody
  let filled := headed.put nsohdrSize (message.drop nsohdrSize)
  refine ⟨{ filled with
      byteLen := nsohdrSize + message.length
      tail := filled.data + (nsohdrSize + message.length : Int) }, left, ?_, leftContent,
    by simp only; omega, rfl, ?_⟩
  · simp only [readPktFromVnf, readHeader, fill, Option.bind_eq_bind, Option.bind_some]
    rw [show (allocPacket junk size).put 0 (message.take nsohdrSize) = headed from rfl,
      lengthRead, readBody, Packet.swapLenVer_swapLenVer]
    rfl
  · have split : message.length = nsohdrSize + (message.drop nsohdrSize).length := by
      rw [List.length_drop]
      omega
    have readHead : filled.buf.read headroom nsohdrSize = message.take nsohdrSize := by
      have before := @Packet.read_put_disjoint headed nsohdrSize 0 nsohdrSize
        (message.drop nsohdrSize) (.inl (by decide))
      have written := @Packet.read_put_same (allocPacket junk size) 0 _ _ header
      exact before.trans written
    have readBody : filled.buf.read (headroom + nsohdrSize) (message.drop nsohdrSize).length =
        message.drop nsohdrSize :=
      Packet.read_put_same rfl
    change filled.buf.read headroom message.length = message
    rw [split, Memory.read_append, readHead, readBody, List.take_append_drop]

theorem readPktFromVnf_message (isMessage : IsMessage size message)
    (front : stream.content = message ++ rest) :
    ∃ pkt left, readPktFromVnf junk size stream = some (pkt, left) ∧
      left.content = rest ∧
      pkt.byteLen = message.length + nsohdrSize ∧
      pkt.tail = pkt.data + pkt.byteLen ∧
      pkt.buf.read pkt.data message.length = message :=
  readPktFromVnf_whole isMessage.header isMessage.lengthField front

/-! ## A sequence of messages -/

/-- The calls return the messages one by one, each with its own `byte_len`. -/
def ReadsEach (size : Nat) : List (List UInt8) → ByteStream → Prop
  | [], _ => True
  | message :: rest, stream =>
      ∀ junk, ∃ pkt left, readPktFromVnf junk size stream = some (pkt, left) ∧
        Packet.Holds pkt message ∧ left.content = rest.flatten ∧ ReadsEach size rest left

/-- No call returns its message: the header is counted twice. -/
theorem not_readsEach_cons {messages : List (List UInt8)} (isMessage : IsMessage size message)
    (front : stream.content = (message :: messages).flatten) :
    ¬ ReadsEach size (message :: messages) stream := by
  intro reads
  rcases readPktFromVnf_message isMessage front with
    ⟨pkt, left, returns, _, byteLen, _⟩
  rcases reads fun _ => 0 with ⟨pkt', left', returns', holds, _⟩
  have same : pkt = pkt' := by
    rw [returns'] at returns
    simp only [Option.some.injEq, Prod.mk.injEq] at returns
    exact returns.1.symm
  have counted := holds.byteLen
  rw [← same, byteLen] at counted
  simp only [nsohdrSize] at counted
  omega

/-- A route update of a controller for one destination. -/
structure IsRouteUpdate (message : List UInt8) (dst : DeviceId) (rules : Nat) : Prop where
  destination : deviceIdOfBytes ((message.drop 8).take 8) = dst
  type : message.getD nsohdrSize 0 = sonMsgRt
  wholeRules : message.length = nsohdrSize + 1 + rtRuleSize * rules

/-- A route update that is read from a connection leaves a part of a rule, so a registered
base station does not come back from it. -/
theorem routeUpdate_from_vnf {dst : DeviceId} {rules : Nat} {held : Lock → Bool} {node : Node}
    (isMessage : IsMessage size message) (front : stream.content = message ++ rest)
    (isUpdate : IsRouteUpdate message dst rules) (forMe : node.nsol.devId = dst)
    (registered : node.nsol.devState ≠ .unreg) (free : TablesFree held) :
    ∃ pkt left, readPktFromVnf junk size stream = some (pkt, left) ∧
      ¬ Returns (Rx.body ⟨.son, pkt, .vnf⟩) held node := by
  rcases readPktFromVnf_message isMessage front with
    ⟨pkt, left, returns, _, byteLen, _, bytes⟩
  refine ⟨pkt, left, returns, ?_⟩
  intro comesBack
  have survives := ((rx_returns_iff free _).mp comesBack).1
  have long : nsohdrSize + 1 ≤ message.length := by
    rw [isUpdate.wholeRules]
    omega
  have type : pkt.msgType = sonMsgRt := by
    have stored : (pkt.buf.read pkt.data message.length).getD nsohdrSize 0 = sonMsgRt := by
      rw [bytes]
      exact isUpdate.type
    rwa [Memory.getD_read _ (by omega)] at stored
  have destination : pkt.dstDevid = node.nsol.devId := by
    have slice := @Memory.read_slice pkt.buf pkt.data message.length 8 8
      (by simp only [nsohdrSize] at long; omega)
    rw [bytes] at slice
    rw [Packet.dstDevid, ← slice, isUpdate.destination, forMe]
  have whole := (((survives type).1 destination).2 registered).2.2
  rw [Packet.rulesSize, byteLen, isUpdate.wholeRules] at whole
  simp only [nsohdrSize, rtRuleSize] at whole
  omega

/-- Messages read from a VNF connection are never returned as they were sent, and a route
update read from one never comes back at a registered base station. -/
theorem vnf_stream_decoding (size : Nat) :
    (∀ (messages : List (List UInt8)) (stream : ByteStream),
      (∀ message ∈ messages, IsMessage size message) →
      stream.content = messages.flatten →
        (ReadsEach size messages stream ↔ messages = [])) ∧
    ∀ (message rest : List UInt8) (stream : ByteStream) (junk : Memory),
      IsMessage size message → stream.content = message ++ rest →
      ∀ (held : Lock → Bool) (node : Node) (rules : Nat),
        TablesFree held → node.nsol.devState ≠ .unreg →
        IsRouteUpdate message node.nsol.devId rules →
          ∃ pkt left, readPktFromVnf junk size stream = some (pkt, left) ∧
            ¬ Returns (Rx.body ⟨.son, pkt, .vnf⟩) held node := by
  constructor
  · intro messages stream areMessages content
    constructor
    · intro reads
      cases messages with
      | nil => rfl
      | cons message others =>
          have isMessage := areMessages message List.mem_cons_self
          exact absurd reads (not_readsEach_cons isMessage content)
    · rintro rfl
      trivial
  · intro message rest stream junk isMessage front held node rules free registered isUpdate
    exact routeUpdate_from_vnf isMessage front isUpdate rfl registered free

/-! ### A route update without rules -/

/-- A route update for device 1 that carries no rule. -/
def emptyUpdate : List UInt8 :=
  [2, 0, 0, 0, 0, 0, 0, 0] ++ [1, 0, 0, 0, 0, 0, 0, 0] ++ [0xf0, 0x01] ++ [0, 21] ++ [sonMsgRt]

/-- The stream that carries it in two pieces. -/
def emptyUpdateStream : ByteStream :=
  { chunks := [emptyUpdate.take 5, emptyUpdate.drop 5], atEnd := .waits }

theorem emptyUpdate_isMessage : IsMessage 1500 emptyUpdate :=
  ⟨by decide, by decide, by decide⟩

theorem emptyUpdate_misread :
    IsMessage 1500 emptyUpdate ∧ emptyUpdateStream.content = [emptyUpdate].flatten ∧
      ¬ ReadsEach 1500 [emptyUpdate] emptyUpdateStream :=
  ⟨emptyUpdate_isMessage, by decide, not_readsEach_cons emptyUpdate_isMessage (by decide)⟩

theorem emptyUpdate_not_applied :
    ReadsEach 1500 [] ⟨[], .waits⟩ ∧
      ∃ pkt left, readPktFromVnf (fun _ => 0) 1500 emptyUpdateStream = some (pkt, left) ∧
        ¬ Returns (Rx.body ⟨.son, pkt, .vnf⟩) (fun _ => false)
          (freshStation.updateLayer fun layer => { layer with devState := .connected }) := by
  constructor
  · exact ((vnf_stream_decoding 1500).1 [] ⟨[], .waits⟩ (by simp) rfl).mpr rfl
  · exact (vnf_stream_decoding 1500).2 emptyUpdate [] emptyUpdateStream _ emptyUpdate_isMessage
      (by decide) _ _ 0 ⟨rfl, rfl, rfl, rfl⟩ (by simp [Node.updateLayer])
      ⟨by decide, by decide, by decide⟩

end Bs

end Nrg5
