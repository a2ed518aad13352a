import Nrg5.ControlSize
import Nrg5.Lib.ReadLoop
import Nrg5.VnfStream

/-!
# What `read_pkt_from_vnf` asks for

A call runs `__fully_recv` twice, for the header and for the bytes that the length field of the
header announces.  The loop leaves when it has exactly the size or when `recv` fails, and nobody
looks at its result or compares the length with the buffer.
-/

namespace Nrg5

namespace Bs

open ByteMemory StateTransition ByteStream

/-- The two loops of a call: how far behind `pkt->data` they write, how many bytes they want and
what they read from.  The second one starts once the first one has left. -/
inductive LoopOf (junk : Memory) (size : Nat) (stream : ByteStream) :
    Nat → Int → ByteStream → Prop where
  | header : LoopOf junk size stream 0 nsohdrSize stream
  | payload {headed : Packet} {rest : ByteStream}
      (filled : fill (allocPacket junk size) 0 (stream.recvAll nsohdrSize) = some (headed, rest)) :
      LoopOf junk size stream nsohdrSize (headed.swapLenVer.length - nsohdrSize) rest

/-- A `recv` may write what it is asked for: the room, as a `size_t`, ends inside the buffer of
the packet.  A negative room becomes a number above the size of every buffer. -/
def InBuffer (size offset : Nat) (room : Int) : Prop :=
  0 ≤ room ∧ headroom + offset + room ≤ headroom + size + tailroom

/-- Reading a packet ends once the stream has ended or failed, writes into the buffer only, and
answers a packet only when the first `extent` bytes of it were received. -/
structure ReadsSafely (extent : Packet → Nat) (junk : Memory) (size : Nat) (stream : ByteStream) :
    Prop where
  terminates : stream.atEnd ≠ .waits → ∀ {offset wanted unread},
    LoopOf junk size stream offset wanted unread → (eval (ReadLoop.turn wanted) ⟨[], unread⟩).Dom
  inBuffer : ∀ {offset wanted unread loop}, LoopOf junk size stream offset wanted unread →
    Reaches (ReadLoop.turn wanted) ⟨[], unread⟩ loop → loop.room wanted ≠ 0 →
      InBuffer size (offset + loop.received.length) (loop.room wanted)
  received : ∀ {pkt left}, readPktFromVnf junk size stream = some (pkt, left) →
    ∃ taken, stream.content = taken ++ left.content ∧ extent pkt ≤ taken.length ∧
      pkt.buf.read pkt.data (extent pkt) = taken.take (extent pkt)

/-- The header and the bytes that its length field announces. -/
def messageExtent (pkt : Packet) : Nat := max nsohdrSize pkt.wireLength

/-- All bytes that `byte_len` counts. -/
def packetExtent (pkt : Packet) : Nat := pkt.byteLen.toNat

/-- The header has arrived, and with it what its length field announces. -/
def Arrived (stream : ByteStream) : Prop :=
  nsohdrSize ≤ stream.content.length ∧ messageLength stream.content ≤ stream.content.length

/-- A length field that has arrived counts the header and does not pass the tailroom. -/
def LengthInRange (size : Nat) (stream : ByteStream) : Prop :=
  nsohdrSize ≤ stream.content.length →
    nsohdrSize ≤ messageLength stream.content ∧ messageLength stream.content ≤ size + tailroom

variable {junk : Memory} {size : Nat} {stream : ByteStream} {extent : Packet → Nat}

/-! ## The two loops -/

/-- `byte_len` is the length field of the header that was read, and the header once more. -/
theorem readPktFromVnf_lengths {pkt : Packet} {left : ByteStream}
    (returns : readPktFromVnf junk size stream = some (pkt, left)) :
    ∃ headed rest,
      fill (allocPacket junk size) 0 (stream.recvAll nsohdrSize) = some (headed, rest) ∧
      pkt.wireLength = headed.swapLenVer.length ∧ pkt.byteLen = nsohdrSize + pkt.wireLength := by
  simp only [readPktFromVnf, Option.bind_eq_bind, Option.bind_eq_some_iff] at returns
  rcases returns with ⟨⟨headed, rest⟩, isHeaded, ⟨filled, behind⟩, isFilled, isPkt⟩
  rw [Packet.swapLenVer_swapLenVer] at isFilled
  have sameWord : filled.buf.read (filled.data + 18) 2 = headed.buf.read (headed.data + 18) 2 := by
    unfold fill at isFilled
    split at isFilled
    · rcases Option.some.inj isFilled with ⟨rfl, rfl⟩
      exact Packet.read_put_disjoint (.inl (by decide))
    · rcases Option.some.inj isFilled with ⟨rfl, rfl⟩
      exact Packet.read_put_disjoint (.inl (by decide))
    · simp at isFilled
  have sameLength : ∀ (byteLen tail : Int),
      ({ filled with byteLen := byteLen, tail := tail } : Packet).wireLength =
        headed.swapLenVer.length := by
    intro byteLen tail
    rw [Packet.wireLength, Packet.length_swapLenVer, Packet.length_swapLenVer]
    exact congrArg (fun word => beNat word % 16384) sameWord
  rcases Option.some.inj isPkt with ⟨rfl, rfl⟩
  refine ⟨headed, rest, isHeaded, sameLength _ _, ?_⟩
  rw [sameLength]

/-- A call on a connection that failed returns, whatever it got. -/
theorem readPktFromVnf_failed (failed : stream.atEnd = .failed) :
    (readPktFromVnf junk size stream).isSome = true := by
  have fills : ∀ (pkt : Packet) (offset : Nat) (wanted : Int) (unread : ByteStream),
      unread.atEnd = .failed → ∃ filled left, fill pkt offset (unread.recvAll wanted) =
        some (filled, left) ∧ left.atEnd = .failed := by
    intro pkt offset wanted unread isFailed
    have accounts := recvAll_accounts wanted unread
    cases isOutcome : unread.recvAll wanted with
    | complete bytes rest =>
        rw [isOutcome] at accounts
        exact ⟨_, rest, rfl, accounts.2.trans isFailed⟩
    | failed bytes => exact ⟨_, _, rfl, rfl⟩
    | stuck =>
        rw [isOutcome] at accounts
        exact absurd isFailed accounts
  rcases fills (allocPacket junk size) 0 nsohdrSize stream failed with
    ⟨headed, rest, isHeaded, more⟩
  rcases fills headed.swapLenVer.swapLenVer nsohdrSize (headed.swapLenVer.length - nsohdrSize) rest
    more with ⟨filled, left, isFilled, -⟩
  simp only [readPktFromVnf, isHeaded, Option.bind_eq_bind, Option.bind_some, isFilled]
  rfl

/-- Behind a header that has arrived the call wants what the length field announces. -/
structure HeaderRead (junk : Memory) (size : Nat) (stream behind : ByteStream) : Prop where
  header : stream.recvAll nsohdrSize = .complete (stream.content.take nsohdrSize) behind
  content : behind.content = stream.content.drop nsohdrSize
  atEnd : behind.atEnd = stream.atEnd
  wanted : ((allocPacket junk size).put 0 (stream.content.take nsohdrSize)).swapLenVer.length =
    messageLength stream.content

theorem headerRead (arrived : nsohdrSize ≤ stream.content.length) :
    ∃ behind, HeaderRead junk size stream behind := by
  have header : (stream.content.take nsohdrSize).length = nsohdrSize := by
    rw [List.length_take]
    exact Nat.min_eq_left arrived
  rcases recvAll_complete (List.take_append_drop nsohdrSize stream.content).symm with
    ⟨behind, reads, content, atEnd⟩
  rw [header] at reads
  refine ⟨behind, reads, content, atEnd, ?_⟩
  rw [length_headed header, messageLength_take le_rfl]

variable {behind : ByteStream}

theorem HeaderRead.payload (reads : HeaderRead junk size stream behind) :
    LoopOf junk size stream nsohdrSize ((messageLength stream.content : Int) - nsohdrSize)
      behind := by
  rw [← reads.wanted]
  apply LoopOf.payload
  rw [reads.header]
  rfl

theorem HeaderRead.loopOf (reads : HeaderRead junk size stream behind) {offset : Nat}
    {wanted : Int} {unread : ByteStream} (loop : LoopOf junk size stream offset wanted unread) :
    (offset = 0 ∧ wanted = nsohdrSize ∧ unread = stream) ∨
      (offset = nsohdrSize ∧ wanted = messageLength stream.content - nsohdrSize ∧
        unread = behind) := by
  cases loop with
  | header => exact .inl ⟨rfl, rfl, rfl⟩
  | payload filled =>
      rw [reads.header] at filled
      rcases Option.some.inj filled with ⟨rfl, rfl⟩
      rw [reads.wanted]
      exact .inr ⟨rfl, rfl, rfl⟩

theorem HeaderRead.wireLength (reads : HeaderRead junk size stream behind) {pkt : Packet}
    {left : ByteStream} (returns : readPktFromVnf junk size stream = some (pkt, left)) :
    pkt.wireLength = messageLength stream.content := by
  rcases readPktFromVnf_lengths returns with ⟨headed, rest, filled, wireLength, -⟩
  rw [reads.header] at filled
  rcases Option.some.inj filled with ⟨rfl, rfl⟩
  exact wireLength.trans reads.wanted

/-! ## Messages that arrive and messages that do not -/

theorem returned_of_arrived (inRange : LengthInRange size stream) (arrived : Arrived stream) :
    ∃ pkt left, readPktFromVnf junk size stream = some (pkt, left) ∧
      left.content = stream.content.drop (messageLength stream.content) ∧
      pkt.wireLength = messageLength stream.content ∧
      pkt.buf.read pkt.data (messageLength stream.content) =
        stream.content.take (messageLength stream.content) := by
  have counts := (inRange arrived.1).1
  have length : (stream.content.take (messageLength stream.content)).length =
      messageLength stream.content := by
    rw [List.length_take]
    exact Nat.min_eq_left arrived.2
  rcases readPktFromVnf_whole (by rw [length]; exact counts)
    ((messageLength_take counts).trans length.symm)
    (List.take_append_drop (messageLength stream.content) stream.content).symm with
    ⟨pkt, left, returns, content, byteLen, -, bytes⟩
  rcases @headerRead junk size _ arrived.1 with ⟨behind, reads⟩
  rw [length] at bytes
  exact ⟨pkt, left, returns, content, reads.wireLength returns, bytes⟩

theorem none_of_pending (waits : stream.atEnd = .waits) (pending : ¬ Arrived stream) :
    readPktFromVnf junk size stream = none := by
  have notFailed : ¬ stream.atEnd = .failed := by rw [waits]; decide
  rcases Nat.lt_or_ge stream.content.length nsohdrSize with short | header
  · have stuck : stream.recvAll nsohdrSize = .stuck := by
      rw [recvAll_short (.inr (by omega)), if_neg notFailed]
    simp only [readPktFromVnf, stuck]
    rfl
  · rcases @headerRead junk size _ header with ⟨behind, reads⟩
    have short : stream.content.length < messageLength stream.content := by
      rw [Arrived] at pending
      omega
    have stuck : behind.recvAll ((messageLength stream.content : Int) - nsohdrSize) = .stuck := by
      rw [recvAll_short (.inr ?_), if_neg (by rw [reads.atEnd]; exact notFailed)]
      rw [reads.content, List.length_drop]
      omega
    simp only [readPktFromVnf, reads.header, fill, Option.bind_eq_bind, Option.bind_some,
      reads.wanted, stuck]
    rfl

/-- What is returned where the connection neither ends nor fails in front of a message. -/
theorem returned_message (inRange : LengthInRange size stream)
    (arrives : stream.atEnd = .waits ∨ Arrived stream) {pkt : Packet} {left : ByteStream}
    (returns : readPktFromVnf junk size stream = some (pkt, left)) :
    Arrived stream ∧ left.content = stream.content.drop (messageLength stream.content) ∧
      pkt.wireLength = messageLength stream.content ∧
      pkt.buf.read pkt.data (messageLength stream.content) =
        stream.content.take (messageLength stream.content) := by
  have arrived : Arrived stream := by
    by_contra pending
    rw [none_of_pending (arrives.resolve_right pending) pending] at returns
    simp at returns
  rcases @returned_of_arrived junk _ _ inRange arrived with ⟨pkt', left', returns', message⟩
  rcases Option.some.inj (returns.symm.trans returns') with ⟨rfl, rfl⟩
  exact ⟨arrived, message⟩

/-! ## Bounds and termination -/

/-- A loop that wants a number of bytes from zero on asks for what is missing of it. -/
theorem inBuffer_of_fits {offset : Nat} {wanted : Int} {unread : ByteStream} {loop : ReadLoop}
    (positive : 0 ≤ wanted) (fits : offset + wanted ≤ size + tailroom)
    (reaches : Reaches (ReadLoop.turn wanted) ⟨[], unread⟩ loop) :
    InBuffer size (offset + loop.received.length) (loop.room wanted) := by
  have started : 0 ≤ ReadLoop.room wanted ⟨[], unread⟩ := by
    rw [ReadLoop.room, List.length_nil]
    omega
  have room := (ReadLoop.kept_reaches reaches).room started
  refine ⟨room, ?_⟩
  rw [ReadLoop.room]
  omega

theorem inRange_of_safe (safe : ReadsSafely extent junk size stream) :
    LengthInRange size stream := by
  intro header
  rcases @headerRead junk size _ header with ⟨behind, reads⟩
  by_cases none : (messageLength stream.content : Int) - nsohdrSize = 0
  · simp only [nsohdrSize, tailroom] at none ⊢
    omega
  · have first := safe.inBuffer reads.payload .refl
    rw [ReadLoop.room, List.length_nil, Nat.cast_zero, sub_zero] at first
    rcases first none with ⟨positive, inside⟩
    omega

/-- Without a header there is no second loop, unless the connection failed. -/
theorem header_of_payload {headed : Packet} {rest : ByteStream}
    (filled : fill (allocPacket junk size) 0 (stream.recvAll nsohdrSize) = some (headed, rest))
    (arrives : stream.atEnd = .waits ∨ Arrived stream) : nsohdrSize ≤ stream.content.length := by
  rcases arrives with waits | arrived
  · by_contra short
    rw [recvAll_short (.inr (by omega)), if_neg (by rw [waits]; decide)] at filled
    simp [fill] at filled
  · exact arrived.1

/-- A call that returns or does not come back only because it waits has all that it waits for. -/
theorem arrives_of_safe (covers : ∀ {pkt left}, readPktFromVnf junk size stream =
      some (pkt, left) → messageExtent pkt ≤ extent pkt)
    (safe : ReadsSafely extent junk size stream) :
    stream.atEnd = .waits ∨ Arrived stream := by
  have inRange := inRange_of_safe safe
  rcases isEnd : stream.atEnd with - | - | -
  · exact .inl rfl
  · right
    have unwaiting : stream.atEnd ≠ .waits := by rw [isEnd]; decide
    have notFailed : ¬ stream.atEnd = .failed := by rw [isEnd]; decide
    have unstuck : ∀ {offset wanted unread}, LoopOf junk size stream offset wanted unread →
        unread.atEnd = stream.atEnd → unread.recvAll wanted ≠ .stuck := by
      intro offset wanted unread loop sameEnd
      rcases ReadLoop.halts_iff.mp (safe.terminates unwaiting loop) with ends | waits
      · exact ends
      · exact absurd (sameEnd.symm.trans waits) unwaiting
    have header : nsohdrSize ≤ stream.content.length := by
      by_contra short
      apply unstuck .header rfl
      rw [recvAll_short (.inr (by omega)), if_neg notFailed]
    refine ⟨header, ?_⟩
    rcases @headerRead junk size _ header with ⟨behind, reads⟩
    by_contra short
    apply unstuck reads.payload reads.atEnd
    rw [recvAll_short (.inr ?_), if_neg (by rw [reads.atEnd]; exact notFailed)]
    rw [reads.content, List.length_drop]
    omega
  · right
    rcases Option.isSome_iff_exists.mp (@readPktFromVnf_failed junk size _ isEnd) with
      ⟨⟨pkt, left⟩, returns⟩
    rcases safe.received returns with ⟨taken, isFront, most, -⟩
    have covered := covers returns
    have lengths := congrArg List.length isFront
    rw [List.length_append] at lengths
    rw [messageExtent] at covered
    have header : nsohdrSize ≤ stream.content.length := by omega
    rcases @headerRead junk size _ header with ⟨behind, reads⟩
    rw [reads.wireLength returns] at covered
    exact ⟨header, by omega⟩

/-- Both loops find what they want in a stream whose message has arrived. -/
theorem halts_of_arrived (inRange : LengthInRange size stream) (arrived : Arrived stream)
    {offset : Nat} {wanted : Int} {unread : ByteStream}
    (loop : LoopOf junk size stream offset wanted unread) :
    (eval (ReadLoop.turn wanted) ⟨[], unread⟩).Dom := by
  have counts := inRange arrived.1
  rcases @headerRead junk size _ arrived.1 with ⟨behind, reads⟩
  apply ReadLoop.halts_iff.mpr
  left
  rcases reads.loopOf loop with ⟨rfl, rfl, rfl⟩ | ⟨rfl, rfl, rfl⟩
  · intro stuck
    exact Outcome.noConfusion (reads.header.symm.trans stuck)
  · have wanted : (messageLength stream.content : Int) - nsohdrSize =
        (messageLength stream.content - nsohdrSize : Nat) := by omega
    have enough : messageLength stream.content - nsohdrSize ≤ unread.content.length := by
      have inStream := arrived.2
      rw [reads.content, List.length_drop]
      omega
    rcases recvAll_enough enough with ⟨rest, isComplete⟩
    rw [wanted]
    intro stuck
    exact Outcome.noConfusion (isComplete.symm.trans stuck)

theorem inBuffer_of_inRange (inRange : LengthInRange size stream)
    (arrives : stream.atEnd = .waits ∨ Arrived stream) {offset : Nat} {wanted : Int}
    {unread : ByteStream} {loop : ReadLoop} (isLoop : LoopOf junk size stream offset wanted unread)
    (reaches : Reaches (ReadLoop.turn wanted) ⟨[], unread⟩ loop) :
    InBuffer size (offset + loop.received.length) (loop.room wanted) := by
  cases isLoop with
  | header =>
      have fits : (0 : Nat) + (nsohdrSize : Int) ≤ size + tailroom := by
        simp only [nsohdrSize, tailroom]
        omega
      exact inBuffer_of_fits (by decide) fits reaches
  | payload filled =>
      have header := header_of_payload filled arrives
      have counts := inRange header
      rcases @headerRead junk size _ header with ⟨behind, reads⟩
      rw [reads.header] at filled
      rcases Option.some.inj filled with ⟨rfl, rfl⟩
      rw [reads.wanted] at reaches ⊢
      exact inBuffer_of_fits (by omega) (by omega) reaches

/-- What a call owes depends on the part of the packet that is to be received: never less than
the message. -/
theorem readsSafely_iff (covers : ∀ {pkt left}, readPktFromVnf junk size stream =
      some (pkt, left) → messageExtent pkt ≤ extent pkt) :
    ReadsSafely extent junk size stream ↔
      LengthInRange size stream ∧ (stream.atEnd = .waits ∨ Arrived stream) ∧
        ∀ {pkt left}, readPktFromVnf junk size stream = some (pkt, left) →
          extent pkt ≤ messageLength stream.content := by
  constructor
  · intro safe
    have inRange := inRange_of_safe safe
    have arrives := arrives_of_safe covers safe
    refine ⟨inRange, arrives, ?_⟩
    intro pkt left returns
    rcases returned_message inRange arrives returns with ⟨arrived, content, -⟩
    rcases safe.received returns with ⟨taken, isFront, most, -⟩
    have lengths := congrArg List.length isFront
    rw [content, List.length_append, List.length_drop] at lengths
    have enough := arrived.2
    omega
  · rintro ⟨inRange, arrives, within⟩
    constructor
    · intro unwaiting offset wanted unread loop
      exact halts_of_arrived inRange (arrives.resolve_left unwaiting) loop
    · intro offset wanted unread loop isLoop reaches _
      exact inBuffer_of_inRange inRange arrives isLoop reaches
    · intro pkt left returns
      rcases returned_message inRange arrives returns with ⟨arrived, content, -, bytes⟩
      have most := within returns
      refine ⟨stream.content.take (messageLength stream.content), ?_, ?_, ?_⟩
      · rw [content, List.take_append_drop]
      · rw [List.length_take]
        have enough := arrived.2
        omega
      · rw [← bytes, Memory.read_take _ most]

/-! ## The message and the packet -/

theorem safe_message_iff :
    ReadsSafely messageExtent junk size stream ↔
      LengthInRange size stream ∧ (stream.atEnd = .waits ∨ Arrived stream) := by
  rw [readsSafely_iff fun _ => le_rfl]
  refine ⟨fun safe => ⟨safe.1, safe.2.1⟩, fun readable => ⟨readable.1, readable.2, ?_⟩⟩
  intro pkt left returns
  rcases returned_message readable.1 readable.2 returns with ⟨arrived, -, wireLength, -⟩
  rw [messageExtent, wireLength]
  exact max_le (readable.1 arrived.1).1 le_rfl

theorem safe_packet_iff :
    ReadsSafely packetExtent junk size stream ↔
      LengthInRange size stream ∧ stream.atEnd = .waits ∧ ¬ Arrived stream := by
  have covers : ∀ {pkt left}, readPktFromVnf junk size stream = some (pkt, left) →
      messageExtent pkt ≤ packetExtent pkt := by
    intro pkt left returns
    rcases readPktFromVnf_lengths returns with ⟨-, -, -, -, byteLen⟩
    rw [messageExtent, packetExtent, byteLen]
    omega
  rw [readsSafely_iff covers]
  constructor
  · rintro ⟨inRange, arrives, within⟩
    have pending : ¬ Arrived stream := by
      intro arrived
      rcases @returned_of_arrived junk _ _ inRange arrived with
        ⟨pkt, left, returns, -, wireLength, -⟩
      rcases readPktFromVnf_lengths returns with ⟨-, -, -, -, byteLen⟩
      have most := within returns
      rw [packetExtent, byteLen, wireLength] at most
      simp only [nsohdrSize] at most
      omega
    exact ⟨inRange, arrives.resolve_right pending, pending⟩
  · rintro ⟨inRange, waits, pending⟩
    refine ⟨inRange, .inl waits, ?_⟩
    intro pkt left returns
    rw [none_of_pending waits pending] at returns
    simp at returns

/-- Reading a message is bounded, terminates and gets it exactly when its length field counts the
header, does not pass the buffer, and the connection does not end or fail in front of it.  Taken
with all the bytes that `byte_len` counts, a packet is never received. -/
theorem reads_safely_iff (junk : Memory) (size : Nat) (stream : ByteStream) :
    (ReadsSafely messageExtent junk size stream ↔
      LengthInRange size stream ∧ (stream.atEnd = .waits ∨ Arrived stream)) ∧
    (ReadsSafely packetExtent junk size stream ↔
      LengthInRange size stream ∧ stream.atEnd = .waits ∧ ¬ Arrived stream) :=
  ⟨safe_message_iff, safe_packet_iff⟩

/-- A connection that is closed before its first byte. -/
theorem closed_connection_spins :
    ¬ ReadsSafely messageExtent (fun _ => 0) 1500 ⟨[], .closed⟩ ∧
      ¬ ReadsSafely packetExtent (fun _ => 0) 1500 ⟨[], .closed⟩ := by
  refine ⟨?_, ?_⟩
  · rw [safe_message_iff]
    rintro ⟨-, isOpen | arrived⟩
    · exact StreamEnd.noConfusion isOpen
    · exact absurd arrived.1 (by decide)
  · rw [safe_packet_iff]
    rintro ⟨-, isOpen, -⟩
    exact StreamEnd.noConfusion isOpen

end Bs

end Nrg5
