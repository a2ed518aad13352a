import Nrg5.Network.Provenance
import Nrg5.Network.Routes

/-!
# Data over many hops

What an application gets was sent by a station or written by a network function, and it is whole
when the buffers of all stations have room for its packet.  The packets in flight have been
traced back in `Nrg5.Network.Provenance`; what is left is the last step, from the packet that a
station receives to the buffer of its application.
-/

namespace Nrg5

open ByteMemory LockProg

namespace Network

variable {ι : Type} {net : Network ι} {state next : NetState ι} {calls : List (LoggedCall ι)}
  {s : Option ι} {bytes : List UInt8}

theorem Cut.eq_of_fits {full : List UInt8} (cut : net.Cut full bytes)
    (fits : ∀ s, full.length ≤ (net.station s).mtu) : bytes = full := by
  cases cut with
  | whole => rfl
  | @short s tooLong => exact absurd (fits s) (Nat.not_le.mpr tooLong)

/-- Where the data comes from that an application gets in a buffer of some size, and that it is
whole when the buffers of all stations have room for its packet. -/
inductive Origin (net : Network ι) (calls : List (LoggedCall ι)) (size : Nat)
    (delivered : Delivered) : Prop where
  | sent {call : SendCall ι} (isCall : .send call ∈ calls)
      (src : delivered.src = (net.station call.station).devId) (dst : delivered.dst = call.dst)
      (proto : delivered.proto = call.proto)
      (whole : (∀ s, storedLength (net.station call.station).mtu call.buf.length ≤
          (net.station s).mtu) →
        delivered.bytes = call.buf.take (min size
          (storedLength (net.station call.station).mtu call.buf.length - nsohdrSize)))
  | function {message : List UInt8} (isFunction : net.functions message)
      (src : delivered.src = (messageOf message).src)
      (dst : delivered.dst = (messageOf message).dst)
      (proto : delivered.proto = (messageOf message).proto)
      (whole : (∀ s, message.length + nsohdrSize ≤ (net.station s).mtu) →
        delivered.bytes = (message.drop nsohdrSize).take size)
  | stacked {s : Option ι} {iface : NsoIf} (isCall : .advertise s ∈ calls)
      (several : 2 ≤ (net.station s).ifaces.length)
      (isOwn : iface ∈ (net.station s).ifaces)
      (src : delivered.src = deviceIdOfBytes ((ethHeader iface.ifMac bcMac).take 8))

/-- The data of a network: in the air, on the connections and at the applications. -/
structure DataIntact (net : Network ι) (calls : List (LoggedCall ι)) (state : NetState ι) :
    Prop where
  frames : ∀ s, ∀ entry ∈ (state.node s).air, Carrying (net.Traced calls) entry.2
  writes : ∀ entry ∈ (state.node none).vnfTx, Written (net.Traced calls) entry.2
  delivered : ∀ s size delivered, state.exited s = false →
    ((nsoLayerRecv size).exec (state.held s) (state.node s)).result = .done delivered →
      delivered.dst = (net.station s).devId ∧ net.Origin calls size delivered

theorem readData_fields {queued : Packet} {size : Nat} {delivered : Delivered}
    (reads : readData queued size = some delivered) :
    delivered.src = queued.srcDevid ∧ delivered.dst = queued.dstDevid ∧
      delivered.proto = queued.proto := by
  simp only [readData, Option.ite_none_right_eq_some, Option.some.injEq] at reads
  rcases reads with ⟨-, rfl⟩
  exact ⟨rfl, rfl, rfl⟩

/-- What is copied out of a packet whose length field counts bytes that are there. -/
theorem readData_bytes {queued : Packet} {size total : Nat} {delivered : Delivered}
    (reads : readData queued size = some delivered) (whole : nsohdrSize ≤ queued.bytes.length)
    (lengthField : Bs.messageLength queued.bytes = total) (inside : total ≤ queued.bytes.length) :
    delivered.bytes = (queued.bytes.drop nsohdrSize).take (min size (total - nsohdrSize)) := by
  have wireLength : queued.wireLength = total := by
    rw [← lengthField, Bs.messageLength_bytes whole, Packet.wireLength, Packet.length_swapLenVer]
  have enough : nsohdrSize ≤ queued.wireLength := by
    by_contra short
    rw [readData_none (Nat.not_le.mp short)] at reads
    exact absurd reads (by simp)
  rcases @readData_some _ size enough with ⟨other, readsOther, bytes⟩
  rw [reads] at readsOther
  rcases Option.some.inj readsOther with rfl
  rw [bytes, wireLength, Packet.bytes, Memory.read_slice]
  rw [Packet.bytes, Memory.length_read] at inside
  rw [wireLength] at enough
  omega

/-- What is read of a packet whose header is known. -/
theorem readData_shown {queued : Packet} {src dst : DeviceId} {proto : UInt16}
    {type : Option UInt8} {total : Nat} (header : messageOf queued.bytes = ⟨src, dst, proto, type⟩)
    (lengthField : Bs.messageLength queued.bytes = total) (long : nsohdrSize ≤ total)
    (inside : total ≤ queued.bytes.length) (size : Nat) :
    readData queued size = some ⟨src, dst, proto,
      (queued.bytes.drop nsohdrSize).take (min size (total - nsohdrSize))⟩ := by
  have whole : nsohdrSize ≤ queued.bytes.length := long.trans inside
  have wireLength : queued.wireLength = total := by
    rw [← lengthField, Bs.messageLength_bytes whole, Packet.wireLength, Packet.length_swapLenVer]
  have enough : nsohdrSize ≤ queued.wireLength := by
    rw [wireLength]
    exact long
  rcases @readData_some _ size enough with ⟨delivered, reads, _⟩
  rcases readData_fields reads with ⟨isSrc, isDst, isProto⟩
  have bytes := readData_bytes reads whole lengthField inside
  have counted : (nsohdrSize : Int) ≤ queued.byteLen := by
    rw [Packet.bytes, Memory.length_read] at whole
    simp only [nsohdrSize] at whole ⊢
    omega
  rw [messageOf_bytes counted] at header
  rcases Message.mk.inj header with ⟨sameSrc, sameDst, sameProto, _⟩
  rw [reads, Option.some.injEq]
  rcases delivered with ⟨_, _, _, _⟩
  dsimp only at isSrc isDst isProto bytes
  rw [isSrc, isDst, isProto, bytes, sameSrc, sameDst, sameProto]

/-- What is read of a message of a network function, once it is in the queue of its target. -/
theorem readData_function {queued : Packet} {message behind : List UInt8} {mtu : Nat}
    (isMessage : Bs.IsMessage mtu message) (same : queued.bytes = message ++ behind) (size : Nat) :
    readData queued size = some ⟨(messageOf message).src, (messageOf message).dst,
      (messageOf message).proto, (message.drop nsohdrSize).take size⟩ := by
  have long := isMessage.header
  rcases @messageOf_behind message behind long with ⟨src, dst, proto⟩
  have header : messageOf queued.bytes = ⟨(messageOf message).src, (messageOf message).dst,
      (messageOf message).proto, (messageOf (message ++ behind)).type⟩ := by
    rw [same, ← src, ← dst, ← proto]
  have field : Bs.messageLength queued.bytes = message.length := by
    rw [same, ← Bs.messageLength_take long, List.take_left, isMessage.lengthField]
  have inside : message.length ≤ queued.bytes.length := by
    rw [same, List.length_append]
    exact Nat.le_add_right _ _
  have body : (message.drop nsohdrSize).length = message.length - nsohdrSize := List.length_drop
  rw [readData_shown header field long inside, same, List.drop_append_of_le_length long,
    List.take_append_of_le_length (by rw [body]; exact Nat.min_le_right _ _), ← body,
    ← List.take_take, List.take_length]

theorem Waiting.origin {queued : Packet} {size : Nat} {delivered : Delivered}
    (small : ∀ call, .report call ∈ calls → call.layer.mtu = (net.station call.station).mtu)
    (waiting : net.Waiting calls s queued) (reads : readData queued size = some delivered) :
    net.Origin calls size delivered := by
  rcases waiting.traced with ⟨full, source, cut⟩
  rcases readData_fields reads with ⟨src, dst, proto⟩
  have header := messageOf_bytes waiting.header
  rw [cut.messageOf] at header
  have isWhole : nsohdrSize ≤ queued.bytes.length := by
    have long := waiting.header
    rw [Packet.bytes, Memory.length_read]
    omega
  have notSon : (messageOf full).proto ≠ protoCpVson := by
    intro isSon
    rw [header] at isSon
    have isData := waiting.isData
    rw [show queued.proto = protoCpVson from isSon] at isData
    exact absurd isData (by decide)
  cases source with
  | @sent call _ isCall _ isPacket =>
      rcases isPacket.header with ⟨type, message⟩
      rw [message] at header
      rcases Message.mk.inj header with ⟨sameSrc, sameDst, sameProto, -⟩
      refine .sent isCall (src.trans sameSrc.symm) (dst.trans sameDst.symm)
        (proto.trans sameProto.symm) fun fits => ?_
      have uncut := cut.eq_of_fits (by rw [isPacket.length]; exact fits)
      rw [← uncut] at isPacket
      rw [readData_bytes reads isWhole isPacket.lengthField (Nat.le_of_eq isPacket.length.symm),
        isPacket.payload, List.take_take, Nat.min_assoc, Nat.min_self]
  | @reported call _ isCall isReport =>
      rcases isReport with ⟨body, -, inBuffer, rfl⟩
      have fits := (net.station call.station).lengthFits
      rw [← small call isCall] at fits
      rw [(shows_report fits inBuffer).message] at notSon
      exact absurd rfl notSon
  | @function message behind isFunction twice =>
      have isMessage := net.functionsWhole _ isFunction
      rcases @messageOf_behind message behind isMessage.header with ⟨sameSrc, sameDst, sameProto⟩
      rw [header] at sameSrc sameDst sameProto
      refine .function isFunction (src.trans sameSrc) (dst.trans sameDst) (proto.trans sameProto)
        fun fits => ?_
      have uncut := cut.eq_of_fits (by rw [List.length_append, twice]; exact fits)
      rw [readData_function isMessage uncut, Option.some.injEq] at reads
      rw [← reads]
  | advertised isCall shown =>
      rw [shown] at notSon
      exact absurd rfl notSon
  | @stacked t _ isCall isStacked =>
      rcases isStacked.front with ⟨several, iface, isOwn, rest, rfl⟩
      refine .stacked isCall several isOwn ?_
      rw [src, ← (Message.mk.inj header).1, List.take_append_of_le_length]
      rw [length_ethHeader]
      decide
  | registered isTsd =>
      rw [header] at isTsd
      have isData := waiting.isData
      rw [show queued.proto = protoCpVtsd from isTsd] at isData
      exact absurd isData (by decide)

/-- The queue of a running station is read by the calls of its application. -/
theorem recv_of_done {held : Lock → Bool} {node : Node} {size : Nat} {delivered : Delivered}
    (free : TablesFree held)
    (isDone : ((nsoLayerRecv size).exec held node).result = .done delivered) :
    ∃ queued ∈ node.nsol.dataPq, readData queued size = some delivered := by
  have ends : (nsoLayerRecv size).wp (fun _ _ => True)
      { post := fun value _ _ => ∃ queued ∈ node.nsol.dataPq, readData queued size = some value
        halt := fun _ _ _ => True
        block := fun _ _ _ => True } held node := by
    rw [wp_nsoLayerRecv tolerant_true free.data]
    split
    · trivial
    · split
      · cases node.nsol.dataPq with
        | nil => trivial
        | cons queued rest =>
            dsimp only
            cases reads : readData queued size with
            | none => trivial
            | some value => exact ⟨queued, List.mem_cons_self, reads⟩
      · trivial
  have atEnd := ((wp_iff_exec _ _).mp ends).2
  rw [Ending.Holds, isDone] at atEnd
  exact atEnd

variable [DecidableEq ι]

/-- In every run the data goes back to the calls and to the messages of the network functions. -/
theorem data_integrity (run : net.LoggedRun calls state) : net.DataIntact calls state := by
  have all := allTraced_run run
  refine ⟨fun s => (all.nodes s).frames, (all.nodes none).writes, ?_⟩
  intro s size delivered alive isDone
  have free := tablesFree_reachable (reachable_iff_loggedRun.mpr ⟨_, run⟩) s alive
  rcases recv_of_done free isDone with ⟨queued, isMem, reads⟩
  have waiting := (all.nodes s).settled.queue queued isMem
  refine ⟨?_, waiting.origin all.small reads⟩
  rw [(readData_fields reads).2.1, waiting.forMe]

/-! ### Data for a device that has joined -/

/-- The bytes that a call of `nso_layer_recv` returns. -/
def received (size : Nat) (held : Lock → Bool) (node : Node) : Option (List UInt8) :=
  match ((nsoLayerRecv size).exec held node).result with
  | .done delivered => some delivered.bytes
  | _ => none

/-- The device has joined the base station, which sends three bytes to it. -/
def dataHeard : Scene Unit :=
  oneRadio.played oneRadio.started (deviceJoins 0 1 ++
    [.baseStation (.send [1, 2, 3] (some 2) 0x0800), .deviceHears () none 2 0])

theorem dataHeard_run : ∃ calls, oneRadio.LoggedRun calls dataHeard.state := by
  apply reachable_iff_loggedRun.mp
  apply ThreadRun.reachable
  exact threadRun_played (initial_started _) (by decide +kernel)

theorem dataHeard_intact : (∃ calls, oneRadio.DataIntact calls dataHeard.state) ∧
    received 100 (dataHeard.state.held (some ())) (dataHeard.state.node (some ())) =
      some [1, 2, 3] := by
  rcases dataHeard_run with ⟨calls, run⟩
  exact ⟨⟨calls, data_integrity run⟩, by decide +kernel⟩

end Network

end Nrg5
