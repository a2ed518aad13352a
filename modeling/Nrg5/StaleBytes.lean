import Nrg5.Agreement
import Nrg5.RxLoop

/-!
# Bytes left over in the receive buffer

The packet of a receive loop is reset between two frames and its buffer is not cleared.  A
frame is received without interference when what it leads to does not depend on these bytes.
-/

namespace Nrg5

open ByteMemory LockProg

/-! ## One round of the loop -/

/-- A receive loop that waits for a frame, with the bytes of its buffer. -/
def RxThread.waiting (mtu : Nat) (buf : Memory) (thread : RxThread) : RxThread :=
  { thread with
    pkt := { size := mtu, byteLen := 0, data := headroom, tail := headroom, buf := buf } }

/-- What can be seen of a round: how the handler ends and which mutexes it leaves, the layer
with its tables, its registration state and the queue of the application, and the frames that
were sent. -/
structure Seen where
  ending : Result Lock Halt Unit
  held : Lock → Bool
  nsol : NsoLayer
  air : List (Nat × List UInt8)
  vnfTx : List (Nat × List UInt8)

/-- One round of `__rx_thread_main`, with the mutexes that are held before it. -/
def Device.round (iface : NsoIf) (outcome : RecvFrom) (thread : RxThread) (held : Lock → Bool)
    (node : Node) : Seen :=
  let received := thread.receive outcome
  let handled := (Device.processRx received.pkt (received.deref received.src) (some iface)).exec
    held node
  { ending := handled.result.forget
    held := handled.held
    nsol := handled.state.nsol
    air := handled.state.air
    vnfTx := handled.state.vnfTx }

/-- Whatever earlier frames left in the buffer, what a round leads to is the same. -/
def StaleInvisible (mtu : Nat) (outcome : RecvFrom) : Prop :=
  ∀ (thread : RxThread) (iface : NsoIf) (held : Lock → Bool) (node : Node)
    (before other : Memory), node.nsol.mtu = mtu →
    Device.round iface outcome (thread.waiting mtu before) held node =
      Device.round iface outcome (thread.waiting mtu other) held node

/-! ## What a frame fills -/

/-- The bytes that the socket hands over. -/
def taken (mtu : Nat) : RecvFrom → List UInt8
  | .error => []
  | .frame bytes => bytes.take (mtu + ethHlen)

/-- The bytes behind the Ethernet header that the loop has after a receive: those of an NSO
frame, and zeros where another frame has been wiped. -/
def filled (mtu : Nat) (outcome : RecvFrom) : List UInt8 :=
  if (taken mtu outcome).length < ethHlen then []
  else if ((taken mtu outcome).drop 12).take 2 = ethTypeNso then (taken mtu outcome).drop ethHlen
  else List.replicate ((taken mtu outcome).length - ethHlen) 0

/-- A whole Ethernet header of an NSO frame. -/
def accepted (mtu : Nat) (outcome : RecvFrom) : Prop :=
  ethHlen ≤ (taken mtu outcome).length ∧ ((taken mtu outcome).drop 12).take 2 = ethTypeNso

instance (mtu : Nat) (outcome : RecvFrom) : Decidable (accepted mtu outcome) :=
  inferInstanceAs (Decidable (_ ∧ _))

/-- What the loop is left with: its packet and the two addresses that were allocated. -/
structure Arrives (mtu : Nat) (outcome : RecvFrom) (buf : Memory) (received : Received) : Prop where
  size : received.pkt.size = mtu
  data : received.pkt.data = headroom
  byteLen : received.pkt.byteLen = if accepted mtu outcome then (filled mtu outcome).length else 0
  tail : received.pkt.tail = headroom + received.pkt.byteLen
  known : ∀ index < (filled mtu outcome).length,
    received.pkt.buf (headroom + index) = (filled mtu outcome).getD index 0
  stale : ∀ index, (filled mtu outcome).length ≤ index →
    received.pkt.buf (headroom + index) = buf (headroom + index)
  addrs : received.addrs = if accepted mtu outcome then
    some (((taken mtu outcome).drop ethAlen).take ethAlen, (taken mtu outcome).take ethAlen)
    else none

variable {mtu : Nat} {outcome : RecvFrom} {buf : Memory} {pkt : Packet}

/-- The packet of a loop that waits for a frame. -/
def waitingPacket (mtu : Nat) (buf : Memory) : Packet :=
  { size := mtu, byteLen := 0, data := headroom, tail := headroom, buf := buf }

/-- The buffer with the bytes of the socket in front of and in the data. -/
def landed (buf : Memory) (list : List UInt8) : Memory := buf.write (headroom - ethHlen) list

theorem landed_behind {list : List UInt8} {index : Nat} (isBehind : list.length ≤ ethHlen + index) :
    landed buf list (headroom + index) = buf (headroom + index) := by
  apply Memory.write_after
  simp only [headroom, ethHlen] at isBehind ⊢
  omega

theorem landed_inside {list : List UInt8} {index : Nat} (isInside : ethHlen + index < list.length) :
    landed buf list (headroom + index) = list.getD (ethHlen + index) 0 := by
  have place : headroom + index = headroom - ethHlen + (ethHlen + index) := by
    simp only [headroom, ethHlen]
    omega
  rw [landed, place, Memory.write_inside _ _ isInside]

theorem read_landed {list : List UInt8} (start count : Nat)
    (isInside : start + count ≤ list.length) :
    (landed buf list).read (headroom - ethHlen + start) count = (list.drop start).take count :=
  Memory.read_write_slice _ _ isInside

/-- `wifi_receive` of a waiting loop, by what the socket hands over. -/
theorem receive_frame (bytes : List UInt8) :
    wifiReceive (waitingPacket mtu buf) (.frame bytes) =
      let list := taken mtu (.frame bytes)
      if list.length = 0 then ⟨-1, waitingPacket mtu buf, none⟩
      else if (landed buf list).read (headroom - ethHlen + 12) 2 ≠ ethTypeNso then
        ⟨-1, { waitingPacket mtu buf with
          buf := landed (landed buf list) (List.replicate list.length 0) }, none⟩
      else
        ⟨0, { waitingPacket mtu buf with
          buf := landed buf list
          byteLen := list.length - ethHlen
          tail := headroom + (list.length - ethHlen) },
          some ((landed buf list).read (headroom - ethHlen + 6) ethAlen,
            (landed buf list).read (headroom - ethHlen + 0) ethAlen)⟩ := by
  have room : ¬ (waitingPacket mtu buf).data < ethHlen := by
    show ¬ headroom < ethHlen
    decide
  rw [wifiReceive, if_neg room]
  rfl

theorem arrives_accepted (isAccepted : accepted mtu outcome) :
    Arrives mtu outcome buf (wifiReceive (waitingPacket mtu buf) outcome) := by
  have whole := isAccepted.1
  have isFilled : filled mtu outcome = (taken mtu outcome).drop ethHlen := by
    rw [filled, if_neg (Nat.not_lt.mpr whole), if_pos isAccepted.2]
  cases outcome with
  | error => exact absurd whole (Nat.not_succ_le_zero _)
  | frame bytes =>
      rw [receive_frame]
      simp only [ethHlen] at whole
      dsimp only
      rw [if_neg (by omega), read_landed 12 2 (by omega), isAccepted.2, if_neg (not_not_intro rfl),
        read_landed 6 ethAlen (by simp only [ethAlen]; omega),
        read_landed 0 ethAlen (by simp only [ethAlen]; omega)]
      refine ⟨rfl, rfl, ?_, rfl, ?_, ?_, ?_⟩
      · rw [if_pos isAccepted, isFilled, List.length_drop]
        simp only [ethHlen]
        omega
      · intro index isIndex
        rw [isFilled, List.length_drop] at isIndex
        rw [isFilled, List.getD_eq_getElem?_getD, List.getElem?_drop,
          ← List.getD_eq_getElem?_getD]
        exact landed_inside (by omega)
      · intro index isIndex
        rw [isFilled, List.length_drop] at isIndex
        exact landed_behind (by omega)
      · rw [if_pos isAccepted]
        rfl

/-- A frame of another protocol is wiped as far as it reached. -/
theorem arrives_wiped {bytes : List UInt8} (notEmpty : (taken mtu (.frame bytes)).length ≠ 0)
    (notAccepted : ¬ accepted mtu (.frame bytes))
    (otherType : (landed buf (taken mtu (.frame bytes))).read (headroom - ethHlen + 12) 2 ≠
      ethTypeNso)
    (isFilled : filled mtu (.frame bytes) =
      List.replicate ((taken mtu (.frame bytes)).length - ethHlen) 0) :
    Arrives mtu (.frame bytes) buf (wifiReceive (waitingPacket mtu buf) (.frame bytes)) := by
  rw [receive_frame]
  dsimp only
  rw [if_neg notEmpty, if_pos otherType]
  refine ⟨rfl, rfl, ?_, rfl, ?_, ?_, ?_⟩
  · rw [if_neg notAccepted]
    rfl
  · intro index isIndex
    rw [isFilled, List.length_replicate] at isIndex
    rw [isFilled, List.getD_replicate _ isIndex]
    exact (landed_inside (by rw [List.length_replicate]; omega)).trans
      (List.getD_replicate _ (by omega))
  · intro index isIndex
    rw [isFilled, List.length_replicate] at isIndex
    exact (landed_behind (by rw [List.length_replicate]; omega)).trans (landed_behind (by omega))
  · rw [if_neg notAccepted]

theorem arrives_whole (whole : ethHlen ≤ (taken mtu outcome).length) :
    Arrives mtu outcome buf (wifiReceive (waitingPacket mtu buf) outcome) := by
  by_cases isAccepted : accepted mtu outcome
  · exact arrives_accepted isAccepted
  · have otherType : ((taken mtu outcome).drop 12).take 2 ≠ ethTypeNso :=
      fun isNso => isAccepted ⟨whole, isNso⟩
    cases outcome with
    | error => exact absurd whole (Nat.not_succ_le_zero _)
    | frame bytes =>
        have isFilled : filled mtu (.frame bytes) =
            List.replicate ((taken mtu (.frame bytes)).length - ethHlen) 0 := by
          rw [filled, if_neg (Nat.not_lt.mpr whole), if_neg otherType]
        simp only [ethHlen] at whole
        refine arrives_wiped (by omega) isAccepted ?_ isFilled
        rw [read_landed 12 2 (by omega)]
        exact otherType

/-- A receive that fills nothing leaves the data as they were, if the type left over is not
that of an NSO frame. -/
theorem arrives_short (short : (taken mtu outcome).length < ethHlen)
    (noType : buf (headroom - 1) = 0) :
    Arrives mtu outcome buf (wifiReceive (waitingPacket mtu buf) outcome) := by
  have notAccepted : ¬ accepted mtu outcome := fun isAccepted => by
    have whole := isAccepted.1
    omega
  have isFilled : filled mtu outcome = [] := by rw [filled, if_pos short]
  have untouched : Arrives mtu outcome buf ⟨-1, waitingPacket mtu buf, none⟩ := by
    refine ⟨rfl, rfl, ?_, rfl, ?_, fun _ _ => rfl, ?_⟩
    · rw [if_neg notAccepted]
      rfl
    · rw [isFilled]
      exact fun index isIndex => absurd isIndex (Nat.not_lt_zero _)
    · rw [if_neg notAccepted]
  cases outcome with
  | error => exact untouched
  | frame bytes =>
      by_cases isEmpty : (taken mtu (.frame bytes)).length = 0
      · rw [receive_frame]
        dsimp only
        rw [if_pos isEmpty]
        exact untouched
      · refine arrives_wiped isEmpty notAccepted ?_ ?_
        · have second :
              landed buf (taken mtu (.frame bytes)) (headroom - ethHlen + 12 + 1) = 0 := by
            rw [landed, Memory.write_after _ _ (by
              simp only [headroom, ethHlen] at short ⊢
              omega)]
            exact noType
          intro isNso
          have last := congrArg (fun list => list.getD 1 0) isNso
          rw [Memory.getD_read _ (by decide), second] at last
          exact absurd last (by decide)
        · rw [isFilled, Nat.sub_eq_zero_of_le short.le]
          rfl

/-! ## One round, by what arrives -/

/-- What the loop passes to the handler as the source address. -/
def srcSeen (addrs : Option (L2addr × L2addr)) (thread : RxThread) : Option L2addr :=
  match addrs with
  | some (src, dst) =>
      { thread with objects := thread.objects ++ [src, dst] }.deref (some thread.objects.length)
  | none => thread.deref thread.src

def seenOf (handled : Outcome Node Lock Op Halt Packet) : Seen :=
  { ending := handled.result.forget
    held := handled.held
    nsol := handled.state.nsol
    air := handled.state.air
    vnfTx := handled.state.vnfTx }

theorem seenOf_lockstep {left right : Prog Packet} {held : Lock → Bool} {node : Node}
    (steps : Lockstep Any left right) :
    seenOf (left.exec held node) = seenOf (right.exec held node) := by
  have same : (left.exec held node).result.forget = (right.exec held node).result.forget ∧
      (left.exec held node).held = (right.exec held node).held ∧
      (left.exec held node).state = (right.exec held node).state :=
    steps.exec
  rw [seenOf, seenOf, same.1, same.2.1, same.2.2]

theorem round_eq (iface : NsoIf) (thread : RxThread) (held : Lock → Bool) (node : Node) :
    Device.round iface outcome (thread.waiting mtu buf) held node =
      seenOf ((Device.processRx (wifiReceive (waitingPacket mtu buf) outcome).pkt
        (srcSeen (wifiReceive (waitingPacket mtu buf) outcome).addrs thread) (some iface)).exec
          held node) := by
  have isWaiting : (thread.waiting mtu buf).pkt = waitingPacket mtu buf := rfl
  rw [Device.round, RxThread.receive, isWaiting]
  rcases (wifiReceive (waitingPacket mtu buf) outcome).addrs with - | ⟨src, dst⟩
  · rfl
  · rfl

/-! ## The handler that is chosen -/

theorem proto_eq_iff {high low : UInt8} (word : UInt16)
    (isWord : word.toNat = high.toNat * 256 + low.toNat) :
    pkt.proto = word ↔ pkt.byteAt 16 = high ∧ pkt.byteAt 17 = low := by
  have first := (pkt.byteAt 16).toNat_lt
  have second := (pkt.byteAt 17).toNat_lt
  have number : pkt.proto.toNat = (pkt.byteAt 16).toNat * 256 + (pkt.byteAt 17).toNat := by
    have bytes : pkt.buf.read (pkt.data + 16) 2 = [pkt.byteAt 16, pkt.byteAt 17] := rfl
    rw [Packet.proto, bytes, UInt16.toNat_ofNat']
    simp only [beNat, List.reverse_cons, List.reverse_nil, List.nil_append, List.cons_append, leNat]
    omega
  rw [← UInt16.toNat_inj, ← UInt8.toNat_inj, ← UInt8.toNat_inj, number, isWord]
  have highSmall := high.toNat_lt
  have lowSmall := low.toNat_lt
  omega

/-- The two bytes of the protocol decide the handler. -/
theorem dispatch_proto : dispatch pkt.proto =
    if pkt.byteAt 16 = 0xF0 ∧ pkt.byteAt 17 = 0 then .tsd
    else if pkt.byteAt 16 = 0xF0 ∧ pkt.byteAt 17 = 1 then .son
    else .data := by
  rw [dispatch]
  exact if_congr (proto_eq_iff protoCpVtsd rfl) rfl
    (if_congr (proto_eq_iff protoCpVson rfl) rfl rfl)

/-! ## Frames that say enough -/

/-- The rules of a route update fill it, or an earlier rule ends the call. -/
def RulesFilled (known : List UInt8) : Prop :=
  rtRuleSize ∣ known.length - 21 ∨
    ∃ round, 21 + rtRuleSize * (round + 1) ≤ known.length ∧
      ¬ (known.getD (21 + rtRuleSize * round + 17) 0).toNat < nsoMaxSupportedIfaces

/-- The bytes that a receive fills reach to the last one that a handler reads: the first byte
of the protocol of a data message and the second one where the first is that of a control
message, and in a control message the type, the answer of a reply and whole rules. -/
def Covered (known : List UInt8) : Prop :=
  17 ≤ known.length ∧ (known.getD 16 0 = 0xF0 →
    18 ≤ known.length ∧
    (known.getD 17 0 = 0 →
      21 ≤ known.length ∧ (known.getD 20 0 = tsdMsgRegReply → 22 ≤ known.length)) ∧
    (known.getD 17 0 = 1 →
      21 ≤ known.length ∧ (known.getD 20 0 = sonMsgRt → RulesFilled known)))

variable {received : Received}

theorem Arrives.byteAt (arrives : Arrives mtu outcome buf received) {offset : Nat}
    (isKnown : offset < (filled mtu outcome).length) :
    received.pkt.byteAt offset = (filled mtu outcome).getD offset 0 := by
  rw [Packet.byteAt, arrives.data]
  exact arrives.known offset isKnown

theorem Arrives.agree {other : Memory} {second : Received}
    (arrives : Arrives mtu outcome buf received) (also : Arrives mtu outcome other second) :
    Agree (filled mtu outcome).length received.pkt second.pkt := by
  refine ⟨arrives.size.trans also.size.symm, arrives.byteLen.trans also.byteLen.symm,
    arrives.data.trans also.data.symm, ?_, ?_⟩
  · rw [arrives.tail, also.tail, arrives.byteLen, also.byteLen]
  · intro index isKnown
    exact (arrives.byteAt isKnown).trans (also.byteAt isKnown).symm

theorem whole_of_filled {index : Nat} (isKnown : index < (filled mtu outcome).length) :
    ethHlen ≤ (taken mtu outcome).length := by
  by_contra short
  rw [filled, if_pos (by omega)] at isKnown
  exact absurd isKnown (Nat.not_lt_zero _)

/-- Only an NSO frame fills in something else than zeros. -/
theorem accepted_of_filled {index : Nat} (isKnown : index < (filled mtu outcome).length)
    (notZero : (filled mtu outcome).getD index 0 ≠ 0) : accepted mtu outcome := by
  have whole := whole_of_filled isKnown
  refine ⟨whole, ?_⟩
  by_contra otherType
  rw [filled, if_neg (Nat.not_lt.mpr whole), if_neg otherType, List.length_replicate] at isKnown
  rw [filled, if_neg (Nat.not_lt.mpr whole), if_neg otherType, List.getD_replicate _ isKnown]
    at notZero
  exact notZero rfl

theorem Arrives.rulesKnown (arrives : Arrives mtu outcome buf received)
    (isFilled : received.pkt.byteLen = (filled mtu outcome).length)
    (typed : 21 ≤ (filled mtu outcome).length) (rules : RulesFilled (filled mtu outcome)) :
    RulesKnown received.pkt (nsohdrSize + 1) (received.pkt.byteLen - nsohdrSize - 1) := by
  rw [isFilled]
  rcases rules with ⟨count, isMultiple⟩ | ⟨round, isRound, outside⟩
  · refine .inl ⟨count, ?_⟩
    simp only [rtRuleSize, nsohdrSize] at isMultiple ⊢
    omega
  · refine .inr ⟨round, ?_, ?_⟩
    · simp only [rtRuleSize, nsohdrSize] at isRound ⊢
      push_cast
      omega
    · rw [arrives.byteAt (by simp only [rtRuleSize, nsohdrSize] at isRound ⊢; omega)]
      exact outside

theorem Arrives.covers (arrives : Arrives mtu outcome buf received)
    (covered : Covered (filled mtu outcome)) :
    Covers (filled mtu outcome).length received.pkt := by
  have high := arrives.byteAt covered.1
  rw [Covers, dispatch_proto, high]
  by_cases isControl : (filled mtu outcome).getD 16 0 = 0xF0
  · rcases covered.2 isControl with ⟨second, tsd, son⟩
    have isAccepted : accepted mtu outcome :=
      accepted_of_filled covered.1 (by rw [isControl]; decide)
    have isFilled : received.pkt.byteLen = (filled mtu outcome).length := by
      rw [arrives.byteLen, if_pos isAccepted]
    rw [arrives.byteAt (by omega : 17 < (filled mtu outcome).length)]
    by_cases isTsd : (filled mtu outcome).getD 17 0 = 0
    · have reads := tsd isTsd
      rw [if_pos ⟨isControl, isTsd⟩]
      dsimp only
      rw [Packet.msgType, arrives.byteAt (by simp only [nsohdrSize]; omega)]
      exact reads
    · rw [if_neg fun both => isTsd both.2]
      by_cases isSon : (filled mtu outcome).getD 17 0 = 1
      · have reads := son isSon
        rw [if_pos ⟨isControl, isSon⟩]
        dsimp only
        rw [Packet.msgType, arrives.byteAt (by simp only [nsohdrSize]; omega)]
        exact ⟨reads.1, fun isRt =>
          ⟨isFilled, arrives.rulesKnown isFilled reads.1 (reads.2 isRt)⟩⟩
      · rw [if_neg fun both => isSon both.2]
        dsimp only
        omega
  · rw [if_neg fun both => isControl both.1, if_neg fun both => isControl both.1]
    have enough := covered.1
    dsimp only
    omega

/-- A receive that fills what the handlers read leads to one and the same round. -/
theorem invisible_of_covered (covered : Covered (filled mtu outcome)) :
    StaleInvisible mtu outcome := by
  intro thread iface held node before other _
  have whole := whole_of_filled covered.1
  have arrives : Arrives mtu outcome before _ := arrives_whole whole
  have also : Arrives mtu outcome other _ := arrives_whole whole
  have agree := arrives.agree also
  have isFilled : (wifiReceive (waitingPacket mtu before) outcome).pkt.byteLen ≤
      (filled mtu outcome).length := by
    rw [arrives.byteLen]
    split
    · exact le_refl _
    · exact Int.natCast_nonneg _
  have sameHandler : dispatch (wifiReceive (waitingPacket mtu before) outcome).pkt.proto =
      dispatch (wifiReceive (waitingPacket mtu other) outcome).pkt.proto := by
    by_cases isControl : (filled mtu outcome).getD 16 0 = 0xF0
    · rw [agree.proto (covered.2 isControl).1]
    · rw [dispatch_proto, dispatch_proto, arrives.byteAt covered.1, also.byteAt covered.1]
      simp only [isControl, false_and, if_false]
  rw [round_eq, round_eq, arrives.addrs, also.addrs]
  exact seenOf_lockstep
    (lockstep_processRx agree isFilled sameHandler (arrives.covers covered))

end Nrg5
