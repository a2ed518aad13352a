import Nrg5.Lib.Lockstep
import Nrg5.Device

/-!
# Packets that agree on their first bytes

Two packets that differ at most behind their first `known` bytes run a handler in lockstep if
it reads no further.  The receive loop hands over such packets: what a frame does not fill is
left from an earlier one.
-/

namespace Nrg5

open ByteMemory LockProg

/-- The packets differ at most behind the first `known` bytes of their data. -/
structure Agree (known : Nat) (left right : Packet) : Prop where
  size : left.size = right.size
  byteLen : left.byteLen = right.byteLen
  data : left.data = right.data
  tail : left.tail = right.tail
  bytes : ∀ index < known, left.buf (left.data + index) = right.buf (right.data + index)

variable {known : Nat} {left right : Packet} {src : Option L2addr} {iface : Option NsoIf}

namespace Agree

/-! ## What is read -/

theorem read (start count : Nat) (agree : Agree known left right)
    (inside : start + count ≤ known) :
    left.buf.read (left.data + start) count = right.buf.read (right.data + start) count := by
  apply Memory.read_congr
  intro index isIndex
  rw [Nat.add_assoc, Nat.add_assoc]
  exact agree.bytes (start + index) (by omega)

theorem srcDevid (agree : Agree known left right) (inside : 8 ≤ known) :
    left.srcDevid = right.srcDevid :=
  congrArg deviceIdOfBytes (agree.read 0 8 (by omega))

theorem dstDevid (agree : Agree known left right) (inside : 16 ≤ known) :
    left.dstDevid = right.dstDevid :=
  congrArg deviceIdOfBytes (agree.read 8 8 (by omega))

theorem byteAt (offset : Nat) (agree : Agree known left right) (inside : offset < known) :
    left.byteAt offset = right.byteAt offset :=
  agree.bytes offset inside

theorem ruleAt (offset : Nat) (agree : Agree known left right)
    (inside : offset + rtRuleSize ≤ known) : left.ruleAt offset = right.ruleAt offset := by
  simp only [rtRuleSize] at inside
  have action := agree.byteAt offset (by omega)
  have dst := agree.read (offset + 1) 8 (by omega)
  have nh := agree.read (offset + 9) 8 (by omega)
  have index := agree.byteAt (offset + 17) (by omega)
  simp only [Packet.ruleAt, action, index, Nat.add_assoc] at dst nh ⊢
  rw [dst, nh]

theorem proto (agree : Agree known left right) (inside : 18 ≤ known) : left.proto = right.proto :=
  congrArg (fun bytes => UInt16.ofNat (beNat bytes)) (agree.read 16 2 (by omega))

theorem payload (agree : Agree known left right) (filled : left.byteLen ≤ known) :
    left.buf.read left.data left.byteLen.toNat = right.buf.read right.data right.byteLen.toNat := by
  rw [← agree.byteLen]
  exact agree.read 0 _ (by omega)

theorem clone (agree : Agree known left right) (filled : left.byteLen ≤ known) (junk : Memory) :
    left.clone junk = right.clone junk := by
  rw [Packet.clone, Packet.clone, agree.payload filled, agree.size, agree.byteLen, agree.data]

theorem setDstDevid (agree : Agree known left right) (devId : DeviceId) :
    Agree known (left.setDstDevid devId) (right.setDstDevid devId) := by
  refine ⟨agree.size, agree.byteLen, agree.data, agree.tail, ?_⟩
  intro index isIndex
  simp only [Packet.setDstDevid, Packet.put, Memory.write, agree.data]
  split
  · rfl
  · have same := agree.bytes index isIndex
    rw [agree.data] at same
    exact same

/-- The frame that is sent has the new Ethernet header and the received bytes. -/
theorem frame (agree : Agree known left right) (filled : left.byteLen ≤ known)
    (room : ethHlen ≤ left.data) (source dest : L2addr)
    (sourceSize : source.length = ethAlen) :
    (left.prependEth source dest).bytes = (right.prependEth source dest).bytes := by
  have header : (ethHeader source dest).length = ethHlen := by
    simp only [ethHeader, List.length_append, Memory.length_read, sourceSize]
    rfl
  simp only [Packet.bytes, Packet.prependEth, agree.byteLen, ← agree.data]
  apply Memory.read_congr
  intro index isIndex
  rcases Nat.lt_or_ge index ethHlen with inHeader | behind
  · rw [Memory.write_inside _ _ (by omega), Memory.write_inside _ _ (by omega)]
  · rw [Memory.write_after _ _ (by omega), Memory.write_after _ _ (by omega)]
    have same := agree.bytes (index - ethHlen) (by
      rw [agree.byteLen] at filled
      omega)
    rw [← agree.data] at same
    have place : left.data - ethHlen + index = left.data + (index - ethHlen) := by omega
    rw [place, same]

end Agree

/-! ## Forwarding -/

/-- Nothing is asked of the packets that two runs leave behind. -/
abbrev Any {α β : Type} : α → β → Prop := fun _ _ => True

theorem lockstep_wifiSend (agree : Agree known left right) (filled : left.byteLen ≤ known)
    (interface : NsoIf) (dest : L2addr) :
    Lockstep Any (wifiSend interface left dest) (wifiSend interface right dest) := by
  simp only [wifiSend, ← agree.data]
  refine lockstep_ite (fun _ => lockstep_pure trivial) fun room => ?_
  have sent := agree.frame filled (by omega) interface.ifMac dest interface.macSize
  simp only [sent]
  exact lockstep_bind _ fun failed => lockstep_pure trivial

theorem lockstep_fwdOut : Lockstep Any (fwdOut left) (fwdOut right) := by
  unfold fwdOut
  exact lockstep_bind _ fun addr => lockstep_bind _ fun _ => lockstep_pure trivial

/-- Forwarding reads the destination and sends the received bytes. -/
theorem lockstep_nsoLayerFwd (agree : Agree known left right) (filled : left.byteLen ≤ known)
    (enough : 16 ≤ known) : Lockstep Any (nsoLayerFwd left) (nsoLayerFwd right) := by
  unfold nsoLayerFwd
  rw [agree.dstDevid enough]
  refine lockstep_bind _ fun route => ?_
  cases route with
  | none => exact lockstep_fwdOut
  | some found =>
      refine lockstep_bind _ fun _ => lockstep_bind _ fun arpEntry => ?_
      cases arpEntry with
      | none => exact lockstep_fwdOut
      | some entry =>
          refine lockstep_bind _ fun _ => ?_
          exact (lockstep_wifiSend agree filled _ _).bind fun _ _ _ => lockstep_pure trivial

theorem lockstep_deliverFwd (agree : Agree known left right) (filled : left.byteLen ≤ known)
    (enough : 16 ≤ known) : Lockstep Any (deliverFwd left) (deliverFwd right) := by
  unfold deliverFwd
  exact (lockstep_nsoLayerFwd agree filled enough).bind fun _ _ _ => lockstep_pure trivial

/-- A packet that only a connected node forwards. -/
theorem lockstep_whenConnected (agree : Agree known left right) (filled : left.byteLen ≤ known)
    (enough : 16 ≤ known) :
    Lockstep Any
      (checkConnected >>= fun connected => if connected = false then pure left else deliverFwd left)
      (checkConnected >>= fun connected =>
        if connected = false then pure right else deliverFwd right) :=
  lockstep_bind _ fun _ =>
    lockstep_ite (fun _ => lockstep_pure trivial) fun _ => lockstep_deliverFwd agree filled enough

/-! ## The handlers -/

/-- A beacon is read up to its destination. -/
theorem lockstep_fwdBeacon (agree : Agree known left right) (filled : left.byteLen ≤ known)
    (enough : 16 ≤ known) :
    Lockstep Any (Device.fwdBeacon left src iface) (Device.fwdBeacon right src iface) := by
  unfold Device.fwdBeacon fwdBeaconWith
  rw [agree.dstDevid enough]
  refine lockstep_bind _ fun connected => lockstep_ite (fun _ => lockstep_pure trivial) fun _ => ?_
  refine lockstep_ite (fun _ => ?_) fun _ => ?_
  · refine lockstep_bind _ fun gwId => ?_
    have redirected := agree.setDstDevid gwId
    dsimp only
    rw [redirected.srcDevid (by omega)]
    exact lockstep_bind _ fun mac => lockstep_bind _ fun _ => lockstep_bind _ fun _ =>
      lockstep_deliverFwd redirected filled enough
  · rw [agree.srcDevid (by omega)]
    exact lockstep_bind _ fun nxtId => lockstep_bind _ fun _ =>
      lockstep_deliverFwd agree filled enough

/-- A reply is read up to its answer byte. -/
theorem lockstep_processRegReply (agree : Agree known left right) (filled : left.byteLen ≤ known)
    (enough : nsohdrSize + 1 < known) :
    Lockstep Any (Device.processRegReply left src iface)
      (Device.processRegReply right src iface) := by
  simp only [nsohdrSize] at enough
  unfold Device.processRegReply
  rw [agree.dstDevid (by omega), agree.srcDevid (by omega),
    agree.byteAt _ (by simp only [nsohdrSize]; omega)]
  refine lockstep_bind _ fun devId => lockstep_ite (fun _ => ?_) fun _ => ?_
  · refine lockstep_bind _ fun _ => ?_
    dsimp only
    refine lockstep_bind _ fun state => lockstep_ite (fun _ => ?_) fun _ => ?_
    · exact lockstep_bind _ fun nxtId => lockstep_bind _ fun entry => lockstep_bind _ fun _ =>
        lockstep_bind _ fun _ => lockstep_bind _ fun _ => lockstep_bind _ fun _ =>
        lockstep_bind _ fun _ => lockstep_pure trivial
    · exact lockstep_bind _ fun _ => lockstep_pure trivial
  · exact lockstep_whenConnected agree filled (by omega)

theorem lockstep_neighborMaintain (agree : Agree known left right) (enough : 8 ≤ known) :
    Lockstep Any (neighborMaintain left src iface) (neighborMaintain right src iface) := by
  unfold neighborMaintain
  rw [agree.srcDevid enough]
  exact lockstep_bind _ fun _ => lockstep_bind _ fun _ => lockstep_pure trivial

/-- The queue gets the bytes that were received, and no others. -/
theorem lockstep_dataProcessRx (agree : Agree known left right) (filled : left.byteLen ≤ known)
    (enough : 16 ≤ known) :
    Lockstep Any (Device.dataProcessRx left) (Device.dataProcessRx right) := by
  unfold Device.dataProcessRx
  rw [agree.dstDevid enough]
  simp only [agree.clone filled]
  refine lockstep_bind _ fun connected => lockstep_ite (fun _ => lockstep_pure trivial) fun _ => ?_
  refine lockstep_bind _ fun layer => lockstep_ite (fun _ => ?_) fun _ => ?_
  · refine lockstep_bind _ fun _ => lockstep_bind _ fun junk => lockstep_bind _ fun queue =>
      lockstep_bind _ fun _ => lockstep_ite (fun _ => ?_) fun _ => ?_
    · exact lockstep_bind _ fun _ => lockstep_bind _ fun _ => lockstep_pure trivial
    · exact lockstep_bind _ fun _ => lockstep_pure trivial
  · exact lockstep_deliverFwd agree filled enough

/-! ## Route updates -/

/-- A rule that names an interface outside the array ends the call. -/
theorem lockstep_applyRule_outside {rule : RtRule}
    (outside : ¬ rule.ifIndex.toNat < nsoMaxSupportedIfaces) :
    Lockstep (fun _ _ => False) (applyRule rule) (applyRule rule) := by
  have reads : Lockstep (fun _ _ => False) (ifaceAt rule.ifIndex.toNat)
      (ifaceAt rule.ifIndex.toNat) := by
    unfold ifaceAt
    refine lockstep_bind _ fun _ => ?_
    rw [if_neg outside]
    exact .halt _
  unfold applyRule
  exact reads.bind fun _ _ isFalse => isFalse.elim

/-- The rules behind an offset are all known as far as the loop reads them. -/
def RulesKnown (pkt : Packet) (rtData : Nat) (size : Int) : Prop :=
  (rtRuleSize : Int) ∣ size ∨
    ∃ round : Nat, (rtRuleSize * (round + 1) : Nat) ≤ size ∧
      ¬ (pkt.byteAt (rtData + rtRuleSize * round + 17)).toNat < nsoMaxSupportedIfaces

theorem RulesKnown.next {pkt : Packet} {rtData : Nat} {size : Int}
    (rules : RulesKnown pkt rtData size)
    (inside : (pkt.byteAt (rtData + 17)).toNat < nsoMaxSupportedIfaces) :
    RulesKnown pkt (rtData + rtRuleSize) (size - rtRuleSize) := by
  rcases rules with whole | ⟨round, isWhole, outside⟩
  · exact .inl (dvd_sub whole (dvd_refl _))
  · cases round with
    | zero => exact absurd inside outside
    | succ round =>
        refine .inr ⟨round, ?_, ?_⟩
        · simp only [rtRuleSize] at isWhole ⊢
          omega
        · rw [show rtData + rtRuleSize + rtRuleSize * round + 17 =
            rtData + rtRuleSize * (round + 1) + 17 by ring]
          exact outside

theorem routeLoop_more {pkt : Packet} {rtData : Nat} {size : Int} (more : 0 < size) :
    routeLoop pkt rtData size = (do
      applyRule (pkt.ruleAt rtData)
      routeLoop pkt (rtData + rtRuleSize) (size - rtRuleSize)) := by
  rw [routeLoop, dif_pos more]

theorem routeLoop_done {pkt : Packet} {rtData : Nat} {size : Int} (done : ¬ 0 < size) :
    routeLoop pkt rtData size = pure size := by
  rw [routeLoop, dif_neg done]

/-- The loop stops at a rule that ends the call, so only the rules up to there must be known. -/
theorem lockstep_routeLoop (agree : Agree known left right) (rtData : Nat) (size : Int)
    (fits : rtData + size = known) (rules : RulesKnown left rtData size) :
    Lockstep Eq (routeLoop left rtData size) (routeLoop right rtData size) := by
  induction rtData, size using routeLoop.induct with
  | case1 rtData size more ih =>
      rw [routeLoop_more more, routeLoop_more more]
      have isWhole : (rtRuleSize : Int) ≤ size := by
        rcases rules with ⟨count, isMultiple⟩ | ⟨round, isRound, -⟩
        · simp only [rtRuleSize] at isMultiple ⊢
          omega
        · simp only [rtRuleSize] at isRound ⊢
          omega
      rw [agree.ruleAt rtData (by omega)]
      by_cases inside : (right.ruleAt rtData).ifIndex.toNat < nsoMaxSupportedIfaces
      · refine lockstep_bind _ fun _ => ih ?_ (rules.next ?_)
        · push_cast
          omega
        · rw [← agree.ruleAt rtData (by omega)] at inside
          exact inside
      · exact (lockstep_applyRule_outside inside).bind fun _ _ isFalse => isFalse.elim
  | case2 rtData size done =>
      rw [routeLoop_done done, routeLoop_done done]
      exact lockstep_pure rfl

theorem lockstep_routeUpdate (agree : Agree known left right) (filled : left.byteLen = known)
    (enough : nsohdrSize < known)
    (rules : RulesKnown left (nsohdrSize + 1) (left.byteLen - nsohdrSize - 1)) :
    Lockstep Any (Device.routeUpdate left) (Device.routeUpdate right) := by
  simp only [nsohdrSize] at enough
  unfold Device.routeUpdate routeUpdateWith
  rw [agree.dstDevid (by omega), ← agree.byteLen]
  refine lockstep_bind _ fun devId => lockstep_ite (fun _ => ?_) fun _ => ?_
  · refine lockstep_bind _ fun admitted => lockstep_ite (fun _ => lockstep_pure trivial) fun _ => ?_
    refine (lockstep_routeLoop agree _ _ ?_ rules).bind ?_
    · simp only [nsohdrSize]
      push_cast
      omega
    · rintro rest _ rfl
      exact lockstep_ite (fun _ => lockstep_pure trivial) fun _ => .halt _
  · exact lockstep_whenConnected agree filled.le (by omega)

/-! ## The switch of the receive loop -/

/-- The chosen handler reads known bytes only. -/
def Covers (known : Nat) (pkt : Packet) : Prop :=
  match dispatch pkt.proto with
  | .tsd => nsohdrSize < known ∧ (pkt.msgType = tsdMsgRegReply → nsohdrSize + 1 < known)
  | .son => nsohdrSize < known ∧ (pkt.msgType = sonMsgRt →
      pkt.byteLen = known ∧
        RulesKnown pkt (nsohdrSize + 1) (pkt.byteLen - nsohdrSize - 1))
  | .data => 16 ≤ known

/-- Two packets that agree on what the handler reads are handled alike. -/
theorem lockstep_processRx (agree : Agree known left right) (filled : left.byteLen ≤ known)
    (sameHandler : dispatch left.proto = dispatch right.proto) (covers : Covers known left) :
    Lockstep Any (Device.processRx left src iface) (Device.processRx right src iface) := by
  unfold Device.processRx
  unfold Covers at covers
  rw [← sameHandler]
  cases handler : dispatch left.proto with
  | tsd =>
      rw [handler] at covers
      simp only [nsohdrSize] at covers
      have sameType : left.msgType = right.msgType := agree.byteAt nsohdrSize covers.1
      refine Lockstep.bind (?_ : Lockstep Any _ _) fun _ _ _ => lockstep_pure trivial
      unfold Device.tsdProcessRx
      rw [← sameType]
      refine lockstep_ite (fun _ => ?_) fun _ => lockstep_ite (fun isReply => ?_) fun _ =>
        lockstep_pure trivial
      · exact (lockstep_fwdBeacon agree filled (by omega)).bind fun _ _ _ => lockstep_pure trivial
      · exact (lockstep_processRegReply agree filled (covers.2 isReply)).bind
          fun _ _ _ => lockstep_pure trivial
  | son =>
      rw [handler] at covers
      have sameType : left.msgType = right.msgType := agree.byteAt nsohdrSize covers.1
      simp only [nsohdrSize] at covers
      refine Lockstep.bind (?_ : Lockstep Any _ _) fun _ _ _ => lockstep_pure trivial
      unfold Device.sonProcessRx
      rw [← sameType]
      refine lockstep_ite (fun isRt => ?_) fun _ => lockstep_ite (fun _ => ?_) fun _ =>
        lockstep_ite (fun _ => ?_) fun _ => lockstep_pure trivial
      · rcases covers.2 isRt with ⟨isFilled, rules⟩
        exact (lockstep_routeUpdate agree isFilled covers.1 rules).bind
          fun _ _ _ => lockstep_pure trivial
      · exact (lockstep_neighborMaintain agree (by omega)).bind fun _ _ _ => lockstep_pure trivial
      · exact (lockstep_whenConnected agree filled (by omega)).bind
          fun _ _ _ => lockstep_pure trivial
  | data =>
      rw [handler] at covers
      exact lockstep_dataProcessRx agree filled covers

end Nrg5
