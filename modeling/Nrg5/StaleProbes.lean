import Nrg5.StaleBytes
import Nrg5.HandlerRules
import Nrg5.Survival.Basic

/-!
# Frames that say too little

A receive that does not fill what the handlers read leads to different rounds on different
left-over bytes.  Each kind of such a frame is shown to a device with empty tables, once with
each of two completions.
-/

namespace Nrg5

open ByteMemory LockProg

variable {mtu : Nat} {outcome : RecvFrom} {pkt : Packet}

/-- A buffer with some bytes in its data part. -/
def stale (payload : Nat → UInt8) : Memory := fun offset =>
  if offset < headroom then 0 else payload (offset - headroom)

/-- The known bytes, completed. -/
def complete (known : List UInt8) (rest : Nat → UInt8) (index : Nat) : UInt8 :=
  if index < known.length then known.getD index 0 else rest index

/-- What a loop receives on top of a completion of its bytes. -/
def receivedOn (mtu : Nat) (outcome : RecvFrom) (rest : Nat → UInt8) : Received :=
  wifiReceive (waitingPacket mtu (stale (complete (filled mtu outcome) rest))) outcome

variable {rest : Nat → UInt8}

theorem arrives_receivedOn : Arrives mtu outcome (stale (complete (filled mtu outcome) rest))
    (receivedOn mtu outcome rest) := by
  rcases Nat.lt_or_ge (taken mtu outcome).length ethHlen with short | whole
  · exact arrives_short short rfl
  · exact arrives_whole whole

theorem byteAt_receivedOn (index : Nat) :
    (receivedOn mtu outcome rest).pkt.byteAt index = complete (filled mtu outcome) rest index := by
  have arrives := @arrives_receivedOn mtu outcome rest
  rcases Nat.lt_or_ge index (filled mtu outcome).length with isKnown | isStale
  · rw [arrives.byteAt isKnown, complete, if_pos isKnown]
  · rw [Packet.byteAt, arrives.data, arrives.stale index isStale, stale, if_neg (by omega),
      Nat.add_sub_cancel_left]

theorem byteAt_known {index : Nat} (isKnown : index < (filled mtu outcome).length) :
    (receivedOn mtu outcome rest).pkt.byteAt index = (filled mtu outcome).getD index 0 := by
  rw [byteAt_receivedOn, complete, if_pos isKnown]

theorem byteAt_stale {index : Nat} (isStale : (filled mtu outcome).length ≤ index) :
    (receivedOn mtu outcome rest).pkt.byteAt index = rest index := by
  rw [byteAt_receivedOn, complete, if_neg (by omega)]

theorem tenIfaces_fit : (List.replicate 10 wlan0).length ≤ nsoMaxSupportedIfaces := by decide

/-- A device with empty tables. -/
def probe (mtu : Nat) (devId : DeviceId) (state : DevState) : Node :=
  Node.start { NsoLayer.initial devId 0 mtu (List.replicate 10 wlan0) tenIfaces_fit with
    devState := state } { Env.nominal with stackAddr := .null }

theorem devState_probe (devId : DeviceId) (state : DevState) :
    (probe mtu devId state).nsol.devState = state := rfl

theorem devId_probe (devId : DeviceId) (state : DevState) :
    (probe mtu devId state).nsol.devId = devId := rfl

/-- A loop that has received nothing yet. -/
def idle : RxThread := RxThread.start (fun _ => 0) 0

/-- What is seen of a device with empty tables. -/
def probed (mtu : Nat) (devId : DeviceId) (state : DevState) (received : Received) : Seen :=
  seenOf ((Device.processRx received.pkt (srcSeen received.addrs idle) (some wlan0)).exec
    (fun _ => false) (probe mtu devId state))

/-- Two completions that lead to different rounds of the device which the first is for. -/
theorem visible_of_probed (state : DevState) (first second : Nat → UInt8)
    (differ : probed mtu (receivedOn mtu outcome first).pkt.dstDevid state
        (receivedOn mtu outcome first) ≠
      probed mtu (receivedOn mtu outcome first).pkt.dstDevid state
        (receivedOn mtu outcome second)) :
    ¬ StaleInvisible mtu outcome := by
  intro invisible
  have same := invisible idle wlan0 (fun _ => false)
    (probe mtu (receivedOn mtu outcome first).pkt.dstDevid state)
    (stale (complete (filled mtu outcome) first)) (stale (complete (filled mtu outcome) second)) rfl
  rw [round_eq, round_eq] at same
  exact differ same

theorem seenOf_post {prog : Prog Packet} {node : Node} {post : Node → Prop}
    (returns : prog.wp (fun _ _ => True) { post := fun _ _ after => post after }
      (fun _ => false) node) :
    (seenOf (prog.exec (fun _ => false) node)).ending = .done () ∧
      ∃ after, post after ∧ (seenOf (prog.exec (fun _ => false) node)).nsol = after.nsol := by
  rcases (wp_done_iff_exec _ _).mp returns with ⟨-, value, isDone, isPost⟩
  exact ⟨by rw [seenOf, isDone]; rfl, _, isPost, rfl⟩

theorem seenOf_halt {prog : Prog Packet} {node : Node} {reason : Halt}
    (halts : prog.wp (fun _ _ => True)
      { post := fun _ _ _ => False, halt := fun why _ _ => why = reason } (fun _ => false) node) :
    (seenOf (prog.exec (fun _ => false) node)).ending = .halted reason := by
  have ends := ((wp_iff_exec _ _).mp halts).2
  rw [Ending.Holds] at ends
  cases isResult : (prog.exec (fun _ => false) node).result with
  | done value =>
      rw [isResult] at ends
      exact ends.elim
  | halted why =>
      rw [isResult] at ends
      rw [seenOf, isResult, Result.forget, ends]
  | blocked mutex =>
      rw [isResult] at ends
      exact ends.elim

/-! ## Rounds of a device with empty tables -/

variable {devId : DeviceId} {src : Option L2addr}

/-- A data message for the device comes into the queue. -/
theorem probed_forMe (isData : dispatch pkt.proto = .data) (forMe : pkt.dstDevid = devId) :
    (seenOf ((Device.processRx pkt src (some wlan0)).exec (fun _ => false)
      (probe mtu devId .connected))).nsol.dataPq.length = 1 := by
  have returns : (Device.processRx pkt src (some wlan0)).wp (fun _ _ => True)
      { post := fun _ _ after => after.nsol.dataPq.length = 1 } (fun _ => false)
      (probe mtu devId .connected) := by
    unfold Device.processRx
    rw [isData]
    dsimp only
    rw [wp_dataProcessRx tolerant_true ⟨rfl, rfl, rfl, rfl⟩, if_neg Bool.false_ne_true,
      devState_probe, devId_probe, if_neg (not_not_intro rfl), if_pos forMe]
    rfl
  rcases (seenOf_post returns).2 with ⟨after, isOne, same⟩
  rw [same]
  exact isOne

/-- One for another device has no route. -/
theorem probed_notForMe (isData : dispatch pkt.proto = .data) (notForMe : pkt.dstDevid ≠ devId) :
    (seenOf ((Device.processRx pkt src (some wlan0)).exec (fun _ => false)
      (probe mtu devId .connected))).nsol.dataPq.length = 0 := by
  have returns : (Device.processRx pkt src (some wlan0)).wp (fun _ _ => True)
      { post := fun _ _ after => after.nsol.dataPq.length = 0 } (fun _ => false)
      (probe mtu devId .connected) := by
    unfold Device.processRx
    rw [isData]
    dsimp only
    rw [wp_dataProcessRx tolerant_true ⟨rfl, rfl, rfl, rfl⟩, if_neg Bool.false_ne_true,
      devState_probe, devId_probe, if_neg (not_not_intro rfl), if_neg notForMe, wp_deliverFwd,
      wp_nsoLayerFwd tolerant_true rfl rfl]
    rfl
  rcases (seenOf_post returns).2 with ⟨after, isZero, same⟩
  rw [same]
  exact isZero

/-- A message of no known type is dropped. -/
theorem probed_unknown {state : DevState} (isTsd : dispatch pkt.proto = .tsd)
    (unknown : pkt.msgType = 2) :
    (seenOf ((Device.processRx pkt src (some wlan0)).exec (fun _ => false)
      (probe mtu devId state))).ending = .done () ∧
    (seenOf ((Device.processRx pkt src (some wlan0)).exec (fun _ => false)
      (probe mtu devId state))).nsol.dataPq.length = 0 := by
  have returns : (Device.processRx pkt src (some wlan0)).wp (fun _ _ => True)
      { post := fun _ _ after => after.nsol.dataPq.length = 0 } (fun _ => false)
      (probe mtu devId state) := by
    unfold Device.processRx Device.tsdProcessRx
    rw [isTsd, unknown]
    exact (rfl : 0 = 0)
  rcases seenOf_post returns with ⟨ending, after, isZero, same⟩
  rw [same]
  exact ⟨ending, isZero⟩

/-- A reply that admits an unregistered device ends the process, for nobody is known by the
source address; one that refuses it is dropped. -/
theorem probed_reply {mac : L2addr} (isTsd : dispatch pkt.proto = .tsd)
    (isReply : pkt.msgType = tsdMsgRegReply) (forMe : pkt.dstDevid = devId) :
    (seenOf ((Device.processRx pkt (some mac) (some wlan0)).exec (fun _ => false)
      (probe mtu devId .unreg))).ending =
        if pkt.byteAt (nsohdrSize + 1) = nrg5RegSuccess then .halted .exit else .done () := by
  have notReg : ¬ tsdMsgRegReply = tsdMsgReg := by decide
  split
  · rename_i success
    apply seenOf_halt
    unfold Device.processRx Device.tsdProcessRx
    rw [isTsd, isReply]
    dsimp only
    rw [if_neg notReg, if_pos rfl, wp_bind, wp_bind, wp_processRegReply tolerant_true,
      devState_probe, devId_probe, if_pos forMe, if_neg Bool.false_ne_true, if_pos ⟨rfl, success⟩,
      if_neg Bool.false_ne_true]
    rfl
  · rename_i refused
    apply (@seenOf_post _ _ (fun _ => True) ?_).1
    unfold Device.processRx Device.tsdProcessRx
    rw [isTsd, isReply]
    dsimp only
    rw [if_neg notReg, if_pos rfl, wp_bind, wp_bind, wp_processRegReply tolerant_true,
      devState_probe, devId_probe, if_pos forMe, if_neg Bool.false_ne_true,
      if_neg fun both => refused both.2]
    trivial

theorem mem_rules {rtData rounds : Nat} {rule : RtRule} :
    rule ∈ pkt.rules rtData rounds ↔
      ∃ round < rounds, pkt.ruleAt (rtData + rtRuleSize * round) = rule := by
  induction rounds generalizing rtData with
  | zero => simp [Packet.rules]
  | succ rounds ih =>
      rw [Packet.rules, List.mem_cons, ih]
      constructor
      · rintro (rfl | ⟨round, isRound, rfl⟩)
        · exact ⟨0, Nat.succ_pos _, rfl⟩
        · exact ⟨round + 1, by omega, by rw [Nat.mul_succ, Nat.add_assoc, Nat.add_comm rtRuleSize]⟩
      · rintro ⟨round, isRound, rfl⟩
        cases round with
        | zero => exact .inl rfl
        | succ round =>
            refine .inr ⟨round, by omega, ?_⟩
            rw [Nat.mul_succ, Nat.add_assoc, Nat.add_comm rtRuleSize]

/-- A rule on an interface outside the array ends the loop, whatever comes before it. -/
theorem routeLoop_outside {node : Node} {held : Lock → Bool} (tenIfaces : node.nsol.ifacesNb = 10)
    (rtData : Nat) (size : Int)
    (outside : ∃ rule ∈ pkt.rules rtData (ruleRounds size),
      ¬ rule.ifIndex.toNat < nsoMaxSupportedIfaces) {ending : Ending Node Lock Halt Int}
    (ends : ∀ held after, ending.halt .outOfBounds held after) :
    (routeLoop pkt rtData size).wp (fun _ _ => True) ending held node := by
  induction rtData, size using routeLoop.induct generalizing node with
  | case1 rtData size more ih =>
      rw [ruleRounds_pos more, Packet.rules] at outside
      rw [routeLoop_more more, wp_bind]
      by_cases inside : (pkt.ruleAt rtData).ifIndex.toNat < nsoMaxSupportedIfaces
      · have isLater : ∃ rule ∈ pkt.rules (rtData + rtRuleSize) (ruleRounds (size - rtRuleSize)),
            ¬ rule.ifIndex.toNat < nsoMaxSupportedIfaces := by
          rcases outside with ⟨rule, isMem, isOutside⟩
          rcases List.mem_cons.mp isMem with rfl | isLater
          · exact absurd inside isOutside
          · exact ⟨rule, isLater, isOutside⟩
        refine wp_allow ((wp_applyRule _ _).mpr ⟨?_, ih ?_ isLater⟩)
        · rw [tenIfaces]
          exact inside
        · rw [NsoLayer.ifacesNb, ifaces_appliedRule]
          exact tenIfaces
      · simp only [applyRule, ifaceAt, wp_bind, wp_query, wp_ite, wp_halt, if_neg inside, true_and]
        exact ends _ _
  | case2 rtData size done =>
      rw [ruleRounds_nonpos done] at outside
      rcases outside with ⟨rule, isMem, -⟩
      cases isMem

theorem wp_processRx_rules {ending : Ending Node Lock Halt Packet}
    (isSon : dispatch pkt.proto = .son) (isRt : pkt.msgType = sonMsgRt)
    (forMe : pkt.dstDevid = devId)
    (rules : (updateRoutes pkt).wp (fun _ _ => True) ending (fun _ => false)
      (probe mtu devId .connected)) :
    (Device.processRx pkt src (some wlan0)).wp (fun _ _ => True) ending (fun _ => false)
      (probe mtu devId .connected) := by
  have promoted : (probe mtu devId .connected).promoted = probe mtu devId .connected :=
    promoted_of_not_reg (by rw [devState_probe]; decide)
  unfold Device.processRx Device.sonProcessRx Device.routeUpdate
  rw [isSon, isRt]
  dsimp only
  rw [if_pos rfl, wp_bind, wp_bind, wp_routeUpdateWith tolerant_true
    (fun ending => wp_admitRouteUpdate tolerant_true ending), devState_probe, devId_probe,
    if_pos forMe, if_neg Bool.false_ne_true, if_neg (by decide), promoted]
  exact rules

theorem ifacesNb_probe (mtu : Nat) (devId : DeviceId) (state : DevState) :
    (probe mtu devId state).nsol.ifacesNb = 10 := rfl

theorem probed_partRule (isSon : dispatch pkt.proto = .son) (isRt : pkt.msgType = sonMsgRt)
    (forMe : pkt.dstDevid = devId)
    (inside : ∀ rule ∈ pkt.routeRules, rule.ifIndex.toNat < nsoMaxSupportedIfaces)
    (partRule : ¬ pkt.RulesWhole) :
    (seenOf ((Device.processRx pkt src (some wlan0)).exec (fun _ => false)
      (probe mtu devId .connected))).ending = .halted .assertion := by
  apply seenOf_halt
  apply wp_processRx_rules isSon isRt forMe
  unfold updateRoutes
  rw [wp_bind]
  refine wp_allow ((wp_routeLoop _ _ _).mpr ⟨inside, ?_⟩)
  dsimp only
  have notWhole : ¬ pkt.byteLen - nsohdrSize - 1 -
      rtRuleSize * ruleRounds (pkt.byteLen - nsohdrSize - 1) = 0 :=
    fun isWhole => partRule (rulesWhole_iff.mp isWhole)
  rw [wp_ite, if_neg notWhole]
  rfl

theorem probed_outside (isSon : dispatch pkt.proto = .son) (isRt : pkt.msgType = sonMsgRt)
    (forMe : pkt.dstDevid = devId)
    (outside : ∃ rule ∈ pkt.routeRules, ¬ rule.ifIndex.toNat < nsoMaxSupportedIfaces) :
    (seenOf ((Device.processRx pkt src (some wlan0)).exec (fun _ => false)
      (probe mtu devId .connected))).ending = .halted .outOfBounds := by
  apply seenOf_halt
  apply wp_processRx_rules isSon isRt forMe
  unfold updateRoutes
  rw [wp_bind]
  exact routeLoop_outside (ifacesNb_probe mtu devId .connected) _ _ outside fun _ _ => rfl

theorem probed_unknownSon {state : DevState} (isSon : dispatch pkt.proto = .son)
    (unknown : pkt.msgType = 3) :
    (seenOf ((Device.processRx pkt src (some wlan0)).exec (fun _ => false)
      (probe mtu devId state))).ending = .done () := by
  apply (@seenOf_post _ _ (fun _ => True) ?_).1
  unfold Device.processRx Device.sonProcessRx
  rw [isSon, unknown]
  trivial

/-! ## Each kind of frame that says too little -/

theorem agree_receivedOn (first second : Nat → UInt8) :
    Agree (filled mtu outcome).length (receivedOn mtu outcome first).pkt
      (receivedOn mtu outcome second).pkt :=
  arrives_receivedOn.agree arrives_receivedOn

theorem srcSeen_receivedOn (isAccepted : accepted mtu outcome) :
    ∃ mac, srcSeen (receivedOn mtu outcome rest).addrs idle = some mac := by
  rw [arrives_receivedOn.addrs, if_pos isAccepted]
  exact ⟨_, rfl⟩

theorem byteLen_receivedOn (isAccepted : accepted mtu outcome) :
    (receivedOn mtu outcome rest).pkt.byteLen = (filled mtu outcome).length := by
  rw [arrives_receivedOn.byteLen, if_pos isAccepted]

theorem visible_of_receiver (short : (filled mtu outcome).length < 16) :
    ¬ StaleInvisible mtu outcome := by
  have isData : ∀ last : UInt8, dispatch (receivedOn mtu outcome
      fun index => if index = 15 then last else 0).pkt.proto = .data := by
    intro last
    rw [dispatch_proto, byteAt_stale (by omega), byteAt_stale (by omega)]
    rfl
  have otherReceiver :
      (receivedOn mtu outcome fun index => if index = 15 then 1 else 0).pkt.dstDevid ≠
        (receivedOn mtu outcome fun index => if index = 15 then 0 else 0).pkt.dstDevid := by
    intro same
    have bytes := congrArg (fun devId => (deviceIdBytes devId).getD 7 0) same
    simp only [Packet.dstDevid, deviceIdBytes_deviceIdOfBytes (Memory.length_read _ _ _)] at bytes
    rw [Memory.getD_read _ (by decide), Memory.getD_read _ (by decide)] at bytes
    have last : (receivedOn mtu outcome fun index => if index = 15 then 1 else 0).pkt.byteAt 15 =
        (receivedOn mtu outcome fun index => if index = 15 then 0 else 0).pkt.byteAt 15 := bytes
    rw [byteAt_stale (by omega), byteAt_stale (by omega)] at last
    exact absurd last (by decide)
  refine visible_of_probed .connected (fun index => if index = 15 then 0 else 0)
    (fun index => if index = 15 then 1 else 0) fun same => ?_
  have queues := congrArg (fun seen => seen.nsol.dataPq.length) same
  dsimp only [probed] at queues
  rw [probed_forMe (isData 0) rfl, probed_notForMe (isData 1) otherReceiver] at queues
  exact absurd queues (by decide)

theorem visible_of_proto (enough : 16 ≤ (filled mtu outcome).length)
    (short : (filled mtu outcome).length < 18)
    (high : (filled mtu outcome).length = 17 → (filled mtu outcome).getD 16 0 = 0xF0) :
    ¬ StaleInvisible mtu outcome := by
  have isHigh : ∀ rest : Nat → UInt8, rest 16 = 0xF0 →
      (receivedOn mtu outcome rest).pkt.byteAt 16 = 0xF0 := by
    intro rest isRest
    rcases Nat.lt_or_ge 16 (filled mtu outcome).length with isKnown | isStale
    · rw [byteAt_known isKnown]
      exact high (by omega)
    · rw [byteAt_stale isStale]
      exact isRest
  let data : Nat → UInt8 := fun index => if index = 16 then 0xF0 else 0xFF
  let control : Nat → UInt8 := fun index =>
    if index = 16 then 0xF0 else if index = 20 then 2 else 0
  have isData : dispatch (receivedOn mtu outcome data).pkt.proto = .data := by
    rw [dispatch_proto, isHigh data rfl, byteAt_stale (by omega)]
    rfl
  have isTsd : dispatch (receivedOn mtu outcome control).pkt.proto = .tsd := by
    rw [dispatch_proto, isHigh control rfl, byteAt_stale (by omega)]
    rfl
  have unknown : (receivedOn mtu outcome control).pkt.msgType = 2 :=
    byteAt_stale (by simp only [nsohdrSize]; omega)
  refine visible_of_probed .connected data control fun same => ?_
  have queues := congrArg (fun seen => seen.nsol.dataPq.length) same
  dsimp only [probed] at queues
  rw [probed_forMe isData rfl, (probed_unknown isTsd unknown).2] at queues
  exact absurd queues (by decide)

section Control

variable (isHigh : (filled mtu outcome).getD 16 0 = 0xF0)
  (enough : 18 ≤ (filled mtu outcome).length)

include isHigh enough

theorem accepted_of_control : accepted mtu outcome :=
  accepted_of_filled (by omega : 16 < (filled mtu outcome).length) (by rw [isHigh]; decide)

theorem isTsd_of_control (low : (filled mtu outcome).getD 17 0 = 0) :
    dispatch (receivedOn mtu outcome rest).pkt.proto = .tsd := by
  rw [dispatch_proto, byteAt_known (by omega), byteAt_known (by omega), isHigh, low]
  rfl

theorem isSon_of_control (low : (filled mtu outcome).getD 17 0 = 1) :
    dispatch (receivedOn mtu outcome rest).pkt.proto = .son := by
  rw [dispatch_proto, byteAt_known (by omega), byteAt_known (by omega), isHigh, low]
  rfl

theorem ending_reply (low : (filled mtu outcome).getD 17 0 = 0)
    (isReply : (receivedOn mtu outcome rest).pkt.msgType = tsdMsgRegReply)
    (forMe : (receivedOn mtu outcome rest).pkt.dstDevid = devId) :
    (probed mtu devId .unreg (receivedOn mtu outcome rest)).ending =
      if (receivedOn mtu outcome rest).pkt.byteAt 21 = nrg5RegSuccess then .halted .exit
      else .done () := by
  rcases @srcSeen_receivedOn mtu outcome rest (accepted_of_control isHigh enough) with
    ⟨mac, isMac⟩
  rw [probed, isMac]
  exact probed_reply (isTsd_of_control isHigh enough low) isReply forMe

theorem visible_of_tsdType (low : (filled mtu outcome).getD 17 0 = 0)
    (short : (filled mtu outcome).length < 21) : ¬ StaleInvisible mtu outcome := by
  let reply : Nat → UInt8 := fun index => if index = 20 then 1 else 0
  let other : Nat → UInt8 := fun _ => 2
  have isReply : (receivedOn mtu outcome reply).pkt.msgType = tsdMsgRegReply :=
    byteAt_stale (by simp only [nsohdrSize]; omega)
  have unknown : (receivedOn mtu outcome other).pkt.msgType = 2 :=
    byteAt_stale (by simp only [nsohdrSize]; omega)
  have success : (receivedOn mtu outcome reply).pkt.byteAt 21 = nrg5RegSuccess :=
    byteAt_stale (by omega)
  refine visible_of_probed .unreg reply other fun same => ?_
  have endings := congrArg Seen.ending same
  rw [ending_reply isHigh enough low isReply rfl, if_pos success, probed,
    (probed_unknown (isTsd_of_control isHigh enough low) unknown).1] at endings
  cases endings

theorem visible_of_answer (low : (filled mtu outcome).getD 17 0 = 0)
    (short : (filled mtu outcome).length = 21)
    (isReply : (filled mtu outcome).getD 20 0 = tsdMsgRegReply) : ¬ StaleInvisible mtu outcome := by
  have reply : ∀ rest : Nat → UInt8,
      (receivedOn mtu outcome rest).pkt.msgType = tsdMsgRegReply := by
    intro rest
    rw [Packet.msgType, byteAt_known (by simp only [nsohdrSize]; omega)]
    exact isReply
  have success : (receivedOn mtu outcome fun _ => 0).pkt.byteAt 21 = nrg5RegSuccess :=
    byteAt_stale (by omega)
  have refused : ¬ (receivedOn mtu outcome fun _ => 1).pkt.byteAt 21 = nrg5RegSuccess := by
    rw [byteAt_stale (by omega)]
    decide
  refine visible_of_probed .unreg (fun _ => 0) (fun _ => 1) fun same => ?_
  have endings := congrArg Seen.ending same
  rw [ending_reply isHigh enough low (reply _) rfl, if_pos success,
    ending_reply isHigh enough low (reply _) ((agree_receivedOn _ _).dstDevid (by omega)),
    if_neg refused] at endings
  cases endings

theorem visible_of_sonType (low : (filled mtu outcome).getD 17 0 = 1)
    (short : (filled mtu outcome).length < 21) : ¬ StaleInvisible mtu outcome := by
  have update : (receivedOn mtu outcome fun _ => 1).pkt.msgType = sonMsgRt :=
    byteAt_stale (by simp only [nsohdrSize]; omega)
  have unknown : (receivedOn mtu outcome fun _ => 3).pkt.msgType = 3 :=
    byteAt_stale (by simp only [nsohdrSize]; omega)
  have negative : ¬ 0 < (receivedOn mtu outcome fun _ => 1).pkt.rulesSize := by
    rw [Packet.rulesSize, byteLen_receivedOn (accepted_of_control isHigh enough)]
    simp only [nsohdrSize]
    omega
  have partRule : ¬ (receivedOn mtu outcome fun _ => 1).pkt.RulesWhole := by
    rintro ⟨isSize, -⟩
    rw [Packet.rulesSize, byteLen_receivedOn (accepted_of_control isHigh enough)] at isSize
    simp only [nsohdrSize] at isSize
    omega
  have noRule : (receivedOn mtu outcome fun _ => 1).pkt.routeRules = [] := by
    rw [Packet.routeRules, ruleRounds_nonpos negative]
    rfl
  refine visible_of_probed .connected (fun _ => 1) (fun _ => 3) fun same => ?_
  have endings := congrArg Seen.ending same
  rw [probed, probed_partRule (isSon_of_control isHigh enough low) update rfl
    (by rw [noRule]; exact List.forall_mem_nil _) partRule, probed,
    probed_unknownSon (isSon_of_control isHigh enough low) unknown] at endings
  cases endings

/-- The last rule of a route update is not all there, and every whole one is on an interface
of the array. -/
theorem visible_of_rule (low : (filled mtu outcome).getD 17 0 = 1)
    (typed : 21 ≤ (filled mtu outcome).length)
    (isUpdate : (filled mtu outcome).getD 20 0 = sonMsgRt)
    (notFilled : ¬ RulesFilled (filled mtu outcome)) : ¬ StaleInvisible mtu outcome := by
  have update : ∀ rest : Nat → UInt8, (receivedOn mtu outcome rest).pkt.msgType = sonMsgRt := by
    intro rest
    rw [Packet.msgType, byteAt_known (by simp only [nsohdrSize]; omega)]
    exact isUpdate
  have isSize : ∀ rest : Nat → UInt8, (receivedOn mtu outcome rest).pkt.rulesSize =
      ((filled mtu outcome).length - 21 : Nat) := by
    intro rest
    rw [Packet.rulesSize, byteLen_receivedOn (accepted_of_control isHigh enough)]
    simp only [nsohdrSize]
    omega
  have partRule : ¬ rtRuleSize ∣ (filled mtu outcome).length - 21 :=
    fun whole => notFilled (.inl whole)
  have inside : ∀ rule ∈ (receivedOn mtu outcome fun _ => 0).pkt.routeRules,
      rule.ifIndex.toNat < nsoMaxSupportedIfaces := by
    intro rule isMem
    rcases mem_rules.mp isMem with ⟨round, -, rfl⟩
    show ((receivedOn mtu outcome fun _ => 0).pkt.byteAt
      (nsohdrSize + 1 + rtRuleSize * round + 17)).toNat < nsoMaxSupportedIfaces
    rcases Nat.lt_or_ge (nsohdrSize + 1 + rtRuleSize * round + 17) (filled mtu outcome).length with
      isKnown | isStale
    · rw [byteAt_known isKnown]
      by_contra isOutside
      refine notFilled (.inr ⟨round, ?_, isOutside⟩)
      simp only [nsohdrSize, rtRuleSize] at isKnown ⊢
      omega
    · rw [byteAt_stale isStale]
      decide
  have outside : ∃ rule ∈ (receivedOn mtu outcome fun _ => 255).pkt.routeRules,
      ¬ rule.ifIndex.toNat < nsoMaxSupportedIfaces := by
    refine ⟨_, mem_rules.mpr ⟨((filled mtu outcome).length - 21) / rtRuleSize, ?_, rfl⟩, ?_⟩
    · rw [isSize]
      simp only [ruleRounds, rtRuleSize] at partRule ⊢
      omega
    · show ¬ ((receivedOn mtu outcome fun _ => 255).pkt.byteAt (nsohdrSize + 1 +
        rtRuleSize * (((filled mtu outcome).length - 21) / rtRuleSize) + 17)).toNat <
          nsoMaxSupportedIfaces
      rw [byteAt_stale (by simp only [nsohdrSize, rtRuleSize]; omega)]
      decide
  have notWhole : ¬ (receivedOn mtu outcome fun _ => 0).pkt.RulesWhole := by
    rintro ⟨-, whole⟩
    rw [isSize] at whole
    exact partRule (Int.natCast_dvd_natCast.mp whole)
  refine visible_of_probed .connected (fun _ => 0) (fun _ => 255) fun same => ?_
  have endings := congrArg Seen.ending same
  rw [probed, probed_partRule (isSon_of_control isHigh enough low) (update _) rfl inside notWhole,
    probed, probed_outside (isSon_of_control isHigh enough low) (update _)
      ((agree_receivedOn _ _).dstDevid (by omega)) outside] at endings
  cases endings

end Control

/-- A receive that leaves out a byte that is read can be told apart. -/
theorem covered_of_invisible (invisible : StaleInvisible mtu outcome) :
    Covered (filled mtu outcome) := by
  have receiver : 16 ≤ (filled mtu outcome).length := by
    by_contra short
    exact visible_of_receiver (by omega) invisible
  have proto : 17 ≤ (filled mtu outcome).length ∧ ((filled mtu outcome).getD 16 0 = 0xF0 →
      18 ≤ (filled mtu outcome).length) := by
    by_contra short
    refine visible_of_proto receiver ?_ ?_ invisible
    · by_contra enough
      exact short ⟨by omega, fun _ => by omega⟩
    · intro isLast
      by_contra isLow
      exact short ⟨by omega, fun isHigh => absurd isHigh isLow⟩
  refine ⟨proto.1, fun isHigh => ⟨proto.2 isHigh, fun low => ?_, fun low => ?_⟩⟩
  · have typed : 21 ≤ (filled mtu outcome).length := by
      by_contra short
      exact visible_of_tsdType isHigh (proto.2 isHigh) low (by omega) invisible
    refine ⟨typed, fun isReply => ?_⟩
    by_contra short
    exact visible_of_answer isHigh (proto.2 isHigh) low (by omega) isReply invisible
  · have typed : 21 ≤ (filled mtu outcome).length := by
      by_contra short
      exact visible_of_sonType isHigh (proto.2 isHigh) low (by omega) invisible
    refine ⟨typed, fun isUpdate => ?_⟩
    by_contra notFilled
    exact visible_of_rule isHigh (proto.2 isHigh) low typed isUpdate notFilled invisible

/-- A registration reply with no answer. -/
def unanswered : RecvFrom :=
  .frame (List.replicate 12 0 ++ ethTypeNso ++ List.replicate 16 0 ++ [0xF0, 0, 0, 21, 1])

end Nrg5
