import Nrg5.Network.Effects
import Nrg5.VnfStream

/-!
# What a base station writes to a network function

`send_pkt_to_vnf` writes the `byte_len` bytes of a packet, and the network function cuts
its stream by the length field.  A frame decides both numbers, and nothing compares
them.
-/

namespace Nrg5

namespace Bs

open ByteMemory LockProg

/-- The calls that hand a frame of the air interface to a network function. -/
inductive VnfCall : Type where
  | data
  | beacon
  | topoReport
deriving DecidableEq

namespace VnfCall

/-- The call on a frame from `src` that was received on `iface`. -/
def run (call : VnfCall) (pkt : Packet) (src : L2addr) (iface : NsoIf) : Prog Packet :=
  match call with
  | .data => dataProcessRx pkt
  | .beacon => fwdBeacon pkt (some src) (some iface)
  | .topoReport => fwdTopoReport pkt

/-- The connection that a connected base station hands the packet to. -/
def connection (call : VnfCall) (node : Node) (pkt : Packet) (src : L2addr) : Option Nat :=
  match call with
  | .data =>
      if pkt.dstDevid = node.nsol.devId then
        (BspcTable.bucketOfProto pkt.proto).bind fun slot =>
          (BspcTable.lookupIn slot pkt.proto node.nsol.bspcTbl).map BspcEntry.sockfd
      else none
  | .beacon =>
      if isBroadcastDevId pkt.dstDevid = true then some node.nsol.vtsdFd
      else (ArpTable.lookupFromL2addr src node.nsol.arpt).map fun _ => node.nsol.vtsdFd
  | .topoReport => some node.nsol.vsonFd

/-- The packet that is handed over: a broadcast beacon gets the gateway as destination. -/
def handed (call : VnfCall) (node : Node) (pkt : Packet) : Packet :=
  match call with
  | .beacon =>
      if isBroadcastDevId pkt.dstDevid = true then pkt.setDstDevid node.nsol.gwId else pkt
  | _ => pkt

end VnfCall

/-- The bytes that a connection takes before `send` fails, when it fails. -/
def accepted (env : Env) (bytes : List UInt8) : List UInt8 :=
  match env.sendAccepts with
  | some count => bytes.take count
  | none => bytes

theorem vnfTx_sendBytes {fd : Nat} {bytes : List UInt8} {node : Node} :
    (sendBytes fd bytes node).vnfTx = node.vnfTx ++ [(fd, accepted node.env bytes)] := rfl

/-- The bytes that were appended to a connection. -/
def appendedTo (fd : Nat) (before after : Node) : List UInt8 :=
  ((after.vnfTx.drop before.vnfTx.length).filter fun entry => entry.1 = fd).flatMap Prod.snd

/-- A message with its header whose length field counts its bytes. -/
structure WholeMessage (bytes : List UInt8) : Prop where
  header : nsohdrSize ≤ bytes.length
  lengthField : messageLength bytes = bytes.length

/-- Each connection gets nothing or one whole message. -/
def WritesWhole (before after : Node) : Prop :=
  ∀ fd, appendedTo fd before after = [] ∨ WholeMessage (appendedTo fd before after)

variable {node : Node} {pkt : Packet} {src : L2addr} {iface : NsoIf} {call : VnfCall}

/-- Learning leaves the connections alone, and what they take. -/
theorem sender_learnedArp (devId : DeviceId) (mac : L2addr) :
    (node.learnedArp devId mac).env = node.env ∧
      (node.learnedArp devId mac).nsol.vtsdFd = node.nsol.vtsdFd := by
  unfold Node.learnedArp
  cases ArpTable.lookupFromDevId devId node.nsol.arpt <;> exact ⟨rfl, rfl⟩

theorem sender_learnedRoute (dest nxthop : DeviceId) :
    (node.learnedRoute dest nxthop iface).env = node.env ∧
      (node.learnedRoute dest nxthop iface).nsol.vtsdFd = node.nsol.vtsdFd := by
  unfold Node.learnedRoute
  cases FwdTable.lookup dest node.nsol.localFwdt <;> exact ⟨rfl, rfl⟩

/-! ## What one call appends -/

/-- At most one write, to the connection of the call. -/
def Appends (call : VnfCall) (node : Node) (pkt : Packet) (src : L2addr) (after : Node) : Prop :=
  after.vnfTx = node.vnfTx ++ match call.connection node pkt src with
    | none => []
    | some fd => [(fd, accepted node.env (call.handed node pkt).bytes)]

theorem dataProcessRx_appends (connected : node.nsol.devState = .connected) :
    (dataProcessRx pkt).wp (fun _ _ => True) (.always (Appends .data node pkt src))
      (fun _ => false) node := by
  rw [wp_dataProcessRxBs tolerant_true, if_neg (by simp), if_neg (not_not_intro connected)]
  rw [ite_prop_iff_and]
  refine ⟨fun forMe => ?_, fun notForMe => ?_⟩
  · simp only [Ending.always, Appends, VnfCall.connection, VnfCall.handed, if_pos forMe]
    cases BspcTable.bucketOfProto pkt.proto with
    | none => exact (List.append_nil _).symm
    | some slot =>
        dsimp only [Option.bind_some]
        cases BspcTable.lookupIn slot pkt.proto node.nsol.bspcTbl with
        | none => exact (List.append_nil _).symm
        | some pos => rfl
  · apply wp_always_mono _ (deliverFwd_forwards ⟨rfl, rfl, rfl, rfl⟩)
    intro after forwards
    simp only [Appends, VnfCall.connection, if_neg notForMe, List.append_nil]
    cases forwards with
    | kept => rfl
    | sent dest route => exact vnfTx_sentOn _ _

theorem fwdBeacon_appends (connected : node.nsol.devState = .connected) :
    (fwdBeacon pkt (some src) (some iface)).wp (fun _ _ => True)
      (.always (Appends .beacon node pkt src)) (fun _ => false) node := by
  rw [fwdBeacon, wp_fwdBeaconWith_air tolerant_true ⟨rfl, rfl, rfl, rfl⟩, if_neg (by simp),
    if_neg (not_not_intro connected), if_neg (by simp)]
  cases toAll : isBroadcastDevId pkt.dstDevid with
  | true =>
      have learns := (@learnsOnly_learnedArp node pkt.srcDevid src).trans
        (@learnsOnly_learnedRoute _ iface pkt.srcDevid pkt.srcDevid)
      rw [if_pos rfl, wp_deliverVtsd tolerant_true]
      simp only [Ending.always, Appends, VnfCall.connection, VnfCall.handed, toAll, if_true]
      rw [vnfTx_sendBytes, learns.vnfTx, (sender_learnedRoute _ _).1, (sender_learnedRoute _ _).2,
        (sender_learnedArp _ _).1, (sender_learnedArp _ _).2]
  | false =>
      simp only [Bool.false_eq_true, if_false]
      cases downstream : ArpTable.lookupFromL2addr src node.nsol.arpt with
      | none =>
          simp [Ending.always, Appends, VnfCall.connection, toAll, downstream]
      | some entry =>
          dsimp only
          rw [wp_deliverVtsd tolerant_true]
          simp only [Ending.always, Appends, VnfCall.connection, VnfCall.handed, toAll,
            downstream, Bool.false_eq_true, if_false, Option.map_some]
          rw [vnfTx_sendBytes, (learnsOnly_learnedRoute _ _).vnfTx, (sender_learnedRoute _ _).1,
            (sender_learnedRoute _ _).2]

theorem fwdTopoReport_appends (connected : node.nsol.devState = .connected) :
    (fwdTopoReport pkt).wp (fun _ _ => True) (.always (Appends .topoReport node pkt src))
      (fun _ => false) node := by
  rw [fwdTopoReport, wp_fwdTopoReportWith tolerant_true, if_neg (by simp),
    if_neg (not_not_intro connected), wp_deliverVson tolerant_true]
  rfl

theorem run_appends (connected : node.nsol.devState = .connected) :
    Appends call node pkt src ((call.run pkt src iface).exec (fun _ => false) node).state := by
  apply (wp_always_iff _).mp
  cases call with
  | data => exact dataProcessRx_appends connected
  | beacon => exact fwdBeacon_appends connected
  | topoReport => exact fwdTopoReport_appends connected

/-! ## Whole messages -/

theorem messageLength_bytes (whole : nsohdrSize ≤ pkt.bytes.length) :
    messageLength pkt.bytes = beNat (pkt.buf.read (pkt.data + 18) 2) % 16384 := by
  simp only [Packet.bytes, Memory.length_read, nsohdrSize] at whole
  rw [messageLength, Packet.bytes, Memory.read_slice _ whole]

theorem handed_bytes : (call.handed node pkt).bytes.length = pkt.bytes.length ∧
    (nsohdrSize ≤ pkt.bytes.length →
      messageLength (call.handed node pkt).bytes = messageLength pkt.bytes) := by
  have redirected : (pkt.setDstDevid node.nsol.gwId).bytes.length = pkt.bytes.length := by
    simp [Packet.bytes]
  cases call with
  | data => exact ⟨rfl, fun _ => rfl⟩
  | topoReport => exact ⟨rfl, fun _ => rfl⟩
  | beacon =>
      rw [VnfCall.handed]
      split
      · refine ⟨redirected, fun whole => ?_⟩
        rw [messageLength_bytes (by rw [redirected]; exact whole), messageLength_bytes whole,
          Packet.setDstDevid, Packet.put_data, Packet.read_put_disjoint (.inr (by simp))]
      · exact ⟨rfl, fun _ => rfl⟩

theorem accepted_eq_take (env : Env) (bytes : List UInt8) :
    accepted env bytes = bytes.take (env.sendAccepts.getD bytes.length) := by
  rw [accepted]
  cases env.sendAccepts with
  | some count => rfl
  | none => exact List.take_length.symm

theorem length_accepted {env : Env} {left right : List UInt8} (same : left.length = right.length) :
    (accepted env left).length = (accepted env right).length := by
  rw [accepted_eq_take, accepted_eq_take, List.length_take, List.length_take, same]

theorem writesWhole_iff {after : Node} {fd : Nat} {bytes : List UInt8}
    (appends : after.vnfTx = node.vnfTx ++ [(fd, bytes)]) :
    WritesWhole node after ↔ bytes = [] ∨ WholeMessage bytes := by
  have appended : ∀ other, appendedTo other node after = if fd = other then bytes else [] := by
    intro other
    rw [appendedTo, appends, List.drop_left]
    rcases eq_or_ne fd other with rfl | isOther
    · simp
    · simp [isOther]
  constructor
  · intro writes
    have here := writes fd
    rwa [appended, if_pos rfl] at here
  · intro whole other
    rw [appended]
    split
    · exact whole
    · exact .inl rfl

/-- A connected base station writes whole messages for a frame exactly when it hands the
frame to no connection, or nothing is taken of it, or what is taken has a header whose
length field counts it. -/
theorem vnf_writes_whole_iff (call : VnfCall) (connected : node.nsol.devState = .connected)
    {old : Packet} {frame : List UInt8} (isNso : IsNsoFrame frame) (room : ethHlen ≤ old.data)
    {received : Received} (receives : wifiReceive old (.frame frame) = received)
    (iface : NsoIf) :
    WritesWhole node ((call.run received.pkt ((frame.drop ethAlen).take ethAlen) iface).exec
        (fun _ => false) node).state ↔
      call.connection node received.pkt ((frame.drop ethAlen).take ethAlen) = none ∨
        (accepted node.env ((frame.drop ethHlen).take old.size)).length = 0 ∨
        nsohdrSize ≤ (accepted node.env ((frame.drop ethHlen).take old.size)).length ∧
          messageLength (frame.drop ethHlen) =
            (accepted node.env ((frame.drop ethHlen).take old.size)).length := by
  rcases wifiReceive_nso isNso room with ⟨buf, byteLen, tail, accepts, bytes⟩
  rw [accepts] at receives
  rcases receives with rfl
  dsimp only
  generalize ({ old with buf := buf, byteLen := byteLen, tail := tail } : Packet) = pkt at bytes ⊢
  generalize (frame.drop ethAlen).take ethAlen = src
  have appends := @run_appends _ pkt src iface call connected
  rw [← bytes]
  cases isFd : call.connection node pkt src with
  | none =>
      simp only [Appends, isFd, List.append_nil] at appends
      refine iff_of_true ?_ (.inl rfl)
      intro fd
      rw [appendedTo, appends, List.drop_length]
      exact .inl rfl
  | some fd =>
      simp only [Appends, isFd] at appends
      have handed := @handed_bytes node pkt call
      have size := @length_accepted node.env _ _ handed.1
      have field : nsohdrSize ≤ (accepted node.env pkt.bytes).length →
          messageLength (accepted node.env (call.handed node pkt).bytes) =
            messageLength (frame.drop ethHlen) := by
        intro whole
        have inBytes : nsohdrSize ≤ pkt.bytes.length := by
          rw [accepted_eq_take, List.length_take] at whole
          omega
        have handed := whole
        rw [← size] at handed
        rw [accepted_eq_take] at handed ⊢
        rw [messageLength_take (handed.trans (List.length_take_le _ _)), handed_bytes.2 inBytes]
        rw [bytes] at inBytes ⊢
        exact messageLength_take (inBytes.trans (List.length_take_le _ _))
      rw [writesWhole_iff appends]
      simp only [reduceCtorEq, false_or]
      rw [← List.length_eq_zero_iff, size]
      refine or_congr Iff.rfl ?_
      constructor
      · rintro ⟨header, lengthField⟩
        rw [size] at header lengthField
        rw [field header] at lengthField
        exact ⟨header, lengthField⟩
      · rintro ⟨header, lengthField⟩
        rw [← field header, ← size] at lengthField
        rw [← size] at header
        exact ⟨header, lengthField⟩

/-! ### A report of one byte, alone and padded to the least size of a frame -/

def connectedBs : Node :=
  Node.start { NsoLayer.initial 2 2 1500 [wlan0] wlan0_fits with devState := .connected }
    Env.nominal

/-- The frame of a topology report of 21 bytes, with some bytes behind it. -/
def reportFrame (padding : Nat) : List UInt8 :=
  ethHeader [2, 0, 0, 0, 0, 2] wlan0.ifMac ++ (deviceIdBytes 1 ++ deviceIdBytes 2 ++
    beBytes 2 protoCpVson.toNat ++ beBytes 2 (nsohdrSize + 1) ++ [sonMsgTopo]) ++
    List.replicate padding 0

/-- What the receive thread of the base station gets of it. -/
def reportReceived (padding : Nat) : Received :=
  wifiReceive (allocPacket (fun _ => 0) 1500) (.frame (reportFrame padding))

theorem isNsoFrame_reportFrame (padding : Nat) : IsNsoFrame (reportFrame padding) := by
  refine ⟨?_, ?_⟩
  · simp [reportFrame, ethHeader, wlan0, ethHlen, ethAlen, ethTypeNso]
    omega
  · rfl

theorem report_written :
    WritesWhole connectedBs ((VnfCall.topoReport.run (reportReceived 0).pkt
      (((reportFrame 0).drop ethAlen).take ethAlen) wlan0).exec (fun _ => false)
      connectedBs).state := by
  apply (vnf_writes_whole_iff .topoReport rfl (isNsoFrame_reportFrame 0) (by decide) rfl
    wlan0).mpr
  exact .inr (.inr (by decide +kernel))

theorem padded_report_written :
    IsNsoFrame (reportFrame 25) ∧
      ¬ WritesWhole connectedBs ((VnfCall.topoReport.run (reportReceived 25).pkt
        (((reportFrame 25).drop ethAlen).take ethAlen) wlan0).exec (fun _ => false)
        connectedBs).state := by
  refine ⟨isNsoFrame_reportFrame 25, ?_⟩
  intro writes
  have appended : (appendedTo 0 connectedBs ((VnfCall.topoReport.run (reportReceived 25).pkt
      (((reportFrame 25).drop ethAlen).take ethAlen) wlan0).exec (fun _ => false)
      connectedBs).state).length = 46 := by decide +kernel
  have field : messageLength (appendedTo 0 connectedBs ((VnfCall.topoReport.run
      (reportReceived 25).pkt (((reportFrame 25).drop ethAlen).take ethAlen) wlan0).exec
      (fun _ => false) connectedBs).state) = 21 := by decide +kernel
  rcases writes 0 with isNil | whole
  · rw [isNil] at appended
    exact absurd appended (by decide)
  · have lengthField := whole.lengthField
    rw [appended, field] at lengthField
    exact absurd lengthField (by decide)

end Bs

end Nrg5
