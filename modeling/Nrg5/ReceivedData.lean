import Nrg5.ControlSize
import Nrg5.DataRoundTrip
import Nrg5.Delivery
import Nrg5.RxLoop

/-!
# Received data

`data_process_rx` puts a copy of the receive buffer into the queue, and `nso_layer_recv` takes
the number of bytes to copy from the length field of that copy.  Neither compares the field
with the number of bytes that were received.
-/

namespace Nrg5

open ByteMemory LockProg

/-! ## Frames at the receive loop -/

namespace RxThread

variable {thread : RxThread} {handle : Nat → RxCall → Packet → Memory}

/-- The loop never reallocates its packet, and every iteration ends with `packet_reset`. -/
theorem pkt_run (opened : thread.pkt.data = headroom) (outcomes : List RecvFrom) :
    (thread.run handle outcomes).pkt.data = headroom ∧
      (thread.run handle outcomes).pkt.size = thread.pkt.size := by
  induction outcomes generalizing thread with
  | nil => exact ⟨opened, rfl⟩
  | cons outcome rest ih =>
      have size : (thread.step handle outcome).pkt.size = thread.pkt.size := by
        have kept : (wifiReceive thread.pkt outcome).pkt.size = thread.pkt.size := by
          cases outcome with
          | error => simp only [wifiReceive, ite_self]
          | frame bytes =>
              simp only [wifiReceive]
              repeat' split
              all_goals rfl
        simp only [step, receive]
        split
        · exact kept
        · exact kept
      rw [← size]
      exact ih rfl

end RxThread

/-- An NSO frame, after whatever `recvfrom` answered before it. -/
structure FrameArrival where
  junk : Memory
  mtu : Nat
  handle : Nat → RxCall → Packet → Memory
  earlier : List RecvFrom
  frame : List UInt8
  isNso : IsNsoFrame frame

namespace FrameArrival

/-- The packet that the loop hands to `data_process_rx`. -/
def pkt (arrival : FrameArrival) : Packet :=
  (((RxThread.start arrival.junk arrival.mtu).run arrival.handle arrival.earlier).receive
    (.frame arrival.frame)).pkt

/-- The bytes that were received behind the Ethernet header. -/
def received (arrival : FrameArrival) : List UInt8 :=
  (arrival.frame.drop ethHlen).take arrival.mtu

theorem bytes_pkt (arrival : FrameArrival) : arrival.pkt.bytes = arrival.received := by
  have opened : (RxThread.start arrival.junk arrival.mtu).pkt.data = headroom := rfl
  rcases @RxThread.pkt_run _ arrival.handle opened arrival.earlier with ⟨data, size⟩
  rcases wifiReceive_nso arrival.isNso (by rw [data]; decide) with
    ⟨buf, byteLen, tail, receives, payload⟩
  rw [pkt, RxThread.receive, receives]
  dsimp only
  rw [payload, size]
  rfl

end FrameArrival

/-! ## The packet in the queue -/

/-- `nso_layer_recv` copies bytes that were received behind the NSO header, and no more of them
than the buffer of the application takes. -/
def RecvsWithin (received : List UInt8) (size : Nat) (held : Lock → Bool) (node : Node) : Prop :=
  ∃ delivered, ((nsoLayerRecv size).exec held node).result = .done delivered ∧
    delivered.bytes.length ≤ min size (received.length - nsohdrSize) ∧
    delivered.bytes = (received.drop nsohdrSize).take delivered.bytes.length

/-- The length field covers the header, and what it announces behind it was received or does not
fit the buffer of the application. -/
def LengthCovered (length received size : Nat) : Prop :=
  nsohdrSize ≤ length ∧ (length ≤ received ∨ size + nsohdrSize ≤ received)

instance (length received size : Nat) : Decidable (LengthCovered length received size) :=
  inferInstanceAs (Decidable (_ ∧ _))

variable {held : Lock → Bool} {node : Node} {pkt queued : Packet} {rest : List Packet} {size : Nat}

theorem bytes_clone (junk : Memory) : (pkt.clone junk).bytes = pkt.bytes := by
  have written := Memory.read_write_same (allocPacket junk pkt.size).buf pkt.data pkt.bytes
  rw [Packet.bytes, Memory.length_read] at written
  exact written

theorem readData_none (short : queued.wireLength < nsohdrSize) : readData queued size = none := by
  have negative : (queued.swapLenVer.length : Int) - nsohdrSize < 0 := by
    rw [Packet.wireLength] at short
    omega
  have notCut : ¬ (size : Int) < (queued.swapLenVer.length : Int) - nsohdrSize := by omega
  simp only [readData]
  rw [if_neg notCut, if_neg (Int.not_le.mpr negative)]

theorem readData_some (whole : nsohdrSize ≤ queued.wireLength) :
    ∃ delivered, readData queued size = some delivered ∧
      delivered.bytes = queued.buf.read (queued.data + nsohdrSize)
        (min size (queued.wireLength - nsohdrSize)) := by
  have taken : (if (size : Int) < (queued.swapLenVer.length : Int) - nsohdrSize then (size : Int)
      else (queued.swapLenVer.length : Int) - nsohdrSize) =
        (min size (queued.wireLength - nsohdrSize) : Nat) := by
    rw [Packet.wireLength] at whole ⊢
    split
    · omega
    · omega
  simp only [readData, taken]
  rw [if_pos (Int.natCast_nonneg _)]
  exact ⟨_, rfl, rfl⟩

theorem nsoLayerRecv_result (connected : node.nsol.devState = .connected)
    (stateFree : held .state = false) (dataFree : held .data = false)
    (queue : node.nsol.dataPq = queued :: rest) :
    ((nsoLayerRecv size).exec held node).result =
      match readData queued size with
      | none => .halted .outOfBounds
      | some delivered => .done delivered := by
  cases reads : readData queued size with
  | some delivered => exact nsoLayerRecv_done connected stateFree dataFree queue reads
  | none =>
      have ends : (nsoLayerRecv size).wp (fun _ _ => True)
          { post := fun _ _ _ => False, halt := fun reason _ _ => reason = .outOfBounds }
          held node := by
        rw [wp_nsoLayerRecv tolerant_true dataFree, stateFree, if_neg Bool.false_ne_true,
          if_pos connected, queue]
        dsimp only
        rw [reads]
      have atEnd := ((wp_iff_exec _ _).mp ends).2
      simp only [Ending.Holds] at atEnd
      split at atEnd
      · exact atEnd.elim
      · rename_i isHalted
        rw [isHalted, atEnd]
      · exact atEnd.elim

/-- What the application gets of a packet with the received bytes depends on the length field. -/
theorem recvsWithin_queued {received : List UInt8} (sameBytes : queued.bytes = received)
    (header : nsohdrSize ≤ received.length) (connected : node.nsol.devState = .connected)
    (stateFree : held .state = false) (dataFree : held .data = false)
    (queue : node.nsol.dataPq = queued :: rest) :
    RecvsWithin received size held node ↔
      LengthCovered queued.wireLength received.length size := by
  have result := @nsoLayerRecv_result _ _ _ _ size connected stateFree dataFree queue
  have byteLen : queued.byteLen.toNat = received.length := by
    rw [← sameBytes, Packet.bytes, Memory.length_read]
  rcases Nat.lt_or_ge queued.wireLength nsohdrSize with short | whole
  · rw [readData_none short] at result
    constructor
    · rintro ⟨delivered, isDone, -⟩
      exact absurd (result.symm.trans isDone) (by simp)
    · intro covered
      exact absurd covered.1 (Nat.not_le.mpr short)
  · rcases @readData_some _ size whole with ⟨delivered, reads, bytes⟩
    rw [reads] at result
    have count : delivered.bytes.length = min size (queued.wireLength - nsohdrSize) := by
      rw [bytes, Memory.length_read]
    constructor
    · rintro ⟨other, isDone, bound, -⟩
      rcases Result.done.inj (result.symm.trans isDone) with rfl
      refine ⟨whole, ?_⟩
      omega
    · intro covered
      have bound : delivered.bytes.length ≤ min size (received.length - nsohdrSize) := by
        rcases covered with ⟨_, inPacket | inBuffer⟩
        · omega
        · omega
      refine ⟨delivered, result, bound, ?_⟩
      rw [← sameBytes, Packet.bytes, byteLen, Memory.read_slice _ (by omega), count]
      exact bytes

/-! ## From the frame to the application -/

/-- The application gets received bytes, and only these, exactly when the length field of the
frame covers the header and what it announces behind it was received or does not fit the
application's buffer. -/
theorem recv_within_received_iff (arrival : FrameArrival) (receiver node : Node)
    (heldThere held : Lock → Bool) (queued : Packet) (rest : List Packet) (size : Nat)
    (free : TablesFree heldThere) (stateFreeThere : heldThere .state = false)
    (receiving : receiver.nsol.devState = .connected)
    (forMe : arrival.pkt.dstDevid = receiver.nsol.devId)
    (header : nsohdrSize ≤ arrival.received.length)
    (enqueues : ((Device.dataProcessRx arrival.pkt).exec heldThere receiver).state.nsol.dataPq =
      receiver.nsol.dataPq ++ [queued])
    (connected : node.nsol.devState = .connected) (stateFree : held .state = false)
    (dataFree : held .data = false) (queue : node.nsol.dataPq = queued :: rest) :
    RecvsWithin arrival.received size held node ↔
      LengthCovered arrival.pkt.wireLength arrival.received.length size := by
  have isClone : queued = arrival.pkt.clone receiver.env.junk := by
    rw [(Delivery.dataProcessRx_enqueues free stateFreeThere receiving forMe).1] at enqueues
    have last := List.append_cancel_left enqueues
    exact (List.singleton_inj.mp last).symm
  have sameBytes : queued.bytes = arrival.pkt.bytes := by
    rw [isClone, bytes_clone]
  have sameLength : queued.wireLength = arrival.pkt.wireLength := by
    rcases Packet.header_congr sameBytes (by rw [sameBytes, arrival.bytes_pkt]; exact header) with
      ⟨-, -, -, same⟩
    exact same
  rw [← sameLength]
  exact recvsWithin_queued (sameBytes.trans arrival.bytes_pkt) header connected stateFree dataFree
    queue

/-! ### Headers that announce what was sent, and more -/

/-- A frame for device 1 with some data, whose NSO header has a length field. -/
def frameToOne (length : Nat) (data : List UInt8) : List UInt8 :=
  ethHeader [2, 0, 0, 0, 0, 9] [2, 0, 0, 0, 0, 1] ++
    (deviceIdBytes 9 ++ deviceIdBytes 1 ++ [8, 0] ++ beBytes 2 length ++ data)

theorem isNso_overlong : IsNsoFrame (frameToOne 60 []) := by decide

theorem isNso_whole : IsNsoFrame (frameToOne 23 [1, 2, 3]) := by decide

/-- The frame is the first one that arrives. -/
def arrivalOf (frame : List UInt8) (isNso : IsNsoFrame frame) : FrameArrival where
  junk := fun _ => 0
  mtu := 1500
  handle := fun _ _ pkt => pkt.buf
  earlier := []
  frame := frame
  isNso := isNso

/-- The header announces 40 bytes, and none follow. -/
def overlongArrival : FrameArrival := arrivalOf (frameToOne 60 []) isNso_overlong

/-- The header announces the three bytes that follow. -/
def wholeArrival : FrameArrival := arrivalOf (frameToOne 23 [1, 2, 3]) isNso_whole

/-- Device 1, connected. -/
def connectedOne : Node :=
  Node.start { NsoLayer.initial 1 9 1500 [wlan0] wlan0_fits with devState := .connected } .nominal

/-- Device 1 with the copy of a packet in its queue. -/
def queuedBy (arrival : FrameArrival) : Node :=
  ((Device.dataProcessRx arrival.pkt).exec (fun _ => false) connectedOne).state

section Queued

variable {arrival : FrameArrival}

theorem queuedBy_eq (forMe : arrival.pkt.dstDevid = 1) :
    queuedBy arrival = connectedOne.enqueue (arrival.pkt.clone connectedOne.env.junk) :=
  (Delivery.dataProcessRx_enqueues ⟨rfl, rfl, rfl, rfl⟩ rfl rfl forMe).1

theorem queuedBy_connected (forMe : arrival.pkt.dstDevid = 1) :
    (queuedBy arrival).nsol.devState = .connected := by
  rw [queuedBy_eq forMe]
  rfl

theorem queuedBy_queue (forMe : arrival.pkt.dstDevid = 1) :
    (queuedBy arrival).nsol.dataPq = [arrival.pkt.clone connectedOne.env.junk] := by
  rw [queuedBy_eq forMe]
  rfl

end Queued

/-- The application gets 40 bytes, and none of them was received. -/
theorem overlong_overreads :
    dispatch overlongArrival.pkt.proto = .data ∧ overlongArrival.received.length = nsohdrSize ∧
      (queuedBy overlongArrival).nsol.devState = .connected ∧
      ¬ RecvsWithin overlongArrival.received 100 (fun _ => false) (queuedBy overlongArrival) := by
  have forMe : overlongArrival.pkt.dstDevid = 1 := by decide
  have sameBytes : (overlongArrival.pkt.clone connectedOne.env.junk).bytes =
      overlongArrival.received := (bytes_clone _).trans overlongArrival.bytes_pkt
  refine ⟨by decide, by decide, queuedBy_connected forMe, ?_⟩
  rw [recvsWithin_queued sameBytes (by decide) (queuedBy_connected forMe) rfl rfl
    (queuedBy_queue forMe)]
  decide

/-- A buffer of two bytes gets the first two of three. -/
theorem whole_within :
    RecvsWithin wholeArrival.received 2 (fun _ => false) (queuedBy wholeArrival) ∧
      ∃ delivered, ((nsoLayerRecv 2).exec (fun _ => false) (queuedBy wholeArrival)).result =
        .done delivered ∧ delivered.bytes = [1, 2] := by
  have forMe : wholeArrival.pkt.dstDevid = 1 := by decide
  have connected := queuedBy_connected forMe
  have queue := queuedBy_queue forMe
  have result := @nsoLayerRecv_result (fun _ => false) _ _ _ 2 connected rfl rfl queue
  have copied : (readData (wholeArrival.pkt.clone connectedOne.env.junk) 2).map Delivered.bytes =
      some [1, 2] := by decide +kernel
  rcases Option.map_eq_some_iff.mp copied with ⟨delivered, reads, isCopy⟩
  rw [reads] at result
  refine ⟨?_, delivered, result, isCopy⟩
  apply (recv_within_received_iff wholeArrival connectedOne (queuedBy wholeArrival)
    (fun _ => false) (fun _ => false) (wholeArrival.pkt.clone connectedOne.env.junk) [] 2
    ⟨rfl, rfl, rfl, rfl⟩ rfl rfl forMe (by decide) queue connected rfl rfl queue).mpr
  exact ⟨by decide, .inl (by decide)⟩

end Nrg5
