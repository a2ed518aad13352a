import Nrg5.Wifi
import Nrg5.Handlers

/-!
# The receive loop

`__rx_thread_main` is the same text in both libraries.  It receives into one
packet, calls the handler of the protocol that the packet holds, and frees the two
address objects that its pointers refer to.  The result of the receive is not
looked at, and a failed receive leaves the packet and the two pointers as they
were, so the loop goes on with what an earlier frame left there.

The handlers are a parameter: whatever they do to the buffer of the packet, the
loop resets the rest of it.
-/

namespace Nrg5

open ByteMemory

/-! ## The loop -/

/-- A call of a handler, with the bytes of the packet and the addresses it is given; a
pointer that is not initialised or dangles gives none. -/
structure RxCall where
  handler : Handler
  bytes : List UInt8
  src : Option L2addr
  dst : Option L2addr

/-- The state of the loop.  The address objects are numbered in the order of their
allocation, and the two pointer variables hold such a number once they are set. -/
structure RxThread where
  pkt : Packet
  src : Option Nat
  dst : Option Nat
  objects : List L2addr
  freed : List (Option Nat)
  calls : List RxCall

namespace RxThread

/-- The loop before its first iteration. -/
def start (junk : Memory) (mtu : Nat) : RxThread :=
  { pkt := allocPacket junk mtu, src := none, dst := none, objects := [], freed := [], calls := [] }

/-- `nso_if_receive`: a frame that is accepted allocates its two addresses. -/
def receive (outcome : RecvFrom) (thread : RxThread) : RxThread :=
  let received := wifiReceive thread.pkt outcome
  match received.addrs with
  | some (src, dst) =>
      { thread with
        pkt := received.pkt
        src := some thread.objects.length
        dst := some (thread.objects.length + 1)
        objects := thread.objects ++ [src, dst] }
  | none => { thread with pkt := received.pkt }

/-- The address behind a pointer variable, when the object is still there. -/
def deref (pointer : Option Nat) (thread : RxThread) : Option L2addr :=
  if pointer ∈ thread.freed then none else pointer.bind fun object => thread.objects[object]?

/-- What the loop passes to the handler. -/
def nextCall (thread : RxThread) : RxCall :=
  { handler := dispatch thread.pkt.proto
    bytes := thread.pkt.bytes
    src := thread.deref thread.src
    dst := thread.deref thread.dst }

/-- One iteration; `handle` is what the calls leave in the buffer. -/
def step (handle : Nat → RxCall → Packet → Memory) (thread : RxThread) (outcome : RecvFrom) :
    RxThread :=
  let received := thread.receive outcome
  let call := received.nextCall
  { received with
    pkt := { received.pkt with
      buf := handle thread.calls.length call received.pkt }.reset
    freed := received.freed ++ [received.src, received.dst]
    calls := received.calls ++ [call] }

/-- The iterations for a sequence of outcomes. -/
def run (handle : Nat → RxCall → Packet → Memory) (outcomes : List RecvFrom)
    (thread : RxThread) : RxThread :=
  outcomes.foldl (step handle) thread

end RxThread

/-! ## NSO frames -/

/-- A frame with a whole Ethernet header of the NSO type. -/
def IsNsoFrame (bytes : List UInt8) : Prop :=
  ethHlen ≤ bytes.length ∧ (bytes.drop 12).take 2 = ethTypeNso

instance (bytes : List UInt8) : Decidable (IsNsoFrame bytes) :=
  inferInstanceAs (Decidable (_ ∧ _))

def nsoFrame (outcome : RecvFrom) : Option (List UInt8) :=
  match outcome with
  | .error => none
  | .frame bytes => if IsNsoFrame bytes then some bytes else none

/-- What a handler is to be called with for a frame: its payload, as far as it fits the
buffer, and its own addresses. -/
structure FrameView where
  bytes : List UInt8
  src : Option L2addr
  dst : Option L2addr

def frameView (mtu : Nat) (bytes : List UInt8) : FrameView :=
  { bytes := (bytes.drop ethHlen).take mtu
    src := some ((bytes.drop ethAlen).take ethAlen)
    dst := some (bytes.take ethAlen) }

def RxCall.view (call : RxCall) : FrameView := ⟨call.bytes, call.src, call.dst⟩

/-- The receive of an NSO frame, with room for the Ethernet header. -/
theorem wifiReceive_nso {pkt : Packet} {bytes : List UInt8} (isNso : IsNsoFrame bytes)
    (room : ethHlen ≤ pkt.data) :
    ∃ buf byteLen tail,
      wifiReceive pkt (.frame bytes) =
        ⟨0, { pkt with buf := buf, byteLen := byteLen, tail := tail },
          some ((bytes.drop ethAlen).take ethAlen, bytes.take ethAlen)⟩ ∧
      ({ pkt with buf := buf, byteLen := byteLen, tail := tail } : Packet).bytes =
        (bytes.drop ethHlen).take pkt.size := by
  rcases isNso with ⟨long, type⟩
  simp only [ethHlen] at long room
  let taken := bytes.take (pkt.size + ethHlen)
  have takenLong : ethHlen ≤ taken.length := by
    simp only [taken, List.length_take, ethHlen]
    omega
  simp only [ethHlen] at takenLong
  have slice : ∀ start count, start + count ≤ 14 →
      (pkt.buf.write (pkt.data - ethHlen) taken).read (pkt.data - ethHlen + start) count =
        (bytes.drop start).take count := by
    intro start count inside
    rw [Memory.read_write_slice _ _ (by omega)]
    simp only [taken, List.drop_take, List.take_take]
    rw [Nat.min_eq_left (by simp only [ethHlen]; omega)]
  refine ⟨pkt.buf.write (pkt.data - ethHlen) taken, taken.length - ethHlen,
    pkt.data + (taken.length - ethHlen), ?_, ?_⟩
  · have accepted := slice 12 2 (by omega)
    rw [type] at accepted
    have source := slice 6 6 (by omega)
    have dest := slice 0 6 (by omega)
    simp only [Nat.add_zero, List.drop_zero] at dest
    simp only [wifiReceive]
    rw [if_neg (by simp only [ethHlen]; omega)]
    have notEmpty : ¬ (bytes.take (pkt.size + ethHlen)).length = 0 := by
      simp only [taken] at takenLong
      omega
    rw [if_neg notEmpty, if_neg (by rw [accepted]; exact fun ne => ne rfl)]
    simp only [ethAlen]
    rw [source, dest]
  · have payload := @Memory.read_write_slice pkt.buf (pkt.data - ethHlen) ethHlen
      (taken.length - ethHlen) taken (by simp only [ethHlen]; omega)
    rw [Nat.sub_add_cancel (by simpa only [ethHlen] using room)] at payload
    have count : ((taken.length : Int) - (ethHlen : Int)).toNat = taken.length - ethHlen := by
      simp only [ethHlen]
      omega
    simp only [Packet.bytes, count, payload]
    rw [List.take_of_length_le (by rw [List.length_drop])]
    simp only [taken, List.drop_take, Nat.add_sub_cancel]

/-! ## Runs of the loop -/

/-- The handlers are called once for each NSO frame and for nothing else, in order and
with the frame's own payload and addresses, and every address object is freed once. -/
structure OneCallPerFrame (mtu : Nat) (outcomes : List RecvFrom) (thread : RxThread) : Prop where
  calls : thread.calls.map RxCall.view = (outcomes.filterMap nsoFrame).map (frameView mtu)
  freedOnce : ∀ object < thread.objects.length, thread.freed.count (some object) = 1

/-- The loop after NSO frames only. -/
structure Regular (mtu : Nat) (frames : List (List UInt8)) (thread : RxThread) : Prop where
  data : thread.pkt.data = headroom
  size : thread.pkt.size = mtu
  objects : thread.objects.length = 2 * frames.length
  freed : thread.freed = (List.range (2 * frames.length)).map some
  calls : thread.calls.map RxCall.view = frames.map (frameView mtu)

variable {mtu : Nat} {frames : List (List UInt8)} {thread : RxThread}
  {handle : Nat → RxCall → Packet → Memory}

theorem regular_start (junk : Memory) : Regular mtu [] (RxThread.start junk mtu) :=
  ⟨rfl, rfl, rfl, rfl, rfl⟩

/-- One NSO frame: its two addresses are fresh objects, so the handler sees them, and the
loop frees these two. -/
theorem regular_step (regular : Regular mtu frames thread) {bytes : List UInt8}
    (isNso : IsNsoFrame bytes) :
    Regular mtu (frames ++ [bytes]) (thread.step handle (.frame bytes)) := by
  have room : ethHlen ≤ thread.pkt.data := by
    rw [regular.data]
    decide
  rcases wifiReceive_nso isNso room with ⟨buf, byteLen, tail, received, payload⟩
  let object := thread.objects.length
  let arrived : RxThread :=
    { thread with
      pkt := { thread.pkt with buf := buf, byteLen := byteLen, tail := tail }
      src := some object
      dst := some (object + 1)
      objects := thread.objects ++ [(bytes.drop ethAlen).take ethAlen, bytes.take ethAlen] }
  have receives : thread.receive (.frame bytes) = arrived := by
    simp only [RxThread.receive, received]
    rfl
  have fresh : ∀ other, object ≤ other → some other ∉ thread.freed := by
    intro other behind isFreed
    rw [regular.freed] at isFreed
    simp only [List.mem_map, List.mem_range, Option.some.injEq, exists_eq_right] at isFreed
    have count := regular.objects
    omega
  have sourceSeen : arrived.deref arrived.src = some ((bytes.drop ethAlen).take ethAlen) := by
    simp only [RxThread.deref, arrived]
    rw [if_neg (fresh object le_rfl)]
    simp [object]
  have destSeen : arrived.deref arrived.dst = some (bytes.take ethAlen) := by
    simp only [RxThread.deref, arrived]
    rw [if_neg (fresh (object + 1) (Nat.le_succ object))]
    simp [object]
  have view : arrived.nextCall.view = frameView mtu bytes := by
    simp only [RxThread.nextCall, RxCall.view, frameView, sourceSeen, destSeen]
    rw [← regular.size, ← payload]
  rw [RxThread.step, receives]
  constructor
  · rfl
  · exact regular.size
  · simp only [arrived, List.length_append, List.length_cons, List.length_nil,
      regular.objects]
    omega
  · have count := regular.objects
    simp only [arrived, regular.freed, List.length_append, List.length_cons, List.length_nil]
    rw [show 2 * (frames.length + (0 + 1)) = 2 * frames.length + 1 + 1 by omega,
      List.range_succ, List.range_succ]
    simp [object, count]
  · simp only [List.map_append, List.map_cons, List.map_nil, view]
    simp only [arrived, regular.calls]

theorem nsoFrame_eq_some {outcome : RecvFrom} {bytes : List UInt8}
    (isFrame : nsoFrame outcome = some bytes) :
    outcome = .frame bytes ∧ IsNsoFrame bytes := by
  cases outcome with
  | error => simp [nsoFrame] at isFrame
  | frame received =>
      simp only [nsoFrame] at isFrame
      split at isFrame
      · rename_i isNso
        rcases Option.some.inj isFrame with rfl
        exact ⟨rfl, isNso⟩
      · simp at isFrame

theorem regular_run {outcomes : List RecvFrom} (regular : Regular mtu frames thread)
    (allNso : ∀ outcome ∈ outcomes, (nsoFrame outcome).isSome = true) :
    Regular mtu (frames ++ outcomes.filterMap nsoFrame) (thread.run handle outcomes) := by
  induction outcomes generalizing frames thread with
  | nil => simpa [RxThread.run] using regular
  | cons outcome rest ih =>
      rcases Option.isSome_iff_exists.mp (allNso outcome List.mem_cons_self) with
        ⟨bytes, isFrame⟩
      rcases nsoFrame_eq_some isFrame with ⟨rfl, isNso⟩
      have after := ih (@regular_step _ _ _ handle regular _ isNso)
        fun other isLater => allNso other (List.mem_cons_of_mem _ isLater)
      rw [List.filterMap_cons_some isFrame]
      simpa [RxThread.run] using after

/-- Every iteration calls a handler, whatever the receive answered. -/
theorem length_calls_run (outcomes : List RecvFrom) :
    (thread.run handle outcomes).calls.length = thread.calls.length + outcomes.length := by
  induction outcomes generalizing thread with
  | nil => rfl
  | cons outcome rest ih =>
      have stepCalls : (thread.step handle outcome).calls.length = thread.calls.length + 1 := by
        simp only [RxThread.step, RxThread.receive]
        split <;> simp
      have restCalls := @ih (thread.step handle outcome)
      simp only [RxThread.run, List.foldl_cons, List.length_cons] at restCalls ⊢
      omega

theorem filterMap_length_eq {outcomes : List RecvFrom}
    (full : (outcomes.filterMap nsoFrame).length = outcomes.length) :
    ∀ outcome ∈ outcomes, (nsoFrame outcome).isSome = true := by
  induction outcomes with
  | nil => simp
  | cons outcome rest ih =>
      have short := List.length_filterMap_le nsoFrame rest
      cases isFrame : nsoFrame outcome with
      | none =>
          rw [List.filterMap_cons_none isFrame, List.length_cons] at full
          omega
      | some bytes =>
          rw [List.filterMap_cons_some isFrame, List.length_cons, List.length_cons] at full
          intro other otherMem
          rcases List.mem_cons.mp otherMem with rfl | isLater
          · simp [isFrame]
          · exact ih (by omega) other isLater

/-- The loop serves every frame once, with its own addresses, exactly when every receive
of the sequence answers with an NSO frame. -/
theorem rxThread_one_call_per_frame_iff (junk : Memory) (mtu : Nat)
    (handle : Nat → RxCall → Packet → Memory) (outcomes : List RecvFrom) :
    OneCallPerFrame mtu outcomes ((RxThread.start junk mtu).run handle outcomes) ↔
      ∀ outcome ∈ outcomes, (nsoFrame outcome).isSome = true := by
  constructor
  · intro oneCall
    have calls := congrArg List.length oneCall.calls
    simp only [List.length_map, length_calls_run, RxThread.start, List.length_nil,
      Nat.zero_add] at calls
    exact filterMap_length_eq calls.symm
  · intro allNso
    have started := @regular_start mtu junk
    have regular := @regular_run _ _ _ handle _ started allNso
    simp only [List.nil_append] at regular
    refine ⟨regular.calls, ?_⟩
    intro object isObject
    rw [regular.objects] at isObject
    rw [regular.freed]
    apply List.count_eq_one_of_mem
    · exact (List.nodup_range).map (Option.some_injective _)
    · simpa using isObject

/-- A handler is called for a failed receive. -/
theorem failed_receive_dispatched :
    ¬ OneCallPerFrame 1500 [.error]
      ((RxThread.start (fun _ => 0) 1500).run (fun _ _ pkt => pkt.buf) [.error]) := by
  intro oneCall
  have calls := congrArg List.length oneCall.calls
  rw [List.length_map, length_calls_run] at calls
  exact absurd calls (by decide)

end Nrg5
