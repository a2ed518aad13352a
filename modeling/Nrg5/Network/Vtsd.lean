import Nrg5.Network.Message
import Nrg5.VnfStream

/-!
# The vTSD

`vTSD_launcher.py` reads one message of the base station after the other and writes
its answer back to the same connection.  The numbers of `common/Def.py` are plain
integers here, and a call that raises gives no answer.

The answer to a registration has source and destination swapped, an answer to
anything else has not.
-/

namespace Nrg5

namespace Vtsd

open ByteMemory

/-- `PROTO.TSD`. -/
def protoTsd : Nat := 0xF000

/-- `PROTO.SU2IP`. -/
def protoSu2ip : Nat := 0x0001

/-- `TSDMSG.DEV_REG`. -/
def msgDevReg : UInt8 := 0x00

/-- `TSDMSG.DEV_REG_REPLY`. -/
def msgDevRegReply : UInt8 := 0x01

/-- `TSDMSG.BS_REG`. -/
def msgBsReg : UInt8 := 0x02

/-- `TSDMSG.BS_REG_REPLY`. -/
def msgBsRegReply : UInt8 := 0x03

/-- `TSDMSG.UNSUPPORTED_MSGTYPE_ERROR`. -/
def unsupportedMsgtypeError : UInt8 := 0xA0

/-- `ANSWER.SUCCESS`. -/
def answerSuccess : UInt8 := 0x00

/-- `ANSWER.FAIL`. -/
def answerFail : UInt8 := 0x01

/-- What the vTSD meets outside: whether the registration is JSON with its two keys, and
the status of the post to vSON. -/
structure Services where
  isJson : Bool
  vsonStatus : Nat

/-- `struct.pack` of a header with what stands behind it. -/
def pack (src dst proto length : Nat) (rest : List UInt8) : List UInt8 :=
  beBytes 8 src ++ beBytes 8 dst ++ beBytes 2 proto ++ beBytes 2 length ++ rest

/-- `__generate_device_reg_reply`. -/
def generateDeviceRegReply (dst src : Nat) (answer : UInt8) : List UInt8 :=
  pack src dst protoTsd (nsohdrSize + 2) [msgDevRegReply, answer]

/-- `__generate_bs_reg_reply`. -/
def generateBsRegReply (dst src : Nat) (answer : UInt8) : List UInt8 :=
  pack src dst protoTsd (nsohdrSize + 2) [msgBsRegReply, answer]

/-- `__generate_unsupported_msgtype_err`. -/
def generateUnsupportedMsgtypeErr (src dst : Nat) : List UInt8 :=
  pack src dst protoTsd (nsohdrSize + 1) [unsupportedMsgtypeError]

/-- `__device_is_authenticated`. -/
def deviceIsAuthenticated : Nat := 200

/-- `__process_dev_reg` and `__process_bs_reg`, with the reply they generate. -/
def processReg (services : Services) (generate : UInt8 → List UInt8) : Option (List UInt8) :=
  if services.isJson = false then none
  else if deviceIsAuthenticated = 200 then
    if services.vsonStatus = 200 then some (generate answerSuccess) else none
  else some (generate answerFail)

/-- `__process_dev_reg`. -/
def processDevReg (services : Services) (src dst : Nat) : Option (List UInt8) :=
  processReg services (generateDeviceRegReply src dst)

/-- `__process_bs_reg`. -/
def processBsReg (services : Services) (src dst : Nat) : Option (List UInt8) :=
  processReg services (generateBsRegReply src dst)

/-- `__process_TSD`. -/
def processTsd (services : Services) (src dst : Nat) (payload : List UInt8) :
    Option (List UInt8) :=
  match payload with
  | [] => none
  | msgTyp :: _ =>
      if msgTyp = msgDevReg then processDevReg services src dst
      else if msgTyp = msgBsReg then processBsReg services src dst
      else some (generateUnsupportedMsgtypeErr src dst)

/-- What `__listen_to_BS` does with one message. -/
def listenToBs (services : Services) (message : List UInt8) : Option (List UInt8) :=
  if message.length < nsohdrSize then none
  else
    let src := beNat (message.take 8)
    let dst := beNat ((message.drop 8).take 8)
    let proto := beNat ((message.drop 16).take 2)
    if proto = protoTsd then processTsd services src dst (message.drop nsohdrSize)
    else if proto = protoSu2ip then none
    else some (generateUnsupportedMsgtypeErr src dst)

/-! ## The messages it writes -/

theorem pack_fields {src dst : List UInt8} (srcEight : src.length = 8) (dstEight : dst.length = 8)
    (proto length : Nat) (rest : List UInt8) :
    let packed := pack (beNat src) (beNat dst) proto length rest
    packed.take 8 = src ∧ (packed.drop 8).take 8 = dst ∧
      (packed.drop 16).take 2 = beBytes 2 proto ∧ (packed.drop 18).take 2 = beBytes 2 length ∧
      packed[20]? = rest[0]? ∧ packed.length = 20 + rest.length := by
  have srcBack := beBytes_beNat src
  have dstBack := beBytes_beNat dst
  rw [srcEight] at srcBack
  rw [dstEight] at dstBack
  have protoTwo := length_beBytes 2 proto
  have lengthTwo := length_beBytes 2 length
  simp only [pack, srcBack, dstBack]
  refine ⟨?_, ?_, ?_, ?_, ?_, ?_⟩
  · simp [srcEight]
  · simp [srcEight, dstEight]
  · simp [List.take_append, List.drop_append, srcEight, dstEight, protoTwo]
  · simp (disch := omega) [List.drop_append, srcEight, dstEight, List.drop_eq_nil_of_le]
  · simp [List.getElem?_append, srcEight, dstEight, protoTwo, lengthTwo]
  · simp [srcEight, dstEight, protoTwo, lengthTwo]
    omega

/-- What stands in an answer: two identifiers in one or the other order, and a type. -/
structure Answers (src dst : DeviceId) (type : UInt8) (reply : List UInt8) : Prop where
  message : messageOf reply = ⟨src, dst, protoCpVtsd, some type⟩
  long : nsohdrSize < reply.length
  short : reply.length ≤ nsohdrSize + 2
  lengthField : Bs.messageLength reply = reply.length

theorem answers_pack {src dst : List UInt8} (srcEight : src.length = 8) (dstEight : dst.length = 8)
    (type : UInt8) {rest : List UInt8} (atMostOne : rest.length ≤ 1) :
    Answers (deviceIdOfBytes src) (deviceIdOfBytes dst) type
      (pack (beNat src) (beNat dst) protoTsd (nsohdrSize + (type :: rest).length)
        (type :: rest)) := by
  rcases pack_fields srcEight dstEight protoTsd (nsohdrSize + (type :: rest).length)
    (type :: rest) with ⟨isSrc, isDst, isProto, isLength, isType, total⟩
  generalize pack (beNat src) (beNat dst) protoTsd (nsohdrSize + (type :: rest).length)
    (type :: rest) = reply at *
  constructor
  · simp only [messageOf, isSrc, isDst, isProto, nsohdrSize, isType]
    rfl
  · rw [total]
    simp [nsohdrSize]
  · rw [total]
    simp only [List.length_cons, nsohdrSize]
    omega
  · rw [Bs.messageLength, isLength, beNat_beBytes, total]
    simp only [List.length_cons, nsohdrSize]
    omega

/-- The answers of the vTSD.  A registration of a device or of a base station is answered
with the identifiers swapped; the answer to another message keeps them. -/
theorem listenToBs_answers {services : Services} {request reply : List UInt8}
    (answers : listenToBs services request = some reply) :
    (nsohdrSize < request.length ∧ (messageOf request).proto = protoCpVtsd ∧
      ((messageOf request).type = some msgDevReg ∧
          Answers (messageOf request).dst (messageOf request).src msgDevRegReply reply ∨
        (messageOf request).type = some msgBsReg ∧
          Answers (messageOf request).dst (messageOf request).src msgBsRegReply reply)) ∨
    Answers (messageOf request).src (messageOf request).dst unsupportedMsgtypeError reply := by
  unfold listenToBs at answers
  split at answers
  · simp at answers
  · rename_i notShort
    simp only [nsohdrSize] at notShort
    have srcEight : (request.take 8).length = 8 := by
      rw [List.length_take]
      omega
    have dstEight : ((request.drop 8).take 8).length = 8 := by
      rw [List.length_take, List.length_drop]
      omega
    have unsupported := @answers_pack _ _ srcEight dstEight unsupportedMsgtypeError [] (by simp)
    have swapped : ∀ type answer, Answers (messageOf request).dst (messageOf request).src type
        (pack (beNat ((request.drop 8).take 8)) (beNat (request.take 8)) protoTsd (nsohdrSize + 2)
          [type, answer]) :=
      fun type answer => @answers_pack _ _ dstEight srcEight type [answer] (by simp)
    have registers : ∀ {generate : UInt8 → List UInt8},
        processReg services generate = some reply → ∃ answer, generate answer = reply := by
      intro generate registered
      unfold processReg at registered
      split at registered
      · simp at registered
      · split at registered
        · split at registered
          · exact ⟨_, Option.some.inj registered⟩
          · simp at registered
        · exact ⟨_, Option.some.inj registered⟩
    dsimp only at answers
    split at answers
    · rename_i isTsd
      have proto : (messageOf request).proto = protoCpVtsd := by
        rw [messageOf, isTsd]
        rfl
      unfold processTsd at answers
      split at answers
      · simp at answers
      · rename_i msgTyp rest isPayload
        have type : (messageOf request).type = some msgTyp := by
          have head := congrArg (fun bytes => bytes[0]?) isPayload
          simpa [messageOf] using head
        have typed : nsohdrSize < request.length := by
          have lengths := congrArg List.length isPayload
          rw [List.length_drop, List.length_cons] at lengths
          omega
        split at answers
        · rename_i isDevReg
          rcases registers answers with ⟨answer, rfl⟩
          exact .inl ⟨typed, proto, .inl ⟨by rw [type, isDevReg], swapped _ _⟩⟩
        · split at answers
          · rename_i isBsReg
            rcases registers answers with ⟨answer, rfl⟩
            exact .inl ⟨typed, proto, .inr ⟨by rw [type, isBsReg], swapped _ _⟩⟩
          · rcases Option.some.inj answers with rfl
            exact .inr unsupported
    · split at answers
      · simp at answers
      · rcases Option.some.inj answers with rfl
        exact .inr unsupported

/-! ## Reading a message of a network function -/

/-- The packet that the base station makes of a message shows its header, and the whole
message where it has a type; the bytes behind it count as part of the packet. -/
theorem shows_readPktFromVnf {size : Nat} {message rest : List UInt8} {stream left : ByteStream}
    {junk : Memory} {pkt : Packet} (isMessage : Bs.IsMessage size message)
    (front : stream.content = message ++ rest)
    (reads : Bs.readPktFromVnf junk size stream = some (pkt, left)) :
    ∃ shown, pkt.Shows shown ∧ shown.type.isSome = true ∧
      shown.proto = (messageOf message).proto ∧
      (nsohdrSize < message.length → shown = messageOf message) := by
  rcases Bs.readPktFromVnf_message isMessage front with
    ⟨read, left', returns, _, byteLen, _, bytes⟩
  rw [returns] at reads
  simp only [Option.some.injEq, Prod.mk.injEq] at reads
  rcases reads with ⟨rfl, _⟩
  have header := isMessage.header
  simp only [nsohdrSize] at header byteLen
  have whole : read.bytes = message ++ read.buf.read (read.data + message.length) 20 := by
    rw [Packet.bytes, byteLen, show ((message.length : Int) + (20 : Nat)).toNat =
      message.length + 20 by omega, Memory.read_append, bytes]
  have isHeader : (nsohdrSize : Int) ≤ read.byteLen := by
    rw [byteLen, nsohdrSize]
    omega
  have isTyped : (nsohdrSize : Int) < read.byteLen := by
    rw [byteLen, nsohdrSize]
    omega
  refine ⟨messageOf read.bytes, ⟨isHeader, rfl⟩, ?_, ?_, ?_⟩
  · rw [messageOf_bytes isHeader, if_pos isTyped]
    rfl
  · simp only [messageOf, whole]
    rw [List.drop_append_of_le_length (by omega), List.take_append_of_le_length]
    rw [List.length_drop]
    omega
  · intro typed
    rw [whole, messageOf_append _ typed]

end Vtsd

end Nrg5
