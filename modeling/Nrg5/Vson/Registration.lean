import Nrg5.Network.Vtsd
import Nrg5.VnfReaders
import Nrg5.Vson.Graph

/-!
# Registrations at vTSD and vSON

The vTSD posts every registration to vSON, and `push_node` knows a node only once.  The
status 400 of the second post leaves the vTSD without a reply.
-/

namespace Nrg5

namespace Vson

open ByteMemory

/-- `RESTNode.post`: the status of the response, and the graph behind it. -/
def restPost (ID : PyInt) (sign : String) (bs : Bool) (nodes : Nodes) : Nat × Nodes :=
  match TopologyGraph.pushNode ID sign true bs nodes with
  | (.nodeAlreadyExistent, after) => (400, after)
  | (_, after) => (200, after)

/-- A registration that is well formed: it has the protocol and a type of the vTSD, and its
JSON has a signature. -/
structure Registration where
  message : SentMessage
  sign : String
  bs : Bool
  req : List UInt8
  isTsd : message.proto = Vtsd.protoTsd
  isReg : message.payload = (if bs then Vtsd.msgBsReg else Vtsd.msgDevReg) :: req

namespace Registration

/-- The identifier of the sender. -/
def ID (registration : Registration) : PyInt := registration.message.src

/-- `__listen_to_BS` on a registration, with the post to vSON that it makes. -/
def register (nodes : Nodes) (registration : Registration) : Option (List UInt8) × Nodes :=
  let posted := restPost registration.ID registration.sign registration.bs nodes
  (Vtsd.listenToBs { isJson := true, vsonStatus := posted.1 } registration.message.bytes, posted.2)

/-- The replies to a sequence of registrations, and the graph behind them. -/
def run (nodes : Nodes) : List Registration → List (Option (List UInt8)) × Nodes
  | [] => ([], nodes)
  | registration :: rest =>
      let first := register nodes registration
      let others := run first.2 rest
      (first.1 :: others.1, others.2)

/-- A reply that tells the sender of a registration that it succeeded. -/
structure Succeeds (registration : Registration) (reply : List UInt8) : Prop where
  toSender : beNat ((reply.drop 8).take 8) = registration.message.src
  proto : beNat ((reply.drop 16).take 2) = Vtsd.protoTsd
  type : reply[20]? =
    some (if registration.bs then Vtsd.msgBsRegReply else Vtsd.msgDevRegReply)
  answer : reply[21]? = some Vtsd.answerSuccess

/-- Every registration is answered with success, each sender has one node, and a
registration whose sender has one leaves the graph as it is. -/
structure Idempotent (nodes : Nodes) (registrations : List Registration) : Prop where
  replies : List.Forall₂
    (fun registration reply => ∃ bytes, reply = some bytes ∧ registration.Succeeds bytes)
    registrations (run nodes registrations).1
  oneNode : ∀ registration ∈ registrations,
    (run nodes registrations).2.keys.count registration.ID = 1
  unchanged : ∀ earlier registration later, registrations = earlier ++ registration :: later →
    registration.ID ∈ (run nodes earlier).2 →
    (run nodes (earlier ++ [registration])).2 = (run nodes earlier).2

variable {nodes : Nodes} {registration : Registration} {registrations : List Registration}

/-! ## One registration -/

theorem listenToBs_registration (services : Vtsd.Services) :
    Vtsd.listenToBs services registration.message.bytes =
      Vtsd.processTsd services registration.message.src registration.message.dst
        registration.message.payload := by
  have hdr := @SentMessage.unpackHdr_hdrBytes registration.message
  have length := @SentMessage.length_hdrBytes registration.message
  have slice : ∀ start count, start + count ≤ 20 →
      (registration.message.bytes.drop start).take count =
        (registration.message.hdrBytes.drop start).take count := by
    intro start count inside
    simp only [nsohdrSize] at length
    rw [SentMessage.bytes, List.drop_append_of_le_length (by omega),
      List.take_append_of_le_length (by rw [List.length_drop]; omega)]
  have src := slice 0 8 (by omega)
  rw [List.drop_zero, List.drop_zero] at src
  have payload : registration.message.bytes.drop nsohdrSize = registration.message.payload :=
    List.drop_left' length
  simp only [unpackHdr, SentMessage.hdr, NsoHdr.mk.injEq] at hdr
  rcases hdr with ⟨isSrc, isDst, isProto, _⟩
  have long : ¬ registration.message.bytes.length < nsohdrSize := by
    rw [SentMessage.bytes, List.length_append, length]
    omega
  rw [Vtsd.listenToBs, if_neg long]
  dsimp only
  rw [src, slice 8 8 (by omega), slice 16 2 (by omega), payload, isSrc, isDst, isProto,
    if_pos registration.isTsd]

theorem processTsd_registration (services : Vtsd.Services) :
    Vtsd.processTsd services registration.message.src registration.message.dst
        registration.message.payload =
      if registration.bs then
        Vtsd.processBsReg services registration.message.src registration.message.dst
      else Vtsd.processDevReg services registration.message.src registration.message.dst := by
  rw [registration.isReg, Vtsd.processTsd]
  cases registration.bs <;> rfl

/-- The reply to the first registration of a device. -/
def success (registration : Registration) : List UInt8 :=
  if registration.bs then
    Vtsd.generateBsRegReply registration.message.src registration.message.dst Vtsd.answerSuccess
  else
    Vtsd.generateDeviceRegReply registration.message.src registration.message.dst
      Vtsd.answerSuccess

theorem succeeds_pack {type : UInt8}
    (isType : type = if registration.bs then Vtsd.msgBsRegReply else Vtsd.msgDevRegReply) :
    registration.Succeeds (Vtsd.pack registration.message.dst registration.message.src
      Vtsd.protoTsd (nsohdrSize + 2) [type, Vtsd.answerSuccess]) := by
  have back : ∀ {number : Nat}, number < 2 ^ 64 → beNat (beBytes 8 number) = number := by
    intro number fits
    rw [beNat_beBytes]
    exact Nat.mod_eq_of_lt fits
  have dst := back registration.message.dstFits
  have src := back registration.message.srcFits
  rcases Vtsd.pack_fields (length_beBytes 8 registration.message.dst)
    (length_beBytes 8 registration.message.src) Vtsd.protoTsd (nsohdrSize + 2)
    [type, Vtsd.answerSuccess] with ⟨_, toSender, proto, _, typed, _⟩
  rw [dst, src] at toSender proto typed
  refine ⟨?_, ?_, ?_, ?_⟩
  · rw [toSender, src]
  · rw [proto]
    rfl
  · rw [typed, isType]
    rfl
  · simp [Vtsd.pack]

theorem succeeds_success : registration.Succeeds registration.success := by
  rw [success]
  cases isBs : registration.bs with
  | true =>
      rw [if_pos rfl]
      exact succeeds_pack (by rw [isBs]; rfl)
  | false =>
      rw [if_neg Bool.false_ne_true]
      exact succeeds_pack (by rw [isBs]; rfl)

theorem register_known (isKnown : registration.ID ∈ nodes) :
    register nodes registration = (none, nodes) := by
  rcases AList.lookup_isSome.mpr isKnown |> Option.isSome_iff_exists.mp with ⟨node, found⟩
  have posted :
      restPost registration.ID registration.sign registration.bs nodes = (400, nodes) := by
    simp only [restPost, TopologyGraph.pushNode, found]
  rw [register, posted, listenToBs_registration, processTsd_registration]
  cases registration.bs <;> rfl

theorem register_new (isNew : registration.ID ∉ nodes) :
    register nodes registration =
      (some registration.success, nodes.insert registration.ID
        (Node.new registration.ID registration.sign true registration.bs)) := by
  have found : nodes.lookup registration.ID = none := AList.lookup_eq_none.mpr isNew
  have posted : restPost registration.ID registration.sign registration.bs nodes =
      (200, nodes.insert registration.ID
        (Node.new registration.ID registration.sign true registration.bs)) := by
    simp only [restPost, TopologyGraph.pushNode, found]
  rw [register, posted, listenToBs_registration, processTsd_registration, success]
  cases registration.bs <;> rfl

/-! ## A sequence of registrations -/

theorem run_append (registrations more : List Registration) :
    (run nodes (registrations ++ more)).2 = (run (run nodes registrations).2 more).2 := by
  induction registrations generalizing nodes with
  | nil => rfl
  | cons first rest ih => exact ih

theorem register_keeps {ID : PyInt} (isKnown : ID ∈ nodes) :
    ID ∈ (register nodes registration).2 := by
  by_cases known : registration.ID ∈ nodes
  · rw [register_known known]
    exact isKnown
  · rw [register_new known]
    exact AList.mem_insert _ |>.mpr (.inr isKnown)

theorem register_registers : registration.ID ∈ (register nodes registration).2 := by
  by_cases known : registration.ID ∈ nodes
  · rw [register_known known]
    exact known
  · rw [register_new known]
    exact AList.mem_insert _ |>.mpr (.inl rfl)

theorem run_keeps {ID : PyInt} (isKnown : ID ∈ nodes) : ID ∈ (run nodes registrations).2 := by
  induction registrations generalizing nodes with
  | nil => exact isKnown
  | cons first rest ih => exact ih (register_keeps isKnown)

theorem run_registers : ∀ registration ∈ registrations,
    registration.ID ∈ (run nodes registrations).2 := by
  induction registrations generalizing nodes with
  | nil => exact fun _ isMem => absurd isMem List.not_mem_nil
  | cons first rest ih =>
      have isFirst : first.ID ∈ (run (register nodes first).2 rest).2 :=
        run_keeps register_registers
      exact List.forall_mem_cons.mpr ⟨isFirst, ih⟩

theorem replies_iff : List.Forall₂
      (fun registration reply => ∃ bytes, reply = some bytes ∧ registration.Succeeds bytes)
      registrations (run nodes registrations).1 ↔
    (registrations.map ID).Nodup ∧ ∀ registration ∈ registrations, registration.ID ∉ nodes := by
  induction registrations generalizing nodes with
  | nil => simp [run]
  | cons first rest ih =>
      simp only [run, List.forall₂_cons, ih, List.map_cons, List.nodup_cons, List.forall_mem_cons]
      by_cases known : first.ID ∈ nodes
      · rw [register_known known]
        exact iff_of_false (by simp) fun fresh => fresh.2.1 known
      · rw [register_new known]
        have isFirst : ∃ bytes, some first.success = some bytes ∧ first.Succeeds bytes :=
          ⟨_, rfl, succeeds_success⟩
        simp only [isFirst, true_and, known, not_false_eq_true, AList.mem_insert, not_or,
          List.mem_map, not_exists, not_and]
        constructor
        · rintro ⟨nodup, fresh⟩
          exact ⟨⟨fun other isMem => (fresh other isMem).1, nodup⟩,
            fun other isMem => (fresh other isMem).2⟩
        · rintro ⟨⟨notFirst, nodup⟩, fresh⟩
          exact ⟨nodup, fun other isMem => ⟨notFirst other isMem, fresh other isMem⟩⟩

def firstDevice : Registration :=
  { message := ⟨1, 2, 0xF000, [0x00], by decide, by decide, by decide, by decide, by decide⟩
    sign := ""
    bs := false
    req := []
    isTsd := rfl
    isReg := rfl }

end Registration

end Vson

end Nrg5
