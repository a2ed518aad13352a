import Nrg5.Network.Vtsd
import Nrg5.Vson.Southbound

/-!
# What vTSD and vSON decode of a stream

The two instances of the reader.  The vTSD reads the payload of a message of its own
protocol, and what `json` and `requests` do with a registration is a parameter.  vSON
reads the payload of a message of its own protocol whose identifiers are not zero.
-/

namespace Nrg5

open ByteMemory ByteStream

/-- What `json.loads` and the lookups of the two keys make of a registration. -/
inductive Loaded : Type where
  | notJson
  | noKeys
  | registration
deriving DecidableEq

/-- `json` and `requests`: a post to vSON changes the world outside, or raises. -/
structure VtsdModules (World : Type) where
  loads : List UInt8 → Loaded
  post : World → Nat → Bool → List UInt8 → Option World

namespace VtsdModules

variable {World : Type}

/-- `__process_dev_reg` as far as it returns: it catches what `json.loads` raises. -/
def processDevReg (modules : VtsdModules World) (world : World) (src : Nat) (req : List UInt8) :
    Option World :=
  match modules.loads req with
  | .notJson => some world
  | .noKeys => none
  | .registration => modules.post world src false req

/-- `__process_bs_reg` as far as it returns. -/
def processBsReg (modules : VtsdModules World) (world : World) (src : Nat) (msg : List UInt8) :
    Option World :=
  match modules.loads msg with
  | .notJson => none
  | .noKeys => none
  | .registration => modules.post world src true msg

/-- `__process_TSD` as far as it returns. -/
def processTsd (modules : VtsdModules World) (world : World) (hdr : NsoHdr)
    (payload : List UInt8) : Option World :=
  match payload with
  | [] => none
  | msgTyp :: msg =>
      if msgTyp = Vtsd.msgDevReg then modules.processDevReg world hdr.src msg
      else if msgTyp = Vtsd.msgBsReg then modules.processBsReg world hdr.src msg
      else some world

/-- `__listen_to_BS`. -/
def reader (modules : VtsdModules World) : NsoReader World :=
  { takes := fun hdr => decide (hdr.proto = Vtsd.protoTsd)
    handle := modules.processTsd }

end VtsdModules

namespace Vson

/-- `PROTO.SON`. -/
def protoSon : Nat := 0xF001

/-- `__process_SON`: a report is put into the graph. -/
def processSON (nodes : Nodes) (hdr : NsoHdr) (payload : List UInt8) : Option Nodes :=
  (unpackSON hdr.src payload).map fun msg =>
    match msg with
    | .topoRepo repo =>
        (TopologyGraph.putNodeInfo hdr.src
          ⟨some repo.battery, some repo.intfs, some repo.nbrs⟩ nodes).2
    | .unsupported => nodes

/-- `__listen_to_bs`. -/
def reader : NsoReader Nodes :=
  { takes := fun hdr =>
      decide (hdr.src ≠ 0 ∧ hdr.dst ≠ 0 ∧ hdr.length ≠ 0 ∧ hdr.proto = protoSon)
    handle := processSON }

/-- Whether a handler of vSON raises depends on the message alone. -/
theorem survives_iff (nodes : Nodes) (messages : List SentMessage) :
    reader.Survives nodes messages ↔
      ∀ message ∈ messages.dropLast, (unpackSON message.src message.payload).isSome = true := by
  induction messages generalizing nodes with
  | nil => simp [NsoReader.Survives]
  | cons message rest ih =>
      cases rest with
      | nil => simp [NsoReader.Survives]
      | cons second others =>
          rw [List.dropLast_cons_of_ne_nil (by simp), List.forall_mem_cons]
          cases unpacked : unpackSON message.src message.payload with
          | none =>
              have raises : reader.handle nodes message.hdr message.payload = none := by
                simp [reader, processSON, SentMessage.hdr, unpacked]
              simp [NsoReader.Survives, raises]
          | some msg =>
              rcases Option.isSome_iff_exists.mp (show (reader.handle nodes message.hdr
                message.payload).isSome = true by
                  simp [reader, processSON, SentMessage.hdr, unpacked]) with ⟨next, handled⟩
              rw [NsoReader.survives_of_handled handled, ih next]
              simp

end Vson

/-- The messages on which the vTSD reads every payload. -/
def VtsdReads (messages : List SentMessage) : Prop :=
  ∀ message ∈ messages, message.proto = Vtsd.protoTsd

/-- The messages on which vSON reads every payload. -/
def VsonReads (messages : List SentMessage) : Prop :=
  ∀ message ∈ messages, message.src ≠ 0 ∧ message.dst ≠ 0 ∧ message.proto = Vson.protoSon

/-- A message of one type byte that no handler knows. -/
def unknownType (proto : Nat) (fits : proto < 2 ^ 16) : SentMessage :=
  ⟨3, 4, proto, [7], by decide, by decide, fits, by decide, by decide⟩

theorem protoTsd_fits : Vtsd.protoTsd < 2 ^ 16 := by decide

def toVtsd : List SentMessage :=
  [unknownType Vtsd.protoTsd protoTsd_fits, unknownType Vtsd.protoTsd protoTsd_fits]

def toVson : List SentMessage :=
  [unknownType 0xF001 (by decide), unknownType 0xF001 (by decide)]

/-- Modules that know no JSON. -/
def noModules : VtsdModules Unit := ⟨fun _ => .notJson, fun _ _ _ _ => none⟩

theorem uncut_onePiece {bytes : List UInt8} (length : bytes.length = 42) :
    Uncut [bytes] 0 [20, 1, 20, 1] := by
  have ends : ∀ position, CutAt [bytes] position → position = 0 ∨ position = 42 := by
    intro position isCut
    rcases cutAt_cons.mp isCut with isZero | ⟨behind, isNil, rfl⟩
    · exact .inl isZero
    · rw [cutAt_nil.mp isNil, length]
      exact .inr rfl
  refine ⟨?_, ?_, ?_, ?_, trivial⟩ <;>
  · rintro ⟨position, isCut, after, before⟩
    have isEnd := ends position isCut
    omega

/-- TCP hands out the first ten bytes of the header alone. -/
def splitHeader (message : SentMessage) : ByteStream :=
  ⟨[message.bytes.take 10, message.bytes.drop 10], .waits⟩

end Nrg5
