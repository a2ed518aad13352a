import Nrg5.Lib.ByteStream
import Nrg5.Packet

/-!
# The readers of vTSD and vSON

Both servers read a header and then the payload with one `recv` each.  A short or
empty header is dropped and the next read is taken for a header; a payload whose
size is not the announced one, and a handler that raises, end the thread of the
connection.  A message for somebody else is answered without reading its payload.

The readers differ in the headers whose payload they read and in what they do with
it.  The numbers of `common/Def.py` are plain integers here.

What a reader writes to the base station is left out.  For each header that it drops vSON
writes `error`, also in the turns at the end of a stream, and vTSD writes nothing; both write
their replies.  Such a write may raise when the base station no longer reads, and the exception
then ends the thread where the model goes on or turns round.
-/

namespace Nrg5

open ByteMemory ByteStream

/-- What `struct.unpack("!QQHH", nso_hdr)` yields. -/
structure NsoHdr where
  src : Nat
  dst : Nat
  proto : Nat
  length : Nat
deriving DecidableEq

def unpackHdr (bytes : List UInt8) : NsoHdr :=
  { src := beNat (bytes.take 8)
    dst := beNat ((bytes.drop 8).take 8)
    proto := beNat ((bytes.drop 16).take 2)
    length := beNat ((bytes.drop 18).take 2) }

/-- What differs between the two readers.  A handler that raises yields nothing. -/
structure NsoReader (σ : Type) where
  takes : NsoHdr → Bool
  handle : σ → NsoHdr → List UInt8 → Option σ

/-- A message as a reader decodes it; without a payload when it did not read it. -/
structure Decoded where
  src : Nat
  dst : Nat
  proto : Nat
  payload : Option (List UInt8)
deriving DecidableEq

/-- How the thread of a connection ends up: it waits for bytes, it turns round at the end
of the stream for ever, or an exception has ended it. -/
inductive ReaderEnd : Type where
  | waits
  | spins
  | dead
deriving DecidableEq

structure Reading where
  decoded : List Decoded
  ends : ReaderEnd

def NsoHdr.decode (hdr : NsoHdr) (payload : Option (List UInt8)) : Decoded :=
  ⟨hdr.src, hdr.dst, hdr.proto, payload⟩

def Reading.after (first : Decoded) (reading : Reading) : Reading :=
  { reading with decoded := first :: reading.decoded }

namespace NsoReader

variable {σ : Type}

/-- `__listen_to_BS` and `__listen_to_bs`. -/
def listen (reader : NsoReader σ) (state : σ) (stream : ByteStream) : Reading :=
  match _isHdr : recv nsohdrSize stream with
  | .waits => ⟨[], .waits⟩
  | .error => ⟨[], .dead⟩
  | .bytes nsoHdr rest =>
      if _nothing : nsoHdr = [] then ⟨[], .spins⟩
      else if nsoHdr.length ≠ nsohdrSize then listen reader state rest
      else
        let hdr := unpackHdr nsoHdr
        if reader.takes hdr = true then
          if hdr.length ≤ nsohdrSize then ⟨[], .dead⟩
          else
            match _isPayload : recv (hdr.length - nsohdrSize) rest with
            | .waits => ⟨[], .waits⟩
            | .error => ⟨[], .dead⟩
            | .bytes payload left =>
                if payload.length ≠ hdr.length - nsohdrSize then ⟨[], .dead⟩
                else
                  .after (hdr.decode (some payload))
                    (match reader.handle state hdr payload with
                      | none => ⟨[], .dead⟩
                      | some next => listen reader next left)
        else .after (hdr.decode none) (listen reader state rest)
termination_by stream.content.length
decreasing_by
  all_goals
    have notEmpty : 0 < nsoHdr.length := List.length_pos_iff.mpr _nothing
    have counted := length_of_recv _isHdr
    first
      | omega
      | have restLength := length_of_recv _isPayload
        omega

end NsoReader

/-! ## Messages of a base station -/

/-- A well-formed message: version 0, the length field counts header and payload, and the
payload has at least one byte. -/
structure SentMessage where
  src : Nat
  dst : Nat
  proto : Nat
  payload : List UInt8
  srcFits : src < 2 ^ 64
  dstFits : dst < 2 ^ 64
  protoFits : proto < 2 ^ 16
  typed : 1 ≤ payload.length
  lengthFits : nsohdrSize + payload.length < 16384

namespace SentMessage

def hdr (message : SentMessage) : NsoHdr :=
  ⟨message.src, message.dst, message.proto, nsohdrSize + message.payload.length⟩

def hdrBytes (message : SentMessage) : List UInt8 :=
  beBytes 8 message.src ++ (beBytes 8 message.dst ++ (beBytes 2 message.proto ++
    beBytes 2 (nsohdrSize + message.payload.length)))

def bytes (message : SentMessage) : List UInt8 := message.hdrBytes ++ message.payload

def decoded (message : SentMessage) : Decoded := message.hdr.decode (some message.payload)

variable {message : SentMessage}

theorem length_hdrBytes : message.hdrBytes.length = nsohdrSize := by
  simp [hdrBytes, nsohdrSize]

theorem unpackHdr_hdrBytes : unpackHdr message.hdrBytes = message.hdr := by
  have srcEight := length_beBytes 8 message.src
  have dstEight := length_beBytes 8 message.dst
  have protoTwo := length_beBytes 2 message.proto
  have word : nsohdrSize + message.payload.length < 256 ^ 2 :=
    Nat.lt_trans message.lengthFits (by decide)
  simp only [unpackHdr, hdrBytes, hdr, NsoHdr.mk.injEq]
  refine ⟨?_, ?_, ?_, ?_⟩
  · rw [List.take_left' srcEight, beNat_beBytes]
    exact Nat.mod_eq_of_lt message.srcFits
  · rw [List.drop_left' srcEight, List.take_left' dstEight, beNat_beBytes]
    exact Nat.mod_eq_of_lt message.dstFits
  · rw [← List.append_assoc, List.drop_left' (by rw [List.length_append, srcEight, dstEight]),
      List.take_left' protoTwo, beNat_beBytes]
    exact Nat.mod_eq_of_lt message.protoFits
  · rw [← List.append_assoc, ← List.append_assoc, List.drop_left'
      (by rw [List.length_append, List.length_append, srcEight, dstEight, protoTwo]),
      List.take_of_length_le (by rw [length_beBytes]), beNat_beBytes, Nat.mod_eq_of_lt word]

end SentMessage

/-- The two pieces of each message: its header and its payload. -/
def pieces (messages : List SentMessage) : List Nat :=
  messages.flatMap fun message => [nsohdrSize, message.payload.length]

namespace NsoReader

variable {σ : Type} {reader : NsoReader σ} {state : σ} {stream rest : ByteStream}
  {message : SentMessage} {messages : List SentMessage}

/-- The handlers of all messages but the last come back. -/
def Survives (reader : NsoReader σ) : σ → List SentMessage → Prop
  | _, [] => True
  | state, message :: rest =>
      rest = [] ∨ ∃ next, reader.handle state message.hdr message.payload = some next ∧
        reader.Survives next rest

/-! ## One turn of the loop -/

theorem listen_short {nsoHdr : List UInt8} (reads : recv nsohdrSize stream = .bytes nsoHdr rest)
    (notEmpty : nsoHdr ≠ []) (short : nsoHdr.length ≠ nsohdrSize) :
    reader.listen state stream = reader.listen state rest := by
  rw [listen]
  split
  · rename_i waits
    rw [reads] at waits
    simp at waits
  · rename_i fails
    rw [reads] at fails
    simp at fails
  · rename_i got left isHdr
    rw [reads] at isHdr
    simp only [Recv.bytes.injEq] at isHdr
    rcases isHdr with ⟨rfl, rfl⟩
    rw [dif_neg notEmpty, if_pos short]

theorem listen_hdr {nsoHdr : List UInt8} (reads : recv nsohdrSize stream = .bytes nsoHdr rest)
    (whole : nsoHdr.length = nsohdrSize) :
    reader.listen state stream =
      if reader.takes (unpackHdr nsoHdr) = true then
        if (unpackHdr nsoHdr).length ≤ nsohdrSize then ⟨[], .dead⟩
        else
          match recv ((unpackHdr nsoHdr).length - nsohdrSize) rest with
          | .waits => ⟨[], .waits⟩
          | .error => ⟨[], .dead⟩
          | .bytes payload left =>
              if payload.length ≠ (unpackHdr nsoHdr).length - nsohdrSize then ⟨[], .dead⟩
              else
                .after ((unpackHdr nsoHdr).decode (some payload))
                  (match reader.handle state (unpackHdr nsoHdr) payload with
                    | none => ⟨[], .dead⟩
                    | some next => listen reader next left)
      else .after ((unpackHdr nsoHdr).decode none) (listen reader state rest) := by
  have notEmpty : nsoHdr ≠ [] := by
    rintro rfl
    exact absurd whole (by decide)
  conv => lhs; rw [listen]
  split
  · rename_i waits
    rw [reads] at waits
    simp at waits
  · rename_i fails
    rw [reads] at fails
    simp at fails
  · rename_i got left isHdr
    rw [reads] at isHdr
    simp only [Recv.bytes.injEq] at isHdr
    rcases isHdr with ⟨rfl, rfl⟩
    rw [dif_neg notEmpty, if_neg (not_not_intro whole)]
    dsimp only
    congr 2
    split
    · rename_i isPayload
      rw [isPayload]
    · rename_i isPayload
      rw [isPayload]
    · rename_i isPayload
      rw [isPayload]

theorem listen_nil (isEmpty : stream.content = []) (segmented : stream.Segmented) :
    (reader.listen state stream).decoded = [] := by
  rw [listen]
  split
  · rfl
  · rfl
  · rename_i got left isHdr
    rw [dif_pos (recv_nil segmented isEmpty (by decide) isHdr)]


/-! ## A reading never counts more bytes than there are -/

/-- The bytes that a decoded message stands for. -/
def decodedSize (decoded : Decoded) : Nat :=
  nsohdrSize + (decoded.payload.getD []).length

theorem sum_after {first : Decoded} {reading : Reading} :
    ((Reading.after first reading).decoded.map decodedSize).sum =
      decodedSize first + (reading.decoded.map decodedSize).sum := by
  simp only [Reading.after, List.map_cons, List.sum_cons]

theorem decodedSize_le : ((reader.listen state stream).decoded.map decodedSize).sum ≤
    stream.content.length := by
  fun_induction listen reader state stream with
  | case4 state stream nsoHdr rest isHdr nothing short ih =>
      have counted := length_of_recv isHdr
      omega
  | case9 state stream nsoHdr rest isHdr nothing whole hdr takes long payload left isPayload
      complete ih =>
      have counted := length_of_recv isHdr
      have payloadLength := length_of_recv isPayload
      have inner : ((match reader.handle state hdr payload with
          | none => (⟨[], .dead⟩ : Reading)
          | some next => listen reader next left).decoded.map decodedSize).sum ≤
          left.content.length := by
        cases handled : reader.handle state hdr payload with
        | none => exact Nat.zero_le _
        | some next => exact ih next
      rw [sum_after]
      simp only [decodedSize, NsoHdr.decode, Option.getD_some] at inner ⊢
      omega
  | case10 state stream nsoHdr rest isHdr nothing whole hdr other ih =>
      have counted := length_of_recv isHdr
      rw [sum_after]
      simp only [decodedSize, NsoHdr.decode, Option.getD_none, List.length_nil]
      omega
  | _ => exact Nat.zero_le _

theorem length_bytes : message.bytes.length = decodedSize message.decoded := by
  simp only [SentMessage.bytes, SentMessage.decoded, NsoHdr.decode, decodedSize,
    List.length_append, SentMessage.length_hdrBytes, Option.getD_some]

theorem sum_decoded : ((messages.map SentMessage.decoded).map decodedSize).sum =
    (messages.flatMap SentMessage.bytes).length := by
  induction messages with
  | nil => rfl
  | cons message rest ih =>
      simp only [List.map_cons, List.sum_cons, List.flatMap_cons, List.length_append, ih,
        length_bytes]

theorem survives_of_handled {next : σ}
    (handled : reader.handle state message.hdr message.payload = some next) :
    reader.Survives state (message :: messages) ↔ reader.Survives next messages := by
  simp only [Survives, handled, Option.some.injEq, exists_eq_left']
  constructor
  · rintro (rfl | survives)
    · trivial
    · exact survives
  · exact Or.inr

/-! ## The whole stream -/

/-- A piece of a header costs bytes that some message then lacks. -/
theorem not_all_of_cut (segmented : stream.Segmented)
    (front : stream.content = messages.flatMap SentMessage.bytes)
    (cut : CutInside stream.chunks 0 nsohdrSize) :
    (reader.listen state stream).decoded ≠ messages.map SentMessage.decoded := by
  rcases recv_cut segmented cut with ⟨nsoHdr, rest, reads, behind, notEmpty, short⟩
  rw [listen_short reads (List.length_pos_iff.mp notEmpty) (by omega)]
  intro all
  have counted := @decodedSize_le _ reader state rest
  have lengths := congrArg List.length behind.content
  rw [front, List.length_append] at lengths
  rw [all, sum_decoded] at counted
  omega

/-- A message at the front of the stream that the reader takes: its payload arrives in one
piece and is handled, or ends the thread. -/
theorem listen_message {tail : List UInt8} (segmented : stream.Segmented)
    (front : stream.content = message.bytes ++ tail)
    (hdrUncut : ¬ CutInside stream.chunks 0 nsohdrSize)
    (takes : reader.takes message.hdr = true) :
    (CutInside stream.chunks nsohdrSize (nsohdrSize + message.payload.length) ∧
        reader.listen state stream = ⟨[], .dead⟩) ∨
      (¬ CutInside stream.chunks nsohdrSize (nsohdrSize + message.payload.length) ∧
        ∃ left, stream.Behind message.bytes left ∧
          reader.listen state stream = .after message.decoded
            (match reader.handle state message.hdr message.payload with
              | none => ⟨[], .dead⟩
              | some next => reader.listen next left)) := by
  have hdrLength := @SentMessage.length_hdrBytes message
  have typed := message.typed
  have payloadSize : message.hdr.length - nsohdrSize = message.payload.length := by
    simp [SentMessage.hdr]
  rw [SentMessage.bytes, List.append_assoc] at front
  have isHdr : stream.content.take nsohdrSize = message.hdrBytes := by
    rw [front, List.take_left' hdrLength]
  rcases recv_uncut segmented (by decide) (by rw [front, List.length_append]; omega) hdrUncut with
    ⟨rest, readsHdr, behindHdr⟩
  rw [isHdr] at readsHdr behindHdr
  have payloadFront : rest.content = message.payload ++ tail :=
    List.append_cancel_left (behindHdr.content.symm.trans front)
  have inStream := @ByteStream.Behind.cutInside _ _ _ 0 message.payload.length behindHdr
  rw [hdrLength, Nat.add_zero] at inStream
  rw [listen_hdr readsHdr hdrLength, SentMessage.unpackHdr_hdrBytes, if_pos takes,
    if_neg (by omega), payloadSize, ← inStream]
  by_cases payloadCut : CutInside rest.chunks 0 message.payload.length
  · left
    refine ⟨payloadCut, ?_⟩
    rcases recv_cut behindHdr.segmented payloadCut with ⟨payload, left, readsPayload, _, _, short⟩
    rw [readsPayload]
    dsimp only
    rw [if_pos (by omega)]
  · right
    refine ⟨payloadCut, ?_⟩
    have isPayload : rest.content.take message.payload.length = message.payload := by
      rw [payloadFront, List.take_left]
    rcases recv_uncut behindHdr.segmented (by omega)
      (by rw [payloadFront, List.length_append]; omega) payloadCut with
      ⟨left, readsPayload, behindPayload⟩
    rw [isPayload] at readsPayload behindPayload
    refine ⟨left, behindHdr.trans behindPayload, ?_⟩
    rw [readsPayload]
    dsimp only
    rw [if_neg (not_not_intro rfl), SentMessage.decoded]

theorem listen_not_taken {tail : List UInt8} (segmented : stream.Segmented)
    (front : stream.content = message.bytes ++ tail)
    (hdrUncut : ¬ CutInside stream.chunks 0 nsohdrSize)
    (ignores : ¬ reader.takes message.hdr = true) :
    (reader.listen state stream).decoded.head? = some (message.hdr.decode none) := by
  have hdrLength := @SentMessage.length_hdrBytes message
  rw [SentMessage.bytes, List.append_assoc] at front
  rcases recv_uncut segmented (by decide) (by rw [front, List.length_append]; omega) hdrUncut with
    ⟨rest, readsHdr, _⟩
  rw [front, List.take_left' hdrLength] at readsHdr
  rw [listen_hdr readsHdr hdrLength, SentMessage.unpackHdr_hdrBytes, if_neg ignores]
  rfl

/-- The reader decodes what was sent exactly when it takes every message, no cut lies inside
a header or a payload, and no handler but the last one raises. -/
theorem listen_iff (segmented : stream.Segmented)
    (front : stream.content = messages.flatMap SentMessage.bytes) :
    (reader.listen state stream).decoded = messages.map SentMessage.decoded ↔
      (∀ message ∈ messages, reader.takes message.hdr = true) ∧
        Uncut stream.chunks 0 (pieces messages) ∧ reader.Survives state messages := by
  induction messages generalizing state stream with
  | nil =>
      rw [List.flatMap_nil] at front
      simp [listen_nil front segmented, pieces, Uncut, Survives]
  | cons message others ih =>
      have first := front
      rw [List.flatMap_cons] at first
      have cuts : Uncut stream.chunks 0 (pieces (message :: others)) ↔
          ¬ CutInside stream.chunks 0 nsohdrSize ∧
            ¬ CutInside stream.chunks nsohdrSize (nsohdrSize + message.payload.length) ∧
            Uncut stream.chunks message.bytes.length (pieces others) := by
        simp only [pieces, List.flatMap_cons, List.cons_append, List.nil_append, Uncut,
          Nat.zero_add, SentMessage.bytes, List.length_append, SentMessage.length_hdrBytes]
      rw [cuts]
      by_cases hdrCut : CutInside stream.chunks 0 nsohdrSize
      · exact iff_of_false (not_all_of_cut segmented front hdrCut) fun sent => sent.2.1.1 hdrCut
      by_cases takes : reader.takes message.hdr = true
      · rcases listen_message segmented first hdrCut takes with
          ⟨payloadCut, dead⟩ | ⟨payloadUncut, left, behind, turn⟩
        · rw [dead]
          exact iff_of_false (by simp) fun sent => sent.2.1.2.1 payloadCut
        · have leftFront : left.content = others.flatMap SentMessage.bytes :=
            List.append_cancel_left (behind.content.symm.trans first)
          have leftCuts := @ByteStream.Behind.uncut _ _ _ 0 behind (pieces others)
          rw [Nat.add_zero] at leftCuts
          rw [turn, ← leftCuts, List.forall_mem_cons]
          simp only [Reading.after, List.map_cons, List.cons.injEq, true_and, takes, hdrCut,
            payloadUncut, not_false_eq_true]
          cases handled : reader.handle state message.hdr message.payload with
          | none =>
              dsimp only
              constructor
              · intro noOthers
                have isNil := List.map_eq_nil_iff.mp noOthers.symm
                subst isNil
                exact ⟨by simp, trivial, .inl rfl⟩
              · rintro ⟨_, _, isNil | ⟨next, isNext, _⟩⟩
                · rw [isNil, List.map_nil]
                · exact absurd (handled.symm.trans isNext) (by simp)
          | some next =>
              dsimp only
              rw [ih behind.segmented leftFront, survives_of_handled handled]
      · have head := @listen_not_taken _ _ state _ _ _ segmented first hdrCut takes
        refine iff_of_false ?_ fun sent => takes (sent.1 message List.mem_cons_self)
        intro all
        rw [all] at head
        simp [SentMessage.decoded, NsoHdr.decode] at head

end NsoReader

end Nrg5
