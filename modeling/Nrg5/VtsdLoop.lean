import Nrg5.Lib.ReadLoop
import Nrg5.VnfFraming

/-!
# The loop of the vTSD

`__listen_to_BS` runs one turn for each header.  An empty or short header raises an
`NSOException`, which the loop swallows; the `return` of the loop waits for a code that nothing
raises.  So the only ways out are the exceptions that the loop does not catch: those of `recv`,
`struct.unpack`, `json`, `requests` and `sendall`.
-/

namespace Nrg5

open ByteMemory ByteStream StateTransition

/-- What the loop meets outside.  A call that raises yields nothing, and a post comes back with
the status code of its response. -/
structure VtsdServices (World : Type) where
  loads : List UInt8 → Loaded
  post : World → Nat → Bool → List UInt8 → Option (World × Nat)
  sendall : World → List UInt8 → Option World

/-- The loop between two turns. -/
structure Listening (World : Type) where
  world : World
  stream : ByteStream

namespace VtsdServices

variable {World : Type}

/-- What the two registrations do with a message that has its keys. -/
def register (services : VtsdServices World) (world : World) (src : Nat) (bs : Bool)
    (msg : List UInt8) (generate : UInt8 → List UInt8) :
    Option (World × Option (List UInt8)) :=
  if Vtsd.deviceIsAuthenticated = 200 then
    (services.post world src bs msg).map fun posted =>
      (posted.1, if posted.2 = 200 then some (generate Vtsd.answerSuccess) else none)
  else some (world, some (generate Vtsd.answerFail))

/-- `__process_dev_reg`. -/
def processDevReg (services : VtsdServices World) (world : World) (src dst : Nat)
    (req : List UInt8) : Option (World × Option (List UInt8)) :=
  match services.loads req with
  | .notJson => some (world, none)
  | .noKeys => none
  | .registration =>
      services.register world src false req (Vtsd.generateDeviceRegReply src dst)

/-- `__process_bs_reg`. -/
def processBsReg (services : VtsdServices World) (world : World) (src dst : Nat)
    (msg : List UInt8) : Option (World × Option (List UInt8)) :=
  match services.loads msg with
  | .notJson => none
  | .noKeys => none
  | .registration => services.register world src true msg (Vtsd.generateBsRegReply src dst)

/-- `__process_TSD` behind its `recv`. -/
def processTsd (services : VtsdServices World) (world : World) (hdr : NsoHdr)
    (payload : List UInt8) : Option (World × Option (List UInt8)) :=
  match payload with
  | [] => none
  | msgTyp :: msg =>
      if msgTyp = Vtsd.msgDevReg then services.processDevReg world hdr.src hdr.dst msg
      else if msgTyp = Vtsd.msgBsReg then services.processBsReg world hdr.src hdr.dst msg
      else some (world, some (Vtsd.generateUnsupportedMsgtypeErr hdr.src hdr.dst))

/-- `if response: client.sendall(response)`. -/
def answer (services : VtsdServices World) (world : World) (response : Option (List UInt8)) :
    Option World :=
  match response with
  | none => some world
  | some reply => services.sendall world reply

/-- The `recv` of `__process_TSD`: a size below zero, and a payload that has not the size that
`struct.unpack` expects, raise. -/
def recvPayload (hdr : NsoHdr) (stream : ByteStream) : Option (List UInt8 × ByteStream) :=
  if hdr.length ≤ nsohdrSize then none
  else
    match recv (hdr.length - nsohdrSize) stream with
    | .bytes payload left =>
        if payload.length = hdr.length - nsohdrSize then some (payload, left) else none
    | .waits => none
    | .error => none

/-- What one turn does behind a whole header. -/
def serve (services : VtsdServices World) (world : World) (hdr : NsoHdr) (stream : ByteStream) :
    Option (Listening World) :=
  if hdr.proto = Vtsd.protoTsd then do
    let (payload, left) ← recvPayload hdr stream
    let (processed, response) ← services.processTsd world hdr payload
    let answered ← services.answer processed response
    pure ⟨answered, left⟩
  else if hdr.proto = Vtsd.protoSu2ip then some ⟨world, stream⟩
  else
    (services.answer world (some (Vtsd.generateUnsupportedMsgtypeErr hdr.src hdr.dst))).map
      fun answered => ⟨answered, stream⟩

/-- One turn of `__listen_to_BS`; there is no next one when it waits or has raised. -/
def turn (services : VtsdServices World) (loop : Listening World) : Option (Listening World) :=
  match recv nsohdrSize loop.stream with
  | .waits => none
  | .error => none
  | .bytes nsoHdr rest =>
      if nsoHdr.length ≠ nsohdrSize then some ⟨loop.world, rest⟩
      else services.serve loop.world (unpackHdr nsoHdr) rest

/-! ## The ways out -/

/-- The header announces no payload, or one `recv` does not get what it announces. -/
def PayloadMissing (hdr : NsoHdr) (stream : ByteStream) : Prop :=
  hdr.length ≤ nsohdrSize ∨
    ∃ payload left, recv (hdr.length - nsohdrSize) stream = .bytes payload left ∧
      payload.length ≠ hdr.length - nsohdrSize

/-- One `recv` gets the payload that the header announces: a type and the message behind it. -/
structure PayloadRead (hdr : NsoHdr) (stream : ByteStream) (msgTyp : UInt8) (msg : List UInt8)
    (left : ByteStream) : Prop where
  reads : recv (hdr.length - nsohdrSize) stream = .bytes (msgTyp :: msg) left
  whole : hdr.length = nsohdrSize + (msg.length + 1)

/-- `TSDMSG.DEV_REG` or `TSDMSG.BS_REG`. -/
def regType (bs : Bool) : UInt8 := if bs then Vtsd.msgBsReg else Vtsd.msgDevReg

/-- The reply to a registration that vSON has taken. -/
def successReply (bs : Bool) (hdr : NsoHdr) : List UInt8 :=
  if bs then Vtsd.generateBsRegReply hdr.src hdr.dst Vtsd.answerSuccess
  else Vtsd.generateDeviceRegReply hdr.src hdr.dst Vtsd.answerSuccess

/-- What the loop owes the base station for the message behind a header: a reply or none, in the
world that vSON has made of it. -/
inductive Replies (services : VtsdServices World) (world : World) (hdr : NsoHdr)
    (stream : ByteStream) : World → Option (List UInt8) → ByteStream → Prop where
  | notJson {msg : List UInt8} {left : ByteStream} (isTsd : hdr.proto = Vtsd.protoTsd)
      (gets : PayloadRead hdr stream (regType false) msg left)
      (loaded : services.loads msg = .notJson) :
      Replies services world hdr stream world none left
  | registered {bs : Bool} {msg : List UInt8} {left : ByteStream} {told : World}
      (isTsd : hdr.proto = Vtsd.protoTsd) (gets : PayloadRead hdr stream (regType bs) msg left)
      (loaded : services.loads msg = .registration)
      (posts : services.post world hdr.src bs msg = some (told, 200)) :
      Replies services world hdr stream told (some (successReply bs hdr)) left
  | refused {bs : Bool} {msg : List UInt8} {left : ByteStream} {told : World} {status : Nat}
      (isTsd : hdr.proto = Vtsd.protoTsd) (gets : PayloadRead hdr stream (regType bs) msg left)
      (loaded : services.loads msg = .registration)
      (posts : services.post world hdr.src bs msg = some (told, status)) (bad : status ≠ 200) :
      Replies services world hdr stream told none left
  | unknownType {msgTyp : UInt8} {msg : List UInt8} {left : ByteStream}
      (isTsd : hdr.proto = Vtsd.protoTsd) (gets : PayloadRead hdr stream msgTyp msg left)
      (unknown : ∀ bs, msgTyp ≠ regType bs) :
      Replies services world hdr stream world
        (some (Vtsd.generateUnsupportedMsgtypeErr hdr.src hdr.dst)) left
  | data (isData : hdr.proto = Vtsd.protoSu2ip) :
      Replies services world hdr stream world none stream
  | unknownProto (notTsd : hdr.proto ≠ Vtsd.protoTsd) (notData : hdr.proto ≠ Vtsd.protoSu2ip) :
      Replies services world hdr stream world
        (some (Vtsd.generateUnsupportedMsgtypeErr hdr.src hdr.dst)) stream

/-- A call raises behind a header: the payload is missing, a registration has not its keys or,
from a base station, is not JSON, vSON cannot be told, or the reply cannot be sent. -/
inductive Raises (services : VtsdServices World) (world : World) (hdr : NsoHdr)
    (stream : ByteStream) : Prop where
  | payload (isTsd : hdr.proto = Vtsd.protoTsd) (missing : PayloadMissing hdr stream)
  | noKeys {bs : Bool} {msg : List UInt8} {left : ByteStream}
      (isTsd : hdr.proto = Vtsd.protoTsd) (gets : PayloadRead hdr stream (regType bs) msg left)
      (loaded : services.loads msg = .noKeys)
  | notJson {msg : List UInt8} {left : ByteStream} (isTsd : hdr.proto = Vtsd.protoTsd)
      (gets : PayloadRead hdr stream (regType true) msg left)
      (loaded : services.loads msg = .notJson)
  | post {bs : Bool} {msg : List UInt8} {left : ByteStream} (isTsd : hdr.proto = Vtsd.protoTsd)
      (gets : PayloadRead hdr stream (regType bs) msg left)
      (loaded : services.loads msg = .registration)
      (fails : services.post world hdr.src bs msg = none)
  | sendall {told : World} {reply : List UInt8} {left : ByteStream}
      (replies : Replies services world hdr stream told (some reply) left)
      (fails : services.sendall told reply = none)

/-- No call raises behind a header, and the reply is sent where there is one. -/
inductive Passes (services : VtsdServices World) (world : World) (hdr : NsoHdr)
    (stream : ByteStream) : Listening World → Prop where
  | silent {told : World} {left : ByteStream}
      (replies : Replies services world hdr stream told none left) :
      Passes services world hdr stream ⟨told, left⟩
  | sent {told answered : World} {reply : List UInt8} {left : ByteStream}
      (replies : Replies services world hdr stream told (some reply) left)
      (sends : services.sendall told reply = some answered) :
      Passes services world hdr stream ⟨answered, left⟩

/-- On its way through the stream the loop meets a header behind which it raises. -/
inductive Breaks (services : VtsdServices World) : World → ByteStream → Prop where
  | here {world : World} {stream rest : ByteStream} {nsoHdr : List UInt8}
      (reads : recv nsohdrSize stream = .bytes nsoHdr rest) (whole : nsoHdr.length = nsohdrSize)
      (raises : Raises services world (unpackHdr nsoHdr) rest) : Breaks services world stream
  | piece {world : World} {stream rest : ByteStream} {nsoHdr : List UInt8}
      (reads : recv nsohdrSize stream = .bytes nsoHdr rest) (short : nsoHdr.length ≠ nsohdrSize)
      (later : Breaks services world rest) : Breaks services world stream
  | message {world : World} {stream rest : ByteStream} {nsoHdr : List UInt8}
      {next : Listening World} (reads : recv nsohdrSize stream = .bytes nsoHdr rest)
      (whole : nsoHdr.length = nsohdrSize)
      (passes : Passes services world (unpackHdr nsoHdr) rest next)
      (later : Breaks services next.world next.stream) : Breaks services world stream

variable {services : VtsdServices World} {world : World} {hdr : NsoHdr}
  {stream rest : ByteStream} {loop next last : Listening World}

/-- A connection that the base station has closed never makes a `recv` wait or fail. -/
theorem recv_closed (closed : stream.atEnd = .closed) (size : Nat) :
    ∃ bytes rest, recv size stream = .bytes bytes rest ∧ rest.atEnd = .closed := by
  rw [recv]
  split
  · exact ⟨[], stream, rfl, closed⟩
  · split
    · rw [closed]
      exact ⟨[], stream, rfl, closed⟩
    · split
      · exact ⟨_, _, rfl, closed⟩
      · exact ⟨_, _, rfl, closed⟩

theorem recvPayload_of_missing (missing : PayloadMissing hdr stream) :
    recvPayload hdr stream = none := by
  rcases missing with short | ⟨payload, left, gets, cut⟩
  · rw [recvPayload, if_pos short]
  · rw [recvPayload, gets]
    dsimp only
    rw [if_neg cut, ite_self]

theorem recvPayload_of_read {msgTyp : UInt8} {msg : List UInt8} {left : ByteStream}
    (gets : PayloadRead hdr stream msgTyp msg left) :
    recvPayload hdr stream = some (msgTyp :: msg, left) := by
  have whole := gets.whole
  rw [recvPayload, if_neg (by omega), gets.reads]
  dsimp only
  rw [List.length_cons, if_pos (by omega)]

/-- On a closed connection the payload is there or it is missing. -/
theorem payload_missing_or_read (closed : stream.atEnd = .closed) :
    PayloadMissing hdr stream ∨ ∃ msgTyp msg left, PayloadRead hdr stream msgTyp msg left := by
  rcases recv_closed closed (hdr.length - nsohdrSize) with ⟨payload, left, reads, -⟩
  by_cases present : nsohdrSize < hdr.length ∧ payload.length = hdr.length - nsohdrSize
  · rcases present with ⟨long, whole⟩
    cases payload with
    | nil =>
        rw [List.length_nil] at whole
        omega
    | cons msgTyp msg =>
        rw [List.length_cons] at whole
        exact .inr ⟨msgTyp, msg, left, reads, by omega⟩
  · rw [not_and_or, not_lt] at present
    exact .inl (present.imp_right fun cut => ⟨payload, left, reads, cut⟩)

/-! ### The handler on a message -/

theorem register_of_post {bs : Bool} {msg : List UInt8} {src : Nat}
    {generate : UInt8 → List UInt8} {posted : Option (World × Nat)}
    (posts : services.post world src bs msg = posted) :
    services.register world src bs msg generate = posted.map fun done =>
      (done.1, if done.2 = 200 then some (generate Vtsd.answerSuccess) else none) := by
  rw [register, if_pos (show Vtsd.deviceIsAuthenticated = 200 from rfl), posts]

/-- What the handler of a registration does, by what `json` makes of it. -/
theorem processTsd_reg {bs : Bool} {msg : List UInt8} :
    services.processTsd world hdr (regType bs :: msg) =
      match services.loads msg with
      | .notJson => if bs then none else some (world, none)
      | .noKeys => none
      | .registration => (services.post world hdr.src bs msg).map fun done =>
          (done.1, if done.2 = 200 then some (successReply bs hdr) else none) := by
  cases bs with
  | false =>
      rw [processTsd, regType, if_neg Bool.false_ne_true, if_pos rfl, processDevReg]
      cases services.loads msg with
      | notJson => rfl
      | noKeys => rfl
      | registration => exact register_of_post rfl
  | true =>
      rw [processTsd, regType, if_pos rfl, if_neg (by decide), if_pos rfl, processBsReg]
      cases services.loads msg with
      | notJson => rfl
      | noKeys => rfl
      | registration => exact register_of_post rfl

theorem serve_of_read {msgTyp : UInt8} {msg : List UInt8} {left : ByteStream}
    (isTsd : hdr.proto = Vtsd.protoTsd) (gets : PayloadRead hdr stream msgTyp msg left) :
    services.serve world hdr stream =
      (services.processTsd world hdr (msgTyp :: msg)).bind fun done =>
        (services.answer done.1 done.2).map fun answered => ⟨answered, left⟩ := by
  rw [serve, if_pos isTsd, recvPayload_of_read gets]
  cases processes : services.processTsd world hdr (msgTyp :: msg) with
  | none => simp [processes]
  | some done => cases answers : services.answer done.1 done.2 <;> simp [processes, answers]

theorem serve_of_replies {told : World} {response : Option (List UInt8)} {left : ByteStream}
    (replies : services.Replies world hdr stream told response left) :
    services.serve world hdr stream =
      (services.answer told response).map fun answered => ⟨answered, left⟩ := by
  cases replies with
  | notJson isTsd gets loaded => rw [serve_of_read isTsd gets, processTsd_reg, loaded]; rfl
  | registered isTsd gets loaded posts =>
      rw [serve_of_read isTsd gets, processTsd_reg, loaded, posts]
      rfl
  | refused isTsd gets loaded posts bad =>
      rw [serve_of_read isTsd gets, processTsd_reg, loaded, posts]
      dsimp only [Option.map_some, Option.bind_some]
      rw [if_neg bad]
  | unknownType isTsd gets unknown =>
      have notDev : _ ≠ Vtsd.msgDevReg := unknown false
      have notBs : _ ≠ Vtsd.msgBsReg := unknown true
      rw [serve_of_read isTsd gets, processTsd, if_neg notDev, if_neg notBs]
      rfl
  | data isData =>
      rw [serve, if_neg (by rw [isData]; decide), if_pos isData]
      rfl
  | unknownProto notTsd notData => rw [serve, if_neg notTsd, if_neg notData]

theorem serve_of_raises (raises : services.Raises world hdr stream) :
    services.serve world hdr stream = none := by
  cases raises with
  | payload isTsd missing =>
      rw [serve, if_pos isTsd, recvPayload_of_missing missing]
      rfl
  | noKeys isTsd gets loaded => rw [serve_of_read isTsd gets, processTsd_reg, loaded]; rfl
  | notJson isTsd gets loaded => rw [serve_of_read isTsd gets, processTsd_reg, loaded]; rfl
  | post isTsd gets loaded fails =>
      rw [serve_of_read isTsd gets, processTsd_reg, loaded, fails]
      rfl
  | sendall replies fails =>
      rw [serve_of_replies replies, answer, fails]
      rfl

theorem serve_of_passes (passes : services.Passes world hdr stream next) :
    services.serve world hdr stream = some next := by
  cases passes with
  | silent replies => rw [serve_of_replies replies]; rfl
  | sent replies sends => rw [serve_of_replies replies, answer, sends]; rfl

/-- A registration raises or is owed a reply, whatever `json` and vSON do. -/
theorem registration_raises_or_replies {bs : Bool} {msg : List UInt8} {left : ByteStream}
    (isTsd : hdr.proto = Vtsd.protoTsd) (gets : PayloadRead hdr stream (regType bs) msg left) :
    services.Raises world hdr stream ∨
      ∃ told response, services.Replies world hdr stream told response left := by
  cases loaded : services.loads msg with
  | notJson =>
      cases bs with
      | false => exact .inr ⟨world, none, .notJson isTsd gets loaded⟩
      | true => exact .inl (.notJson isTsd gets loaded)
  | noKeys => exact .inl (.noKeys isTsd gets loaded)
  | registration =>
      cases posts : services.post world hdr.src bs msg with
      | none => exact .inl (.post isTsd gets loaded posts)
      | some done =>
          rcases done with ⟨told, status⟩
          by_cases good : status = 200
          · rw [good] at posts
            exact .inr ⟨told, _, .registered isTsd gets loaded posts⟩
          · exact .inr ⟨told, none, .refused isTsd gets loaded posts good⟩

theorem raises_or_replies (closed : stream.atEnd = .closed) :
    services.Raises world hdr stream ∨
      ∃ told response left, services.Replies world hdr stream told response left := by
  by_cases isTsd : hdr.proto = Vtsd.protoTsd
  · rcases payload_missing_or_read closed with missing | ⟨msgTyp, msg, left, gets⟩
    · exact .inl (.payload isTsd missing)
    · by_cases unknown : ∀ bs, msgTyp ≠ regType bs
      · exact .inr ⟨world, _, left, .unknownType isTsd gets unknown⟩
      · rw [not_forall_not] at unknown
        rcases unknown with ⟨bs, rfl⟩
        exact (registration_raises_or_replies isTsd gets).imp_right fun ⟨told, response, replies⟩ =>
          ⟨told, response, left, replies⟩
  · by_cases isData : hdr.proto = Vtsd.protoSu2ip
    · exact .inr ⟨world, none, stream, .data isData⟩
    · exact .inr ⟨world, _, stream, .unknownProto isTsd isData⟩

/-- Behind a header of a closed connection a call raises or the loop passes on. -/
theorem raises_or_passes (closed : stream.atEnd = .closed) :
    services.Raises world hdr stream ∨ ∃ next, services.Passes world hdr stream next := by
  rcases raises_or_replies closed with raises | ⟨told, response, left, replies⟩
  · exact .inl raises
  · cases response with
    | none => exact .inr ⟨_, .silent replies⟩
    | some reply =>
        cases sends : services.sendall told reply with
        | none => exact .inl (.sendall replies sends)
        | some answered => exact .inr ⟨_, .sent replies sends⟩

theorem serve_none_iff (closed : stream.atEnd = .closed) :
    services.serve world hdr stream = none ↔ services.Raises world hdr stream := by
  refine ⟨fun serves => ?_, serve_of_raises⟩
  rcases raises_or_passes closed with raises | ⟨next, passes⟩
  · exact raises
  · rw [serve_of_passes passes] at serves
    simp at serves

theorem serve_some_iff (closed : stream.atEnd = .closed) :
    services.serve world hdr stream = some next ↔ services.Passes world hdr stream next := by
  refine ⟨fun serves => ?_, serve_of_passes⟩
  rcases raises_or_passes closed with raises | ⟨other, passes⟩
  · rw [serve_of_raises raises] at serves
    simp at serves
  · rw [serve_of_passes passes] at serves
    rcases Option.some.inj serves with rfl
    exact passes

/-! ### The turns -/

theorem turn_piece {nsoHdr : List UInt8} (reads : recv nsohdrSize stream = .bytes nsoHdr rest)
    (short : nsoHdr.length ≠ nsohdrSize) :
    services.turn ⟨world, stream⟩ = some ⟨world, rest⟩ := by
  rw [turn, reads]
  dsimp only
  rw [if_pos short]

theorem turn_whole {nsoHdr : List UInt8} (reads : recv nsohdrSize stream = .bytes nsoHdr rest)
    (whole : nsoHdr.length = nsohdrSize) :
    services.turn ⟨world, stream⟩ = services.serve world (unpackHdr nsoHdr) rest := by
  rw [turn, reads]
  dsimp only
  rw [if_neg (not_not_intro whole)]

/-- The turn that does not go on is one that breaks. -/
theorem breaks_of_turn_none (closed : loop.stream.atEnd = .closed)
    (raises : services.turn loop = none) : services.Breaks loop.world loop.stream := by
  rcases recv_closed closed nsohdrSize with ⟨nsoHdr, rest, reads, restClosed⟩
  by_cases whole : nsoHdr.length = nsohdrSize
  · rw [turn_whole reads whole, serve_none_iff restClosed] at raises
    exact .here reads whole raises
  · rw [turn_piece reads whole] at raises
    simp at raises

theorem breaks_of_turn_some (closed : loop.stream.atEnd = .closed)
    (turns : services.turn loop = some next) (later : services.Breaks next.world next.stream) :
    services.Breaks loop.world loop.stream := by
  rcases recv_closed closed nsohdrSize with ⟨nsoHdr, rest, reads, restClosed⟩
  by_cases whole : nsoHdr.length = nsohdrSize
  · rw [turn_whole reads whole, serve_some_iff restClosed] at turns
    exact .message reads whole turns later
  · rw [turn_piece reads whole] at turns
    rcases Option.some.inj turns with rfl
    exact .piece reads whole later

theorem serve_closed (closed : stream.atEnd = .closed)
    (serves : services.serve world hdr stream = some next) : next.stream.atEnd = .closed := by
  rw [serve] at serves
  split at serves
  · simp only [Option.bind_eq_bind, Option.bind_eq_some_iff] at serves
    rcases serves with ⟨⟨payload, left⟩, gets, ⟨processed, response⟩, _, answered, _, isNext⟩
    rcases Option.some.inj isNext with rfl
    rcases recv_closed closed (hdr.length - nsohdrSize) with ⟨got, behind, reads, leftClosed⟩
    rw [recvPayload, reads] at gets
    split at gets
    · simp at gets
    · dsimp only at gets
      split at gets
      · rcases Option.some.inj gets with ⟨rfl, rfl⟩
        exact leftClosed
      · simp at gets
  · split at serves
    · rcases Option.some.inj serves with rfl
      exact closed
    · rcases Option.map_eq_some_iff.mp serves with ⟨answered, _, rfl⟩
      exact closed

theorem turn_closed (closed : loop.stream.atEnd = .closed)
    (turns : services.turn loop = some next) :
    next.stream.atEnd = .closed := by
  rcases recv_closed closed nsohdrSize with ⟨nsoHdr, rest, reads, restClosed⟩
  by_cases whole : nsoHdr.length = nsohdrSize
  · rw [turn_whole reads whole] at turns
    exact serve_closed restClosed turns
  · rw [turn_piece reads whole] at turns
    rcases Option.some.inj turns with rfl
    exact restClosed

/-- What breaks the loop makes it leave. -/
theorem halts_of_breaks (breaks : services.Breaks world stream) :
    (eval services.turn ⟨world, stream⟩).Dom := by
  induction breaks with
  | here reads whole raises =>
      apply halts_of_none
      rw [turn_whole reads whole]
      exact serve_of_raises raises
  | piece reads short _ ih => exact (halts_step_iff (turn_piece reads short)).mpr ih
  | message reads whole passes _ ih =>
      apply (halts_step_iff ?_).mpr ih
      rw [turn_whole reads whole]
      exact serve_of_passes passes

theorem breaks_of_halts (closed : loop.stream.atEnd = .closed)
    (halts : (eval services.turn loop).Dom) : services.Breaks loop.world loop.stream := by
  rcases Part.dom_iff_mem.mp halts with ⟨last, isLast⟩
  rcases mem_eval.mp isLast with ⟨reaches, ends⟩
  clear halts isLast
  induction reaches using Relation.ReflTransGen.head_induction_on with
  | refl => exact breaks_of_turn_none closed ends
  | head turns _ ih => exact breaks_of_turn_some closed turns (ih (turn_closed closed turns))

/-! ## The reader of the vTSD -/

/-- The same modules for a reader that does not look at the answers. -/
def modules (services : VtsdServices World) : VtsdModules World where
  loads := services.loads
  post := fun world src bs msg => (services.post world src bs msg).map Prod.fst

theorem modules_processTsd (payload : List UInt8) :
    services.modules.processTsd world hdr payload =
      (services.processTsd world hdr payload).map Prod.fst := by
  have registers : ∀ src bs msg generate, services.modules.post world src bs msg =
      (services.register world src bs msg generate).map Prod.fst := by
    intro src bs msg generate
    rw [register, if_pos (show Vtsd.deviceIsAuthenticated = 200 from rfl), Option.map_map]
    rfl
  cases payload with
  | nil => rfl
  | cons msgTyp msg =>
      rw [VtsdModules.processTsd, processTsd]
      split
      · rw [VtsdModules.processDevReg, processDevReg]
        cases isLoaded : services.loads msg with
        | notJson => simp [modules, isLoaded]
        | noKeys => simp [modules, isLoaded]
        | registration =>
            simp only [modules, isLoaded]
            exact registers _ _ _ _
      · split
        · rw [VtsdModules.processBsReg, processBsReg]
          cases isLoaded : services.loads msg with
          | notJson => simp [modules, isLoaded]
          | noKeys => simp [modules, isLoaded]
          | registration =>
              simp only [modules, isLoaded]
              exact registers _ _ _ _
        · rfl

theorem answer_of_keeps (keeps : ∀ world reply, services.sendall world reply = some world)
    (response : Option (List UInt8)) : services.answer world response = some world := by
  cases response with
  | none => rfl
  | some reply => exact keeps world reply

theorem segmented_rest {size : Nat} {bytes : List UInt8} (segmented : stream.Segmented)
    (wants : 0 < size) (reads : recv size stream = .bytes bytes rest) :
    rest.Segmented ∧ rest.atEnd = stream.atEnd ∧ (bytes = [] → rest = stream) := by
  by_cases isEmpty : stream.content = []
  · rw [recv, if_neg (by omega), segmented.chunks_nil isEmpty] at reads
    dsimp only at reads
    split at reads
    · simp at reads
    · rcases reads with ⟨rfl, rfl⟩
      exact ⟨segmented, rfl, fun _ => rfl⟩
    · simp at reads
  · rcases recv_behind segmented isEmpty wants with ⟨received, left, isRead, behind, notEmpty, -⟩
    rcases reads.symm.trans isRead with ⟨rfl, rfl⟩
    refine ⟨behind.segmented, behind.atEnd, fun isNil => ?_⟩
    rw [isNil] at notEmpty
    exact absurd notEmpty (by decide)

/-- Where every answer is sent, the reader ends in an exception exactly when the loop leaves. -/
theorem listen_dead_iff (keeps : ∀ world reply, services.sendall world reply = some world)
    (segmented : stream.Segmented) (closed : stream.atEnd = .closed) :
    (services.modules.reader.listen world stream).ends = .dead ↔
      (eval services.turn ⟨world, stream⟩).Dom := by
  fun_induction NsoReader.listen services.modules.reader world stream with
  | case1 world stream waits =>
      rcases recv_closed closed nsohdrSize with ⟨nsoHdr, rest, reads, -⟩
      simp [reads] at waits
  | case2 world stream fails =>
      rcases recv_closed closed nsohdrSize with ⟨nsoHdr, rest, reads, -⟩
      simp [reads] at fails
  | case3 world stream rest reads =>
      rw [(segmented_rest segmented (by decide) reads).2.2 rfl] at reads
      have fixed := @turn_piece _ services world _ _ _ reads (by decide)
      exact iff_of_false (by decide) (not_halts_of_fixed fixed)
  | case4 world stream nsoHdr rest reads nothing short ih =>
      rcases segmented_rest segmented (by decide) reads with ⟨restSegmented, restEnd, -⟩
      rw [halts_step_iff (turn_piece reads short)]
      exact ih restSegmented (restEnd.trans closed)
  | case5 world stream nsoHdr rest reads nothing whole hdr takes short =>
      exact iff_of_true rfl (halts_of_breaks (.here reads (not_not.mp whole)
        (.payload (of_decide_eq_true takes) (.inl short))))
  | case6 world stream nsoHdr rest reads nothing whole hdr takes long waits =>
      have restEnd := (segmented_rest segmented (by decide) reads).2.1
      rcases recv_closed (restEnd.trans closed) (hdr.length - nsohdrSize) with ⟨got, left, gets, -⟩
      simp [gets] at waits
  | case7 world stream nsoHdr rest reads nothing whole hdr takes long fails =>
      have restEnd := (segmented_rest segmented (by decide) reads).2.1
      rcases recv_closed (restEnd.trans closed) (hdr.length - nsohdrSize) with ⟨got, left, gets, -⟩
      simp [gets] at fails
  | case8 world stream nsoHdr rest reads nothing whole hdr takes long payload left gets cut =>
      exact iff_of_true rfl (halts_of_breaks (.here reads (not_not.mp whole)
        (.payload (of_decide_eq_true takes) (.inr ⟨payload, left, gets, cut⟩))))
  | case9 world stream nsoHdr rest reads nothing whole hdr takes long payload left isPayload isWhole
      ih =>
      have isTsd : hdr.proto = Vtsd.protoTsd := of_decide_eq_true takes
      have gets : recvPayload hdr rest = some (payload, left) := by
        rw [recvPayload, if_neg long, isPayload]
        dsimp only
        rw [if_pos (not_not.mp isWhole)]
      have handles : services.modules.reader.handle world hdr payload =
          (services.processTsd world hdr payload).map Prod.fst := modules_processTsd payload
      rw [handles]
      cases processes : services.processTsd world hdr payload with
      | none =>
          have raises : services.serve world hdr rest = none := by
            rw [serve, if_pos isTsd, gets]
            simp [processes]
          exact iff_of_true rfl (halts_of_none ((turn_whole reads (not_not.mp whole)).trans raises))
      | some done =>
          rcases done with ⟨processed, response⟩
          have serves : services.serve world hdr rest = some ⟨processed, left⟩ := by
            rw [serve, if_pos isTsd, gets]
            simp [processes, answer_of_keeps keeps]
          rcases segmented_rest segmented (by decide) reads with ⟨restSegmented, restEnd, -⟩
          rcases segmented_rest restSegmented (by omega) isPayload with ⟨leftSegmented, leftEnd, -⟩
          rw [halts_step_iff ((turn_whole reads (not_not.mp whole)).trans serves)]
          exact ih processed leftSegmented (leftEnd.trans (restEnd.trans closed))
  | case10 world stream nsoHdr rest reads nothing whole hdr other ih =>
      have notTsd : ¬ hdr.proto = Vtsd.protoTsd := fun isTsd => other (decide_eq_true isTsd)
      have serves : services.serve world hdr rest = some ⟨world, rest⟩ := by
        rw [serve, if_neg notTsd, answer_of_keeps keeps]
        exact ite_self _
      rcases segmented_rest segmented (by decide) reads with ⟨restSegmented, restEnd, -⟩
      rw [halts_step_iff ((turn_whole reads (not_not.mp whole)).trans serves)]
      exact ih restSegmented (restEnd.trans closed)

/-- The loop leaves a stream that the base station has closed exactly when it meets, on its way to
the end, a header behind which it raises. -/
theorem listen_leaves_iff (services : VtsdServices World) (world : World)
    (chunks : List (List UInt8)) :
    (eval services.turn ⟨world, ⟨chunks, .closed⟩⟩).Dom ↔
      services.Breaks world ⟨chunks, .closed⟩ :=
  ⟨breaks_of_halts rfl, halts_of_breaks⟩

/-! ### A connection that is closed inside a header -/

/-- No call raises, and no registration is JSON. -/
def quiet : VtsdServices Unit :=
  ⟨fun _ => .notJson, fun world _ _ _ => some (world, 200), fun world _ => some world⟩

/-- The loop takes the three bytes for a header and then turns on the spot. -/
theorem cut_header_never_leaves :
    ¬ (eval quiet.turn ⟨(), ⟨[[1, 2, 3]], .closed⟩⟩).Dom := by
  have taken : quiet.turn ⟨(), ⟨[[1, 2, 3]], .closed⟩⟩ = some ⟨(), ⟨[], .closed⟩⟩ := rfl
  rw [halts_step_iff taken]
  exact not_halts_of_fixed rfl

end VtsdServices

end Nrg5
