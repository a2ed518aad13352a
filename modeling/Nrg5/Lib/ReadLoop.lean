import Mathlib.Computability.StateTransition
import Nrg5.Lib.ByteStream

/-!
# The turns of a loop of reads

`recvLoop` says what a loop that reads until it has a given number of bytes ends in.  Here the
loop is a transition system whose steps are its reads, so that what it asks of each read and
whether it leaves at all can be stated.  The two agree: the loop comes to a halt unless
`recvLoop` is stuck, and it is stuck on a stream that stays open only because a read waits.
-/

namespace ByteStream

open StateTransition

/-! ## Coming to a halt -/

section Halts

variable {σ : Type} {step : σ → Option σ} {first next : σ}

theorem halts_of_none (ends : step first = none) : (eval step first).Dom :=
  Part.dom_iff_mem.mpr ⟨first, mem_eval.mpr ⟨.refl, ends⟩⟩

theorem halts_step_iff (steps : step first = some next) :
    (eval step first).Dom ↔ (eval step next).Dom := by
  rw [reaches_eval (Relation.ReflTransGen.single steps)]

/-- A system that steps on the spot never halts. -/
theorem not_halts_of_fixed (fixed : step first = some first) : ¬ (eval step first).Dom := by
  intro halts
  rcases Part.dom_iff_mem.mp halts with ⟨last, isLast⟩
  rcases mem_eval.mp isLast with ⟨reaches, ends⟩
  have stays : ∀ other, Reaches step first other → other = first := by
    intro other reached
    induction reached with
    | refl => rfl
    | tail _ steps ih =>
        rw [ih, fixed] at steps
        exact (Option.some.inj steps).symm
  rw [stays last reaches, fixed] at ends
  simp at ends

end Halts

/-! ## The loop -/

/-- The loop between two reads. -/
structure ReadLoop where
  received : List UInt8
  stream : ByteStream

namespace ReadLoop

/-- How many bytes the next read is asked for. -/
def room (size : Int) (loop : ReadLoop) : Int := size - loop.received.length

/-- The loop after its next read; there is none when the loop leaves or the read waits.  A read
at the end of a closed stream gets no bytes. -/
def turn (size : Int) (loop : ReadLoop) : Option ReadLoop :=
  if loop.room size = 0 then none
  else
    match loop.stream.chunks with
    | [] => if loop.stream.atEnd = .closed then some loop else none
    | chunk :: rest =>
        if 0 ≤ loop.room size ∧ loop.room size < chunk.length then
          some ⟨loop.received ++ chunk.take (loop.room size).toNat,
            ⟨chunk.drop (loop.room size).toNat :: rest, loop.stream.atEnd⟩⟩
        else
          some ⟨loop.received ++ chunk, ⟨rest, loop.stream.atEnd⟩⟩

/-- What the loop ends in. -/
def outcome (size : Int) (loop : ReadLoop) : Outcome :=
  recvLoop loop.stream.atEnd size loop.received loop.stream.chunks

/-- What the loop has received and what is still to come. -/
def content (loop : ReadLoop) : List UInt8 := loop.received ++ loop.stream.content

variable {size : Int} {loop next last : ReadLoop}

/-- A turn moves bytes from the stream to the loop, never more than there was room for. -/
structure Kept (size : Int) (loop next : ReadLoop) : Prop where
  outcome : next.outcome size = loop.outcome size
  atEnd : next.stream.atEnd = loop.stream.atEnd
  content : next.content = loop.content
  room : 0 ≤ loop.room size → 0 ≤ next.room size

theorem Kept.trans (first : Kept size loop next) (second : Kept size next last) :
    Kept size loop last :=
  ⟨second.outcome.trans first.outcome, second.atEnd.trans first.atEnd,
    second.content.trans first.content, fun room => second.room (first.room room)⟩

theorem kept_turn (turns : next ∈ loop.turn size) : Kept size loop next := by
  rw [Option.mem_def] at turns
  unfold turn at turns
  split at turns
  · simp at turns
  · rename_i more
    split at turns
    · split at turns
      · rcases Option.some.inj turns with rfl
        exact ⟨rfl, rfl, rfl, id⟩
      · simp at turns
    · rename_i chunk rest isChunks
      have unfolded : loop.outcome size =
          if 0 ≤ loop.room size ∧ loop.room size < chunk.length then
            .complete (loop.received ++ chunk.take (loop.room size).toNat)
              ⟨chunk.drop (loop.room size).toNat :: rest, loop.stream.atEnd⟩
          else recvLoop loop.stream.atEnd size (loop.received ++ chunk) rest := by
        rw [outcome, isChunks, recvLoop]
        exact if_neg more
      split at turns
      · rename_i fits
        rcases Option.some.inj turns with rfl
        have taken : (loop.received ++ chunk.take (loop.room size).toNat).length = size := by
          rw [List.length_append, List.length_take]
          simp only [room] at fits ⊢
          omega
        refine ⟨?_, rfl, ?_, ?_⟩
        · rw [unfolded, if_pos fits, outcome, recvLoop]
          exact if_pos (by rw [taken]; exact Int.sub_self size)
        · simp only [content, ByteStream.content, isChunks, List.flatten_cons]
          rw [List.append_assoc, ← List.append_assoc (chunk.take _), List.take_append_drop]
        · intro _
          rw [room, taken, Int.sub_self]
      · rename_i whole
        rcases Option.some.inj turns with rfl
        refine ⟨?_, rfl, ?_, ?_⟩
        · rw [unfolded, if_neg whole]
          rfl
        · simp only [content, ByteStream.content, isChunks, List.flatten_cons, List.append_assoc]
        · intro nonneg
          simp only [room, List.length_append] at nonneg whole ⊢
          omega

/-- What the turns keep, all of them keep. -/
theorem kept_reaches (reaches : Reaches (turn size) loop last) : Kept size loop last := by
  induction reaches with
  | refl => exact ⟨rfl, rfl, rfl, id⟩
  | tail _ turns ih => exact ih.trans (kept_turn turns)

/-- Without a further turn the loop is complete or at the end of a stream that is not closed. -/
theorem outcome_of_turn_none (ends : loop.turn size = none) :
    loop.outcome size ≠ .stuck ∨ loop.stream.atEnd = .waits := by
  unfold turn at ends
  split at ends
  · rename_i full
    left
    rw [outcome]
    cases loop.stream.chunks with
    | nil =>
        rw [recvLoop, if_pos (by rw [room] at full; omega)]
        exact Outcome.noConfusion
    | cons chunk rest =>
        rw [recvLoop, if_pos (by rw [room] at full; exact full)]
        exact Outcome.noConfusion
  · rename_i more
    split at ends
    · rename_i isChunks
      split at ends
      · simp at ends
      · rename_i notClosed
        cases isEnd : loop.stream.atEnd with
        | waits => exact .inr rfl
        | closed => exact absurd isEnd notClosed
        | failed =>
            left
            rw [outcome, isChunks, recvLoop, if_neg (by rw [room] at more; omega), if_pos isEnd]
            exact Outcome.noConfusion
    · split at ends <;> simp at ends

/-- The loop comes to a halt exactly when it has an outcome or waits on a stream that is open. -/
theorem halts_iff :
    (eval (turn size) loop).Dom ↔ loop.outcome size ≠ .stuck ∨ loop.stream.atEnd = .waits := by
  constructor
  · intro halts
    rcases Part.dom_iff_mem.mp halts with ⟨last, isLast⟩
    rcases mem_eval.mp isLast with ⟨reaches, ends⟩
    have kept := kept_reaches reaches
    rw [← kept.outcome, ← kept.atEnd]
    exact outcome_of_turn_none ends
  · rcases loop with ⟨received, ⟨chunks, atEnd⟩⟩
    induction chunks generalizing received with
    | nil =>
        intro ends
        cases turns : turn size ⟨received, ⟨[], atEnd⟩⟩ with
        | none => exact halts_of_none turns
        | some next =>
            -- Only a closed stream lets the loop turn on the spot.
            simp only [turn] at turns
            split at turns
            · simp at turns
            · rename_i more
              split at turns
              · rename_i isClosed
                simp only [room] at more
                simp only [outcome, recvLoop, isClosed] at ends
                rw [if_neg (by omega), if_neg (by decide)] at ends
                simp at ends
              · simp at turns
    | cons chunk rest ih =>
        intro ends
        cases turns : turn size ⟨received, ⟨chunk :: rest, atEnd⟩⟩ with
        | none => exact halts_of_none turns
        | some next =>
            have kept := kept_turn turns
            rw [← kept.outcome, ← kept.atEnd] at ends
            apply (halts_step_iff turns).mpr
            simp only [turn] at turns
            split at turns
            · simp at turns
            · split at turns
              · rename_i fits
                rcases Option.some.inj turns with rfl
                apply halts_of_none
                rw [turn, if_pos]
                simp only [room, List.length_append, List.length_take] at fits ⊢
                omega
              · rcases Option.some.inj turns with rfl
                exact ih _ ends

end ReadLoop

/-! ## How the loop ends -/

/-- A loop that is complete leaves the rest of the bytes; one that failed has all of them, at the
end of a failed stream; and on such a stream it is never stuck. -/
def Outcome.Accounts (total : List UInt8) (atEnd : StreamEnd) : Outcome → Prop
  | .complete bytes rest => total = bytes ++ rest.content ∧ rest.atEnd = atEnd
  | .failed bytes => total = bytes ∧ atEnd = .failed
  | .stuck => atEnd ≠ .failed

theorem recvLoop_accounts (atEnd : StreamEnd) (size : Int) (received : List UInt8)
    (chunks : List (List UInt8)) :
    (recvLoop atEnd size received chunks).Accounts (received ++ chunks.flatten) atEnd := by
  induction chunks generalizing received with
  | nil =>
      rw [recvLoop, List.flatten_nil, List.append_nil]
      by_cases full : (received.length : Int) = size
      · rw [if_pos full]
        exact ⟨(List.append_nil _).symm, rfl⟩
      · rw [if_neg full]
        by_cases failed : atEnd = .failed
        · rw [if_pos failed]
          exact ⟨rfl, failed⟩
        · rw [if_neg failed]
          exact failed
  | cons chunk rest ih =>
      have whole := ih (received ++ chunk)
      rw [List.append_assoc] at whole
      rw [recvLoop, List.flatten_cons]
      by_cases full : size - received.length = 0
      · rw [if_pos full]
        exact ⟨rfl, rfl⟩
      · rw [if_neg full]
        by_cases fits : 0 ≤ size - received.length ∧ size - received.length < chunk.length
        · rw [if_pos fits]
          refine ⟨?_, rfl⟩
          simp only [ByteStream.content, List.flatten_cons]
          rw [List.append_assoc, ← List.append_assoc (chunk.take _), List.take_append_drop]
        · rw [if_neg fits]
          exact whole

theorem recvAll_accounts (size : Int) (stream : ByteStream) :
    (stream.recvAll size).Accounts stream.content stream.atEnd :=
  recvLoop_accounts stream.atEnd size [] stream.chunks

theorem recvAll_enough {stream : ByteStream} {wanted : Nat}
    (enough : wanted ≤ stream.content.length) :
    ∃ rest, stream.recvAll wanted = .complete (stream.content.take wanted) rest := by
  rcases recvAll_complete (List.take_append_drop wanted stream.content).symm with ⟨rest, reads, -⟩
  rw [List.length_take, Nat.min_eq_left enough] at reads
  exact ⟨rest, reads⟩

/-- A loop that asks for more than there is, or for less than it has, takes everything. -/
theorem recvLoop_short {atEnd : StreamEnd} {size : Int} {received : List UInt8}
    {chunks : List (List UInt8)}
    (short : size < received.length ∨ (received.length : Int) + chunks.flatten.length < size) :
    recvLoop atEnd size received chunks =
      if atEnd = .failed then .failed (received ++ chunks.flatten) else .stuck := by
  induction chunks generalizing received with
  | nil =>
      rw [recvLoop, if_neg (by rw [List.flatten_nil, List.length_nil] at short; omega),
        List.flatten_nil, List.append_nil]
  | cons chunk rest ih =>
      rw [List.flatten_cons, List.length_append] at short
      rw [recvLoop, if_neg (by omega), if_neg (by omega), ih (by rw [List.length_append]; omega),
        List.flatten_cons, List.append_assoc]

theorem recvAll_short {stream : ByteStream} {size : Int}
    (short : size < 0 ∨ (stream.content.length : Int) < size) :
    stream.recvAll size =
      if stream.atEnd = .failed then .failed stream.content else .stuck := by
  apply recvLoop_short
  rw [List.length_nil, Nat.cast_zero, zero_add]
  exact short

end ByteStream
