import Mathlib.Tactic

/-!
# Reading a byte stream

A stream socket hands out its bytes in pieces whose sizes the reader does not
choose: a read that asks for some number of bytes gets at least one byte and at
most what it asked for.  The pieces still to come are a list of chunks, a read
takes from the first of them, and what happens behind the last one is part of
the stream.

`recvAll` is the loop that reads until it has a given number of bytes.  Its
results depend on the chunks only through their concatenation, which is what
makes a reader independent of the segmentation.

`recv` is a single read.  What it gets depends on where the stream is cut: it gets
all it asked for exactly when no cut lies inside the bytes it asked for.
-/

/-- What a read meets behind the last chunk: nothing yet, the end of the stream or
an error. -/
inductive StreamEnd : Type where
  | waits
  | closed
  | failed
deriving DecidableEq

structure ByteStream where
  chunks : List (List UInt8)
  atEnd : StreamEnd

namespace ByteStream

/-- How a loop of reads ends.  `stuck` waits for ever or reads zero bytes for ever. -/
inductive Outcome : Type where
  | complete (bytes : List UInt8) (rest : ByteStream)
  | failed (bytes : List UInt8)
  | stuck

/-- The bytes that are still to come. -/
def content (stream : ByteStream) : List UInt8 := stream.chunks.flatten

/-- Read until `received` has `size` bytes.  The room that is left is handed to the
read as an unsigned number, so a negative room takes every chunk whole. -/
def recvLoop (atEnd : StreamEnd) (size : Int) (received : List UInt8) :
    List (List UInt8) → Outcome
  | [] =>
      if (received.length : Int) = size then .complete received ⟨[], atEnd⟩
      else if atEnd = .failed then .failed received
      else .stuck
  | chunk :: rest =>
      let room := size - received.length
      if room = 0 then .complete received ⟨chunk :: rest, atEnd⟩
      else if 0 ≤ room ∧ room < chunk.length then
        .complete (received ++ chunk.take room.toNat) ⟨chunk.drop room.toNat :: rest, atEnd⟩
      else recvLoop atEnd size (received ++ chunk) rest

/-- Read exactly `size` bytes. -/
def recvAll (size : Int) (stream : ByteStream) : Outcome :=
  recvLoop stream.atEnd size [] stream.chunks

/-- With enough bytes to come the loop ends, with the next bytes of the stream and
whatever the segmentation is. -/
theorem recvLoop_complete {atEnd : StreamEnd} {wanted : Nat} {received : List UInt8}
    {chunks : List (List UInt8)} (enough : wanted ≤ chunks.flatten.length) :
    ∃ rest, recvLoop atEnd (received.length + wanted) received chunks =
        .complete (received ++ chunks.flatten.take wanted) ⟨rest, atEnd⟩ ∧
      rest.flatten = chunks.flatten.drop wanted := by
  induction chunks generalizing received wanted with
  | nil =>
      have none : wanted = 0 := by simpa using enough
      subst none
      exact ⟨[], by simp [recvLoop], by simp⟩
  | cons chunk rest ih =>
      have room : (received.length : Int) + wanted - received.length = wanted := by omega
      simp only [List.flatten_cons, List.length_append] at enough
      simp only [recvLoop, room]
      split
      · rename_i nothing
        have none : wanted = 0 := by omega
        subst none
        exact ⟨chunk :: rest, by simp, by simp⟩
      · split
        · rename_i short
          refine ⟨chunk.drop wanted :: rest, ?_, ?_⟩
          · simp only [Int.toNat_natCast, List.flatten_cons]
            rw [List.take_append_of_le_length (by omega)]
          · simp only [List.flatten_cons]
            rw [List.drop_append_of_le_length (by omega)]
        · rename_i long
          have whole : chunk.length ≤ wanted := by omega
          have shifted : (received.length : Int) + wanted =
              (received ++ chunk).length + (wanted - chunk.length : Nat) := by
            simp only [List.length_append]
            omega
          rw [shifted]
          rcases @ih (wanted - chunk.length) (received ++ chunk)
            (by omega) with ⟨left, ends, leftFlatten⟩
          refine ⟨left, ?_, ?_⟩
          · rw [ends, List.flatten_cons, List.take_append, List.append_assoc,
              List.take_of_length_le whole]
          · rw [leftFlatten, List.flatten_cons, List.drop_append,
              List.drop_of_length_le whole, List.nil_append]

theorem recvAll_complete {stream : ByteStream} {message rest : List UInt8}
    (front : stream.content = message ++ rest) :
    ∃ left, recvAll message.length stream = .complete message left ∧
      left.content = rest ∧ left.atEnd = stream.atEnd := by
  have enough : message.length ≤ stream.chunks.flatten.length := by
    have lengths := congrArg List.length front
    simp only [content, List.length_append] at lengths
    omega
  rcases @recvLoop_complete _ _ [] _ enough with
    ⟨left, ends, leftFlatten⟩
  simp only [content] at front
  refine ⟨⟨left, stream.atEnd⟩, ?_, ?_, rfl⟩
  · simpa [recvAll, front] using ends
  · simpa [content, front] using leftFlatten

/-! ## Single reads -/

/-- How one read ends. -/
inductive Recv : Type where
  | bytes (received : List UInt8) (rest : ByteStream)
  | waits
  | error

/-- One read of at most `size` bytes.  At the end of a closed stream it gets none. -/
def recv (size : Nat) (stream : ByteStream) : Recv :=
  if size = 0 then .bytes [] stream
  else
    match stream.chunks with
    | [] =>
        match stream.atEnd with
        | .waits => .waits
        | .closed => .bytes [] stream
        | .failed => .error
    | chunk :: rest =>
        if size < chunk.length then
          .bytes (chunk.take size) ⟨chunk.drop size :: rest, stream.atEnd⟩
        else
          .bytes chunk ⟨rest, stream.atEnd⟩

/-- Every piece that arrives has a byte. -/
def Segmented (stream : ByteStream) : Prop := ∀ chunk ∈ stream.chunks, chunk ≠ []

instance (stream : ByteStream) : Decidable stream.Segmented :=
  inferInstanceAs (Decidable (∀ chunk ∈ stream.chunks, chunk ≠ []))

/-- A position between two chunks. -/
def CutAt (chunks : List (List UInt8)) (position : Nat) : Prop :=
  ∃ count, (chunks.take count).flatten.length = position

/-- Some cut lies strictly between two positions. -/
def CutInside (chunks : List (List UInt8)) (start stop : Nat) : Prop :=
  ∃ position, CutAt chunks position ∧ start < position ∧ position < stop

/-- The stream is cut behind each of the pieces that follow each other from a position on. -/
def CutAfter (chunks : List (List UInt8)) : Nat → List Nat → Prop
  | _, [] => True
  | start, size :: rest => CutAt chunks (start + size) ∧ CutAfter chunks (start + size) rest

/-- No cut lies inside one of the pieces that follow each other from a position on. -/
def Uncut (chunks : List (List UInt8)) : Nat → List Nat → Prop
  | _, [] => True
  | start, size :: rest =>
      ¬ CutInside chunks start (start + size) ∧ Uncut chunks (start + size) rest

variable {stream rest : ByteStream} {chunks : List (List UInt8)} {chunk received : List UInt8}
  {size start stop position : Nat}

theorem cutAt_nil : CutAt [] position ↔ position = 0 := by
  simp [CutAt, eq_comm]

theorem cutAt_cons :
    CutAt (chunk :: chunks) position ↔
      position = 0 ∨ ∃ behind, CutAt chunks behind ∧ position = chunk.length + behind := by
  constructor
  · rintro ⟨count, rfl⟩
    cases count with
    | zero => exact .inl rfl
    | succ count => exact .inr ⟨_, ⟨count, rfl⟩, by simp⟩
  · rintro (rfl | ⟨behind, ⟨count, rfl⟩, rfl⟩)
    · exact ⟨0, rfl⟩
    · exact ⟨count + 1, by simp⟩

theorem chunks_of_content (bytes : stream.content ≠ []) :
    ∃ chunk rest, stream.chunks = chunk :: rest := by
  cases isChunks : stream.chunks with
  | nil => simp [content, isChunks] at bytes
  | cons chunk rest => exact ⟨chunk, rest, rfl⟩

theorem length_of_recv (reads : recv size stream = .bytes received rest) :
    stream.content.length = received.length + rest.content.length := by
  unfold recv at reads
  split at reads
  · rcases reads with ⟨rfl, rfl⟩
    simp
  · split at reads
    · split at reads
      · simp at reads
      · rcases reads with ⟨rfl, rfl⟩
        simp
      · simp at reads
    · rename_i chunk others isChunks
      split at reads
      · rcases reads with ⟨rfl, rfl⟩
        simp only [content, isChunks, List.flatten_cons, List.length_append, List.length_take,
          List.length_drop]
        omega
      · rcases reads with ⟨rfl, rfl⟩
        simp only [content, isChunks, List.flatten_cons, List.length_append]

theorem Segmented.chunks_nil (segmented : stream.Segmented) (isEmpty : stream.content = []) :
    stream.chunks = [] := by
  cases isChunks : stream.chunks with
  | nil => rfl
  | cons chunk others =>
      simp only [content, isChunks, List.flatten_cons, List.append_eq_nil_iff] at isEmpty
      exact absurd isEmpty.1 (segmented chunk (by rw [isChunks]; exact List.mem_cons_self))

theorem recv_nil (segmented : stream.Segmented) (isEmpty : stream.content = [])
    (wants : 0 < size) (reads : recv size stream = .bytes received rest) : received = [] := by
  rw [recv, if_neg (by omega), segmented.chunks_nil isEmpty] at reads
  cases isEnd : stream.atEnd with
  | waits => simp [isEnd] at reads
  | closed =>
      simp only [isEnd, Recv.bytes.injEq] at reads
      exact reads.1.symm
  | failed => simp [isEnd] at reads

/-- What a read of some bytes leaves: less of the stream, in the same segmentation. -/
structure Behind (stream : ByteStream) (received : List UInt8) (rest : ByteStream) : Prop where
  content : stream.content = received ++ rest.content
  segmented : rest.Segmented
  atEnd : rest.atEnd = stream.atEnd
  cuts : ∀ position, 0 < position →
    (CutAt rest.chunks position ↔ CutAt stream.chunks (received.length + position))

theorem Behind.trans {mid : ByteStream} {more : List UInt8} (first : stream.Behind received mid)
    (second : mid.Behind more rest) : stream.Behind (received ++ more) rest := by
  refine ⟨?_, second.segmented, second.atEnd.trans first.atEnd, ?_⟩
  · rw [first.content, second.content, List.append_assoc]
  · intro position positive
    rw [second.cuts position positive, first.cuts _ (by omega), List.length_append, Nat.add_assoc]

theorem recv_behind (segmented : stream.Segmented) (bytes : stream.content ≠ [])
    (wants : 0 < size) :
    ∃ received rest, recv size stream = .bytes received rest ∧ stream.Behind received rest ∧
      0 < received.length ∧ received.length ≤ size ∧
      (received.length < size → CutAt stream.chunks received.length) := by
  rcases chunks_of_content bytes with ⟨chunk, others, isChunks⟩
  have nonempty : 0 < chunk.length :=
    List.length_pos_iff.mpr (segmented chunk (by rw [isChunks]; exact List.mem_cons_self))
  have othersSegmented : ∀ other ∈ others, other ≠ [] :=
    fun other isMem => segmented other (by rw [isChunks]; exact List.mem_cons_of_mem _ isMem)
  rw [recv, if_neg (by omega), isChunks]
  dsimp only
  split
  · rename_i short
    have taken : (chunk.take size).length = size := by
      rw [List.length_take]
      omega
    refine ⟨_, _, rfl, ⟨?_, ?_, rfl, ?_⟩, by omega, by omega, by omega⟩
    · simp only [content, isChunks, List.flatten_cons]
      rw [← List.append_assoc, List.take_append_drop]
    · intro other isMem
      rcases List.mem_cons.mp isMem with rfl | isOther
      · intro isNil
        have none := congrArg List.length isNil
        rw [List.length_drop, List.length_nil] at none
        omega
      · exact othersSegmented other isOther
    · intro position positive
      simp only [isChunks, cutAt_cons, taken, List.length_drop]
      constructor
      · rintro (rfl | ⟨behind, isCut, rfl⟩)
        · omega
        · exact .inr ⟨behind, isCut, by omega⟩
      · rintro (isZero | ⟨behind, isCut, isPosition⟩)
        · omega
        · exact .inr ⟨behind, isCut, by omega⟩
  · rename_i whole
    refine ⟨_, _, rfl, ⟨?_, othersSegmented, rfl, ?_⟩, nonempty, by omega, ?_⟩
    · simp only [content, isChunks, List.flatten_cons]
    · intro position positive
      simp only [isChunks, cutAt_cons]
      constructor
      · exact fun isCut => .inr ⟨position, isCut, rfl⟩
      · rintro (isZero | ⟨behind, isCut, isPosition⟩)
        · omega
        · rwa [Nat.add_left_cancel isPosition]
    · intro _
      exact cutAt_cons.mpr (.inr ⟨0, ⟨0, rfl⟩, rfl⟩)

/-- A read gets all it asked for when no cut lies inside. -/
theorem recv_uncut (segmented : stream.Segmented) (wants : 0 < size)
    (enough : size ≤ stream.content.length) (uncut : ¬ CutInside stream.chunks 0 size) :
    ∃ rest, recv size stream = .bytes (stream.content.take size) rest ∧
      stream.Behind (stream.content.take size) rest := by
  have bytes : stream.content ≠ [] := List.length_pos_iff.mp (by omega)
  rcases recv_behind segmented bytes wants with ⟨received, rest, reads, behind, notEmpty, most, cut⟩
  have all : received.length = size := by
    rcases Nat.lt_or_eq_of_le most with short | all
    · exact absurd ⟨_, cut short, notEmpty, short⟩ uncut
    · exact all
  have front : stream.content.take size = received := by
    rw [behind.content, ← all, List.take_left]
  rw [front]
  exact ⟨rest, reads, behind⟩

/-- A read stops at the first chunk, so it does not pass a cut. -/
theorem recv_stops (reads : recv size stream = .bytes received rest)
    (isCut : CutAt stream.chunks position) (positive : 0 < position) :
    received.length ≤ position := by
  unfold recv at reads
  split at reads
  · rcases reads with ⟨rfl, rfl⟩
    simp
  · cases isChunks : stream.chunks with
    | nil =>
        rw [isChunks, cutAt_nil] at isCut
        omega
    | cons chunk others =>
        rw [isChunks, cutAt_cons] at isCut
        rw [isChunks] at reads
        rcases isCut with isZero | ⟨behind, _, rfl⟩
        · omega
        · dsimp only at reads
          split at reads
          · simp only [Recv.bytes.injEq] at reads
            rw [← reads.1, List.length_take]
            omega
          · simp only [Recv.bytes.injEq] at reads
            rw [← reads.1]
            omega

/-- A read gets less than it asked for when a cut lies inside. -/
theorem recv_cut (segmented : stream.Segmented) (cut : CutInside stream.chunks 0 size) :
    ∃ received rest, recv size stream = .bytes received rest ∧ stream.Behind received rest ∧
      0 < received.length ∧ received.length < size := by
  rcases cut with ⟨position, isCut, positive, inside⟩
  have bytes : stream.content ≠ [] := by
    intro isEmpty
    rcases isCut with ⟨count, isPosition⟩
    have atMost := (List.take_sublist count stream.chunks).flatten.length_le
    rw [content] at isEmpty
    rw [isEmpty, isPosition, List.length_nil] at atMost
    omega
  rcases recv_behind segmented bytes (by omega : 0 < size) with
    ⟨received, rest, reads, behind, notEmpty, _, _⟩
  exact ⟨received, rest, reads, behind, notEmpty, by have := recv_stops reads isCut positive; omega⟩

/-- A read that asks for more than a piece gets the piece alone exactly when the stream is
cut behind it. -/
theorem recv_piece {wanted : Nat} (segmented : stream.Segmented) (wants : 0 < size)
    (more : size < wanted) (enough : size ≤ stream.content.length)
    (uncut : ¬ CutInside stream.chunks 0 size) :
    ∃ received rest, recv wanted stream = .bytes received rest ∧ stream.Behind received rest ∧
      size ≤ received.length ∧ (received.length = size ↔ CutAt stream.chunks size) := by
  have bytes : stream.content ≠ [] := List.length_pos_iff.mp (by omega)
  rcases recv_behind segmented bytes (by omega : 0 < wanted) with
    ⟨received, rest, reads, behind, notEmpty, _, cut⟩
  have least : size ≤ received.length := by
    by_contra short
    exact uncut ⟨_, cut (by omega), notEmpty, by omega⟩
  refine ⟨received, rest, reads, behind, least, ?_⟩
  constructor
  · intro all
    rw [← all]
    exact cut (by omega)
  · intro isCut
    exact Nat.le_antisymm (recv_stops reads isCut wants) least

/-- The cuts behind a read are the cuts of the stream behind what was read. -/
theorem Behind.cutInside (behind : stream.Behind received rest) :
    CutInside rest.chunks start stop ↔
      CutInside stream.chunks (received.length + start) (received.length + stop) := by
  constructor
  · rintro ⟨position, isCut, after, before⟩
    exact ⟨_, (behind.cuts position (by omega)).mp isCut, by omega, by omega⟩
  · rintro ⟨position, isCut, after, before⟩
    refine ⟨position - received.length, (behind.cuts _ (by omega)).mpr ?_, by omega, by omega⟩
    rwa [Nat.add_sub_cancel' (by omega)]

theorem Behind.uncut (behind : stream.Behind received rest) (sizes : List Nat) :
    Uncut rest.chunks start sizes ↔ Uncut stream.chunks (received.length + start) sizes := by
  induction sizes generalizing start with
  | nil => exact Iff.rfl
  | cons size sizes ih =>
      simp only [Uncut, ih, behind.cutInside, Nat.add_assoc]

theorem Behind.cutAfter (behind : stream.Behind received rest) (sizes : List Nat)
    (positive : ∀ size ∈ sizes, 0 < size) :
    CutAfter rest.chunks start sizes ↔ CutAfter stream.chunks (received.length + start) sizes := by
  induction sizes generalizing start with
  | nil => exact Iff.rfl
  | cons size sizes ih =>
      rw [List.forall_mem_cons] at positive
      simp only [CutAfter, ih positive.2, behind.cuts (start + size) (by omega), Nat.add_assoc]

end ByteStream
