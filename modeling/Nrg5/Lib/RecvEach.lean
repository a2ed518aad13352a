import Nrg5.Lib.ByteStream

/-!
# Loops of single reads

A loop that reads at most a given number of bytes at a time gets the whole content of a stream,
in pieces that depend on how the stream was cut.  Only the concatenation of the pieces is the
same for all the streams of one content, which is why a reader that takes each piece for a
message depends on the network.
-/

namespace ByteStream

variable {stream : ByteStream} {size : Nat}

/-- What the loop gets before it waits, fails or finds the end of the stream. -/
def recvEach (size : Nat) (stream : ByteStream) : List (List UInt8) :=
  match _reads : recv size stream with
  | .waits => []
  | .error => []
  | .bytes received rest =>
      if _isMore : received = [] then [] else received :: recvEach size rest
termination_by stream.content.length
decreasing_by
  have lengths := length_of_recv _reads
  have positive := List.length_pos_iff.mpr _isMore
  omega

theorem recvEach_cases (wants : 0 < size) (segmented : stream.Segmented) :
    (stream.content = [] ∧ recvEach size stream = []) ∨
      ∃ received rest, recvEach size stream = received :: recvEach size rest ∧
        stream.Behind received rest ∧ 0 < received.length ∧ received.length ≤ size := by
  rcases eq_or_ne stream.content [] with isEmpty | isMore
  · left
    refine ⟨isEmpty, ?_⟩
    rw [recvEach]
    split
    · rfl
    · rfl
    · rename_i received rest reads
      rw [dif_pos (recv_nil segmented isEmpty wants reads)]
  · right
    rcases recv_behind segmented isMore wants
      with ⟨received, rest, reads, behind, notEmpty, bound, _⟩
    refine ⟨received, rest, ?_, behind, notEmpty, bound⟩
    conv => lhs; rw [recvEach]
    split
    · rename_i waits
      rw [reads] at waits
      exact absurd waits (by simp)
    · rename_i fails
      rw [reads] at fails
      exact absurd fails (by simp)
    · rename_i got left isRead
      rw [reads] at isRead
      rcases Recv.bytes.inj isRead with ⟨rfl, rfl⟩
      rw [dif_neg (List.length_pos_iff.mp notEmpty)]

/-- An induction over the reads of the loop. -/
theorem recvEach_induction {holds : ByteStream → Prop} (wants : 0 < size)
    (nil : ∀ stream, stream.content = [] → recvEach size stream = [] → holds stream)
    (cons : ∀ stream received rest, recvEach size stream = received :: recvEach size rest →
      stream.Behind received rest → 0 < received.length → received.length ≤ size → holds rest →
        holds stream)
    (segmented : stream.Segmented) : holds stream := by
  induction isLength : stream.content.length using Nat.strong_induction_on generalizing stream with
  | h length ih =>
      rcases recvEach_cases wants segmented with
        ⟨isEmpty, noPiece⟩ | ⟨received, rest, first, behind, notEmpty, bound⟩
      · exact nil stream isEmpty noPiece
      · apply cons stream received rest first behind notEmpty bound
        apply ih rest.content.length _ behind.segmented rfl
        rw [← isLength, behind.content, List.length_append]
        omega

theorem flatten_recvEach (wants : 0 < size) (segmented : stream.Segmented) :
    (recvEach size stream).flatten = stream.content := by
  apply recvEach_induction wants _ _ segmented
  · intro stream isEmpty noPiece
    rw [noPiece, isEmpty, List.flatten_nil]
  · intro stream received rest first behind _ _ ih
    rw [first, List.flatten_cons, ih, behind.content]

theorem mem_recvEach (wants : 0 < size) (segmented : stream.Segmented) :
    ∀ piece ∈ recvEach size stream, 0 < piece.length ∧ piece.length ≤ size := by
  apply recvEach_induction wants _ _ segmented
  · intro stream _ noPiece piece isMem
    rw [noPiece] at isMem
    exact absurd isMem List.not_mem_nil
  · intro stream received rest first behind notEmpty bound ih piece isMem
    rw [first] at isMem
    rcases List.mem_cons.mp isMem with rfl | isLater
    · exact ⟨notEmpty, bound⟩
    · exact ih piece isLater

end ByteStream
