import Mathlib.Tactic
import Mathlib.Data.List.GetD

/-!
# Bytes in memory

A block of memory is a total function from offsets to bytes.  Whoever owns the
block states separately which offsets belong to it, so reading and writing carry
no side conditions and a read after a write is decided by comparing offsets.

The second half gives the little-endian and big-endian readings of a byte list
and the two round trips between numbers and byte lists of a fixed width.
-/

namespace ByteMemory

/-- The content of a block of memory. -/
abbrev Memory := Nat → UInt8

namespace Memory

/-- The `count` bytes that start at `offset`. -/
def read (memory : Memory) (offset count : Nat) : List UInt8 :=
  (List.range count).map fun index => memory (offset + index)

/-- `memcpy` of a byte list to `offset`. -/
def write (memory : Memory) (offset : Nat) (bytes : List UInt8) : Memory := fun index =>
  if offset ≤ index ∧ index < offset + bytes.length then bytes.getD (index - offset) 0
  else memory index

/-- A byte list seen as memory; offsets behind its end read as zero. -/
def ofList (bytes : List UInt8) : Memory := fun index => bytes.getD index 0

@[simp]
theorem length_read (memory : Memory) (offset count : Nat) :
    (memory.read offset count).length = count := by
  simp [read]

theorem getElem_read (memory : Memory) {offset count index : Nat}
    (inside : index < (memory.read offset count).length) :
    (memory.read offset count)[index] = memory (offset + index) := by
  simp [read]

theorem getD_read (memory : Memory) {offset count index : Nat} (inside : index < count) :
    (memory.read offset count).getD index 0 = memory (offset + index) := by
  simp [read, List.getD, inside]

theorem write_before (memory : Memory) {offset index : Nat} (bytes : List UInt8)
    (before : index < offset) : memory.write offset bytes index = memory index := by
  simp only [write]
  rw [if_neg (by omega)]

theorem write_after (memory : Memory) {offset index : Nat} (bytes : List UInt8)
    (after : offset + bytes.length ≤ index) :
    memory.write offset bytes index = memory index := by
  simp only [write]
  rw [if_neg (by omega)]

theorem write_inside (memory : Memory) {offset index : Nat} (bytes : List UInt8)
    (inside : index < bytes.length) :
    memory.write offset bytes (offset + index) = bytes.getD index 0 := by
  simp only [write]
  rw [if_pos (by omega), Nat.add_sub_cancel_left]

/-- A read depends on the bytes in its range only. -/
theorem read_congr {left right : Memory} {leftOffset rightOffset count : Nat}
    (agree : ∀ index < count, left (leftOffset + index) = right (rightOffset + index)) :
    left.read leftOffset count = right.read rightOffset count := by
  simp only [read]
  apply List.map_congr_left
  intro index indexMem
  exact agree index (List.mem_range.mp indexMem)

/-- What was written is read back. -/
theorem read_write_same (memory : Memory) (offset : Nat) (bytes : List UInt8) :
    (memory.write offset bytes).read offset bytes.length = bytes := by
  apply List.ext_getElem
  · simp
  · intro index inRead inBytes
    rw [getElem_read, write_inside _ _ inBytes, List.getD_eq_getElem _ _ inBytes]

/-- A write elsewhere does not show. -/
theorem read_write_disjoint (memory : Memory) {writeOffset readOffset count : Nat}
    (bytes : List UInt8)
    (disjoint : readOffset + count ≤ writeOffset ∨
      writeOffset + bytes.length ≤ readOffset) :
    (memory.write writeOffset bytes).read readOffset count = memory.read readOffset count := by
  apply read_congr
  intro index indexLt
  rcases disjoint with before | after
  · exact write_before _ _ (by omega)
  · exact write_after _ _ (by omega)

theorem read_write_slice (memory : Memory) {offset start count : Nat} (bytes : List UInt8)
    (inside : start + count ≤ bytes.length) :
    (memory.write offset bytes).read (offset + start) count = (bytes.drop start).take count := by
  apply List.ext_getElem
  · simp
    omega
  · intro index inRead inTake
    have inCount : index < count := by simpa using inRead
    have inBytes : start + index < bytes.length := by omega
    rw [getElem_read, Nat.add_assoc, write_inside _ _ inBytes,
      List.getD_eq_getElem _ _ inBytes, List.getElem_take, List.getElem_drop]

/-- A part of what is read is a read of that part. -/
theorem read_slice (memory : Memory) {offset count start short : Nat}
    (inside : start + short ≤ count) :
    ((memory.read offset count).drop start).take short = memory.read (offset + start) short := by
  apply List.ext_getElem
  · simp
    omega
  · intro index inTake inRead
    simp only [List.getElem_take, List.getElem_drop]
    rw [getElem_read, getElem_read, Nat.add_assoc]

theorem read_append (memory : Memory) (offset first second : Nat) :
    memory.read offset (first + second) =
      memory.read offset first ++ memory.read (offset + first) second := by
  simp only [read, List.range_add, List.map_append, List.map_map]
  congr 1
  apply List.map_congr_left
  intro index _
  simp [Nat.add_assoc]

theorem read_take (memory : Memory) {offset count short : Nat} (shorter : short ≤ count) :
    (memory.read offset count).take short = memory.read offset short := by
  obtain ⟨rest, rfl⟩ := Nat.exists_eq_add_of_le shorter
  rw [read_append, List.take_left' (by simp)]

/-- Writing back what was read changes nothing. -/
theorem write_read (memory : Memory) (offset count : Nat) :
    memory.write offset (memory.read offset count) = memory := by
  funext index
  simp only [write, length_read]
  split
  · rename_i inside
    rw [getD_read _ (by omega), Nat.add_sub_cancel' inside.1]
  · rfl

theorem write_write (memory : Memory) (offset : Nat) {first second : List UInt8}
    (sameLength : first.length = second.length) :
    (memory.write offset first).write offset second = memory.write offset second := by
  funext index
  simp only [write, sameLength]
  split <;> rfl

end Memory

/-! ## Little-endian and big-endian numbers -/

/-- The number whose little-endian bytes are `bytes`. -/
def leNat : List UInt8 → Nat
  | [] => 0
  | byte :: rest => byte.toNat + 256 * leNat rest

/-- The low `width` bytes of a number, least significant first. -/
def leBytes : Nat → Nat → List UInt8
  | 0, _ => []
  | width + 1, number => UInt8.ofNat number :: leBytes width (number / 256)

/-- The number whose big-endian bytes are `bytes`. -/
def beNat (bytes : List UInt8) : Nat := leNat bytes.reverse

/-- The low `width` bytes of a number, most significant first. -/
def beBytes (width number : Nat) : List UInt8 := (leBytes width number).reverse

@[simp]
theorem length_leBytes (width number : Nat) : (leBytes width number).length = width := by
  induction width generalizing number with
  | zero => rfl
  | succ width ih => simp [leBytes, ih]

@[simp]
theorem length_beBytes (width number : Nat) : (beBytes width number).length = width := by
  simp [beBytes]

theorem leNat_leBytes (width number : Nat) :
    leNat (leBytes width number) = number % 256 ^ width := by
  induction width generalizing number with
  | zero => simp [leBytes, leNat, Nat.mod_one]
  | succ width ih =>
      have low : (UInt8.ofNat number).toNat = number % 256 := by simp
      rw [leBytes, leNat, ih, low, Nat.pow_succ', Nat.mod_mul]

theorem leBytes_leNat (bytes : List UInt8) : leBytes bytes.length (leNat bytes) = bytes := by
  induction bytes with
  | nil => rfl
  | cons byte rest ih =>
      have small := byte.toNat_lt
      simp only [List.length_cons, leBytes, leNat]
      congr 1
      · apply UInt8.toNat_inj.mp
        simp only [UInt8.toNat_ofNat']
        omega
      · rw [show (byte.toNat + 256 * leNat rest) / 256 = leNat rest by omega]
        exact ih

theorem leNat_append (left right : List UInt8) :
    leNat (left ++ right) = leNat left + 256 ^ left.length * leNat right := by
  induction left with
  | nil => simp [leNat]
  | cons byte rest ih =>
      rw [List.cons_append, leNat, leNat, ih, List.length_cons, Nat.pow_succ]
      ring

theorem leNat_lt (bytes : List UInt8) : leNat bytes < 256 ^ bytes.length := by
  induction bytes with
  | nil => simp [leNat]
  | cons byte rest ih =>
      have small := byte.toNat_lt
      simp only [List.length_cons, leNat, Nat.pow_succ]
      omega

theorem beNat_beBytes (width number : Nat) :
    beNat (beBytes width number) = number % 256 ^ width := by
  simp [beNat, beBytes, leNat_leBytes]

theorem beBytes_beNat (bytes : List UInt8) : beBytes bytes.length (beNat bytes) = bytes := by
  have back := leBytes_leNat bytes.reverse
  rw [List.length_reverse] at back
  rw [beBytes, beNat, back, List.reverse_reverse]

theorem beNat_eq_of_two {bytes : List UInt8} (two : bytes.length = 2) :
    beNat bytes = leNat bytes % 256 * 256 + leNat bytes / 256 % 256 := by
  rcases List.length_eq_two.mp two with ⟨first, second, rfl⟩
  have firstSmall := first.toNat_lt
  have secondSmall := second.toNat_lt
  simp only [beNat, List.reverse_cons, List.reverse_nil, List.nil_append, List.cons_append,
    leNat]
  omega

theorem beNat_lt (bytes : List UInt8) : beNat bytes < 256 ^ bytes.length := by
  simpa [beNat] using leNat_lt bytes.reverse

end ByteMemory
