import Nrg5.CrcTables
import Nrg5.Lib.Crc

/-!
# The hash of the tables

`hash_crc` takes eight bytes at a time, then four, two and one, and looks the remainder of
each byte up in one of eight tables.  Whatever the length of its argument, it computes the
cyclic redundancy check with the Castagnoli polynomial.
-/

namespace Nrg5

open ByteMemory Crc32

def castagnoli : UInt32 := 0x82F63B78

theorem crc32cTables_eq (row : Nat) (byte : UInt32) :
    crc32cTables row byte = (shift castagnoli)^[8 * (row + 1)] byte := rfl

variable {crc : UInt32} {data : List UInt8}

/-! ## Slices -/

/-- One table takes the lowest byte off. -/
theorem iterate_split (row : Nat) : (shift castagnoli)^[8 * (row + 1)] crc =
    crc32cTables row (crc &&& 0xff) ^^^ (shift castagnoli)^[8 * row] (crc >>> 8) := by
  rw [crc32cTables_eq, Nat.mul_succ, Function.iterate_add_apply, Function.iterate_add_apply,
    ← iterate_xor, ← iterate_eight]

/-- `CRC32_UPD` takes two bytes off. -/
theorem iterate_upd (row : Nat) : (shift castagnoli)^[8 * (row + 2)] crc =
    crc32Upd crc (row + 1) ^^^ (shift castagnoli)^[8 * row] (crc >>> 16) := by
  have twice : crc >>> 8 >>> 8 = crc >>> 16 := shiftRight_twice (show 8 + 8 < 32 by omega)
  rw [iterate_split, iterate_split, twice, ← UInt32.xor_assoc]
  rfl

theorem shift_out : crc >>> 16 >>> 16 = 0 := by
  apply ext_bit
  intro index _
  have half : ∀ word : UInt32, ∀ place, bit (word >>> 16) place = bit word (16 + place) :=
    fun _ _ => bit_shiftRight (show 16 < 32 by omega)
  rw [half, half, bit_of_ge (by omega), bit_zero]

theorem crc32c1byte_eq (byte : UInt8) : crc32c1byte byte crc = serial castagnoli [byte] crc :=
  (iterate_split 0).symm

theorem crc32c2bytes_eq (two : data.length = 2) :
    crc32c2bytes (UInt16.ofNat (leNat data)) crc = serial castagnoli data crc := by
  have inRange : leNat data < 2 ^ 16 := by
    have bound := leNat_lt data
    rwa [two] at bound
  have widened : (UInt16.ofNat (leNat data)).toUInt32 = UInt32.ofNat (leNat data) := by
    apply UInt32.toNat_inj.mp
    rw [UInt16.toNat_toUInt32, UInt16.toNat_ofNat', UInt32.toNat_ofNat',
      Nat.mod_eq_of_lt inRange, Nat.mod_eq_of_lt (by omega)]
  rw [serial_word (by omega), two, ← widened]
  exact (iterate_upd 0).symm

/-- Four bytes through four tables. -/
theorem iterate_word :
    (shift castagnoli)^[32] crc = crc32Upd crc 3 ^^^ crc32Upd (crc >>> 16) 1 := by
  have lower := @iterate_upd crc 2
  have upper := @iterate_upd (crc >>> 16) 0
  rw [shift_out, iterate_zero, UInt32.xor_zero] at upper
  rw [← upper]
  exact lower

theorem crc32c1word_eq (four : data.length = 4) :
    crc32c1word (UInt32.ofNat (leNat data)) crc = serial castagnoli data crc := by
  rw [serial_word (by omega), four]
  exact iterate_word.symm

/-- The upper half of eight bytes passes through the lower tables, the lower half through the
upper ones. -/
theorem iterate_words : (shift castagnoli)^[64] crc =
    crc32Upd crc 7 ^^^ crc32Upd (crc >>> 16) 5 := by
  have lower := @iterate_upd crc 6
  have upper := @iterate_upd (crc >>> 16) 4
  rw [shift_out, iterate_zero, UInt32.xor_zero] at upper
  rw [← upper]
  exact lower

theorem crc32c2words_eq (eight : data.length = 8) :
    crc32c2words (UInt64.ofNat (leNat data)) crc = serial castagnoli data crc := by
  have lowFour : (data.take 4).length = 4 := by simp [eight]
  have highFour : (data.drop 4).length = 4 := by simp [eight]
  have parts : leNat data = leNat (data.take 4) + 2 ^ 32 * leNat (data.drop 4) := by
    have joined := leNat_append (data.take 4) (data.drop 4)
    rwa [List.take_append_drop, lowFour] at joined
  have lowLt : leNat (data.take 4) < 2 ^ 32 := by
    have bound := leNat_lt (data.take 4)
    rwa [lowFour] at bound
  have highLt : leNat (data.drop 4) < 2 ^ 32 := by
    have bound := leNat_lt (data.drop 4)
    rwa [highFour] at bound
  have inRange : leNat data < 2 ^ 64 := by omega
  have low : (UInt64.ofNat (leNat data)).toUInt32 = UInt32.ofNat (leNat (data.take 4)) := by
    apply UInt32.toNat_inj.mp
    rw [UInt64.toNat_toUInt32, UInt64.toNat_ofNat', UInt32.toNat_ofNat',
      Nat.mod_eq_of_lt inRange, Nat.mod_eq_of_lt lowLt]
    omega
  have high : (UInt64.ofNat (leNat data) >>> 32).toUInt32 =
      UInt32.ofNat (leNat (data.drop 4)) := by
    apply UInt32.toNat_inj.mp
    rw [UInt64.toNat_toUInt32, UInt64.toNat_shiftRight, UInt64.toNat_ofNat',
      UInt32.toNat_ofNat', Nat.mod_eq_of_lt inRange, Nat.mod_eq_of_lt highLt]
    change (leNat data >>> 32) % 2 ^ 32 = _
    rw [Nat.shiftRight_eq_div_pow]
    omega
  have lowWord : serial castagnoli (data.take 4) crc =
      (shift castagnoli)^[32] (crc ^^^ UInt32.ofNat (leNat (data.take 4))) := by
    rw [serial_word (by omega), lowFour]
  have highWord : ∀ before, serial castagnoli (data.drop 4) before =
      (shift castagnoli)^[32] (before ^^^ UInt32.ofNat (leNat (data.drop 4))) := by
    intro before
    rw [serial_word (by omega), highFour]
  calc crc32c2words (UInt64.ofNat (leNat data)) crc
      = (shift castagnoli)^[64] (crc ^^^ UInt32.ofNat (leNat (data.take 4))) ^^^
          (shift castagnoli)^[32] (UInt32.ofNat (leNat (data.drop 4))) := by
        rw [iterate_words, iterate_word, ← low, ← high]
        rfl
    _ = serial castagnoli (data.drop 4) (serial castagnoli (data.take 4) crc) := by
        rw [highWord, lowWord]
        symm
        rw [iterate_xor, ← Function.iterate_add_apply]
    _ = serial castagnoli data crc := by
        rw [← serial_append, List.take_append_drop]

/-! ## Byte strings -/

theorem hashCrcWords_eq {words : Nat} (enough : 8 * words ≤ data.length) :
    hashCrcWords words data crc = serial castagnoli (data.take (8 * words)) crc := by
  induction words generalizing data crc with
  | zero => simp [hashCrcWords, serial]
  | succ words ih =>
      have eight : (data.take 8).length = 8 := by
        rw [List.length_take]
        omega
      have others : 8 * words ≤ (data.drop 8).length := by
        rw [List.length_drop]
        omega
      rw [hashCrcWords, crc32c2words_eq eight, ih others, ← serial_append, Nat.mul_succ,
        Nat.add_comm, List.take_add]

/-- What is done when one bit of the length is set takes the bytes that the bit counts. -/
theorem serial_slice {size : Nat} {isSet : Prop} [Decidable isSet] {rest : List UInt8}
    {word : List UInt8 → UInt32 → UInt32}
    (isSlice : ∀ data : List UInt8, data.length = size → ∀ crc,
      word data crc = serial castagnoli data crc)
    (enough : isSet → size ≤ rest.length) :
    serial castagnoli (if isSet then rest.drop size else rest)
        (if isSet then word (rest.take size) crc else crc) =
      serial castagnoli rest crc := by
  split
  · rename_i set
    have taken : (rest.take size).length = size := by
      rw [List.length_take]
      exact Nat.min_eq_left (enough set)
    rw [isSlice (rest.take size) taken, ← serial_append, List.take_append_drop]
  · rfl

/-- The last byte, if the length is odd. -/
theorem serial_last (last : Nat) (rest : List UInt8) :
    rest.length = last → last ≤ 1 →
      (match last, rest with
        | 1, byte :: _ => crc32c1byte byte crc
        | _, _ => crc) = serial castagnoli rest crc := by
  intro sameLength atMostOne
  match last, rest, sameLength with
  | 0, [], _ => rfl
  | 1, [byte], _ => exact crc32c1byte_eq byte

/-- The word-wise hash is the plain check. -/
theorem hashCrc_eq : hashCrc data crc = serial castagnoli data crc := by
  have whole : data = data.take (8 * (data.length / 8)) ++ data.drop (8 * (data.length / 8)) :=
    (List.take_append_drop _ _).symm
  have words := @hashCrcWords_eq crc data (data.length / 8) (by omega)
  have short : (data.drop (8 * (data.length / 8))).length < 8 := by
    rw [List.length_drop]
    omega
  conv_rhs => rw [whole, serial_append, ← words]
  simp only [hashCrc]
  generalize hashCrcWords (data.length / 8) data crc = before
  generalize data.drop (8 * (data.length / 8)) = rest at short
  have four := @serial_slice before 4 (rest.length / 4 % 2 = 1) _ rest
    (fun data => crc32c1word (UInt32.ofNat (leNat data)))
    (fun _ isFour _ => crc32c1word_eq isFour) (by omega)
  rw [← four]
  have left : (if rest.length / 4 % 2 = 1 then rest.drop 4 else rest).length =
      rest.length % 4 := by
    split
    · rw [List.length_drop]
      omega
    · omega
  generalize (if rest.length / 4 % 2 = 1 then rest.drop 4 else rest) = rest2 at left
  generalize (if rest.length / 4 % 2 = 1 then _ else before) = crc4
  have two := @serial_slice crc4 2 (rest.length / 2 % 2 = 1) _ rest2
    (fun data => crc32c2bytes (UInt16.ofNat (leNat data)))
    (fun _ isTwo _ => crc32c2bytes_eq isTwo) (by omega)
  rw [← two]
  refine serial_last (rest.length % 2) _ ?_ (by omega)
  split
  · rw [List.length_drop]
    omega
  · omega

/-- With the constants that the header lists, `hash_crc` is the remainder of its argument, with
the initial value in front of it, by the Castagnoli polynomial, and a string may be hashed in
pieces of any lengths. -/
theorem hashCrc_remainder (data : List UInt8) (initVal : UInt32) :
    (∀ row < 8, ∀ byte < 256,
        (crc32cListed.getD row []).getD byte 0 = crc32cTables row (UInt32.ofNat byte)) ∧
      toPoly (hashCrc data initVal) =
        (Polynomial.X ^ (8 * data.length) * toPoly initVal + Polynomial.X ^ 32 * message data) %ₘ
          generator castagnoli ∧
      ∀ left right, data = left ++ right →
        hashCrc data initVal = hashCrc right (hashCrc left initVal) := by
  refine ⟨fun row inside byte isByte => crc32cListed_eq inside isByte, ?_, ?_⟩
  · rw [hashCrc_eq]
    exact toPoly_serial
  · rintro left right rfl
    rw [hashCrc_eq, hashCrc_eq, hashCrc_eq]
    exact serial_append

/-- Two byte strings that differ only inside four consecutive bytes have different hashes,
and so have two initial values. -/
theorem hashCrc_window (before window window' after : List UInt8) (initVal initVal' : UInt32)
    (sameLength : window.length = window'.length) (short : window.length ≤ 4) :
    (hashCrc (before ++ window ++ after) initVal = hashCrc (before ++ window' ++ after) initVal ↔
        window = window') ∧
      (hashCrc after initVal = hashCrc after initVal' ↔ initVal = initVal') := by
  have top : bit castagnoli 31 = true := by decide
  constructor
  · rw [hashCrc_eq, hashCrc_eq]
    constructor
    · exact serial_window top short sameLength
    · rintro rfl
      rfl
  · rw [hashCrc_eq, hashCrc_eq]
    exact (serial_injective top).eq_iff

/-- Two cards of one vendor: the addresses differ in the last of their six bytes. -/
theorem sameVendor_differ :
    hashL2addr [0x00, 0x1b, 0x77, 0x12, 0x34, 0x56] ≠
      hashL2addr [0x00, 0x1b, 0x77, 0x12, 0x34, 0x57] := by
  intro same
  have window := hashCrc_window [0x00, 0x1b, 0x77] [0x12, 0x34, 0x56] [0x12, 0x34, 0x57] [] 0 0
    rfl (by decide)
  exact absurd (window.1.mp same) (by decide)

end Nrg5
