import Mathlib.Algebra.CharP.Two
import Mathlib.Algebra.Polynomial.Div
import Mathlib.Data.ZMod.Basic
import Mathlib.Tactic
import Nrg5.Lib.Bytes

/-!
# Cyclic redundancy checks of 32 bits

The register of a reflected check holds the coefficient of `X ^ 31` in its lowest bit.  One
step shifts the register and cancels the bit that drops out, and the plain algorithm takes
eight steps for each byte.  The first part is about words: the steps are additive and
injective, which is what tables and slices rest on.

The second part says what the register is for.  As a polynomial over the field with two
elements it is the remainder of the message by the generator.
-/

namespace Crc32

open ByteMemory

/-! ## The register -/

/-- The coefficient that bit `index` of a word stands for. -/
def bit (word : UInt32) (index : Nat) : Bool := word.toNat.testBit index

/-- One step of the register. -/
def shift (poly word : UInt32) : UInt32 :=
  if word &&& 1 = 1 then (word >>> 1) ^^^ poly else word >>> 1

/-- The plain algorithm takes eight steps for a byte. -/
def serialByte (poly crc : UInt32) (byte : UInt8) : UInt32 :=
  (shift poly)^[8] (crc ^^^ byte.toUInt32)

def serial (poly : UInt32) (data : List UInt8) (crc : UInt32) : UInt32 :=
  data.foldl (serialByte poly) crc

variable {poly word other crc : UInt32} {index count : Nat}

theorem ext_bit (same : ∀ index < 32, bit word index = bit other index) : word = other := by
  apply UInt32.toNat_inj.mp
  apply Nat.eq_of_testBit_eq
  intro index
  by_cases inside : index < 32
  · exact same index inside
  · have large : 2 ^ 32 ≤ 2 ^ index := Nat.pow_le_pow_right (by omega) (by omega)
    rw [Nat.testBit_lt_two_pow (word.toNat_lt.trans_le large),
      Nat.testBit_lt_two_pow (other.toNat_lt.trans_le large)]

@[simp]
theorem bit_zero : bit 0 index = false := by simp [bit]

@[simp]
theorem bit_xor : bit (word ^^^ other) index = (bit word index ^^ bit other index) := by
  simp [bit, Nat.testBit_xor]

@[simp]
theorem bit_and : bit (word &&& other) index = (bit word index && bit other index) := by
  simp [bit, Nat.testBit_and]

theorem bit_shiftRight (small : count < 32) :
    bit (word >>> UInt32.ofNat count) index = bit word (count + index) := by
  simp [bit, Nat.testBit_shiftRight, Nat.mod_eq_of_lt small]

theorem shiftRight_twice {first second : Nat} (small : first + second < 32) :
    word >>> UInt32.ofNat first >>> UInt32.ofNat second =
      word >>> UInt32.ofNat (first + second) := by
  apply ext_bit
  intro index _
  rw [bit_shiftRight (by omega), bit_shiftRight (by omega), bit_shiftRight small, Nat.add_assoc]

theorem bit_of_ge (large : 32 ≤ index) : bit word index = false :=
  Nat.testBit_lt_two_pow (word.toNat_lt.trans_le (Nat.pow_le_pow_right (by omega) large))

theorem and_one_eq_one : word &&& 1 = 1 ↔ bit word 0 = true := by
  rw [← UInt32.toNat_inj]
  simp [bit, Nat.testBit_zero, Nat.and_one_is_mod]

theorem bit_shift : bit (shift poly word) index =
    (bit word (index + 1) ^^ (bit word 0 && bit poly index)) := by
  have moved : bit (word >>> 1) index = bit word (index + 1) := by
    rw [Nat.add_comm]
    exact bit_shiftRight (show 1 < 32 by omega)
  simp only [shift, and_one_eq_one]
  cases bit word 0 with
  | true => simp [moved]
  | false => simp [moved]

/-! ## Additivity -/

theorem shift_xor : shift poly (word ^^^ other) = shift poly word ^^^ shift poly other := by
  apply ext_bit
  intro index _
  simp only [bit_shift, bit_xor]
  cases bit word 0 <;> cases bit other 0 <;> cases bit poly index <;> simp

theorem iterate_xor : (shift poly)^[count] (word ^^^ other) =
    (shift poly)^[count] word ^^^ (shift poly)^[count] other := by
  induction count generalizing word other with
  | zero => rfl
  | succ count ih =>
      simp only [Function.iterate_succ_apply, shift_xor]
      exact ih

theorem shift_zero : shift poly 0 = 0 := by
  apply ext_bit
  intro index _
  simp [bit_shift]

theorem iterate_zero : (shift poly)^[count] 0 = 0 := Function.iterate_fixed shift_zero count

/-- Zeros that drop out cancel nothing. -/
theorem bit_iterate (zeros : ∀ low < count, bit word low = false) :
    bit ((shift poly)^[count] word) index = bit word (count + index) := by
  induction count generalizing word with
  | zero => simp
  | succ count ih =>
      have first : bit word 0 = false := zeros 0 (by omega)
      have moved : ∀ place, bit (shift poly word) place = bit word (place + 1) := by
        intro place
        rw [bit_shift, first]
        simp
      rw [Function.iterate_succ_apply, ih, moved]
      · congr 1
        omega
      · intro low inside
        rw [moved]
        exact zeros (low + 1) (by omega)

/-- Nothing is lost when the generator cancels the bit that drops out. -/
theorem shift_injective (top : bit poly 31 = true) : Function.Injective (shift poly) := by
  have onlyZero : ∀ word, shift poly word = 0 → word = 0 := by
    intro word isZero
    have noBit : ∀ index, (bit word (index + 1) ^^ (bit word 0 && bit poly index)) = false := by
      intro index
      rw [← bit_shift, isZero, bit_zero]
    have lowest : bit word 0 = false := by
      have last := noBit 31
      rwa [bit_of_ge (by omega), top, Bool.false_xor, Bool.and_true] at last
    apply ext_bit
    intro index _
    rw [bit_zero]
    cases index with
    | zero => exact lowest
    | succ index => simpa [lowest] using noBit index
  intro word other same
  apply UInt32.xor_eq_zero_iff.mp
  apply onlyZero
  rw [shift_xor, same, UInt32.xor_self]

/-! ## Bytes -/

theorem bit_byte {byte : UInt8} : bit byte.toUInt32 index = byte.toNat.testBit index := by
  simp [bit]

theorem bit_byte_of_ge {byte : UInt8} (large : 8 ≤ index) : bit byte.toUInt32 index = false := by
  rw [bit_byte]
  exact Nat.testBit_lt_two_pow (byte.toNat_lt.trans_le (Nat.pow_le_pow_right (by omega) large))

theorem bit_mask : bit 0xff index = decide (index < 8) := by
  have ones : (0xff : UInt32).toNat = 2 ^ 8 - 1 := rfl
  rw [bit, ones, Nat.testBit_two_pow_sub_one]

/-- The eight steps that the lowest byte takes, with the other bytes moved up. -/
theorem iterate_eight : (shift poly)^[8] word =
    (shift poly)^[8] (word &&& 0xff) ^^^ (word >>> 8) := by
  have high : (shift poly)^[8] (word ^^^ (word &&& 0xff)) = word >>> 8 := by
    apply ext_bit
    intro index _
    have moved : bit (word >>> 8) index = bit word (8 + index) :=
      bit_shiftRight (show 8 < 32 by omega)
    rw [bit_iterate, moved]
    · simp [bit_mask]
    · intro low isLow
      simp [bit_mask, isLow]
  have parts : word = (word &&& 0xff) ^^^ (word ^^^ (word &&& 0xff)) := by
    rw [UInt32.xor_comm word, ← UInt32.xor_assoc, UInt32.xor_self, UInt32.zero_xor]
  calc (shift poly)^[8] word
      = (shift poly)^[8] ((word &&& 0xff) ^^^ (word ^^^ (word &&& 0xff))) := by rw [← parts]
    _ = _ := by rw [iterate_xor, high]

theorem serial_append {left right : List UInt8} :
    serial poly (left ++ right) crc = serial poly right (serial poly left crc) :=
  List.foldl_append

theorem bit_ofNat {number : Nat} (small : number < 2 ^ 32) :
    bit (UInt32.ofNat number) index = number.testBit index := by
  rw [bit, UInt32.toNat_ofNat', Nat.mod_eq_of_lt small]

/-- The word of some bytes is its first byte and the word of the others one byte higher. -/
theorem iterate_cons {byte : UInt8} {rest : List UInt8} (short : rest.length < 4) :
    (shift poly)^[8] (crc ^^^ UInt32.ofNat (leNat (byte :: rest))) =
      serialByte poly crc byte ^^^ UInt32.ofNat (leNat rest) := by
  have restLt : leNat rest < 2 ^ 24 := by
    apply (leNat_lt rest).trans_le
    calc 256 ^ rest.length ≤ 256 ^ 3 := Nat.pow_le_pow_right (by omega) (by omega)
      _ = 2 ^ 24 := rfl
  have byteLt := byte.toNat_lt
  have value : leNat (byte :: rest) = 2 ^ 8 * leNat rest + byte.toNat := by
    simp only [leNat]
    omega
  have small : leNat (byte :: rest) < 2 ^ 32 := by
    rw [value]
    omega
  have upLt : 2 ^ 8 * leNat rest < 2 ^ 32 := by omega
  have upBit : ∀ place, bit (UInt32.ofNat (2 ^ 8 * leNat rest)) place =
      (decide (8 ≤ place) && (leNat rest).testBit (place - 8)) := by
    intro place
    rw [bit_ofNat upLt, Nat.testBit_two_pow_mul]
  have split : UInt32.ofNat (leNat (byte :: rest)) =
      byte.toUInt32 ^^^ UInt32.ofNat (2 ^ 8 * leNat rest) := by
    apply ext_bit
    intro place _
    rw [bit_ofNat small, bit_xor, upBit, value, Nat.testBit_two_pow_mul_add _ byteLt]
    by_cases isLow : place < 8
    · rw [if_pos isLow, bit_byte, decide_eq_false (by omega), Bool.false_and, Bool.xor_false]
    · rw [if_neg isLow, bit_byte_of_ge (by omega), decide_eq_true (by omega), Bool.true_and,
        Bool.false_xor]
  have up : (shift poly)^[8] (UInt32.ofNat (2 ^ 8 * leNat rest)) = UInt32.ofNat (leNat rest) := by
    apply ext_bit
    intro place _
    rw [bit_iterate, upBit, bit_ofNat (by omega), decide_eq_true (by omega), Bool.true_and,
      Nat.add_sub_cancel_left]
    intro low isLow
    rw [upBit, decide_eq_false (by omega), Bool.false_and]
  rw [split, ← UInt32.xor_assoc, iterate_xor, up]
  rfl

/-- Up to four bytes may be taken as one word. -/
theorem serial_word {data : List UInt8} (short : data.length ≤ 4) :
    serial poly data crc =
      (shift poly)^[8 * data.length] (crc ^^^ UInt32.ofNat (leNat data)) := by
  induction data generalizing crc with
  | nil => simp [serial, leNat]
  | cons byte rest ih =>
      have restShort : rest.length < 4 := short
      have steps : 8 * (byte :: rest).length = 8 * rest.length + 8 := by
        rw [List.length_cons]
        omega
      rw [steps, Function.iterate_add_apply, iterate_cons restShort, ← ih (by omega)]
      rfl

theorem serial_injective (top : bit poly 31 = true) {data : List UInt8} :
    Function.Injective (serial poly data) := by
  induction data with
  | nil => exact fun _ _ same => same
  | cons byte rest ih =>
      intro crc other same
      have afterByte : serialByte poly crc byte = serialByte poly other byte := ih same
      exact (UInt32.xor_left_inj _).mp ((shift_injective top).iterate 8 afterByte)

/-- Two messages that differ inside one window of four bytes have different checks. -/
theorem serial_window (top : bit poly 31 = true) {before window window' after : List UInt8}
    (short : window.length ≤ 4) (sameLength : window.length = window'.length)
    (same : serial poly (before ++ window ++ after) crc =
      serial poly (before ++ window' ++ after) crc) : window = window' := by
  rw [serial_append, serial_append, serial_append, serial_append] at same
  have sameWindow := serial_injective top same
  have short' : window'.length ≤ 4 := sameLength ▸ short
  rw [@serial_word poly (serial poly before crc) window short,
    @serial_word poly (serial poly before crc) window' short', ← sameLength] at sameWindow
  have sameWord := (UInt32.xor_right_inj _).mp ((shift_injective top).iterate _ sameWindow)
  have inRange : ∀ data : List UInt8, data.length ≤ 4 → leNat data < 2 ^ 32 := by
    intro data isShort
    apply (leNat_lt data).trans_le
    calc 256 ^ data.length ≤ 256 ^ 4 := Nat.pow_le_pow_right (by omega) isShort
      _ = 2 ^ 32 := rfl
  have sameNat : leNat window = leNat window' := by
    have numbers := congrArg UInt32.toNat sameWord
    rwa [UInt32.toNat_ofNat', UInt32.toNat_ofNat', Nat.mod_eq_of_lt (inRange window short),
      Nat.mod_eq_of_lt (inRange window' short')] at numbers
  rw [← leBytes_leNat window, ← leBytes_leNat window', sameNat, sameLength]

/-! ## Polynomials -/

section Polynomials

open Polynomial

/-- The polynomial in the register. -/
noncomputable def toPoly (word : UInt32) : (ZMod 2)[X] :=
  ∑ index ∈ Finset.range 32, if bit word index then X ^ (31 - index) else 0

/-- The polynomial of a byte, the first bit on the wire in front. -/
noncomputable def bytePoly (byte : UInt8) : (ZMod 2)[X] :=
  ∑ index ∈ Finset.range 8, if byte.toNat.testBit index then X ^ (7 - index) else 0

noncomputable def message : List UInt8 → (ZMod 2)[X]
  | [] => 0
  | byte :: rest => X ^ (8 * rest.length) * bytePoly byte + message rest

noncomputable def generator (poly : UInt32) : (ZMod 2)[X] := X ^ 32 + toPoly poly

theorem toPoly_xor : toPoly (word ^^^ other) = toPoly word + toPoly other := by
  simp only [toPoly, ← Finset.sum_add_distrib]
  apply Finset.sum_congr rfl
  intro index _
  rw [bit_xor]
  cases bit word index <;> cases bit other index <;> simp [CharTwo.add_self_eq_zero]

theorem degree_toPoly : (toPoly word).degree < 32 := by
  apply (degree_sum_le _ _).trans_lt
  rw [Finset.sup_lt_iff (by exact WithBot.bot_lt_coe 32)]
  intro index _
  split
  · rw [degree_X_pow]
    exact_mod_cast (show 31 - index < 32 by omega)
  · rw [degree_zero]
    exact WithBot.bot_lt_coe 32

theorem generator_monic : (generator poly).Monic :=
  monic_X_pow_add degree_toPoly

theorem degree_generator : (generator poly).degree = 32 := by
  rw [generator, degree_add_eq_left_of_degree_lt]
  · exact degree_X_pow 32
  · rw [degree_X_pow]
    exact degree_toPoly

theorem toPoly_shiftRight : toPoly (word >>> 1) =
    ∑ index ∈ Finset.range 31, if bit word (index + 1) then X ^ (31 - index) else 0 := by
  have moved : ∀ index, bit (word >>> 1) index = bit word (index + 1) := by
    intro index
    rw [Nat.add_comm]
    exact bit_shiftRight (show 1 < 32 by omega)
  have last : bit word 32 = false := bit_of_ge (le_refl 32)
  simp only [toPoly, moved]
  rw [Finset.sum_range_succ, last, if_neg Bool.false_ne_true, add_zero]

/-- A step multiplies by `X` and takes the generator away when its leading term appears. -/
theorem X_mul_toPoly : X * toPoly word =
    toPoly (shift poly word) + if bit word 0 then generator poly else 0 := by
  have moved : X * toPoly word =
      toPoly (word >>> 1) + if bit word 0 then X ^ 32 else 0 := by
    calc X * toPoly word
        = ∑ index ∈ Finset.range (31 + 1), if bit word index then X ^ (32 - index) else 0 := by
          rw [toPoly, Finset.mul_sum]
          apply Finset.sum_congr rfl
          intro index isIndex
          have inside := Finset.mem_range.mp isIndex
          rw [mul_ite, mul_zero, ← pow_succ', show 31 - index + 1 = 32 - index by omega]
      _ = _ := by
          rw [Finset.sum_range_succ', toPoly_shiftRight]
          simp only [Nat.reduceSubDiff, Nat.sub_zero]
  rw [moved, shift]
  simp only [and_one_eq_one]
  cases bit word 0 with
  | false => simp
  | true =>
      simp only [if_true, toPoly_xor, generator]
      rw [add_assoc, add_left_comm (toPoly poly), CharTwo.add_self_eq_zero, add_zero]

theorem generator_dvd_iterate :
    generator poly ∣ X ^ count * toPoly word - toPoly ((shift poly)^[count] word) := by
  induction count generalizing word with
  | zero => simp
  | succ count ih =>
      have split : X ^ (count + 1) * toPoly word - toPoly ((shift poly)^[count + 1] word) =
          X ^ count * (X * toPoly word - toPoly (shift poly word)) +
            (X ^ count * toPoly (shift poly word) -
              toPoly ((shift poly)^[count] (shift poly word))) := by
        rw [Function.iterate_succ_apply]
        ring
      rw [split]
      apply dvd_add
      · apply Dvd.dvd.mul_left
        rw [X_mul_toPoly, add_sub_cancel_left]
        split
        · exact dvd_refl _
        · exact dvd_zero _
      · exact ih

theorem toPoly_byte {byte : UInt8} : toPoly byte.toUInt32 = X ^ 24 * bytePoly byte := by
  have high : ∀ index ∈ Finset.range 32, index ∉ Finset.range 8 →
      (if bit byte.toUInt32 index then (X : (ZMod 2)[X]) ^ (31 - index) else 0) = 0 := by
    intro index _ isHigh
    rw [bit_byte_of_ge (by simpa using isHigh), if_neg Bool.false_ne_true]
  rw [toPoly, ← Finset.sum_subset (Finset.range_mono (by omega)) high, bytePoly, Finset.mul_sum]
  apply Finset.sum_congr rfl
  intro index isIndex
  have inside := Finset.mem_range.mp isIndex
  rw [bit_byte, mul_ite, mul_zero, ← pow_add, show 24 + (7 - index) = 31 - index by omega]

theorem generator_dvd_serial {data : List UInt8} : generator poly ∣
    (X ^ (8 * data.length) * toPoly crc + X ^ 32 * message data) -
      toPoly (serial poly data crc) := by
  induction data generalizing crc with
  | nil => simp [serial, message]
  | cons byte rest ih =>
      have first : generator poly ∣ X ^ 8 * toPoly (crc ^^^ byte.toUInt32) -
          toPoly (serialByte poly crc byte) := generator_dvd_iterate
      have others := @ih (serialByte poly crc byte)
      have split : (X ^ (8 * (byte :: rest).length) * toPoly crc +
          X ^ 32 * message (byte :: rest)) - toPoly (serial poly (byte :: rest) crc) =
          X ^ (8 * rest.length) * (X ^ 8 * toPoly (crc ^^^ byte.toUInt32) -
              toPoly (serialByte poly crc byte)) +
            ((X ^ (8 * rest.length) * toPoly (serialByte poly crc byte) +
              X ^ 32 * message rest) -
                toPoly (serial poly rest (serialByte poly crc byte))) := by
        rw [toPoly_xor, toPoly_byte, List.length_cons, message]
        change _ - toPoly (serial poly rest (serialByte poly crc byte)) = _
        ring
      rw [split]
      exact dvd_add (first.mul_left _) others

/-- The check is the remainder of the message, with the initial value in front of it. -/
theorem toPoly_serial {data : List UInt8} : toPoly (serial poly data crc) =
    (X ^ (8 * data.length) * toPoly crc + X ^ 32 * message data) %ₘ generator poly := by
  have isReduced : toPoly (serial poly data crc) %ₘ generator poly =
      toPoly (serial poly data crc) := by
    rw [modByMonic_eq_self_iff generator_monic, degree_generator]
    exact degree_toPoly
  rw [← isReduced]
  exact (modByMonic_eq_of_dvd_sub generator_monic generator_dvd_serial).symm

end Polynomials

end Crc32
