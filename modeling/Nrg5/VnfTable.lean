import Nrg5.Packet
import Nrg5.Tables

/-!
# The VNF table of a base station

The base station finds the connection of a network function by its protocol number.
The table answers with the entry that was added last, as long as the index that the
hash macro computes lies in the array: the key is promoted to `int`, and a product
with the sign bit set is shifted to a negative index.
-/

namespace Nrg5

namespace BspcTable

variable {table : BspcTable} {entry : BspcEntry} {proto : UInt16} {live : List BspcEntry}

/-! ## The index -/

/-- The product of the hash macro does not reach the sign bit. -/
def NonnegativeHash (proto : UInt16) : Prop := goldenRatio32 * proto.toNat % 2 ^ 32 < 2 ^ 31

instance (proto : UInt16) : Decidable (NonnegativeHash proto) :=
  inferInstanceAs (Decidable (_ < _))

theorem hashMinProto_eq (proto : UInt16) :
    hashMinProto proto bspcHashBits =
      (if goldenRatio32 * proto.toNat % 2 ^ 32 < 2 ^ 31
        then ((goldenRatio32 * proto.toNat % 2 ^ 32 : Nat) : Int)
        else (goldenRatio32 * proto.toNat % 2 ^ 32 : Nat) - 2 ^ 32) / 2 ^ 22 := by
  rw [hashMinProto, BitVec.toInt_eq_toNat_cond, BitVec.toNat_ofNat, Int.shiftRight_eq_div_pow]
  have halved : 2 * (goldenRatio32 * proto.toNat % 2 ^ 32) < 2 ^ 32 ↔
      goldenRatio32 * proto.toNat % 2 ^ 32 < 2 ^ 31 := by omega
  simp only [halved]
  rfl

/-- The index lies in the array exactly when the product is not negative. -/
theorem bucketOfProto_isSome : (bucketOfProto proto).isSome = true ↔ NonnegativeHash proto := by
  have index := hashMinProto_eq proto
  have inWord : goldenRatio32 * proto.toNat % 2 ^ 32 < 2 ^ 32 := Nat.mod_lt _ (by decide)
  unfold bucketOfProto NonnegativeHash
  generalize hashMinProto proto bspcHashBits = signed at index ⊢
  generalize goldenRatio32 * proto.toNat % 2 ^ 32 = product at index inWord ⊢
  have inArray : (0 ≤ signed ∧ signed < 2 ^ bspcHashBits) ↔ product < 2 ^ 31 := by
    rw [index]
    simp only [bspcHashBits]
    split <;> omega
  dsimp only
  split
  · rename_i inside
    exact ⟨fun _ => inArray.mp inside, fun _ => rfl⟩
  · rename_i outside
    simp only [Option.isSome_none, Bool.false_eq_true, false_iff]
    exact fun low => outside (inArray.mpr low)

/-- The bucket of an entry whose index lies in the array. -/
def slotOf (_ : Unit) (entry : BspcEntry) : Nat := (bucketOfProto entry.proto).getD 0

theorem add_of_nonnegative (nonnegative : NonnegativeHash entry.proto) :
    add entry table = table.addHead slotOf entry := by
  rcases Option.isSome_iff_exists.mp (bucketOfProto_isSome.mpr nonnegative) with ⟨slot, isSlot⟩
  simp only [add, isSlot, HashedTable.addHead, HashedTable.mk.injEq, true_and]
  funext index other
  simp only [HashedTable.hashAdd, slotOf, isSlot, Option.getD_some]

/-! ## Sequences of operations -/

/-- The calls on the table. -/
inductive Call : Type where
  | add (entry : BspcEntry)
  | del (entry : BspcEntry)
  | lookup (proto : UInt16)

/-- The protocol number that a call hashes. -/
def Call.hashed : Call → Option UInt16
  | .add entry => some entry.proto
  | .del _ => none
  | .lookup proto => some proto

/-- The entries that were added and not deleted, the latest first. -/
def Call.track (live : List BspcEntry) : Call → List BspcEntry
  | .add entry => entry :: live
  | .del entry => live.filter fun other => !(other.addr == entry.addr)
  | .lookup _ => live

def Call.apply (table : BspcTable) : Call → BspcTable
  | .add entry => BspcTable.add entry table
  | .del entry => BspcTable.del entry table
  | .lookup _ => table

/-- An entry is added that is not in the table, and deleted when it is. -/
def Call.Allowed (live : List BspcEntry) : Call → Prop
  | .add entry => entry.addr ∉ live.map BspcEntry.addr
  | .del entry => entry ∈ live
  | .lookup _ => True

instance (live : List BspcEntry) : (call : Call) → Decidable (call.Allowed live)
  | .add entry => inferInstanceAs (Decidable (entry.addr ∉ live.map BspcEntry.addr))
  | .del entry => inferInstanceAs (Decidable (entry ∈ live))
  | .lookup _ => inferInstanceAs (Decidable True)

/-- The calls that a user of the table makes. -/
def AllowedCalls : List Call → List BspcEntry → Prop
  | [], _ => True
  | call :: rest, live => call.Allowed live ∧ AllowedCalls rest (call.track live)

/-- The index of the call lies in the array, and a lookup answers with the entry of the
protocol that was added last and not deleted. -/
def Call.Correct (table : BspcTable) (live : List BspcEntry) : Call → Prop
  | .add entry => (bucketOfProto entry.proto).isSome = true
  | .del _ => True
  | .lookup proto => ∃ slot, bucketOfProto proto = some slot ∧
      lookupIn slot proto table = live.find? fun entry => entry.proto == proto

def CorrectCalls : List Call → BspcTable → List BspcEntry → Prop
  | [], _, _ => True
  | call :: rest, table, live =>
      call.Correct table live ∧ CorrectCalls rest (call.apply table) (call.track live)

/-- The table holds the entries that were added and not deleted. -/
def Holds (live : List BspcEntry) (table : BspcTable) : Prop :=
  table.Sound slotOf BspcEntry.addr ∧ table.ll = live

theorem holds_apply {call : Call} (holds : Holds live table) (allowed : call.Allowed live)
    (nonnegative : ∀ proto, call.hashed = some proto → NonnegativeHash proto) :
    Holds (call.track live) (call.apply table) := by
  rcases holds with ⟨sound, rfl⟩
  cases call with
  | add entry =>
      simp only [Call.apply, add_of_nonnegative (nonnegative entry.proto rfl)]
      exact ⟨sound.addHead allowed, rfl⟩
  | del entry => exact ⟨sound.unlink allowed, rfl⟩
  | lookup proto => exact ⟨sound, rfl⟩

theorem lookupIn_of_holds {slot : Nat} (holds : Holds live table)
    (isSlot : bucketOfProto proto = some slot) :
    lookupIn slot proto table = live.find? fun entry => entry.proto == proto := by
  rcases holds with ⟨sound, rfl⟩
  apply sound.find
  intro entry isMatch
  have same : entry.proto = proto := by simpa using isMatch
  simp only [slotOf, same, isSlot, Option.getD_some]

theorem call_correct_iff {call : Call} (holds : Holds live table) :
    call.Correct table live ↔ ∀ proto, call.hashed = some proto → NonnegativeHash proto := by
  cases call with
  | add entry =>
      simp only [Call.Correct, Call.hashed, Option.some.injEq, forall_eq', bucketOfProto_isSome]
  | del entry => simp [Call.Correct, Call.hashed]
  | lookup proto =>
      simp only [Call.Correct, Call.hashed, Option.some.injEq, forall_eq']
      constructor
      · rintro ⟨slot, isSlot, _⟩
        exact bucketOfProto_isSome.mp (by rw [isSlot]; rfl)
      · intro nonnegative
        rcases Option.isSome_iff_exists.mp (bucketOfProto_isSome.mpr nonnegative) with
          ⟨slot, isSlot⟩
        exact ⟨slot, isSlot, lookupIn_of_holds holds isSlot⟩

theorem correctCalls_iff {calls : List Call} (holds : Holds live table)
    (allowed : AllowedCalls calls live) :
    CorrectCalls calls table live ↔
      ∀ call ∈ calls, ∀ proto, call.hashed = some proto → NonnegativeHash proto := by
  induction calls generalizing table live with
  | nil => simp [CorrectCalls]
  | cons call rest ih =>
      rw [CorrectCalls, call_correct_iff holds, List.forall_mem_cons]
      apply and_congr_right
      intro nonnegative
      exact ih (holds_apply holds allowed.1 nonnegative) allowed.2

/-- The table is correct over a sequence of calls exactly when no protocol number that is
added or looked up has a negative product. -/
theorem bspc_table_correct_iff (calls : List Call) (allowed : AllowedCalls calls []) :
    CorrectCalls calls .empty [] ↔
      ∀ call ∈ calls, ∀ proto, call.hashed = some proto → NonnegativeHash proto :=
  correctCalls_iff ⟨HashedTable.sound_empty, rfl⟩ allowed

/-! ### Two entries of one protocol, and the protocol of the vTSD -/

def reconnect : List Call :=
  [.add ⟨1, 1, 5⟩, .add ⟨2, 1, 6⟩, .lookup 1, .del ⟨2, 1, 6⟩, .lookup 1]

theorem reconnect_correct : CorrectCalls reconnect .empty [] := by
  apply (bspc_table_correct_iff reconnect _).mpr
  · intro call isCall proto isHashed
    have isOne : proto = 1 := by
      simp only [reconnect, List.mem_cons, List.not_mem_nil, or_false] at isCall
      rcases isCall with rfl | rfl | rfl | rfl | rfl <;> simp_all [Call.hashed]
    rw [isOne]
    decide
  · exact ⟨by decide, by decide, trivial, by decide, trivial, trivial⟩

/-- `tsd_init` looks the vTSD up with an index in front of the array. -/
theorem vtsd_lookup_outside :
    AllowedCalls [.add ⟨1, protoCpVtsd, 5⟩] [] ∧
      ¬ CorrectCalls [.add ⟨1, protoCpVtsd, 5⟩] .empty [] := by
  refine ⟨⟨by decide, trivial⟩, ?_⟩
  rintro ⟨inArray, _⟩
  have nonnegative := bucketOfProto_isSome.mp inArray
  exact absurd nonnegative (by decide)

end BspcTable

end Nrg5
