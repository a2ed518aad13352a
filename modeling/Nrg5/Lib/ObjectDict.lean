import Mathlib.Tactic
import Mathlib.Data.List.AList

/-!
# Dictionaries of objects

A dictionary maps keys to objects, and a program changes an object by calling a
method on `dict[key]`.  The call fails with a key error when the key is missing.
`callEach` makes the same call for a list of keys; for a method that may be repeated
its effect depends only on which keys the list has.

Nothing here depends on the order in which a dictionary keeps its keys.
-/

/-- A dictionary with keys `κ` and objects `ν`. -/
abbrev ObjectDict (κ ν : Type) := AList fun _ : κ => ν

namespace ObjectDict

variable {κ ν : Type} [DecidableEq κ]

/-- `dict[key].method()`; the error is the missing key. -/
def call (key : κ) (method : ν → ν) (dict : ObjectDict κ ν) : Except κ (ObjectDict κ ν) :=
  match dict.lookup key with
  | some object => .ok (dict.insert key (method object))
  | none => .error key

/-- The call for every key of a list, in order. -/
def callEach (keys : List κ) (method : ν → ν) (dict : ObjectDict κ ν) :
    Except κ (ObjectDict κ ν) :=
  keys.foldlM (fun dict key => dict.call key method) dict

variable {dict : ObjectDict κ ν} {key other : κ} {object : ν} {method : ν → ν}

theorem lookup_insert_eq (other key : κ) (object : ν) (dict : ObjectDict κ ν) :
    AList.lookup other (dict.insert key object) =
      if other = key then some object else dict.lookup other := by
  split
  · rename_i same
    rw [same]
    exact AList.lookup_insert dict
  · rename_i different
    exact AList.lookup_insert_ne different

theorem lookup_erase_eq (other key : κ) (dict : ObjectDict κ ν) :
    AList.lookup other (dict.erase key) =
      if other = key then none else dict.lookup other := by
  split
  · rename_i same
    rw [same]
    exact AList.lookup_erase key dict
  · rename_i different
    exact AList.lookup_erase_ne different

theorem perm_keys_iff {order : List κ} :
    order.Perm dict.keys ↔ order.Nodup ∧ ∀ key, key ∈ order ↔ (dict.lookup key).isSome = true := by
  simp only [AList.lookup_isSome, AList.mem_keys]
  constructor
  · intro perm
    exact ⟨perm.nodup_iff.mpr dict.keys_nodup, fun key => perm.mem_iff⟩
  · rintro ⟨nodup, sameMembers⟩
    exact (List.perm_ext_iff_of_nodup nodup dict.keys_nodup).mpr sameMembers

theorem call_ok (found : dict.lookup key = some object) :
    ∃ after, dict.call key method = .ok after ∧
      ∀ other, after.lookup other =
        if other = key then some (method object) else dict.lookup other := by
  refine ⟨dict.insert key (method object), ?_, ?_⟩
  · simp only [call, found]
  · exact fun other => lookup_insert_eq other key _ dict

/-- Calls on keys that are all there change the objects of these keys, when a repeated
call has no further effect. -/
theorem callEach_ok (idempotent : ∀ object, method (method object) = method object)
    (keys : List κ) (found : ∀ key ∈ keys, (dict.lookup key).isSome = true) :
    ∃ after, dict.callEach keys method = .ok after ∧
      ∀ other, after.lookup other =
        (dict.lookup other).map fun object =>
          if other ∈ keys then method object else object := by
  induction keys generalizing dict with
  | nil => exact ⟨dict, rfl, by simp⟩
  | cons key rest ih =>
      rcases Option.isSome_iff_exists.mp (found key List.mem_cons_self) with ⟨object, isFound⟩
      rcases call_ok isFound with ⟨called, calls, calledLookup⟩
      have restFound : ∀ other ∈ rest, (called.lookup other).isSome = true := by
        intro other isLater
        rw [calledLookup]
        split
        · rfl
        · exact found other (List.mem_cons_of_mem _ isLater)
      rcases ih restFound with ⟨after, callsRest, afterLookup⟩
      refine ⟨after, ?_, ?_⟩
      · rw [callEach, List.foldlM_cons, calls]
        exact callsRest
      · intro other
        rw [afterLookup, calledLookup]
        by_cases same : other = key
        · subst same
          rw [if_pos rfl, isFound]
          simp [idempotent]
        · rw [if_neg same]
          simp [same]

end ObjectDict
