import Mathlib.Tactic

/-!
# Linked lists with hash chains

A table keeps the same entries in one linked list and in the chains of one or
more hash indexes.  An entry is an object with an identity: several pointers to
it exist, and a write through one of them is seen through all of them.  The
identity is the argument `same` of the operations that write or unlink, and the
bucket of an entry in an index is the argument `bucket`.

A lookup walks one chain from its head, so the entry it meets first is the one
that was added last.  What a lookup answers after an operation is stated without
any assumption on the table, because the chains are read and written directly.
-/

/-- The entries in list order and in the chains of each index, head first. -/
structure HashedTable (ι α : Type) where
  size : Int
  ll : List α
  chains : ι → Nat → List α

namespace HashedTable

variable {ι α : Type}

def empty : HashedTable ι α :=
  { size := 0, ll := [], chains := fun _ _ => [] }

/-- Put an entry at the head of its chain in each index. -/
def hashAdd (bucket : ι → α → Nat) (entry : α) (chains : ι → Nat → List α) :
    ι → Nat → List α := fun index slot =>
  if slot = bucket index entry then entry :: chains index slot else chains index slot

def addHead (bucket : ι → α → Nat) (entry : α) (table : HashedTable ι α) :
    HashedTable ι α :=
  { size := table.size + 1
    ll := entry :: table.ll
    chains := hashAdd bucket entry table.chains }

def addTail (bucket : ι → α → Nat) (entry : α) (table : HashedTable ι α) :
    HashedTable ι α :=
  { size := table.size + 1
    ll := table.ll ++ [entry]
    chains := hashAdd bucket entry table.chains }

/-- Unlink one object from the list and from every chain. -/
def unlink (same : α → Bool) (table : HashedTable ι α) : HashedTable ι α :=
  { size := table.size - 1
    ll := table.ll.filter fun entry => !same entry
    chains := fun index slot => (table.chains index slot).filter fun entry => !same entry }

/-- Write through a pointer to one object. -/
def write (same : α → Bool) (update : α → α) (table : HashedTable ι α) : HashedTable ι α :=
  { table with
    ll := table.ll.map fun entry => if same entry then update entry else entry
    chains := fun index slot =>
      (table.chains index slot).map fun entry => if same entry then update entry else entry }

/-- Walk one chain from its head to the first entry with the wanted key. -/
def find (index : ι) (slot : Nat) (matching : α → Bool) (table : HashedTable ι α) : Option α :=
  (table.chains index slot).find? matching

variable {table : HashedTable ι α} {bucket : ι → α → Nat} {index : ι} {slot : Nat}
  {matching same : α → Bool} {entry : α} {update : α → α}

theorem find_matching (found : table.find index slot matching = some entry) :
    matching entry = true :=
  List.find?_some found

theorem find_addTail : (table.addTail bucket entry).find index slot matching =
    (table.addHead bucket entry).find index slot matching := rfl

theorem find_addHead_same (here : slot = bucket index entry) (isMatch : matching entry = true) :
    (table.addHead bucket entry).find index slot matching = some entry := by
  simp only [find, addHead, hashAdd, if_pos here]
  rw [List.find?_cons_of_pos isMatch]

theorem find_addHead_other (isOther : matching entry = false) :
    (table.addHead bucket entry).find index slot matching =
      table.find index slot matching := by
  simp only [find, addHead, hashAdd]
  split
  · rw [List.find?_cons_of_neg (by simp [isOther])]
  · rfl

/-- A write that leaves the key alone changes the entry that is found and not
which one it is. -/
theorem find_write (keepsKey : ∀ entry, matching (update entry) = matching entry) :
    (table.write same update).find index slot matching =
      (table.find index slot matching).map fun entry =>
        if same entry then update entry else entry := by
  simp only [find, write, List.find?_map]
  congr 2
  funext entry
  simp only [Function.comp_apply]
  split
  · exact keepsKey entry
  · rfl

theorem mem_ll_addHead {other : α} :
    other ∈ (table.addHead bucket entry).ll ↔ other = entry ∨ other ∈ table.ll := by
  simp [addHead]

theorem mem_ll_addTail {other : α} :
    other ∈ (table.addTail bucket entry).ll ↔ other = entry ∨ other ∈ table.ll := by
  simp [addTail, or_comm]

theorem mem_ll_write {other : α} :
    other ∈ (table.write same update).ll ↔
      ∃ entry ∈ table.ll, (if same entry then update entry else entry) = other := by
  simp [write]

theorem map_ll_write {κ : Type} {key : α → κ} (keeps : ∀ entry, key (update entry) = key entry) :
    (table.write same update).ll.map key = table.ll.map key := by
  simp only [write, List.map_map]
  apply List.map_congr_left
  intro entry _
  simp only [Function.comp_apply]
  split
  · exact keeps entry
  · rfl

/-! ## Covered chains -/

/-- Each chain holds the entries of its bucket and no others, in some order. -/
def Covers (bucket : ι → α → Nat) (table : HashedTable ι α) : Prop :=
  ∀ index slot entry, entry ∈ table.chains index slot ↔ entry ∈ table.ll ∧ bucket index entry = slot

theorem covers_empty : (empty : HashedTable ι α).Covers bucket := by
  intro index slot entry
  simp [empty]

theorem Covers.addHead (covers : table.Covers bucket) :
    (table.addHead bucket entry).Covers bucket := by
  intro index slot other
  simp only [HashedTable.addHead, hashAdd, List.mem_cons]
  rcases eq_or_ne slot (bucket index entry) with here | different
  · rw [if_pos here, List.mem_cons, covers]
    constructor
    · rintro (rfl | ⟨isMem, inSlot⟩)
      · exact ⟨.inl rfl, here.symm⟩
      · exact ⟨.inr isMem, inSlot⟩
    · rintro ⟨rfl | isMem, inSlot⟩
      · exact .inl rfl
      · exact .inr ⟨isMem, inSlot⟩
  · rw [if_neg different, covers]
    constructor
    · rintro ⟨isMem, inSlot⟩
      exact ⟨.inr isMem, inSlot⟩
    · rintro ⟨rfl | isMem, inSlot⟩
      · exact absurd inSlot.symm different
      · exact ⟨isMem, inSlot⟩

theorem Covers.addTail (covers : table.Covers bucket) :
    (table.addTail bucket entry).Covers bucket := by
  intro index slot other
  rw [mem_ll_addTail, ← mem_ll_addHead]
  exact covers.addHead index slot other

theorem Covers.write (covers : table.Covers bucket)
    (keepsBucket : ∀ index entry, bucket index (update entry) = bucket index entry) :
    (table.write same update).Covers bucket := by
  intro index slot other
  simp only [HashedTable.write, List.mem_map]
  have sameBucket : ∀ entry, bucket index (if same entry then update entry else entry) =
      bucket index entry := by
    intro entry
    split
    · exact keepsBucket index entry
    · rfl
  constructor
  · rintro ⟨entry, inChain, rfl⟩
    rcases (covers index slot entry).mp inChain with ⟨isMem, inSlot⟩
    exact ⟨⟨entry, isMem, rfl⟩, (sameBucket entry).trans inSlot⟩
  · rintro ⟨⟨entry, isMem, rfl⟩, inSlot⟩
    exact ⟨entry, (covers index slot entry).mpr ⟨isMem, (sameBucket entry).symm.trans inSlot⟩, rfl⟩

/-- A lookup by a key that decides the bucket finds an entry exactly when the list has one. -/
theorem Covers.find_isSome (covers : table.Covers bucket)
    (decides : ∀ entry, matching entry = true → bucket index entry = slot) :
    (table.find index slot matching).isSome = true ↔ ∃ entry ∈ table.ll, matching entry = true := by
  simp only [HashedTable.find, List.find?_isSome, covers index slot]
  constructor
  · rintro ⟨entry, ⟨isMem, _⟩, isMatch⟩
    exact ⟨entry, isMem, isMatch⟩
  · rintro ⟨entry, isMem, isMatch⟩
    exact ⟨entry, ⟨isMem, decides entry isMatch⟩, isMatch⟩

theorem Covers.mem_of_find (covers : table.Covers bucket)
    (found : table.find index slot matching = some entry) : entry ∈ table.ll :=
  ((covers index slot entry).mp (List.mem_of_find?_eq_some found)).1

theorem Covers.unlink (covers : table.Covers bucket) : (table.unlink same).Covers bucket := by
  intro index slot other
  simp only [HashedTable.unlink, List.mem_filter, covers index slot]
  tauto

/-! ## Sound tables -/

/-- The size counts the entries, the list holds every object once, and each chain holds
the entries of its bucket in the order of the list. -/
structure Sound (bucket : ι → α → Nat) (addr : α → Nat) (table : HashedTable ι α) : Prop where
  size : table.size = table.ll.length
  distinct : (table.ll.map addr).Nodup
  chains : ∀ index slot, table.chains index slot =
    table.ll.filter fun entry => bucket index entry == slot

variable {addr : α → Nat}

theorem sound_empty : (empty : HashedTable ι α).Sound bucket addr :=
  ⟨rfl, List.nodup_nil, fun _ _ => rfl⟩

theorem Sound.addHead (sound : table.Sound bucket addr) (isNew : addr entry ∉ table.ll.map addr) :
    (table.addHead bucket entry).Sound bucket addr := by
  refine ⟨?_, ?_, ?_⟩
  · simp only [HashedTable.addHead, List.length_cons, sound.size]
    omega
  · simp only [HashedTable.addHead, List.map_cons]
    exact List.nodup_cons.mpr ⟨isNew, sound.distinct⟩
  · intro index slot
    simp only [HashedTable.addHead, hashAdd, List.filter_cons, sound.chains]
    rcases eq_or_ne slot (bucket index entry) with here | other
    · rw [if_pos here, if_pos (by simp [here])]
    · rw [if_neg other, if_neg (by simpa using other.symm)]

/-- Unlinking an object of the table removes it and nothing else. -/
theorem Sound.unlink_addr {key : Nat} (sound : table.Sound bucket addr)
    (isMem : key ∈ table.ll.map addr) :
    (table.unlink fun other => addr other == key).Sound bucket addr := by
  refine ⟨?_, ?_, ?_⟩
  · have once : (table.ll.filter fun other => addr other == key).length = 1 := by
      have counted := List.count_eq_one_of_mem sound.distinct isMem
      rw [List.count, List.countP_map, List.countP_eq_length_filter] at counted
      exact counted
    have parts := List.length_eq_length_filter_add (l := table.ll)
      fun other => addr other == key
    simp only [HashedTable.unlink, sound.size]
    omega
  · exact sound.distinct.sublist (List.filter_sublist.map _)
  · intro index slot
    simp only [HashedTable.unlink, sound.chains, List.filter_filter, Bool.and_comm]

theorem Sound.unlink (sound : table.Sound bucket addr) (isMem : entry ∈ table.ll) :
    (table.unlink fun other => addr other == addr entry).Sound bucket addr :=
  sound.unlink_addr (List.mem_map_of_mem isMem)

/-- Unlink several objects, the last one of the list first. -/
def unlinkAll (addr : α → Nat) (keys : List Nat) (table : HashedTable ι α) : HashedTable ι α :=
  keys.foldr (fun key table => table.unlink fun other => addr other == key) table

/-- What is left when several objects are unlinked, in whatever order. -/
theorem unlinkAll_eq {keys : List Nat} : table.unlinkAll addr keys =
    { size := table.size - keys.length
      ll := table.ll.filter fun other => decide (addr other ∉ keys)
      chains := fun index slot =>
        (table.chains index slot).filter fun other => decide (addr other ∉ keys) } := by
  induction keys with
  | nil => simp [unlinkAll]
  | cons key keys ih =>
      have both : ∀ list : List α, (list.filter fun other => decide (addr other ∉ keys)).filter
          (fun other => !(addr other == key)) =
            list.filter fun other => decide (addr other ∉ key :: keys) := by
        intro list
        rw [List.filter_filter]
        apply List.filter_congr
        intro other _
        simp only [List.mem_cons, not_or, Bool.decide_and, decide_not, beq_eq_decide]
      rw [show table.unlinkAll addr (key :: keys) =
        (table.unlinkAll addr keys).unlink fun other => addr other == key from rfl, ih]
      simp only [HashedTable.unlink, both, List.length_cons, mk.injEq, and_true]
      push_cast
      omega

theorem mem_ll_unlinkAll {keys : List Nat} {other : α} :
    other ∈ (table.unlinkAll addr keys).ll ↔ other ∈ table.ll ∧ addr other ∉ keys := by
  rw [unlinkAll_eq, List.mem_filter, decide_eq_true_iff]

theorem Covers.unlinkAll {keys : List Nat} (covers : table.Covers bucket) :
    (table.unlinkAll addr keys).Covers bucket := by
  induction keys with
  | nil => exact covers
  | cons key keys ih => exact ih.unlink

theorem Sound.unlinkAll {keys : List Nat} (sound : table.Sound bucket addr)
    (distinct : keys.Nodup) (present : ∀ key ∈ keys, key ∈ table.ll.map addr) :
    (table.unlinkAll addr keys).Sound bucket addr := by
  induction keys with
  | nil => exact sound
  | cons key keys ih =>
      rw [List.forall_mem_cons] at present
      rw [List.nodup_cons] at distinct
      apply (ih distinct.2 present.2).unlink_addr
      rcases List.mem_map.mp present.1 with ⟨entry, isMem, rfl⟩
      exact List.mem_map_of_mem (mem_ll_unlinkAll.mpr ⟨isMem, distinct.1⟩)

theorem Sound.write (sound : table.Sound bucket addr)
    (keepsBucket : ∀ index entry, bucket index (update entry) = bucket index entry)
    (keepsAddr : ∀ entry, addr (update entry) = addr entry) :
    (table.write same update).Sound bucket addr := by
  refine ⟨?_, ?_, ?_⟩
  · simp only [HashedTable.write, List.length_map, sound.size]
  · rw [map_ll_write keepsAddr]
    exact sound.distinct
  · intro index slot
    have sameBucket : ∀ entry, bucket index (if same entry then update entry else entry) =
        bucket index entry := by
      intro entry
      split
      · exact keepsBucket index entry
      · rfl
    simp only [HashedTable.write, sound.chains, List.filter_map, Function.comp_def, sameBucket]

/-- A lookup by a key that decides the bucket answers with the first entry of the list. -/
theorem Sound.find (sound : table.Sound bucket addr)
    (decides : ∀ entry, matching entry = true → bucket index entry = slot) :
    table.find index slot matching = table.ll.find? matching := by
  have covered : ∀ entry, decide ((bucket index entry == slot) = true ∧ matching entry = true) =
      matching entry := by
    intro entry
    cases isMatch : matching entry with
    | false => simp
    | true => simp [decides entry isMatch]
  simp only [HashedTable.find, sound.chains, List.find?_filter, covered]

/-! ## Tables with one entry for each key -/

section Keyed

variable {κ : Type} [DecidableEq κ] {key : α → κ} {wanted : κ}

/-- In a list of different objects with different keys, an object goes with its key. -/
theorem find?_filter_addr {list : List α} (distinct : (list.map addr).Nodup)
    (oneEach : (list.map key).Nodup) (isMem : entry ∈ list) :
    (list.filter fun other => !(addr other == addr entry)).find?
      (fun other => key other == wanted) =
      if key entry = wanted then none else list.find? fun other => key other == wanted := by
  have sameObject : ∀ other ∈ list, addr other = addr entry ↔ key other = key entry := by
    intro other otherMem
    constructor
    · intro same
      rw [List.inj_on_of_nodup_map distinct otherMem isMem same]
    · intro same
      rw [List.inj_on_of_nodup_map oneEach otherMem isMem same]
  split
  · rename_i isWanted
    rw [List.find?_eq_none]
    intro other stays
    rcases List.mem_filter.mp stays with ⟨otherMem, isOther⟩
    intro found
    have sameKey : key other = key entry := (beq_iff_eq.mp found).trans isWanted.symm
    rw [(sameObject other otherMem).mpr sameKey] at isOther
    simp at isOther
  · rename_i notWanted
    rw [List.find?_filter]
    apply List.find?_congr
    intro other otherMem
    by_cases found : key other = wanted
    · have isOther : addr other ≠ addr entry := fun same =>
        notWanted (((sameObject other otherMem).mp same).symm.trans found)
      simp [found, isOther]
    · simp [found]

theorem ncard_keys {list : List α} (oneEach : (list.map key).Nodup) :
    Set.ncard {wanted | list.find? (fun other => key other == wanted) ≠ none} = list.length := by
  have keys : {wanted | list.find? (fun other => key other == wanted) ≠ none} =
      ((list.map key).toFinset : Set κ) := by
    ext wanted
    simp only [Set.mem_ofPred_eq, ne_eq, List.find?_eq_none, beq_iff_eq, not_forall, not_not,
      List.coe_toFinset, List.mem_map, exists_prop]
  rw [keys, Set.ncard_coe_finset, List.toFinset_card_of_nodup oneEach, List.length_map]

end Keyed

/-! ## Lists that grow at the tail -/

/-- The table with its list read from the tail. -/
def mirror (table : HashedTable ι α) : HashedTable ι α := { table with ll := table.ll.reverse }

@[simp]
theorem mem_ll_mirror {other : α} : other ∈ table.mirror.ll ↔ other ∈ table.ll :=
  List.mem_reverse

@[simp]
theorem find_mirror : table.mirror.find index slot matching = table.find index slot matching := rfl

theorem mirror_addTail :
    (table.addTail bucket entry).mirror = table.mirror.addHead bucket entry := by
  simp only [mirror, HashedTable.addTail, HashedTable.addHead, List.reverse_append,
    List.reverse_singleton, List.singleton_append]

theorem mirror_unlink : (table.unlink same).mirror = table.mirror.unlink same := by
  simp only [mirror, HashedTable.unlink, List.filter_reverse]

theorem mirror_write : (table.write same update).mirror = table.mirror.write same update := by
  simp only [mirror, HashedTable.write, List.map_reverse]

end HashedTable
