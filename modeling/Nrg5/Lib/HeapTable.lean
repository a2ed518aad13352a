import Nrg5.Lib.AgingTable
import Nrg5.Lib.HashChain
import Nrg5.Lib.LinkedList

/-!
# Aging tables in memory

The entries of a table are objects with the links of a list and of one hash chain for each
index inside them, and a pointer to an entry is its address.  The operations work on the raw
links; they have no result where they read or write an object that is not there, free one
twice, or write behind the array in which an aging call records what it will remove.

`Represents` relates the memory to the table of lists that it stands for, and every operation
simulates the one on the lists.
-/

/-- What the links of a list may point to. -/
inductive HeapPlace : Type where
  | null
  | poison1
  | poison2
  | head
  | entry (addr : Nat)
deriving DecidableEq

/-- The memory of one table. -/
structure HeapTable (ι α : Type) where
  size : Int
  ll : LinkMemory HeapPlace
  hash : ι → ChainMemory Nat Nat
  /-- The objects that are allocated, and what they hold beside their links. -/
  entries : Nat → Option α

/-- How the tables of a kind are laid out. -/
structure HeapLayout (ι α : Type) where
  kind : AgingKind ι α
  /-- The list grows at its tail. -/
  atTail : Bool
  buckets : Nat
  /-- The indexes in the order in which entries are put into them. -/
  indexes : List ι
  distinct : indexes.Nodup
  complete : ∀ index, index ∈ indexes
  inRange : ∀ index entry, kind.bucket index entry < buckets

/-- What a call does to the table that the memory stands for. -/
def HeapLayout.apply {ι α : Type} (layout : HeapLayout ι α) (call : AgingCall α)
    (table : HashedTable ι α) : HashedTable ι α :=
  if layout.atTail then layout.kind.applyTail call table else layout.kind.apply call table

namespace HeapTable

variable {ι α : Type} [DecidableEq ι] (layout : HeapLayout ι α)

/-! ## Operations -/

/-- An empty table: its list head points at itself, and the heads of its buckets nowhere. -/
def create : HeapTable ι α :=
  { size := 0
    ll :=
      { next := fun place => if place = .head then some .head else none
        prev := fun place => if place = .head then some .head else none }
    hash := fun _ =>
      { first := fun slot => if slot < layout.buckets then some none else none
        next := fun _ => none
        pprev := fun _ => none }
    entries := fun _ => none }

/-- A new object, all of whose links are cleared. -/
def alloc (entry : α) (heap : HeapTable ι α) : HeapTable ι α :=
  { heap with
    ll := heap.ll.alloc (.entry (layout.kind.addr entry)) .null .null
    hash := fun index => (heap.hash index).alloc (layout.kind.addr entry) none none
    entries := Function.update heap.entries (layout.kind.addr entry) (some entry) }

def free (addr : Nat) (heap : HeapTable ι α) : Option (HeapTable ι α) :=
  (heap.entries addr).map fun _ =>
    { heap with
      ll := heap.ll.free (.entry addr)
      hash := fun index => (heap.hash index).free addr
      entries := Function.update heap.entries addr none }

/-- Write through a pointer. -/
def write (addr : Nat) (update : α → α) (heap : HeapTable ι α) : Option (HeapTable ι α) :=
  (heap.entries addr).map fun entry =>
    { heap with entries := Function.update heap.entries addr (some (update entry)) }

/-- An operation on the chains of each index in turn. -/
def onChains (op : ι → ChainMemory Nat Nat → Option (ChainMemory Nat Nat)) (indexes : List ι)
    (hash : ι → ChainMemory Nat Nat) : Option (ι → ChainMemory Nat Nat) :=
  indexes.foldlM (fun hash index => (op index (hash index)).map fun memory =>
    Function.update hash index memory) hash

def listIn (addr : Nat) (ll : LinkMemory HeapPlace) : Option (LinkMemory HeapPlace) :=
  if layout.atTail then ll.listAddTail (.entry addr) .head else ll.listAdd (.entry addr) .head

/-- The list takes the entry at one end, each chain at its head. -/
def add (entry : α) (heap : HeapTable ι α) : Option (HeapTable ι α) := do
  let ll ← listIn layout (layout.kind.addr entry) heap.ll
  let hash ← onChains (fun index memory =>
    memory.hlistAddHead (layout.kind.addr entry) (layout.kind.bucket index entry))
    layout.indexes heap.hash
  pure { heap with ll := ll, hash := hash, size := heap.size + 1 }

/-- Take an object out of the list and out of its chains. -/
def unlink (addr : Nat) (heap : HeapTable ι α) : Option (HeapTable ι α) := do
  let ll ← heap.ll.listDel .poison1 .poison2 (.entry addr)
  let hash ← onChains (fun _ memory => memory.hlistDelInit addr) layout.indexes heap.hash
  pure { heap with ll := ll, hash := hash }

def del (addr : Nat) (heap : HeapTable ι α) : Option (HeapTable ι α) := do
  let heap ← unlink layout addr heap
  pure { heap with size := heap.size - 1 }

/-- A marked entry is written into the array, which has room for `capacity` of them. -/
def record (capacity : Int) (addr : Nat) (entry : α) (recorded : List Nat) : Option (List Nat) :=
  if layout.kind.expired entry then
    if (recorded.length : Int) < capacity then some (recorded ++ [addr]) else none
  else some recorded

/-- The first pass of an aging call: record what is marked, and mark everything. -/
def scan (capacity : Int) : Nat → HeapPlace → List Nat → HeapTable ι α →
    Option (HeapTable ι α × List Nat)
  | _, .head, recorded, heap => some (heap, recorded)
  | fuel + 1, .entry addr, recorded, heap => do
      let entry ← heap.entries addr
      let recorded ← record layout capacity addr entry recorded
      let heap ← heap.write addr layout.kind.mark
      let next ← heap.ll.next (.entry addr)
      scan capacity fuel next recorded heap
  | _, _, _, _ => none

/-- The second pass: take out and free what is recorded, the last one first. -/
def sweep (recorded : List Nat) (heap : HeapTable ι α) : Option (HeapTable ι α) :=
  recorded.reverse.foldlM (fun heap addr => do
    let heap ← del layout addr heap
    heap.free addr) heap

def aging (fuel : Nat) (heap : HeapTable ι α) : Option (HeapTable ι α) := do
  let first ← heap.ll.next .head
  let (heap, recorded) ← scan layout heap.size fuel first [] heap
  sweep layout recorded heap

/-- The calls on a table; an entry is allocated before it is added. -/
def apply (fuel : Nat) : AgingCall α → HeapTable ι α → Option (HeapTable ι α)
  | .add entry, heap => add layout entry (alloc layout entry heap)
  | .del entry, heap => del layout (layout.kind.addr entry) heap
  | .refresh entry, heap => heap.write (layout.kind.addr entry) layout.kind.clear
  | .aging, heap => aging layout fuel heap

def run (fuel : Nat) (history : List (AgingCall α)) : Option (HeapTable ι α) :=
  history.foldlM (fun heap call => apply layout fuel call heap) (create layout)

/-- The end of a table.  The entry behind the head is taken out and freed until the counter
has passed zero; the head itself is no entry. -/
def destroy : Nat → HeapTable ι α → Option (HeapTable ι α)
  | fuel, heap =>
      if heap.size = 0 then some { heap with size := heap.size - 1 }
      else match fuel with
        | 0 => none
        | fuel + 1 => do
            match ← heap.ll.next .head with
            | .entry addr => do
                let heap ← unlink layout addr { heap with size := heap.size - 1 }
                let heap ← heap.free addr
                destroy fuel heap
            | _ => none

def find (fuel : Nat) (index : ι) (slot : Nat) (matching : α → Bool) (heap : HeapTable ι α) :
    Option (Option Nat) :=
  (heap.hash index).find heap.entries matching fuel slot

/-! ## The table that the memory holds -/

/-- The memory holds the entries of a table, each where the table has it. -/
structure Represents (heap : HeapTable ι α) (table : HashedTable ι α) : Prop where
  size : heap.size = table.size
  counted : table.size = table.ll.length
  ring : heap.ll.Ring .head (table.ll.map fun entry => .entry (layout.kind.addr entry))
  holds : ∀ index, (heap.hash index).Holds (· < layout.buckets) fun slot =>
    (table.chains index slot).map layout.kind.addr
  covers : table.Covers layout.kind.bucket
  entries : ∀ entry ∈ table.ll, heap.entries (layout.kind.addr entry) = some entry

variable {layout} {heap : HeapTable ι α} {table : HashedTable ι α} {entry : α}

omit [DecidableEq ι] in
theorem represents_create : Represents layout (create layout) .empty := by
  refine ⟨rfl, rfl, ?_, ?_, HashedTable.covers_empty, ?_⟩
  · rw [HashedTable.empty, List.map_nil, LinkMemory.ring_nil]
    exact ⟨by simp [create], by simp [create]⟩
  · intro index
    refine ⟨?_, ?_, ?_⟩
    · intro slot isInside
      exact if_pos isInside
    · intro slot _
      exact List.nodup_nil
    · intro one other addr _ _ isMem
      exact absurd isMem (List.not_mem_nil)
  · intro entry isMem
    exact absurd isMem (List.not_mem_nil)

/-! ## Adding -/

theorem onChains_eq {op : ι → ChainMemory Nat Nat → Option (ChainMemory Nat Nat)}
    {post : ι → ChainMemory Nat Nat → Prop} {hash : ι → ChainMemory Nat Nat} {indexes : List ι}
    (once : indexes.Nodup)
    (each : ∀ index ∈ indexes, ∃ memory, op index (hash index) = some memory ∧ post index memory) :
    ∃ hash', onChains op indexes hash = some hash' ∧ (∀ index ∈ indexes, post index (hash' index)) ∧
      ∀ index, index ∉ indexes → hash' index = hash index := by
  induction indexes generalizing hash with
  | nil =>
      refine ⟨hash, rfl, ?_, fun _ _ => rfl⟩
      intro index isMem
      exact absurd isMem List.not_mem_nil
  | cons first rest ih =>
      rcases List.nodup_cons.mp once with ⟨notRest, restOnce⟩
      rcases each first List.mem_cons_self with ⟨memory, isFirst, holds⟩
      have others : ∀ index ∈ rest, ∃ memory',
          op index (Function.update hash first memory index) = some memory' ∧
            post index memory' := by
        intro index isMem
        have isOther : index ≠ first := fun same => notRest (same ▸ isMem)
        rw [Function.update_of_ne isOther]
        exact each index (List.mem_cons_of_mem _ isMem)
      rcases ih restOnce others with ⟨hash', isRest, restHolds, same⟩
      refine ⟨hash', ?_, ?_, ?_⟩
      · rw [onChains, List.foldlM_cons, isFirst]
        exact isRest
      · intro index isMem
        rcases List.mem_cons.mp isMem with rfl | inRest
        · rw [same index notRest, Function.update_self]
          exact holds
        · exact restHolds index inRest
      · intro index notMem
        rw [List.mem_cons, not_or] at notMem
        rw [same index notMem.2, Function.update_of_ne notMem.1]

omit [DecidableEq ι] in
theorem notMem_chain (covers : table.Covers layout.kind.bucket) {addr : Nat}
    (isNew : addr ∉ table.ll.map layout.kind.addr) (index : ι) (slot : Nat) :
    addr ∉ (table.chains index slot).map layout.kind.addr := by
  intro isMem
  rcases List.mem_map.mp isMem with ⟨other, inChain, rfl⟩
  exact isNew (List.mem_map_of_mem ((covers index slot other).mp inChain).1)

omit [DecidableEq ι] in
theorem notMem_ring {addr : Nat} (isNew : addr ∉ table.ll.map layout.kind.addr) :
    HeapPlace.entry addr ∉
      HeapPlace.head :: table.ll.map fun entry => .entry (layout.kind.addr entry) := by
  intro isMem
  rcases List.mem_cons.mp isMem with isHead | isEntry
  · cases isHead
  · rcases List.mem_map.mp isEntry with ⟨other, inList, same⟩
    rw [HeapPlace.entry.injEq] at same
    exact isNew (List.mem_map.mpr ⟨other, inList, same⟩)

omit [DecidableEq ι] in
theorem Represents.alloc (represents : Represents layout heap table)
    (isNew : layout.kind.addr entry ∉ table.ll.map layout.kind.addr) :
    Represents layout (alloc layout entry heap) table := by
  refine ⟨represents.size, represents.counted, represents.ring.alloc (notMem_ring isNew), ?_,
    represents.covers, ?_⟩
  · intro index
    exact (represents.holds index).alloc fun slot _ =>
      notMem_chain represents.covers isNew index slot
  · intro other isMem
    have isOther : layout.kind.addr other ≠ layout.kind.addr entry := fun same =>
      isNew (same ▸ List.mem_map_of_mem isMem)
    exact (Function.update_of_ne isOther _ _).trans (represents.entries other isMem)

omit [DecidableEq ι] in
theorem size_added : (layout.apply (.add entry) table).size = table.size + 1 := by
  rw [HeapLayout.apply]
  split <;> rfl

omit [DecidableEq ι] in
theorem chains_added : (layout.apply (.add entry) table).chains =
    HashedTable.hashAdd layout.kind.bucket entry table.chains := by
  rw [HeapLayout.apply]
  split <;> rfl

omit [DecidableEq ι] in
theorem ll_added : (layout.apply (.add entry) table).ll.Perm (entry :: table.ll) := by
  rw [HeapLayout.apply]
  split
  · exact List.perm_append_singleton entry table.ll
  · exact List.Perm.refl _

/-- Linking in an object that is allocated and in no list. -/
theorem Represents.add (represents : Represents layout heap table)
    (isNew : layout.kind.addr entry ∉ table.ll.map layout.kind.addr)
    (isEntry : heap.entries (layout.kind.addr entry) = some entry)
    (llAlloc : heap.ll.Allocated (.entry (layout.kind.addr entry)))
    (hashAlloc : ∀ index, (heap.hash index).Allocated (layout.kind.addr entry)) :
    ∃ heap', add layout entry heap = some heap' ∧
      Represents layout heap' (layout.apply (.add entry) table) ∧
      heap'.entries = heap.entries := by
  have listed : ∃ ll, listIn layout (layout.kind.addr entry) heap.ll = some ll ∧
      ll.Ring .head ((layout.apply (.add entry) table).ll.map fun entry =>
        .entry (layout.kind.addr entry)) := by
    rw [HeapLayout.apply, listIn]
    split
    · rcases represents.ring.listAddTail llAlloc (notMem_ring isNew) with ⟨ll, isDone, ring⟩
      refine ⟨ll, isDone, ?_⟩
      rw [AgingKind.applyTail, HashedTable.addTail, List.map_append]
      exact ring
    · exact represents.ring.listAdd llAlloc (notMem_ring isNew)
  rcases listed with ⟨ll, isListed, ring⟩
  have each : ∀ index ∈ layout.indexes, ∃ memory,
      (heap.hash index).hlistAddHead (layout.kind.addr entry) (layout.kind.bucket index entry) =
        some memory ∧
      memory.Holds (· < layout.buckets) (Function.update
        (fun slot => (table.chains index slot).map layout.kind.addr)
        (layout.kind.bucket index entry) (layout.kind.addr entry ::
          (table.chains index (layout.kind.bucket index entry)).map layout.kind.addr)) := by
    intro index _
    exact (represents.holds index).hlistAddHead (layout.inRange index entry) (hashAlloc index)
      fun slot _ => notMem_chain represents.covers isNew index slot
  rcases onChains_eq layout.distinct each with ⟨hash, isHashed, holds, -⟩
  refine ⟨{ heap with ll := ll, hash := hash, size := heap.size + 1 }, ?_,
    ⟨?_, ?_, ring, ?_, ?_, ?_⟩, rfl⟩
  · rw [HeapTable.add, isListed, Option.bind_eq_bind, Option.bind_some, isHashed]
    rfl
  · rw [size_added, ← represents.size]
  · rw [size_added, represents.counted, ll_added.length_eq, List.length_cons]
    push_cast
    rfl
  · intro index
    apply (holds index (layout.complete index)).congr
    intro slot _
    rw [chains_added, HashedTable.hashAdd, Function.update_apply]
    split
    · rename_i isSlot
      rw [isSlot, List.map_cons]
    · rfl
  · rw [HeapLayout.apply]
    split
    · exact represents.covers.addTail
    · exact represents.covers.addHead
  · intro other isMem
    rcases List.mem_cons.mp (ll_added.mem_iff.mp isMem) with rfl | isOld
    · exact isEntry
    · exact represents.entries other isOld

/-! ## Removing -/

/-- In a list of different objects, taking out the place of one is leaving out that object. -/
theorem erase_place {γ : Type} [DecidableEq γ] {place : Nat → γ} {addr : α → Nat} {list : List α}
    {key : Nat} (injective : Function.Injective place)
    (distinct : (list.map fun entry => place (addr entry)).Nodup) :
    (list.map fun entry => place (addr entry)).erase (place key) =
      (list.filter fun entry => !(addr entry == key)).map fun entry => place (addr entry) := by
  rw [distinct.erase_eq_filter, List.filter_map]
  congr 1
  apply List.filter_congr
  intro entry _
  rw [Function.comp_apply, bne, Bool.not_inj_iff, beq_eq_decide, beq_eq_decide, decide_eq_decide]
  exact injective.eq_iff

omit [DecidableEq ι] in
theorem Represents.distinct (represents : Represents layout heap table) :
    (table.ll.map layout.kind.addr).Nodup := by
  have distinct := (List.nodup_cons.mp represents.ring.distinct).2
  rw [← Function.comp_def HeapPlace.entry, ← List.map_map] at distinct
  exact distinct.of_map _

/-- Taking out an object of the table.  The counter, whatever it is, is left to the callers. -/
theorem Represents.unlink {addr : Nat} (represents : Represents layout heap table)
    (isMem : addr ∈ table.ll.map layout.kind.addr) :
    ∃ ll hash, (∀ size, unlink layout addr { heap with size := size } =
        some { heap with size := size, ll := ll, hash := hash }) ∧
      Represents layout { heap with size := heap.size - 1, ll := ll, hash := hash }
        (table.unlink fun other => layout.kind.addr other == addr) := by
  have placeMem : HeapPlace.entry addr ∈
      table.ll.map fun entry => .entry (layout.kind.addr entry) := by
    rcases List.mem_map.mp isMem with ⟨entry, inList, rfl⟩
    exact List.mem_map_of_mem inList
  rcases represents.ring.listDel_erase .poison1 .poison2 placeMem with ⟨ll, isListed, ring⟩
  have shorter := List.length_erase_of_mem placeMem
  have placesOnce := (List.nodup_cons.mp represents.ring.distinct).2
  rw [erase_place (fun _ _ => HeapPlace.entry.inj) placesOnce] at ring shorter
  have each : ∀ index ∈ layout.indexes, ∃ memory,
      (heap.hash index).hlistDelInit addr = some memory ∧
      memory.Holds (· < layout.buckets)
        (fun slot => ((table.chains index slot).map layout.kind.addr).erase addr) := by
    intro index _
    rcases List.mem_map.mp isMem with ⟨entry, inList, rfl⟩
    apply (represents.holds index).hlistDelInit (layout.inRange index entry)
    exact List.mem_map_of_mem ((represents.covers index _ entry).mpr ⟨inList, rfl⟩)
  rcases onChains_eq layout.distinct each with ⟨hash, isHashed, holds, -⟩
  refine ⟨ll, hash, ?_, ⟨?_, ?_, ring, ?_, ?_, ?_⟩⟩
  · intro size
    rw [HeapTable.unlink, isListed, Option.bind_eq_bind, Option.bind_some, isHashed]
    rfl
  · rw [represents.size]
    rfl
  · have notEmpty : 0 < table.ll.length := by
      rcases List.mem_map.mp isMem with ⟨entry, inList, -⟩
      exact List.length_pos_of_mem inList
    rw [List.length_map, List.length_map] at shorter
    simp only [HashedTable.unlink, represents.counted, shorter]
    omega
  · intro index
    apply (holds index (layout.complete index)).congr
    intro slot isInside
    have once := (represents.holds index).distinct slot isInside
    exact (@erase_place α Nat _ id layout.kind.addr _ addr Function.injective_id once).symm
  · exact represents.covers.unlink
  · intro other isOther
    exact represents.entries other (List.mem_of_mem_filter isOther)

theorem Represents.del {addr : Nat} (represents : Represents layout heap table)
    (isMem : addr ∈ table.ll.map layout.kind.addr) :
    ∃ heap', del layout addr heap = some heap' ∧ heap'.entries = heap.entries ∧
      Represents layout heap' (table.unlink fun other => layout.kind.addr other == addr) := by
  rcases represents.unlink isMem with ⟨ll, hash, isDone, after⟩
  refine ⟨{ heap with size := heap.size - 1, ll := ll, hash := hash }, ?_, rfl, after⟩
  rw [HeapTable.del, show heap = { heap with size := heap.size } from rfl, isDone]
  rfl

omit [DecidableEq ι] in
theorem Represents.free {addr : Nat} (represents : Represents layout heap table)
    (isGone : addr ∉ table.ll.map layout.kind.addr) (isLive : (heap.entries addr).isSome = true) :
    ∃ heap', heap.free addr = some heap' ∧ Represents layout heap' table ∧
      heap'.entries = Function.update heap.entries addr none := by
  rcases Option.isSome_iff_exists.mp isLive with ⟨entry, isEntry⟩
  refine ⟨{ heap with
    ll := heap.ll.free (.entry addr)
    hash := fun index => (heap.hash index).free addr
    entries := Function.update heap.entries addr none }, ?_, ⟨represents.size,
    represents.counted, represents.ring.free (notMem_ring isGone), ?_, represents.covers, ?_⟩, rfl⟩
  · rw [HeapTable.free, isEntry, Option.map_some]
  · intro index
    exact (represents.holds index).free fun slot _ =>
      notMem_chain represents.covers isGone index slot
  · intro other isMem
    have isOther : layout.kind.addr other ≠ addr := by
      rintro rfl
      exact isGone (List.mem_map_of_mem isMem)
    exact (Function.update_of_ne isOther _ _).trans (represents.entries other isMem)

omit [DecidableEq ι] in
theorem notMem_unlink {addr : Nat} :
    addr ∉ (table.unlink fun other => layout.kind.addr other == addr).ll.map layout.kind.addr := by
  intro isMem
  rcases List.mem_map.mp isMem with ⟨other, inList, rfl⟩
  have isOther : (!(layout.kind.addr other == layout.kind.addr other)) = true :=
    (List.mem_filter.mp inList).2
  rw [beq_self_eq_true] at isOther
  cases isOther

omit [DecidableEq ι] in
theorem Represents.isLive {addr : Nat} (represents : Represents layout heap table)
    (isMem : addr ∈ table.ll.map layout.kind.addr) : (heap.entries addr).isSome = true := by
  rcases List.mem_map.mp isMem with ⟨entry, inList, rfl⟩
  rw [represents.entries entry inList, Option.isSome_some]

/-! ## Writing -/

omit [DecidableEq ι] in
/-- A write that leaves keys and addresses alone, through a pointer to an object that is still
there. -/
theorem Represents.write {addr : Nat} {update : α → α} (represents : Represents layout heap table)
    (keepsAddr : ∀ entry, layout.kind.addr (update entry) = layout.kind.addr entry)
    (keepsBucket : ∀ index entry,
      layout.kind.bucket index (update entry) = layout.kind.bucket index entry)
    (isLive : (heap.entries addr).isSome = true) :
    ∃ heap', heap.write addr update = some heap' ∧
      Represents layout heap' (table.write (fun other => layout.kind.addr other == addr) update) ∧
      ∀ other, (heap'.entries other).isSome = (heap.entries other).isSome := by
  rcases Option.isSome_iff_exists.mp isLive with ⟨target, isTarget⟩
  have sameAddr : ∀ entry, layout.kind.addr
      (if (layout.kind.addr entry == addr) = true then update entry else entry) =
        layout.kind.addr entry := by
    intro entry
    split
    · exact keepsAddr entry
    · rfl
  refine ⟨{ heap with entries := Function.update heap.entries addr (some (update target)) }, ?_,
    ⟨represents.size, ?_, ?_, ?_, represents.covers.write keepsBucket, ?_⟩, ?_⟩
  · rw [HeapTable.write, isTarget, Option.map_some]
  · exact represents.counted.trans (congrArg Nat.cast (List.length_map _).symm)
  · simp only [HashedTable.write, List.map_map, Function.comp_def, sameAddr]
    exact represents.ring
  · intro index
    simp only [HashedTable.write, List.map_map, Function.comp_def, sameAddr]
    exact represents.holds index
  · intro other isMem
    rcases HashedTable.mem_ll_write.mp isMem with ⟨old, isOld, rfl⟩
    have isEntry := represents.entries old isOld
    rw [sameAddr]
    by_cases isHere : layout.kind.addr old = addr
    · subst isHere
      rw [isTarget, Option.some.injEq] at isEntry
      rw [beq_self_eq_true, if_pos rfl, ← isEntry]
      exact Function.update_self _ _ _
    · rw [if_neg (by simpa using isHere)]
      exact (Function.update_of_ne isHere _ _).trans isEntry
  · intro other
    rcases eq_or_ne other addr with rfl | isOther
    · rw [isTarget]
      change (Function.update heap.entries other (some (update target)) other).isSome = true
      rw [Function.update_self, Option.isSome_some]
    · exact congrArg Option.isSome (Function.update_of_ne isOther _ _)

/-! ## Aging -/

section Aging

variable {before after : List α} {recorded : List Nat} {capacity : Int} {fuel : Nat}

omit [DecidableEq ι] in
theorem record_eq (room : (recorded.length : Int) < capacity) :
    record layout capacity (layout.kind.addr entry) entry recorded =
      some (recorded ++ ([entry].filter layout.kind.expired).map layout.kind.addr) := by
  rw [record, if_pos room, List.filter_singleton]
  cases layout.kind.expired entry with
  | true => rfl
  | false => exact congrArg some (List.append_nil recorded).symm

omit [DecidableEq ι] in
/-- The rest of a scan: it changes nothing but the marks of the entries that are left, and it
records their addresses if there is room for all of them. -/
theorem scan_eq
    (ring : heap.ll.Ring .head
      ((before ++ after).map fun entry => .entry (layout.kind.addr entry)))
    (areEntries : ∀ entry ∈ after, heap.entries (layout.kind.addr entry) = some entry)
    (distinct : (after.map layout.kind.addr).Nodup)
    (fits : ((recorded.length + after.length : Nat) : Int) ≤ capacity)
    (enough : after.length ≤ fuel) :
    ∀ place ∈ (after.map (fun entry => HeapPlace.entry (layout.kind.addr entry)) ++
        [HeapPlace.head]).head?,
      ∃ entries', scan layout capacity fuel place recorded heap =
          some ({ heap with entries := entries' },
            recorded ++ (after.filter layout.kind.expired).map layout.kind.addr) ∧
        (∀ entry ∈ after, entries' (layout.kind.addr entry) = some (layout.kind.mark entry)) ∧
        ∀ addr, addr ∉ after.map layout.kind.addr → entries' addr = heap.entries addr := by
  induction after generalizing before heap recorded fuel with
  | nil =>
      intro place isPlace
      rw [List.map_nil, List.nil_append, List.head?_cons, Option.mem_some_iff] at isPlace
      subst isPlace
      refine ⟨heap.entries, ?_, fun entry isMem => absurd isMem List.not_mem_nil, fun _ _ => rfl⟩
      rw [List.filter_nil, List.map_nil, List.append_nil]
      cases fuel <;> rfl
  | cons entry rest ih =>
      intro place isPlace
      rw [List.map_cons, List.cons_append, List.head?_cons, Option.mem_some_iff] at isPlace
      subst isPlace
      rw [List.map_cons, List.nodup_cons] at distinct
      rw [List.length_cons] at fits enough
      rcases Nat.exists_eq_succ_of_ne_zero (by omega : fuel ≠ 0) with ⟨left, rfl⟩
      have isEntry := areEntries entry List.mem_cons_self
      rcases LinkMemory.exists_next HeapPlace.head
        (rest.map fun entry => HeapPlace.entry (layout.kind.addr entry)) with ⟨next, isHead⟩
      have isNext : heap.ll.next (.entry (layout.kind.addr entry)) = some next := by
        rw [List.map_append, List.map_cons] at ring
        exact ring.next_entry.trans isHead
      have isRecord := @record_eq ι α layout entry recorded capacity (by omega)
      have room : (((recorded ++ ([entry].filter layout.kind.expired).map layout.kind.addr).length +
          rest.length : Nat) : Int) ≤ capacity := by
        have atMost := List.length_filter_le layout.kind.expired [entry]
        rw [List.length_append, List.length_map]
        rw [List.length_singleton] at atMost
        omega
      -- the marked entry is behind the scan, so what follows is still as it was
      have areLeft : ∀ other ∈ rest, Function.update heap.entries (layout.kind.addr entry)
          (some (layout.kind.mark entry)) (layout.kind.addr other) = some other := by
        intro other isMem
        have isOther : layout.kind.addr other ≠ layout.kind.addr entry := fun same =>
          distinct.1 (same ▸ List.mem_map_of_mem isMem)
        rw [Function.update_of_ne isOther]
        exact areEntries other (List.mem_cons_of_mem _ isMem)
      rw [List.append_cons] at ring
      rcases @ih { heap with
          entries := Function.update heap.entries (layout.kind.addr entry)
            (some (layout.kind.mark entry)) } _ _ left ring areLeft distinct.2 room
        (Nat.le_of_succ_le_succ enough) next isHead with ⟨entries', isScan, areMarked, same⟩
      refine ⟨entries', ?_, ?_, ?_⟩
      · rw [scan, isEntry, Option.bind_eq_bind, Option.bind_some, isRecord, Option.bind_eq_bind,
          Option.bind_some, HeapTable.write, isEntry, Option.map_some, Option.bind_eq_bind,
          Option.bind_some]
        change (heap.ll.next _).bind _ = _
        rw [isNext, Option.bind_some, isScan, List.append_assoc, ← List.map_append,
          ← List.filter_append, List.singleton_append]
      · intro other isMem
        rcases List.mem_cons.mp isMem with rfl | isRest
        · exact (same _ distinct.1).trans (Function.update_self _ _ _)
        · exact areMarked other isRest
      · intro addr notMem
        rw [List.map_cons, List.mem_cons, not_or] at notMem
        exact (same addr notMem.2).trans (Function.update_of_ne notMem.1 _ _)

omit [DecidableEq ι] in
/-- The first pass marks all entries; what it records is what was marked before. -/
theorem Represents.scan (represents : Represents layout heap table)
    (enough : table.ll.length ≤ fuel) :
    ∃ first heap', heap.ll.next .head = some first ∧
      HeapTable.scan layout heap.size fuel first [] heap =
        some (heap', (layout.kind.recorded table).map layout.kind.addr) ∧
      Represents layout heap' (table.write (fun _ => true) layout.kind.mark) ∧
      ∀ addr, (heap'.entries addr).isSome = (heap.entries addr).isSome := by
  rcases LinkMemory.exists_next HeapPlace.head
    (table.ll.map fun entry => HeapPlace.entry (layout.kind.addr entry)) with ⟨first, isFirst⟩
  have room : ((([] : List Nat).length + table.ll.length : Nat) : Int) ≤ heap.size := by
    rw [represents.size, represents.counted, List.length_nil, Nat.zero_add]
  rcases @scan_eq ι α layout heap [] table.ll [] heap.size fuel represents.ring represents.entries
    represents.distinct room enough first isFirst with ⟨entries', isScan, areMarked, same⟩
  refine ⟨first, { heap with entries := entries' }, represents.ring.next_head.trans isFirst,
    isScan, ⟨represents.size, ?_, ?_, ?_, represents.covers.write layout.kind.bucket_mark, ?_⟩, ?_⟩
  · exact represents.counted.trans (congrArg Nat.cast (List.length_map _).symm)
  · simp only [HashedTable.write, List.map_map, Function.comp_def, if_true, layout.kind.addr_mark]
    exact represents.ring
  · intro index
    simp only [HashedTable.write, List.map_map, Function.comp_def, if_true, layout.kind.addr_mark]
    exact represents.holds index
  · intro other isMem
    rcases HashedTable.mem_ll_write.mp isMem with ⟨old, isOld, rfl⟩
    rw [if_pos rfl, layout.kind.addr_mark]
    exact areMarked old isOld
  · intro addr
    by_cases isMem : addr ∈ table.ll.map layout.kind.addr
    · rw [represents.isLive isMem]
      rcases List.mem_map.mp isMem with ⟨old, isOld, rfl⟩
      exact congrArg Option.isSome (areMarked old isOld)
    · exact congrArg Option.isSome (same addr isMem)

/-- The second pass takes out and frees what was recorded. -/
theorem Represents.sweep (represents : Represents layout heap table) (distinct : recorded.Nodup)
    (present : ∀ addr ∈ recorded, addr ∈ table.ll.map layout.kind.addr) :
    ∃ heap', HeapTable.sweep layout recorded heap = some heap' ∧
      Represents layout heap' (table.unlinkAll layout.kind.addr recorded) ∧
      ∀ addr, (heap'.entries addr).isSome = true ↔
        (heap.entries addr).isSome = true ∧ addr ∉ recorded := by
  induction recorded with
  | nil =>
      refine ⟨heap, rfl, represents, ?_⟩
      intro addr
      simp
  | cons key keys ih =>
      rw [List.forall_mem_cons] at present
      rw [List.nodup_cons] at distinct
      rcases ih distinct.2 present.2 with ⟨swept, isSwept, sweptRepresents, sweptLive⟩
      have isMem : key ∈ (table.unlinkAll layout.kind.addr keys).ll.map layout.kind.addr := by
        rcases List.mem_map.mp present.1 with ⟨entry, inList, rfl⟩
        exact List.mem_map_of_mem (HashedTable.mem_ll_unlinkAll.mpr ⟨inList, distinct.1⟩)
      rcases sweptRepresents.del isMem with ⟨cut, isCut, sameEntries, cutRepresents⟩
      have isLive : (cut.entries key).isSome = true := by
        rw [sameEntries]
        exact sweptRepresents.isLive isMem
      rcases cutRepresents.free notMem_unlink isLive with ⟨freed, isFreed, freedRepresents, gone⟩
      refine ⟨freed, ?_, freedRepresents, ?_⟩
      · rw [HeapTable.sweep] at isSwept ⊢
        rw [List.reverse_cons, List.foldlM_append, isSwept, Option.bind_eq_bind, Option.bind_some,
          List.foldlM_cons, isCut, Option.bind_eq_bind, Option.bind_some, isFreed]
        rfl
      · intro addr
        rw [gone, sameEntries, Function.update_apply]
        split
        · rename_i isKey
          subst isKey
          simp
        · rename_i notKey
          rw [sweptLive, List.mem_cons, not_or]
          exact and_congr_right fun _ => ⟨fun notIn => ⟨notKey, notIn⟩, And.right⟩

theorem Represents.aging (represents : Represents layout heap table)
    (enough : table.ll.length ≤ fuel) :
    ∃ heap', HeapTable.aging layout fuel heap = some heap' ∧
      Represents layout heap' (layout.kind.apply .aging table) ∧
      ∀ addr, (heap'.entries addr).isSome = true ↔ (heap.entries addr).isSome = true ∧
        addr ∉ (layout.kind.recorded table).map layout.kind.addr := by
  rcases represents.scan enough with ⟨first, marked, isFirst, isScan, represents', sameLive⟩
  have isSublist : (layout.kind.recorded table).Sublist table.ll := List.filter_sublist
  have present : ∀ addr ∈ (layout.kind.recorded table).map layout.kind.addr,
      addr ∈ (table.write (fun _ => true) layout.kind.mark).ll.map layout.kind.addr := by
    intro addr isMem
    rw [HashedTable.map_ll_write layout.kind.addr_mark]
    exact (isSublist.map _).subset isMem
  rcases represents'.sweep (represents.distinct.sublist (isSublist.map _)) present
    with ⟨heap', isSwept, after, live⟩
  refine ⟨heap', ?_, ?_, ?_⟩
  · rw [HeapTable.aging, isFirst, Option.bind_eq_bind, Option.bind_some, isScan,
      Option.bind_eq_bind, Option.bind_some]
    exact isSwept
  · rw [AgingKind.aging_eq]
    exact after
  · intro addr
    rw [live, sameLive]

end Aging

/-! ## Looking up -/

omit [DecidableEq ι] in
/-- A lookup finds the object that the table finds. -/
theorem Represents.find {index : ι} {slot fuel : Nat} {matching : α → Bool}
    (represents : Represents layout heap table) (isInside : slot < layout.buckets)
    (enough : table.ll.length ≤ fuel) :
    heap.find fuel index slot matching =
      some ((table.find index slot matching).map layout.kind.addr) := by
  have areEntries : ∀ entry ∈ table.chains index slot,
      heap.entries (layout.kind.addr entry) = some entry := by
    intro entry inChain
    exact represents.entries entry ((represents.covers index slot entry).mp inChain).1
  have once := (represents.holds index).distinct slot isInside
  have isSubset : (table.chains index slot).map layout.kind.addr ⊆
      table.ll.map layout.kind.addr := by
    apply List.map_subset
    intro entry inChain
    exact ((represents.covers index slot entry).mp inChain).1
  have shorter := (once.subperm isSubset).length_le
  rw [List.length_map, List.length_map] at shorter
  exact (represents.holds index).find isInside rfl areEntries (shorter.trans enough)

/-! ## The end of a table -/

theorem destroy_empty {fuel : Nat} (isEmpty : heap.size = 0) :
    HeapTable.destroy layout fuel heap = some { heap with size := heap.size - 1 } := by
  cases fuel <;> rw [HeapTable.destroy, if_pos isEmpty]

/-- Destroying a table frees the objects that are in it, each of them once. -/
theorem Represents.destroy {fuel : Nat} (represents : Represents layout heap table)
    (enough : table.ll.length ≤ fuel) :
    ∃ heap', HeapTable.destroy layout fuel heap = some heap' ∧ heap'.size = -1 ∧
      heap'.ll.Ring .head [] ∧
      ∀ addr, (heap'.entries addr).isSome = true ↔
        (heap.entries addr).isSome = true ∧ addr ∉ table.ll.map layout.kind.addr := by
  have isSize : heap.size = table.ll.length := represents.size.trans represents.counted
  induction isList : table.ll generalizing heap table fuel with
  | nil =>
      have ring := represents.ring
      rw [isList] at isSize ring
      refine ⟨{ heap with size := heap.size - 1 }, destroy_empty isSize, ?_, ring, ?_⟩
      · rw [isSize]
        rfl
      · intro addr
        simp
  | cons entry rest ih =>
      have isMem : entry ∈ table.ll := by
        rw [isList]
        exact List.mem_cons_self
      have addrMem : layout.kind.addr entry ∈ table.ll.map layout.kind.addr :=
        List.mem_map_of_mem isMem
      rcases represents.unlink addrMem with ⟨ll, hash, isDone, after⟩
      rcases after.free notMem_unlink (represents.isLive addrMem)
        with ⟨freed, isFreed, freedRepresents, gone⟩
      have once := represents.distinct
      rw [isList, List.map_cons, List.nodup_cons] at once
      have isRest :
        (table.unlink fun other => layout.kind.addr other == layout.kind.addr entry).ll =
          rest := by
        rw [HashedTable.unlink, isList, List.filter_cons_of_neg (by simp)]
        apply List.filter_eq_self.mpr
        intro other isOther
        have different : layout.kind.addr other ≠ layout.kind.addr entry := fun same =>
          once.1 (same ▸ List.mem_map_of_mem isOther)
        simpa using different
      rw [isList, List.length_cons] at isSize enough
      cases fuel with
      | zero => omega
      | succ fuel =>
          have restSize := freedRepresents.size.trans freedRepresents.counted
          have fits : (table.unlink fun other =>
              layout.kind.addr other == layout.kind.addr entry).ll.length ≤ fuel := by
            rw [isRest]
            omega
          rcases ih freedRepresents fits restSize isRest
            with ⟨heap', isDestroyed, isEnd, ring, live⟩
          refine ⟨heap', ?_, isEnd, ring, ?_⟩
          · have notZero : heap.size ≠ 0 := by omega
            have isFirst : heap.ll.next .head = some (.entry (layout.kind.addr entry)) := by
              rw [represents.ring.next_head, isList]
              rfl
            rw [HeapTable.destroy, if_neg notZero, isFirst, Option.bind_eq_bind, Option.bind_some]
            change ((HeapTable.unlink layout _ _).bind _) = _
            rw [isDone, Option.bind_some]
            change ((HeapTable.free _ _).bind _) = _
            rw [isFreed, Option.bind_some]
            exact isDestroyed
          · intro addr
            rw [live, gone, List.map_cons, List.mem_cons, not_or, Function.update_apply]
            split
            · rename_i isHere
              simp [isHere]
            · rename_i notHere
              exact and_congr_right fun _ => ⟨fun notRest => ⟨notHere, notRest⟩, And.right⟩

/-! ## Histories -/

section Histories

variable {history : List (AgingCall α)} {call : AgingCall α} {key : Nat}

def isDel (kind : AgingKind ι α) (key : Nat) : AgingCall α → Bool
  | .del entry => kind.addr entry == key
  | _ => false

/-- The object was taken out after it was added last; it belongs to the caller again. -/
def HandedBack (kind : AgingKind ι α) (history : List (AgingCall α)) (key : Nat) : Prop :=
  kind.added history key < lastTime (isDel kind key) history

omit [DecidableEq ι] in
theorem handedBack_append {kind : AgingKind ι α} : HandedBack kind (history ++ [call]) key ↔
    kind.isAdd key call = false ∧ (isDel kind key call = true ∨ HandedBack kind history key) := by
  have addedEarly : kind.added history key ≤ history.length := lastTime_le
  have deletedEarly : lastTime (isDel kind key) history ≤ history.length := lastTime_le
  rw [HandedBack, HandedBack, AgingKind.added_append, lastTime_append]
  cases isAdd : kind.isAdd key call with
  | true =>
      have notDel : isDel kind key call = false := by
        cases call <;> first | rfl | cases isAdd
      rw [notDel]
      simp only [if_true, Bool.false_eq_true, if_false]
      constructor
      · intro later
        omega
      · rintro ⟨isTrue, -⟩
        cases isTrue
  | false =>
      cases isDel kind key call with
      | true =>
          simp only [if_true, Bool.false_eq_true, if_false, true_and, true_or, iff_true]
          omega
      | false => simp

section Handed

variable {kind : AgingKind ι α}

omit [DecidableEq ι] in
theorem handedBack_add : HandedBack kind (history ++ [.add entry]) key ↔
    key ≠ kind.addr entry ∧ HandedBack kind history key := by
  have notDel : isDel kind key (.add entry) = false := rfl
  have isAdd : kind.isAdd key (.add entry) = (kind.addr entry == key) := rfl
  rw [handedBack_append, notDel, isAdd, beq_eq_false_iff_ne, ne_comm]
  simp only [Bool.false_eq_true, false_or]

omit [DecidableEq ι] in
theorem handedBack_del : HandedBack kind (history ++ [.del entry]) key ↔
    key = kind.addr entry ∨ HandedBack kind history key := by
  have isHere : isDel kind key (.del entry) = (kind.addr entry == key) := rfl
  have notAdd : kind.isAdd key (.del entry) = false := rfl
  rw [handedBack_append, isHere, notAdd, beq_iff_eq, @eq_comm Nat key]
  simp only [true_and]

omit [DecidableEq ι] in
theorem handedBack_refresh : HandedBack kind (history ++ [.refresh entry]) key ↔
    HandedBack kind history key := by
  have notDel : isDel kind key (.refresh entry) = false := rfl
  have notAdd : kind.isAdd key (.refresh entry) = false := rfl
  rw [handedBack_append, notDel, notAdd]
  simp only [Bool.false_eq_true, false_or, true_and]

omit [DecidableEq ι] in
theorem handedBack_aging : HandedBack kind (history ++ [.aging]) key ↔
    HandedBack kind history key := by
  have notDel : isDel kind key .aging = false := rfl
  have notAdd : kind.isAdd key .aging = false := rfl
  rw [handedBack_append, notDel, notAdd]
  simp only [Bool.false_eq_true, false_or, true_and]

end Handed

/-- The memory after a history: what is allocated is in the table or was handed back. -/
structure Follows (layout : HeapLayout ι α) (history : List (AgingCall α)) (heap : HeapTable ι α)
    (table : HashedTable ι α) : Prop where
  represents : Represents layout heap table
  live : ∀ addr, (heap.entries addr).isSome = true ↔
    addr ∈ table.ll.map layout.kind.addr ∨ HandedBack layout.kind history addr
  apart : ∀ addr ∈ table.ll.map layout.kind.addr, ¬ HandedBack layout.kind history addr
  short : table.ll.length ≤ history.length

omit [DecidableEq ι] in
theorem follows_create : Follows layout [] (create layout) .empty := by
  refine ⟨represents_create, ?_, ?_, le_refl _⟩
  · intro addr
    simp [create, HashedTable.empty, HandedBack, AgingKind.added]
  · intro addr isMem
    exact absurd isMem List.not_mem_nil

theorem Follows.add (follows : Follows layout history heap table)
    (isNew : layout.kind.addr entry ∉ table.ll.map layout.kind.addr) :
    ∃ heap', HeapTable.add layout entry (alloc layout entry heap) = some heap' ∧
      Follows layout (history ++ [.add entry]) heap' (layout.apply (.add entry) table) := by
  have isEntry :
      (HeapTable.alloc layout entry heap).entries (layout.kind.addr entry) = some entry :=
    Function.update_self _ _ _
  rcases (follows.represents.alloc isNew).add isNew isEntry LinkMemory.allocated_alloc
    (fun index => ChainMemory.allocated_alloc) with ⟨heap', isAdded, represents, sameEntries⟩
  have inTable : ∀ addr, addr ∈ (layout.apply (.add entry) table).ll.map layout.kind.addr ↔
      addr = layout.kind.addr entry ∨ addr ∈ table.ll.map layout.kind.addr := by
    intro addr
    rw [(ll_added.map _).mem_iff, List.map_cons, List.mem_cons]
  refine ⟨heap', isAdded, represents, ?_, ?_, ?_⟩
  · intro addr
    rw [sameEntries, inTable, handedBack_add]
    change (Function.update heap.entries _ _ addr).isSome = true ↔ _
    rw [Function.update_apply]
    split
    · rename_i isHere
      simp [isHere]
    · rename_i notHere
      rw [follows.live]
      simp [notHere]
  · intro addr isMem
    rw [handedBack_add]
    rintro ⟨notHere, isHanded⟩
    rcases (inTable addr).mp isMem with isHere | isOld
    · exact notHere isHere
    · exact follows.apart addr isOld isHanded
  · rw [ll_added.length_eq, List.length_cons, List.length_append, List.length_singleton]
    exact Nat.succ_le_succ follows.short

theorem Follows.del (follows : Follows layout history heap table)
    (isMem : layout.kind.addr entry ∈ table.ll.map layout.kind.addr) :
    ∃ heap', HeapTable.del layout (layout.kind.addr entry) heap = some heap' ∧
      Follows layout (history ++ [.del entry]) heap' (layout.kind.apply (.del entry) table) := by
  rcases follows.represents.del isMem with ⟨heap', isDeleted, sameEntries, represents⟩
  have inTable : ∀ addr,
      addr ∈ (layout.kind.apply (.del entry) table).ll.map layout.kind.addr ↔
        addr ∈ table.ll.map layout.kind.addr ∧ addr ≠ layout.kind.addr entry := by
    intro addr
    rw [AgingKind.apply, AgingKind.del, HashedTable.unlink]
    simp only [List.mem_map, List.mem_filter, Bool.not_eq_true', beq_eq_false_iff_ne]
    constructor
    · rintro ⟨other, ⟨inList, isOther⟩, rfl⟩
      exact ⟨⟨other, inList, rfl⟩, isOther⟩
    · rintro ⟨⟨other, inList, rfl⟩, isOther⟩
      exact ⟨other, ⟨inList, isOther⟩, rfl⟩
  refine ⟨heap', isDeleted, represents, ?_, ?_, ?_⟩
  · intro addr
    rw [sameEntries, follows.live, inTable, handedBack_del]
    rcases eq_or_ne addr (layout.kind.addr entry) with rfl | isOther
    · simp [isMem]
    · simp [isOther]
  · intro addr isStill
    rw [handedBack_del]
    rcases (inTable addr).mp isStill with ⟨isOld, isOther⟩
    rintro (isHere | isHanded)
    · exact isOther isHere
    · exact follows.apart addr isOld isHanded
  · rw [List.length_append, List.length_singleton]
    exact (List.length_filter_le _ _).trans (follows.short.trans (Nat.le_succ _))

omit [DecidableEq ι] in
theorem Follows.refresh (follows : Follows layout history heap table)
    (isLive : (heap.entries (layout.kind.addr entry)).isSome = true) :
    ∃ heap', heap.write (layout.kind.addr entry) layout.kind.clear = some heap' ∧
      Follows layout (history ++ [.refresh entry]) heap'
        (layout.kind.apply (.refresh entry) table) := by
  rcases follows.represents.write layout.kind.addr_clear layout.kind.bucket_clear isLive
    with ⟨heap', isWritten, represents, sameLive⟩
  have sameAddrs : (layout.kind.apply (.refresh entry) table).ll.map layout.kind.addr =
      table.ll.map layout.kind.addr :=
    HashedTable.map_ll_write layout.kind.addr_clear
  refine ⟨heap', isWritten, represents, ?_, ?_, ?_⟩
  · intro addr
    rw [sameLive, follows.live, sameAddrs, handedBack_refresh]
  · intro addr isMem
    rw [handedBack_refresh]
    rw [sameAddrs] at isMem
    exact follows.apart addr isMem
  · rw [List.length_append, List.length_singleton]
    exact (List.length_map _).trans_le (follows.short.trans (Nat.le_succ _))

theorem Follows.aging {fuel : Nat} (follows : Follows layout history heap table)
    (enough : history.length ≤ fuel) :
    ∃ heap', HeapTable.aging layout fuel heap = some heap' ∧
      Follows layout (history ++ [.aging]) heap' (layout.kind.apply .aging table) := by
  rcases follows.represents.aging (follows.short.trans enough)
    with ⟨heap', isAged, represents, live⟩
  have inTable : ∀ addr, addr ∈ (layout.kind.apply .aging table).ll.map layout.kind.addr ↔
      addr ∈ table.ll.map layout.kind.addr ∧
        addr ∉ (layout.kind.recorded table).map layout.kind.addr := by
    intro addr
    have sameAddrs : (table.write (fun _ => true) layout.kind.mark).ll.map layout.kind.addr =
        table.ll.map layout.kind.addr :=
      HashedTable.map_ll_write layout.kind.addr_mark
    rw [AgingKind.aging_eq, ← sameAddrs, List.mem_map, List.mem_map]
    constructor
    · rintro ⟨other, isMem, rfl⟩
      rcases HashedTable.mem_ll_unlinkAll.mp isMem with ⟨inList, stays⟩
      exact ⟨⟨other, inList, rfl⟩, stays⟩
    · rintro ⟨⟨other, inList, rfl⟩, stays⟩
      exact ⟨other, HashedTable.mem_ll_unlinkAll.mpr ⟨inList, stays⟩, rfl⟩
  have isSubset : (layout.kind.recorded table).map layout.kind.addr ⊆
      table.ll.map layout.kind.addr :=
    List.map_subset _ (List.filter_subset_self _)
  refine ⟨heap', isAged, represents, ?_, ?_, ?_⟩
  · intro addr
    rw [live, follows.live, inTable, handedBack_aging]
    constructor
    · rintro ⟨isOld | isHanded, stays⟩
      · exact .inl ⟨isOld, stays⟩
      · exact .inr isHanded
    · rintro (⟨isOld, stays⟩ | isHanded)
      · exact ⟨.inl isOld, stays⟩
      · exact ⟨.inr isHanded, fun isRecorded => follows.apart addr (isSubset isRecorded) isHanded⟩
  · intro addr isMem
    rw [handedBack_aging]
    exact follows.apart addr ((inTable addr).mp isMem).1
  · rw [AgingKind.ll_aging follows.represents.distinct, List.length_map, List.length_append,
      List.length_singleton]
    exact (List.length_filter_le _ _).trans (follows.short.trans (Nat.le_succ _))

/-- A call writes through a pointer to an object that is not there any more. -/
def Dangling (layout : HeapLayout ι α) (history : List (AgingCall α)) : Prop :=
  ∃ before entry after, history = before ++ .refresh entry :: after ∧
    layout.kind.addr entry ∉ (tableAfter layout.apply before).ll.map layout.kind.addr ∧
    ¬ HandedBack layout.kind before (layout.kind.addr entry)

omit [DecidableEq ι] in
theorem dangling_append : Dangling layout (history ++ [call]) ↔
    Dangling layout history ∨ ∃ entry, call = .refresh entry ∧
      layout.kind.addr entry ∉ (tableAfter layout.apply history).ll.map layout.kind.addr ∧
      ¬ HandedBack layout.kind history (layout.kind.addr entry) := by
  constructor
  · rintro ⟨before, entry, after, parts, notMem, notHanded⟩
    rcases List.eq_nil_or_concat after with rfl | ⟨middle, last, rfl⟩
    · rcases List.append_inj' parts rfl with ⟨rfl, isCall⟩
      rw [List.singleton_inj] at isCall
      exact .inr ⟨entry, isCall, notMem, notHanded⟩
    · rw [List.concat_eq_append, ← List.cons_append, ← List.append_assoc] at parts
      rcases List.append_inj' parts rfl with ⟨rfl, -⟩
      exact .inl ⟨before, entry, middle, rfl, notMem, notHanded⟩
  · rintro (⟨before, entry, after, rfl, notMem, notHanded⟩ | ⟨entry, rfl, notMem, notHanded⟩)
    · refine ⟨before, entry, after ++ [call], ?_, notMem, notHanded⟩
      rw [List.append_assoc, List.cons_append]
    · exact ⟨history, entry, [], rfl, notMem, notHanded⟩

omit [DecidableEq ι] in
theorem not_dangling_nil : ¬ Dangling layout [] := by
  rintro ⟨before, entry, after, parts, -⟩
  cases before <;> cases parts

/-- One call: it fails only where it writes to an object that is gone, and otherwise the memory
goes on holding the table. -/
theorem Follows.step {fuel : Nat} (follows : Follows layout history heap table)
    (fits : Fits layout.kind.addr table call) (enough : history.length ≤ fuel) :
    (∃ entry, call = .refresh entry ∧ layout.kind.addr entry ∉ table.ll.map layout.kind.addr ∧
      ¬ HandedBack layout.kind history (layout.kind.addr entry) ∧
      HeapTable.apply layout fuel call heap = none) ∨
    ((∀ entry, call = .refresh entry → layout.kind.addr entry ∈ table.ll.map layout.kind.addr ∨
      HandedBack layout.kind history (layout.kind.addr entry)) ∧
      ∃ heap', HeapTable.apply layout fuel call heap = some heap' ∧
        Follows layout (history ++ [call]) heap' (layout.apply call table)) := by
  have sameCall : (∀ entry, call ≠ .add entry) →
      layout.apply call table = layout.kind.apply call table := by
    intro notAdd
    rw [HeapLayout.apply]
    split
    · cases call with
      | add entry => exact absurd rfl (notAdd entry)
      | del entry => rfl
      | refresh entry => rfl
      | aging => rfl
    · rfl
  cases call with
  | add entry => exact .inr ⟨by simp, follows.add fits⟩
  | del entry =>
      rw [sameCall (by simp)]
      exact .inr ⟨by simp, follows.del fits⟩
  | aging =>
      rw [sameCall (by simp)]
      exact .inr ⟨by simp, follows.aging enough⟩
  | refresh entry =>
      rw [sameCall (by simp)]
      cases isEntry : heap.entries (layout.kind.addr entry) with
      | none =>
          have notLive := not_congr (follows.live (layout.kind.addr entry))
          rw [isEntry, not_or] at notLive
          rcases notLive.mp (by simp) with ⟨notMem, notHanded⟩
          refine .inl ⟨entry, rfl, notMem, notHanded, ?_⟩
          rw [HeapTable.apply, HeapTable.write, isEntry, Option.map_none]
      | some target =>
          have isLive : (heap.entries (layout.kind.addr entry)).isSome = true := by
            rw [isEntry, Option.isSome_some]
          refine .inr ⟨?_, follows.refresh isLive⟩
          rintro other isOther
          cases isOther
          exact (follows.live _).mp isLive

/-- The run fails exactly where a call writes to an object that is gone, and otherwise the
memory holds the table that the history leads to. -/
theorem run_cases {fuel : Nat} (fitting : Fitting layout.kind.addr layout.apply .empty history)
    (enough : history.length ≤ fuel) :
    (Dangling layout history ∧ run layout fuel history = none) ∨
    (¬ Dangling layout history ∧ ∃ heap, run layout fuel history = some heap ∧
      Follows layout history heap (tableAfter layout.apply history)) := by
  induction history using List.reverseRecOn with
  | nil => exact .inr ⟨not_dangling_nil, create layout, rfl, follows_create⟩
  | append_singleton history call ih =>
      rw [fitting_append] at fitting
      rw [List.length_append, List.length_singleton] at enough
      have runs : run layout fuel (history ++ [call]) =
          (run layout fuel history).bind (HeapTable.apply layout fuel call) := by
        rw [run, run, List.foldlM_append]
        exact bind_congr fun heap => by
          rw [List.foldlM_cons]
          exact bind_pure _
      rw [dangling_append, runs]
      rcases ih fitting.1 (Nat.le_of_succ_le enough) with ⟨isDangling, isNone⟩ | ⟨notDangling, runs⟩
      · exact .inl ⟨.inl isDangling, by rw [isNone, Option.bind_none]⟩
      · rcases runs with ⟨heap, isRun, follows⟩
        rw [isRun, Option.bind_some, tableAfter_append]
        rcases follows.step fitting.2 (Nat.le_of_succ_le enough) with
          ⟨entry, isCall, notMem, notHanded, isNone⟩ | ⟨isLive, heap', isDone, follows'⟩
        · exact .inl ⟨.inr ⟨entry, isCall, notMem, notHanded⟩, isNone⟩
        · refine .inr ⟨?_, heap', isDone, follows'⟩
          rintro (isDangling | ⟨entry, isCall, notMem, notHanded⟩)
          · exact notDangling isDangling
          · exact (isLive entry isCall).elim notMem notHanded

theorem run_eq_none {fuel : Nat} (fitting : Fitting layout.kind.addr layout.apply .empty history)
    (enough : history.length ≤ fuel) :
    run layout fuel history = none ↔ Dangling layout history := by
  rcases run_cases fitting enough with ⟨isDangling, isNone⟩ | ⟨notDangling, heap, isRun, -⟩
  · exact ⟨fun _ => isDangling, fun _ => isNone⟩
  · rw [isRun]
    exact ⟨fun isNone => absurd isNone (Option.some_ne_none heap),
      fun isDangling => absurd isDangling notDangling⟩

theorem follows_run {fuel : Nat} (fitting : Fitting layout.kind.addr layout.apply .empty history)
    (enough : history.length ≤ fuel) (isRun : run layout fuel history = some heap) :
    Follows layout history heap (tableAfter layout.apply history) := by
  rcases run_cases fitting enough with ⟨-, isNone⟩ | ⟨-, heap', isRun', follows⟩
  · rw [isRun] at isNone
    cases isNone
  · rw [isRun, Option.some.injEq] at isRun'
    rw [isRun']
    exact follows

/-- When the table is destroyed, what is left is what was handed back. -/
theorem Follows.destroy {fuel : Nat} (follows : Follows layout history heap table)
    (enough : history.length ≤ fuel) :
    ∃ heap', HeapTable.destroy layout fuel heap = some heap' ∧
      ∀ addr, (heap'.entries addr).isSome = true ↔ HandedBack layout.kind history addr := by
  rcases follows.represents.destroy (follows.short.trans enough)
    with ⟨heap', isDestroyed, -, -, live⟩
  refine ⟨heap', isDestroyed, ?_⟩
  intro addr
  rw [live, follows.live]
  constructor
  · rintro ⟨isMem | isHanded, isGone⟩
    · exact absurd isMem isGone
    · exact isHanded
  · intro isHanded
    exact ⟨.inr isHanded, fun isMem => follows.apart addr isMem isHanded⟩

end Histories

end HeapTable
