import Nrg5.Aging
import Nrg5.Lib.HeapTable

/-!
# The tables in memory

The ARP, neighbour and forwarding tables with the links inside their entries: what
`list_add`, `hash_add`, `list_del` and `hash_del` write, what the lookups and the aging calls
follow, and what is allocated and freed.

An entry comes from `alloc_arp_entry`, `alloc_nbr_entry` or `alloc_fwd_entry`, which clear it,
and goes with `free_arp_entry`, `free_nbr_entry` or `free_fwd_entry` together with its keys.
-/

namespace Nrg5

/-- A bucket of `hash_min` is one of the array. -/
theorem hashMin_lt {key : UInt32} {bits : Nat} (fits : bits ≤ 32) :
    hashMin key bits < 2 ^ bits := by
  have inWord := (UInt32.ofNat goldenRatio32 * key).toNat_lt
  rw [hashMin, Nat.shiftRight_eq_div_pow]
  apply Nat.div_lt_of_lt_mul
  rw [← pow_add, Nat.sub_add_cancel fits]
  exact inWord

/-! ## The three layouts -/

namespace ArpTable

def indexes : List ArpIndex := [.devId, .l2addr]

theorem indexes_nodup : indexes.Nodup := by decide

theorem mem_indexes (index : ArpIndex) : index ∈ indexes := by cases index <;> decide

theorem bucket_lt (index : ArpIndex) (entry : ArpEntry) :
    kind.bucket index entry < 2 ^ arptHashBits := by
  cases index <;> exact hashMin_lt (by decide)

/-- `arp_table_t`: `list_add`, then both `hash_add`. -/
def layout : HeapLayout ArpIndex ArpEntry where
  kind := kind
  atTail := false
  buckets := 2 ^ arptHashBits
  indexes := indexes
  distinct := indexes_nodup
  complete := mem_indexes
  inRange := bucket_lt

theorem layout_apply : layout.apply = apply := apply_eq.symm

/-- `arp_table_lookup_from_dev_id`: the address of what it finds. -/
def lookupFromDevIdIn (fuel : Nat) (devId : DeviceId) (heap : HeapTable ArpIndex ArpEntry) :
    Option (Option Nat) :=
  heap.find fuel .devId (hashMin (hashDeviceId devId) arptHashBits) fun entry =>
    entry.devId == devId

/-- `arp_table_lookup_from_l2addr`. -/
def lookupFromL2addrIn (fuel : Nat) (addr : L2addr) (heap : HeapTable ArpIndex ArpEntry) :
    Option (Option Nat) :=
  heap.find fuel .l2addr (hashMin (hashL2addr addr) arptHashBits) fun entry =>
    entry.l2addr == addr

end ArpTable

namespace NbrTable

theorem unit_nodup : [()].Nodup := List.nodup_singleton ()

theorem mem_unit (index : Unit) : index ∈ [()] := List.mem_singleton_self index

theorem bucket_lt (index : Unit) (entry : NbrEntry) :
    kind.bucket index entry < 2 ^ nbrtHashBits := hashMin_lt (by decide)

/-- `nbr_table_t`. -/
def layout : HeapLayout Unit NbrEntry where
  kind := kind
  atTail := false
  buckets := 2 ^ nbrtHashBits
  indexes := [()]
  distinct := unit_nodup
  complete := mem_unit
  inRange := bucket_lt

theorem layout_apply : layout.apply = apply := apply_eq.symm

/-- `nbr_table_lookup`. -/
def lookupIn (fuel : Nat) (devId : DeviceId) (heap : HeapTable Unit NbrEntry) :
    Option (Option Nat) :=
  heap.find fuel () (hashMin (hashDeviceId devId) nbrtHashBits) fun entry => entry.devId == devId

end NbrTable

namespace FwdTable

theorem bucket_lt (index : Unit) (entry : FwdEntry) :
    kind.bucket index entry < 2 ^ fwdtHashBits := hashMin_lt (by decide)

/-- `fwd_table_t`: `list_add_tail`, so the oldest entry is the first one of the list. -/
def layout : HeapLayout Unit FwdEntry where
  kind := kind
  atTail := true
  buckets := 2 ^ fwdtHashBits
  indexes := [()]
  distinct := NbrTable.unit_nodup
  complete := NbrTable.mem_unit
  inRange := bucket_lt

theorem layout_apply : layout.apply = apply := apply_eq.symm

/-- `fwd_table_lookup`. -/
def lookupIn (fuel : Nat) (dest : DeviceId) (heap : HeapTable Unit FwdEntry) :
    Option (Option Nat) :=
  heap.find fuel () (hashMin (hashDeviceId dest) fwdtHashBits) fun entry => entry.dest == dest

end FwdTable

/-! ## Runs -/

/-- The calls of a history on the memory of a table.  They fail exactly where one of them writes
through a pointer to an object that was freed.  Otherwise the memory holds the table, what is
allocated is in the table or in the hands of a caller, and destroying the table frees the rest. -/
structure InMemory {ι α : Type} [DecidableEq ι] (layout : HeapLayout ι α)
    (history : List (AgingCall α)) (fuel : Nat) (lookups : HeapTable ι α → Prop) : Prop where
  fails : HeapTable.run layout fuel history = none ↔ HeapTable.Dangling layout history
  holds : ∀ heap, HeapTable.run layout fuel history = some heap →
    HeapTable.Represents layout heap (tableAfter layout.apply history)
  live : ∀ heap, HeapTable.run layout fuel history = some heap → ∀ addr,
    (heap.entries addr).isSome = true ↔
      addr ∈ (tableAfter layout.apply history).ll.map layout.kind.addr ∨
        HeapTable.HandedBack layout.kind history addr
  finds : ∀ heap, HeapTable.run layout fuel history = some heap → lookups heap
  ends : ∀ heap, HeapTable.run layout fuel history = some heap →
    ∃ heap', HeapTable.destroy layout fuel heap = some heap' ∧
      ∀ addr, (heap'.entries addr).isSome = true ↔
        HeapTable.HandedBack layout.kind history addr

theorem inMemory {ι α : Type} [DecidableEq ι] {layout : HeapLayout ι α}
    {history : List (AgingCall α)} {fuel : Nat} {lookups : HeapTable ι α → Prop}
    (fitting : Fitting layout.kind.addr layout.apply .empty history)
    (enough : history.length ≤ fuel)
    (finds : ∀ heap, HeapTable.Represents layout heap (tableAfter layout.apply history) →
      (tableAfter layout.apply history).ll.length ≤ fuel → lookups heap) :
    InMemory layout history fuel lookups := by
  refine ⟨HeapTable.run_eq_none fitting enough, ?_, ?_, ?_, ?_⟩
  · intro heap isRun
    exact (HeapTable.follows_run fitting enough isRun).represents
  · intro heap isRun
    exact (HeapTable.follows_run fitting enough isRun).live
  · intro heap isRun
    have follows := HeapTable.follows_run fitting enough isRun
    exact finds heap follows.represents (follows.short.trans enough)
  · intro heap isRun
    exact (HeapTable.follows_run fitting enough isRun).destroy enough

/-- A thread looks up an entry, the entry expires twice, and the thread refreshes it. -/
def refreshedLate : List (AgingCall ArpEntry) :=
  [.add ⟨1, 5, [2, 0, 0, 0, 0, 5], .active⟩, .aging, .aging,
    .refresh ⟨1, 5, [2, 0, 0, 0, 0, 5], .active⟩]

end Nrg5
