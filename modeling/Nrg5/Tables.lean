import Nrg5.Lib.HashedTable
import Nrg5.Common

/-!
# ARP, forwarding, neighbour and VNF tables

The four tables of a node.  Every entry is an object in the heap; `addr` is its
address, and it is what a pointer to the entry refers to.  The ARP table has two
hash indexes, the others one.  The lookups answer with the entry the chain meets
first, and refreshing an entry writes its status through the pointer that a
lookup returned.
-/

namespace Nrg5

/-- `nso_if_t` with the fields of its `wifi_handle_t` that the library reads. -/
structure NsoIf where
  ifIndex : Nat
  ifMac : L2addr
  macSize : ifMac.length = ethAlen
deriving DecidableEq

/-- The two states an entry of a table ages through. -/
inductive EntryStatus : Type where
  | active
  | expired
deriving DecidableEq

structure ArpEntry where
  addr : Nat
  devId : DeviceId
  l2addr : L2addr
  status : EntryStatus
deriving DecidableEq

/-- An entry always has an interface: `alloc_fwd_entry` asserts it. -/
structure FwdEntry where
  addr : Nat
  dest : DeviceId
  nxthop : DeviceId
  iface : NsoIf
  status : EntryStatus
deriving DecidableEq

structure NbrEntry where
  addr : Nat
  devId : DeviceId
  metric : Int
  iface : Option NsoIf
  status : EntryStatus
deriving DecidableEq

structure BspcEntry where
  addr : Nat
  proto : UInt16
  sockfd : Nat
deriving DecidableEq

/-- The hash indexes of the ARP table. -/
inductive ArpIndex : Type where
  | devId
  | l2addr
deriving DecidableEq

abbrev ArpTable := HashedTable ArpIndex ArpEntry
abbrev FwdTable := HashedTable Unit FwdEntry
abbrev NbrTable := HashedTable Unit NbrEntry
abbrev BspcTable := HashedTable Unit BspcEntry

/-- `ARPT_HASH_BITS`. -/
def arptHashBits : Nat := 10

/-- `FWDT_HASH_BITS`. -/
def fwdtHashBits : Nat := 12

/-- `NBRT_HASH_BITS`. -/
def nbrtHashBits : Nat := 10

/-- `BSPC_HASH_BITS`. -/
def bspcHashBits : Nat := 10

/-! ## ARP table -/

namespace ArpTable

def bucket (index : ArpIndex) (entry : ArpEntry) : Nat :=
  match index with
  | .devId => hashMin (hashDeviceId entry.devId) arptHashBits
  | .l2addr => hashMin (hashL2addr entry.l2addr) arptHashBits

/-- `arp_table_add`, inside the lock. -/
def add (entry : ArpEntry) (table : ArpTable) : ArpTable := table.addHead bucket entry

/-- `arp_table_del`, inside the lock. -/
def del (entry : ArpEntry) (table : ArpTable) : ArpTable :=
  table.unlink fun other => other.addr == entry.addr

/-- `arp_table_lookup_from_dev_id_unsafe`. -/
def lookupFromDevId (devId : DeviceId) (table : ArpTable) : Option ArpEntry :=
  table.find .devId (hashMin (hashDeviceId devId) arptHashBits) fun entry =>
    entry.devId == devId

/-- `arp_table_lookup_from_l2addr_unsafe`. -/
def lookupFromL2addr (addr : L2addr) (table : ArpTable) : Option ArpEntry :=
  table.find .l2addr (hashMin (hashL2addr addr) arptHashBits) fun entry =>
    entry.l2addr == addr

/-- `e->status = ARP_ACTIVE`. -/
def refresh (entry : ArpEntry) (table : ArpTable) : ArpTable :=
  table.write (fun other => other.addr == entry.addr) fun other =>
    { other with status := .active }

/-- The scan of `arp_table_aging`: the entries that are removed, and the others. -/
def agingVictims (table : ArpTable) : List ArpEntry :=
  table.ll.filter fun entry => entry.status == .expired

/-- `arp_table_aging`, inside the lock. -/
def aging (table : ArpTable) : ArpTable :=
  (agingVictims table).foldr del
    (table.write (fun _ => true) fun entry => { entry with status := .expired })

variable {table : ArpTable} {entry : ArpEntry} {devId : DeviceId} {addr : L2addr}

theorem lookupFromDevId_add :
    lookupFromDevId devId (add entry table) =
      if entry.devId = devId then some entry else lookupFromDevId devId table := by
  split
  · rename_i same
    apply HashedTable.find_addHead_same
    · simp only [bucket, same]
    · simpa using same
  · rename_i different
    apply HashedTable.find_addHead_other
    simpa using different

theorem lookupFromL2addr_add :
    lookupFromL2addr addr (add entry table) =
      if entry.l2addr = addr then some entry else lookupFromL2addr addr table := by
  split
  · rename_i same
    apply HashedTable.find_addHead_same
    · simp only [bucket, same]
    · simpa using same
  · rename_i different
    apply HashedTable.find_addHead_other
    simpa using different

/-- Refreshing changes the status of an entry that is found and nothing else. -/
theorem lookupFromDevId_refresh :
    lookupFromDevId devId (refresh entry table) =
      (lookupFromDevId devId table).map fun other =>
        if other.addr == entry.addr then { other with status := .active } else other :=
  HashedTable.find_write fun _ => rfl

theorem lookupFromL2addr_refresh :
    lookupFromL2addr addr (refresh entry table) =
      (lookupFromL2addr addr table).map fun other =>
        if other.addr == entry.addr then { other with status := .active } else other :=
  HashedTable.find_write fun _ => rfl

end ArpTable

/-! ## Forwarding table -/

namespace FwdTable

def bucket (_ : Unit) (entry : FwdEntry) : Nat :=
  hashMin (hashDeviceId entry.dest) fwdtHashBits

/-- `fwd_table_add`: the list takes the entry at its tail, the chain at its head. -/
def add (entry : FwdEntry) (table : FwdTable) : FwdTable := table.addTail bucket entry

def del (entry : FwdEntry) (table : FwdTable) : FwdTable :=
  table.unlink fun other => other.addr == entry.addr

/-- `fwd_table_lookup` and `fwd_table_lookup_unsafe`. -/
def lookup (dest : DeviceId) (table : FwdTable) : Option FwdEntry :=
  table.find () (hashMin (hashDeviceId dest) fwdtHashBits) fun entry => entry.dest == dest

/-- `e->status = FWD_ACTIVE`. -/
def refresh (entry : FwdEntry) (table : FwdTable) : FwdTable :=
  table.write (fun other => other.addr == entry.addr) fun other =>
    { other with status := .active }

/-- The entries that `fwd_table_aging` records. -/
def agingVictims (table : FwdTable) : List FwdEntry :=
  table.ll.filter fun entry => entry.status == .expired

/-- `fwd_table_aging`: the entry recorded last is removed first. -/
def aging (table : FwdTable) : FwdTable :=
  (agingVictims table).foldr del
    (table.write (fun _ => true) fun entry => { entry with status := .expired })

variable {table : FwdTable} {entry : FwdEntry} {dest : DeviceId}

theorem dest_of_lookup (found : lookup dest table = some entry) : entry.dest = dest := by
  simpa using HashedTable.find_matching found

theorem lookup_add :
    lookup dest (add entry table) =
      if entry.dest = dest then some entry else lookup dest table := by
  simp only [lookup, add, HashedTable.find_addTail]
  split
  · rename_i same
    apply HashedTable.find_addHead_same
    · simp only [bucket, same]
    · simpa using same
  · rename_i different
    apply HashedTable.find_addHead_other
    simpa using different

theorem lookup_refresh :
    lookup dest (refresh entry table) =
      (lookup dest table).map fun other =>
        if other.addr == entry.addr then { other with status := .active } else other :=
  HashedTable.find_write fun _ => rfl

end FwdTable

/-! ## Neighbour table -/

namespace NbrTable

def bucket (_ : Unit) (entry : NbrEntry) : Nat :=
  hashMin (hashDeviceId entry.devId) nbrtHashBits

/-- `nbr_table_add`, inside the lock. -/
def add (entry : NbrEntry) (table : NbrTable) : NbrTable := table.addHead bucket entry

/-- `nbr_table_del`, inside the lock. -/
def del (entry : NbrEntry) (table : NbrTable) : NbrTable :=
  table.unlink fun other => other.addr == entry.addr

/-- `nbr_table_lookup_unsafe`. -/
def lookup (devId : DeviceId) (table : NbrTable) : Option NbrEntry :=
  table.find () (hashMin (hashDeviceId devId) nbrtHashBits) fun entry => entry.devId == devId

/-- `e->status = NBR_ACTIVE`. -/
def refresh (entry : NbrEntry) (table : NbrTable) : NbrTable :=
  table.write (fun other => other.addr == entry.addr) fun other =>
    { other with status := .active }

/-- The entries that `nbr_table_aging` records. -/
def agingVictims (table : NbrTable) : List NbrEntry :=
  table.ll.filter fun entry => entry.status == .expired

/-- `nbr_table_aging`, inside the lock: the entry recorded last is removed first. -/
def aging (table : NbrTable) : NbrTable :=
  (agingVictims table).foldr del
    (table.write (fun _ => true) fun entry => { entry with status := .expired })

end NbrTable

/-! ## VNF table of the base station -/

namespace BspcTable

/-- The bucket of a protocol, when the signed index lies inside the array. -/
def bucketOfProto (proto : UInt16) : Option Nat :=
  let index := hashMinProto proto bspcHashBits
  if 0 ≤ index ∧ index < 2 ^ bspcHashBits then some index.toNat else none

/-- `bspc_table_add`.  With an index outside the array the hash link is written
somewhere else and no chain of the table changes. -/
def add (entry : BspcEntry) (table : BspcTable) : BspcTable :=
  match bucketOfProto entry.proto with
  | some slot => table.addHead (fun _ _ => slot) entry
  | none => { table with size := table.size + 1, ll := entry :: table.ll }

/-- `bspc_table_del`. -/
def del (entry : BspcEntry) (table : BspcTable) : BspcTable :=
  table.unlink fun other => other.addr == entry.addr

/-- `bspc_table_lookup`, for an index inside the array. -/
def lookupIn (slot : Nat) (proto : UInt16) (table : BspcTable) : Option BspcEntry :=
  table.find () slot fun entry => entry.proto == proto

end BspcTable

end Nrg5
