import Nrg5.Lib.ThreadRoles
import Nrg5.HandlerRules

/-!
# The functions on the forwarding tables, as compiled

`fwding.h` takes and releases the mutex of a forwarding table in inline functions;
`fwding.c` guards its own locking with a macro that no header defines.  This file
has the functions on the forwarding tables and their callers at the grain of the
operations on the tables and of the mutex operations, and what each of them does
when it runs alone.

A lookup answers with a pointer.  The entry behind it stays in memory, and freeing
it frees the two device ids that it points to.
-/

namespace Nrg5

namespace Fwding

open LockProg

/-- The two forwarding tables of a layer. -/
inductive FwdtId : Type where
  | sonFwdt
  | localFwdt
deriving DecidableEq

/-- What the functions on the forwarding tables see of a layer, and the entries whose
device ids are freed. -/
structure Memory where
  table : FwdtId → FwdTable
  ifaces : List NsoIf
  /-- The address of the next entry. -/
  heap : Nat
  freed : List Nat

def Memory.update (fwdt : FwdtId) (change : FwdTable → FwdTable) (memory : Memory) : Memory :=
  { memory with table := Function.update memory.table fwdt (change (memory.table fwdt)) }

/-- The operations of a run. -/
inductive FwdOp : Type where
  | lookup (fwdt : FwdtId)
  | lookupUnsafe (fwdt : FwdtId)
  /-- The next hop and the interface are read through the pointer of a lookup. -/
  | readHop (fwdt : FwdtId) (addr : Nat)
  /-- The status is written through the pointer of a lookup. -/
  | setActive (fwdt : FwdtId) (addr : Nat)
  | ifaceAt
  | alloc
  | add (fwdt : FwdtId)
  | del (fwdt : FwdtId)
  | aging (fwdt : FwdtId)
  | free (addr : Nat)
deriving DecidableEq

abbrev FwdProg := LockProg Memory FwdtId FwdOp Halt

/-! ## The functions of the table -/

/-- The macros around the mutex of a table. -/
inductive Macro : Type where
  | fwdThreadSafe
  | fwdtThreadSafe

/-- `fwding.h` defines `FWDT_THREAD_SAFE`; nothing defines `FWD_THREAD_SAFE`. -/
def Macro.defined : Macro → Bool
  | .fwdThreadSafe => false
  | .fwdtThreadSafe => true

/-- `#ifdef`. -/
def ifdef (macroName : Macro) (prog : FwdProg Unit) : FwdProg Unit :=
  if macroName.defined = true then prog else pure ()

/-- `fwd_table_lock`. -/
def fwdTableLock (fwdt : FwdtId) : FwdProg Unit := acquire fwdt

/-- `fwd_table_unlock`. -/
def fwdTableUnlock (fwdt : FwdtId) : FwdProg Unit := release fwdt

/-- `fwd_table_lookup_unsafe`. -/
def fwdTableLookupUnsafe (fwdt : FwdtId) (dest : DeviceId) : FwdProg (Option FwdEntry) :=
  query (.lookupUnsafe fwdt) fun memory => FwdTable.lookup dest (memory.table fwdt)

/-- `fwd_table_lookup`. -/
def fwdTableLookup (fwdt : FwdtId) (dest : DeviceId) : FwdProg (Option FwdEntry) := do
  ifdef .fwdThreadSafe (acquire fwdt)
  let pos ← query (.lookup fwdt) fun memory => FwdTable.lookup dest (memory.table fwdt)
  ifdef .fwdThreadSafe (release fwdt)
  pure pos

/-- `fwd_table_add`. -/
def fwdTableAdd (fwdt : FwdtId) (entry : FwdEntry) : FwdProg Unit := do
  ifdef .fwdThreadSafe (acquire fwdt)
  modify (.add fwdt) (Memory.update fwdt (FwdTable.add entry))
  ifdef .fwdThreadSafe (release fwdt)

/-- `fwd_table_del`. -/
def fwdTableDel (fwdt : FwdtId) (entry : FwdEntry) : FwdProg Unit := do
  ifdef .fwdThreadSafe (acquire fwdt)
  modify (.del fwdt) (Memory.update fwdt (FwdTable.del entry))
  ifdef .fwdThreadSafe (release fwdt)

/-- What `fwd_table_aging` does between its two guards. -/
def Memory.aged (fwdt : FwdtId) (memory : Memory) : Memory :=
  { memory.update fwdt FwdTable.aging with
    freed := (FwdTable.agingVictims (memory.table fwdt)).map FwdEntry.addr ++ memory.freed }

/-- `fwd_table_aging`. -/
def fwdTableAging (fwdt : FwdtId) : FwdProg Unit := do
  ifdef .fwdThreadSafe (acquire fwdt)
  modify (.aging fwdt) (Memory.aged fwdt)
  ifdef .fwdThreadSafe (release fwdt)

/-- `alloc_fwd_entry`. -/
def allocFwdEntry (dest nxthop : DeviceId) (iface : Option NsoIf) : FwdProg FwdEntry :=
  match iface with
  | none => .halt .assertion
  | some interface =>
      perform .alloc (fun memory => { memory with heap := memory.heap + 1 })
        fun memory => ⟨memory.heap, dest, nxthop, interface, .active⟩

/-- `free_fwd_entry`. -/
def freeFwdEntry (entry : FwdEntry) : FwdProg Unit :=
  modify (.free entry.addr) fun memory => { memory with freed := entry.addr :: memory.freed }

/-! ## The callers -/

/-- The lookup of a destination in one table, as in `nso_layer_fwd`. -/
def findHop (fwdt : FwdtId) (dst : DeviceId) : FwdProg (Option (DeviceId × NsoIf)) := do
  fwdTableLock fwdt
  let fwdEntry ← fwdTableLookupUnsafe fwdt dst
  match fwdEntry with
  | some entry => do
      let hop ← query (.readHop fwdt entry.addr) fun _ => (entry.nxthop, entry.iface)
      fwdTableUnlock fwdt
      pure (some hop)
  | none => do
      fwdTableUnlock fwdt
      pure none

/-- `nso_layer_fwd`, as far as it uses the forwarding tables: the next hop it finds. -/
def nsoLayerFwd (dst : DeviceId) : FwdProg (Option (DeviceId × NsoIf)) := do
  let hop ← findHop .sonFwdt dst
  match hop with
  | some found => pure (some found)
  | none => findHop .localFwdt dst

/-- The temporary route of `__fwd_beacon`. -/
def learnRoute (dest nxthop : DeviceId) (iface : NsoIf) : FwdProg Unit := do
  fwdTableLock .localFwdt
  let fwdEntry ← fwdTableLookupUnsafe .localFwdt dest
  match fwdEntry with
  | some entry => do
      modify (.setActive .localFwdt entry.addr)
        (Memory.update .localFwdt (FwdTable.refresh entry))
      fwdTableUnlock .localFwdt
  | none => do
      fwdTableUnlock .localFwdt
      let entry ← allocFwdEntry dest nxthop (some iface)
      fwdTableAdd .localFwdt entry

/-- `__fwd_beacon` of a beacon that is not dropped. -/
def fwdBeacon (src nxthop : DeviceId) (iface : NsoIf) (dst : DeviceId) : FwdProg Unit := do
  learnRoute src nxthop iface
  let _ ← nsoLayerFwd dst

/-- `fwd_table_del` and `free_fwd_entry` where the lookup found an entry. -/
def dropRoute (fwdEntry : Option FwdEntry) : FwdProg Unit :=
  match fwdEntry with
  | some entry => do
      fwdTableDel .sonFwdt entry
      freeFwdEntry entry
  | none => pure ()

/-- `nsol->ifaces[rule->if_index]`. -/
def ruleIface (rule : RtRule) : FwdProg (Option NsoIf) := do
  let iface ← query .ifaceAt fun memory => memory.ifaces[rule.ifIndex.toNat]?
  if rule.ifIndex.toNat < nsoMaxSupportedIfaces then pure iface else .halt .outOfBounds

/-- The body of the loop of `__route_update`. -/
def applyRule (rule : RtRule) : FwdProg Unit := do
  let iface ← ruleIface rule
  let fwdEntry ← fwdTableLookup .sonFwdt rule.dstId
  if rule.action = rtActionAdd then do
    dropRoute fwdEntry
    let entry ← allocFwdEntry rule.dstId rule.nhId iface
    fwdTableAdd .sonFwdt entry
  else if rule.action = rtActionDel then
    dropRoute fwdEntry
  else
    pure ()

/-- The loop of `__route_update` over the rules of its message. -/
def routeUpdate : List RtRule → FwdProg Unit
  | [] => pure ()
  | rule :: rules => do
      applyRule rule
      routeUpdate rules

/-! ## The calls of the threads -/

/-- The calls of the threads.  A route update for another device is a `nso_layer_fwd`. -/
inductive FwdCall : Type where
  | nsoLayerFwd (dst : DeviceId)
  | fwdBeacon (src nxthop : DeviceId) (iface : NsoIf) (dst : DeviceId)
  | routeUpdate (rules : List RtRule)
  | aging (fwdt : FwdtId)

def FwdCall.body : FwdCall → FwdProg Unit
  | .nsoLayerFwd dst => do let _ ← Fwding.nsoLayerFwd dst
  | .fwdBeacon src nxthop iface dst => Fwding.fwdBeacon src nxthop iface dst
  | .routeUpdate rules => Fwding.routeUpdate rules
  | .aging fwdt => fwdTableAging fwdt

/-- The call reads a table between `fwd_table_lock` and `fwd_table_unlock`. -/
def FwdCall.locks : FwdCall → Bool
  | .nsoLayerFwd _ => true
  | .fwdBeacon _ _ _ _ => true
  | .routeUpdate _ => false
  | .aging _ => false

/-- A rule to add or to delete a route stands before the first one that names no slot of
`ifaces`. -/
def changesRoutes : List RtRule → Bool
  | [] => false
  | rule :: rules =>
      decide (rule.ifIndex.toNat < nsoMaxSupportedIfaces) &&
        (rule.action == rtActionAdd || rule.action == rtActionDel || changesRoutes rules)

/-- The call adds entries to a table or removes some. -/
def FwdCall.changes : FwdCall → Bool
  | .nsoLayerFwd _ => false
  | .fwdBeacon _ _ _ _ => true
  | .routeUpdate rules => changesRoutes rules
  | .aging _ => true

/-- The operation is `fwd_table_add`, `fwd_table_del` or `fwd_table_aging` of the table. -/
def FwdOp.Changes (op : FwdOp) (fwdt : FwdtId) : Prop :=
  op = .add fwdt ∨ op = .del fwdt ∨ op = .aging fwdt

/-- The operation uses the entry that a lookup in the table returned. -/
def FwdOp.Uses (op : FwdOp) (fwdt : FwdtId) (addr : Nat) : Prop :=
  op = .readHop fwdt addr ∨ op = .setActive fwdt addr

/-- The entry is in the table and its device ids are not freed. -/
def Memory.HasEntry (memory : Memory) (fwdt : FwdtId) (addr : Nat) : Prop :=
  (∃ entry ∈ (memory.table fwdt).ll, entry.addr = addr) ∧ addr ∉ memory.freed

/-- The tables are well formed and no entry in them is freed. -/
structure Memory.Live (memory : Memory) : Prop where
  covers : ∀ fwdt, (memory.table fwdt).Covers FwdTable.bucket
  unfreed : ∀ fwdt, ∀ entry ∈ (memory.table fwdt).ll, entry.addr ∉ memory.freed
  apart : ∀ first second, first ≠ second → ∀ entry ∈ (memory.table first).ll,
    ∀ other ∈ (memory.table second).ll, entry.addr ≠ other.addr
  below : ∀ fwdt, ∀ entry ∈ (memory.table fwdt).ll, entry.addr < memory.heap
  freedBelow : ∀ addr ∈ memory.freed, addr < memory.heap

variable {memory : Memory} {fwdt : FwdtId} {entry : FwdEntry} {dest : DeviceId}
  {held : FwdtId → Bool} {α : Type}

@[simp]
theorem table_update_same (change : FwdTable → FwdTable) :
    (memory.update fwdt change).table fwdt = change (memory.table fwdt) := by
  simp [Memory.update]

theorem table_update_other {other : FwdtId} (different : other ≠ fwdt)
    (change : FwdTable → FwdTable) :
    (memory.update fwdt change).table other = memory.table other := by
  simp [Memory.update, different]

/-! ## Entries that are live -/

theorem Memory.Live.hasEntry (live : memory.Live)
    (found : FwdTable.lookup dest (memory.table fwdt) = some entry) :
    memory.HasEntry fwdt entry.addr := by
  have isMem := (live.covers fwdt).mem_of_find found
  exact ⟨⟨entry, isMem, rfl⟩, live.unfreed fwdt entry isMem⟩

theorem Memory.Live.narrow (live : memory.Live) {change : FwdTable → FwdTable}
    (covers : (change (memory.table fwdt)).Covers FwdTable.bucket)
    (isOld : ∀ entry ∈ (change (memory.table fwdt)).ll,
      ∃ old ∈ (memory.table fwdt).ll, old.addr = entry.addr) :
    (memory.update fwdt change).Live := by
  have old : ∀ side, ∀ entry ∈ ((memory.update fwdt change).table side).ll,
      ∃ old ∈ (memory.table side).ll, old.addr = entry.addr := by
    intro side entry isMem
    rcases eq_or_ne side fwdt with rfl | different
    · rw [table_update_same] at isMem
      exact isOld entry isMem
    · rw [table_update_other different] at isMem
      exact ⟨entry, isMem, rfl⟩
  refine ⟨?_, ?_, ?_, ?_, live.freedBelow⟩
  · intro side
    rcases eq_or_ne side fwdt with rfl | different
    · rw [table_update_same]
      exact covers
    · rw [table_update_other different]
      exact live.covers side
  · intro side entry isMem
    rcases old side entry isMem with ⟨before, wasMem, sameAddr⟩
    rw [← sameAddr]
    exact live.unfreed side before wasMem
  · intro first second different entry isMem other otherMem
    rcases old first entry isMem with ⟨before, wasMem, sameAddr⟩
    rcases old second other otherMem with ⟨otherBefore, otherWas, otherAddr⟩
    rw [← sameAddr, ← otherAddr]
    exact live.apart first second different before wasMem otherBefore otherWas
  · intro side entry isMem
    rcases old side entry isMem with ⟨before, wasMem, sameAddr⟩
    rw [← sameAddr]
    exact live.below side before wasMem

theorem Memory.Live.freeing (live : memory.Live) {addrs : List Nat}
    (absent : ∀ side, ∀ entry ∈ (memory.table side).ll, entry.addr ∉ addrs)
    (below : ∀ addr ∈ addrs, addr < memory.heap) :
    Memory.Live { memory with freed := addrs ++ memory.freed } := by
  refine ⟨live.covers, ?_, live.apart, live.below, ?_⟩
  · intro side entry isMem
    simp only [List.mem_append, not_or]
    exact ⟨absent side entry isMem, live.unfreed side entry isMem⟩
  · intro addr isMem
    rcases List.mem_append.mp isMem with isNew | wasFreed
    · exact below addr isNew
    · exact live.freedBelow addr wasFreed

theorem Memory.Live.refreshed (live : memory.Live) :
    (memory.update fwdt (FwdTable.refresh entry)).Live := by
  apply live.narrow
  · exact (live.covers fwdt).write fun _ _ => rfl
  · intro other isMem
    rcases HashedTable.mem_ll_write.mp isMem with ⟨old, wasMem, rfl⟩
    refine ⟨old, wasMem, ?_⟩
    split <;> rfl

/-- The memory after `fwd_table_del` and `free_fwd_entry`. -/
def Memory.dropped (entry : FwdEntry) (memory : Memory) : Memory :=
  { memory.update .sonFwdt (FwdTable.del entry) with freed := entry.addr :: memory.freed }

theorem Memory.Live.dropped (live : memory.Live) (isMem : entry ∈ (memory.table .sonFwdt).ll) :
    (memory.dropped entry).Live := by
  have narrowed : (memory.update .sonFwdt (FwdTable.del entry)).Live := by
    apply live.narrow
    · exact (live.covers .sonFwdt).unlink
    · intro other otherMem
      exact ⟨other, (List.mem_filter.mp otherMem).1, rfl⟩
  apply @Memory.Live.freeing _ narrowed [entry.addr]
  · intro side other otherMem
    rw [List.mem_singleton]
    rcases eq_or_ne side .sonFwdt with rfl | different
    · rw [table_update_same] at otherMem
      simpa using (List.mem_filter.mp otherMem).2
    · rw [table_update_other different] at otherMem
      exact live.apart side .sonFwdt different other otherMem entry isMem
  · intro addr isEntry
    rw [List.mem_singleton.mp isEntry]
    exact live.below .sonFwdt entry isMem

theorem Memory.Live.aged (live : memory.Live) : (memory.aged fwdt).Live := by
  have unlinked : FwdTable.aging (memory.table fwdt) =
      HashedTable.unlinkAll FwdEntry.addr
        ((FwdTable.agingVictims (memory.table fwdt)).map FwdEntry.addr)
        ((memory.table fwdt).write (fun _ => true) fun entry =>
          { entry with status := .expired }) := by
    rw [FwdTable.aging, HashedTable.unlinkAll, List.foldr_map]
    rfl
  have remaining : ∀ entry ∈ (FwdTable.aging (memory.table fwdt)).ll,
      (∃ old ∈ (memory.table fwdt).ll, old.addr = entry.addr) ∧
        entry.addr ∉ (FwdTable.agingVictims (memory.table fwdt)).map FwdEntry.addr := by
    intro entry isMem
    rw [unlinked, HashedTable.mem_ll_unlinkAll] at isMem
    rcases HashedTable.mem_ll_write.mp isMem.1 with ⟨old, wasMem, rfl⟩
    exact ⟨⟨old, wasMem, rfl⟩, isMem.2⟩
  have narrowed : (memory.update fwdt FwdTable.aging).Live := by
    apply live.narrow
    · rw [unlinked]
      apply HashedTable.Covers.unlinkAll
      exact (live.covers fwdt).write fun _ _ => rfl
    · exact fun entry isMem => (remaining entry isMem).1
  apply narrowed.freeing
  · intro side other otherMem
    rcases eq_or_ne side fwdt with rfl | different
    · rw [table_update_same] at otherMem
      exact (remaining other otherMem).2
    · rw [table_update_other different] at otherMem
      intro isVictim
      rcases List.mem_map.mp isVictim with ⟨victim, inVictims, sameAddr⟩
      have wasMem := (List.mem_filter.mp inVictims).1
      exact live.apart side fwdt different other otherMem victim wasMem sameAddr.symm
  · intro addr isVictim
    rcases List.mem_map.mp isVictim with ⟨victim, inVictims, rfl⟩
    exact live.below fwdt victim (List.mem_filter.mp inVictims).1

/-- The memory after `alloc_fwd_entry` and `fwd_table_add`. -/
def Memory.added (fwdt : FwdtId) (dest nxthop : DeviceId) (iface : NsoIf) (memory : Memory) :
    Memory :=
  { memory with heap := memory.heap + 1 }.update fwdt
    (FwdTable.add ⟨memory.heap, dest, nxthop, iface, .active⟩)

theorem Memory.Live.added (live : memory.Live) (nxthop : DeviceId) (iface : NsoIf) :
    (memory.added fwdt dest nxthop iface).Live := by
  have entries : ∀ side, ∀ entry ∈ ((memory.added fwdt dest nxthop iface).table side).ll,
      (side = fwdt ∧ entry.addr = memory.heap) ∨ entry ∈ (memory.table side).ll := by
    intro side entry isMem
    rcases eq_or_ne side fwdt with rfl | different
    · rw [Memory.added, table_update_same] at isMem
      rcases HashedTable.mem_ll_addTail.mp isMem with rfl | wasMem
      · exact .inl ⟨rfl, rfl⟩
      · exact .inr wasMem
    · rw [Memory.added, table_update_other different] at isMem
      exact .inr isMem
  refine ⟨?_, ?_, ?_, ?_, ?_⟩
  · intro side
    rcases eq_or_ne side fwdt with rfl | different
    · rw [Memory.added, table_update_same]
      exact (live.covers side).addTail
    · rw [Memory.added, table_update_other different]
      exact live.covers side
  · intro side entry isMem isFreed
    rcases entries side entry isMem with ⟨_, isNew⟩ | wasMem
    · have below := live.freedBelow entry.addr isFreed
      omega
    · exact live.unfreed side entry wasMem isFreed
  · intro first second different entry isMem other otherMem
    rcases entries first entry isMem with ⟨isFirst, isNew⟩ | wasMem
    · rcases entries second other otherMem with ⟨isSecond, _⟩ | otherWas
      · exact absurd (isFirst.trans isSecond.symm) different
      · have below := live.below second other otherWas
        omega
    · rcases entries second other otherMem with ⟨_, isNew⟩ | otherWas
      · have below := live.below first entry wasMem
        omega
      · exact live.apart first second different entry wasMem other otherWas
  · intro side entry isMem
    change entry.addr < memory.heap + 1
    rcases entries side entry isMem with ⟨_, isNew⟩ | wasMem
    · omega
    · have below := live.below side entry wasMem
      omega
  · intro addr isFreed
    exact Nat.lt_succ_of_lt (live.freedBelow addr isFreed)

/-! ## What the calls do alone -/

/-- The judgement that every entry that is used is live. -/
def usesLive (op : FwdOp) (memory : Memory) : Prop :=
  ∀ fwdt addr, op.Uses fwdt addr → memory.HasEntry fwdt addr

theorem usesLive_of_not_uses {op : FwdOp} (unused : ∀ fwdt addr, ¬ op.Uses fwdt addr) :
    usesLive op memory :=
  fun fwdt addr uses => absurd uses (unused fwdt addr)

theorem usesLive_of_uses {op : FwdOp} {addr : Nat} (hasEntry : memory.HasEntry fwdt addr)
    (only : ∀ other place, op.Uses other place → other = fwdt ∧ place = addr) :
    usesLive op memory := by
  intro other place uses
  rcases only other place uses with ⟨rfl, rfl⟩
  exact hasEntry

theorem ifdef_fwdThreadSafe (prog : FwdProg Unit) : ifdef .fwdThreadSafe prog = pure () := rfl

variable {allowed : FwdOp → Memory → Prop}

/-- Without its macro `fwd_table_add` takes no mutex. -/
@[simp]
theorem wp_fwdTableAdd (ending : Ending Memory FwdtId Halt Unit) :
    (fwdTableAdd fwdt entry).wp allowed ending held memory =
      (allowed (.add fwdt) memory ∧
        ending.post () held (memory.update fwdt (FwdTable.add entry))) := rfl

@[simp]
theorem wp_fwdTableDel (ending : Ending Memory FwdtId Halt Unit) :
    (fwdTableDel fwdt entry).wp allowed ending held memory =
      (allowed (.del fwdt) memory ∧
        ending.post () held (memory.update fwdt (FwdTable.del entry))) := rfl

@[simp]
theorem wp_fwdTableAging (ending : Ending Memory FwdtId Halt Unit) :
    (fwdTableAging fwdt).wp allowed ending held memory =
      (allowed (.aging fwdt) memory ∧ ending.post () held (memory.aged fwdt)) := rfl

@[simp]
theorem wp_fwdTableLookup (ending : Ending Memory FwdtId Halt (Option FwdEntry)) :
    (fwdTableLookup fwdt dest).wp allowed ending held memory =
      (allowed (.lookup fwdt) memory ∧
        ending.post (FwdTable.lookup dest (memory.table fwdt)) held memory) := rfl

/-- The hop of a destination in one table. -/
def Memory.hopIn (fwdt : FwdtId) (dst : DeviceId) (memory : Memory) :
    Option (DeviceId × NsoIf) :=
  (FwdTable.lookup dst (memory.table fwdt)).map fun entry => (entry.nxthop, entry.iface)

/-- The hop that `nso_layer_fwd` finds. -/
def Memory.hop (dst : DeviceId) (memory : Memory) : Option (DeviceId × NsoIf) :=
  (memory.hopIn .sonFwdt dst).or (memory.hopIn .localFwdt dst)

theorem wp_findHop (live : memory.Live) (free : held fwdt = false) (dst : DeviceId)
    (ending : Ending Memory FwdtId Halt (Option (DeviceId × NsoIf))) :
    (findHop fwdt dst).wp usesLive ending held memory =
      ending.post (memory.hopIn fwdt dst) held memory := by
  simp only [findHop, fwdTableLock, fwdTableUnlock, fwdTableLookupUnsafe, wp_bind, wp_acquire,
    free, Bool.false_eq_true, if_false, wp_query, Memory.hopIn]
  rw [eq_true (usesLive_of_not_uses (by simp [FwdOp.Uses])), true_and]
  cases found : FwdTable.lookup dst (memory.table fwdt) with
  | none => simp [update_release _ free]
  | some entry =>
      have used : usesLive (.readHop fwdt entry.addr) memory := by
        apply usesLive_of_uses (live.hasEntry found)
        rintro other place (same | same)
        · rw [FwdOp.readHop.injEq] at same
          exact ⟨same.1.symm, same.2.symm⟩
        · exact FwdOp.noConfusion same
      simp [used, update_release _ free]

theorem wp_nsoLayerFwd (live : memory.Live) (free : ∀ fwdt, held fwdt = false) (dst : DeviceId)
    (ending : Ending Memory FwdtId Halt (Option (DeviceId × NsoIf))) :
    (nsoLayerFwd dst).wp usesLive ending held memory =
      ending.post (memory.hop dst) held memory := by
  simp only [nsoLayerFwd, wp_bind, wp_findHop live (free .sonFwdt), Memory.hop]
  cases memory.hopIn .sonFwdt dst with
  | some found => rfl
  | none =>
      dsimp only
      rw [wp_findHop live (free .localFwdt)]
      rfl

/-- The memory after the temporary route is learned. -/
def Memory.learned (dest nxthop : DeviceId) (iface : NsoIf) (memory : Memory) : Memory :=
  match FwdTable.lookup dest (memory.table .localFwdt) with
  | some entry => memory.update .localFwdt (FwdTable.refresh entry)
  | none => memory.added .localFwdt dest nxthop iface

theorem Memory.Live.learned (live : memory.Live) (nxthop : DeviceId) (iface : NsoIf) :
    (memory.learned dest nxthop iface).Live := by
  unfold Memory.learned
  cases FwdTable.lookup dest (memory.table .localFwdt) with
  | some entry => exact live.refreshed
  | none => exact live.added nxthop iface

theorem wp_learnRoute (live : memory.Live) (free : held .localFwdt = false)
    (nxthop : DeviceId) (iface : NsoIf) (ending : Ending Memory FwdtId Halt Unit) :
    (learnRoute dest nxthop iface).wp usesLive ending held memory =
      ending.post () held (memory.learned dest nxthop iface) := by
  simp only [learnRoute, fwdTableLock, fwdTableUnlock, fwdTableLookupUnsafe, wp_bind, wp_acquire,
    free, Bool.false_eq_true, if_false, wp_query, Memory.learned]
  rw [eq_true (usesLive_of_not_uses (by simp [FwdOp.Uses])),
    true_and]
  cases found : FwdTable.lookup dest (memory.table .localFwdt) with
  | none =>
      have allocates : ∀ memory, usesLive .alloc memory :=
        fun _ => usesLive_of_not_uses (by simp [FwdOp.Uses])
      have adds : ∀ memory, usesLive (.add .localFwdt) memory :=
        fun _ => usesLive_of_not_uses (by simp [FwdOp.Uses])
      simp only [wp_bind, wp_release, update_release _ free, allocFwdEntry, wp_perform, allocates,
        true_and, wp_fwdTableAdd, adds]
      rfl
  | some entry =>
      have used : usesLive (.setActive .localFwdt entry.addr) memory := by
        apply usesLive_of_uses (live.hasEntry found)
        rintro other place (same | same)
        · exact FwdOp.noConfusion same
        · rw [FwdOp.setActive.injEq] at same
          exact ⟨same.1.symm, same.2.symm⟩
      simp only [wp_bind, wp_modify, used, true_and, wp_release, update_release _ free]

/-- The memory after the route of a destination is dropped. -/
def Memory.droppedAt (dest : DeviceId) (memory : Memory) : Memory :=
  match FwdTable.lookup dest (memory.table .sonFwdt) with
  | some entry => memory.dropped entry
  | none => memory

theorem Memory.Live.droppedAt (live : memory.Live) (dest : DeviceId) :
    (memory.droppedAt dest).Live := by
  unfold Memory.droppedAt
  cases found : FwdTable.lookup dest (memory.table .sonFwdt) with
  | some entry => exact live.dropped ((live.covers .sonFwdt).mem_of_find found)
  | none => exact live

theorem usesLive_del : usesLive (.del fwdt) memory :=
  usesLive_of_not_uses (by simp [FwdOp.Uses])

theorem usesLive_add : usesLive (.add fwdt) memory :=
  usesLive_of_not_uses (by simp [FwdOp.Uses])

theorem wp_dropRoute (ending : Ending Memory FwdtId Halt Unit) :
    (dropRoute (FwdTable.lookup dest (memory.table .sonFwdt))).wp usesLive ending held memory =
      ending.post () held (memory.droppedAt dest) := by
  unfold Memory.droppedAt
  cases FwdTable.lookup dest (memory.table .sonFwdt) with
  | none => rfl
  | some entry =>
      have frees : ∀ memory, usesLive (.free entry.addr) memory :=
        fun _ => usesLive_of_not_uses (by simp [FwdOp.Uses])
      simp only [dropRoute, wp_bind, wp_fwdTableDel, usesLive_del, true_and, freeFwdEntry,
        wp_modify, frees]
      rfl

/-- What one rule does: a rule behind the array ends the process, and so does one that adds
a route through an interface that does not exist. -/
theorem wp_applyRule (rule : RtRule) (ending : Ending Memory FwdtId Halt Unit) :
    (applyRule rule).wp usesLive ending held memory =
      if rule.ifIndex.toNat < nsoMaxSupportedIfaces then
        if rule.action = rtActionAdd then
          match memory.ifaces[rule.ifIndex.toNat]? with
          | none => ending.halt .assertion held (memory.droppedAt rule.dstId)
          | some iface =>
              ending.post () held
                ((memory.droppedAt rule.dstId).added .sonFwdt rule.dstId rule.nhId iface)
        else if rule.action = rtActionDel then
          ending.post () held (memory.droppedAt rule.dstId)
        else ending.post () held memory
      else ending.halt .outOfBounds held memory := by
  have reads : usesLive .ifaceAt memory := usesLive_of_not_uses (by simp [FwdOp.Uses])
  have looks : usesLive (.lookup .sonFwdt) memory := usesLive_of_not_uses (by simp [FwdOp.Uses])
  have allocates : ∀ memory, usesLive .alloc memory :=
    fun _ => usesLive_of_not_uses (by simp [FwdOp.Uses])
  simp only [applyRule, ruleIface, wp_bind, wp_query, reads, true_and, wp_ite, wp_pure, wp_halt,
    wp_fwdTableLookup, looks, wp_dropRoute]
  refine if_congr Iff.rfl (if_congr Iff.rfl ?_ rfl) rfl
  cases memory.ifaces[rule.ifIndex.toNat]? with
  | none => rfl
  | some iface =>
      simp only [allocFwdEntry, wp_perform, allocates, true_and, wp_fwdTableAdd, usesLive_add]
      rfl

theorem applyRule_live (live : memory.Live) (rule : RtRule)
    {post : (FwdtId → Bool) → Memory → Prop} (keeps : ∀ after, after.Live → post held after) :
    (applyRule rule).wp usesLive
      { post := fun _ => post, halt := fun _ _ _ => True } held memory := by
  rw [wp_applyRule]
  have dropped := live.droppedAt rule.dstId
  split
  · split
    · cases memory.ifaces[rule.ifIndex.toNat]? with
      | none => trivial
      | some iface => exact keeps _ (dropped.added rule.nhId iface)
    · split
      · exact keeps _ dropped
      · exact keeps _ live
  · trivial

theorem routeUpdate_live (rules : List RtRule) (live : memory.Live) :
    (routeUpdate rules).wp usesLive (Threads.returning Memory.Live) held memory := by
  induction rules generalizing memory with
  | nil => exact live
  | cons rule rules ih =>
      rw [routeUpdate, wp_bind]
      exact applyRule_live live rule fun after afterLive => ih afterLive

/-- Every call, alone, uses live entries only and leaves the tables well formed. -/
theorem call_live (call : FwdCall) (live : memory.Live) :
    call.body.wp usesLive (Threads.returning Memory.Live) (fun _ => false) memory := by
  cases call with
  | nsoLayerFwd dst =>
      simp only [FwdCall.body, wp_bind, wp_nsoLayerFwd live fun _ => rfl]
      exact live
  | fwdBeacon src nxthop iface dst =>
      have learned := @Memory.Live.learned _ src live nxthop iface
      simp only [FwdCall.body, fwdBeacon, wp_bind]
      rw [wp_learnRoute live rfl]
      dsimp only
      rw [wp_nsoLayerFwd learned fun _ => rfl]
      exact learned
  | routeUpdate rules => exact routeUpdate_live rules live
  | aging fwdt =>
      simp only [FwdCall.body, wp_fwdTableAging]
      exact ⟨usesLive_of_not_uses (by simp [FwdOp.Uses]), live.aged⟩

/-! ## The same tables as the layer -/

/-- The memory holds the tables of a node. -/
structure Memory.Of (node : Node) (memory : Memory) : Prop where
  sonFwdt : memory.table .sonFwdt = node.nsol.sonFwdt
  localFwdt : memory.table .localFwdt = node.nsol.localFwdt
  ifaces : memory.ifaces = node.nsol.ifaces
  heap : memory.heap = node.heap

variable {node : Node}

theorem Memory.Of.hop (same : memory.Of node) (dst : DeviceId) :
    memory.hop dst = node.nsol.route dst := by
  simp only [Memory.hop, Memory.hopIn, same.sonFwdt, same.localFwdt, NsoLayer.route]
  cases FwdTable.lookup dst node.nsol.sonFwdt <;> rfl

theorem Memory.Of.learned (same : memory.Of node) (dest nxthop : DeviceId) (iface : NsoIf) :
    (memory.learned dest nxthop iface).Of (node.learnedRoute dest nxthop iface) := by
  simp only [Memory.learned, same.localFwdt, Node.learnedRoute]
  cases FwdTable.lookup dest node.nsol.localFwdt with
  | some entry =>
      refine ⟨same.sonFwdt, ?_, same.ifaces, same.heap⟩
      simp only [table_update_same, same.localFwdt]
      rfl
  | none =>
      refine ⟨same.sonFwdt, ?_, same.ifaces, congrArg (· + 1) same.heap⟩
      simp only [Memory.added, table_update_same, same.localFwdt, same.heap]
      rfl

theorem Memory.Of.droppedAt (same : memory.Of node) (dest : DeviceId) :
    (memory.droppedAt dest).Of (node.droppedRoute dest) := by
  simp only [Memory.droppedAt, same.sonFwdt, Node.droppedRoute]
  cases FwdTable.lookup dest node.nsol.sonFwdt with
  | none => exact same
  | some entry =>
      refine ⟨?_, same.localFwdt, same.ifaces, same.heap⟩
      simp only [Memory.dropped, table_update_same, same.sonFwdt]
      rfl

theorem applyRule_of (same : memory.Of node) {rule : RtRule}
    (inRange : rule.ifIndex.toNat < node.nsol.ifacesNb) :
    (applyRule rule).wp usesLive
      { post := fun _ _ after => after.Of (node.appliedRule rule) } held memory := by
  have dropped := same.droppedAt rule.dstId
  have slot : node.nsol.ifaces[rule.ifIndex.toNat]? =
      some (node.nsol.ifaces.get ⟨rule.ifIndex.toNat, inRange⟩) :=
    List.getElem?_eq_getElem inRange
  rw [wp_applyRule, if_pos (lt_of_lt_of_le inRange node.nsol.ifacesFit)]
  simp only [Node.appliedRule, same.ifaces, slot]
  split
  · refine ⟨?_, dropped.localFwdt, dropped.ifaces, congrArg (· + 1) dropped.heap⟩
    simp only [Memory.added, table_update_same, dropped.sonFwdt, dropped.heap]
    rfl
  · split
    · exact dropped
    · exact same

/-- The functions of this file do to the tables what the functions of the layer do. -/
theorem routeUpdate_of {rules : List RtRule} (same : memory.Of node)
    (inRange : ∀ rule ∈ rules, rule.ifIndex.toNat < node.nsol.ifacesNb) :
    (routeUpdate rules).wp usesLive
      { post := fun _ _ after => after.Of (rules.foldl Node.appliedRule node) } held memory := by
  induction rules generalizing memory node held with
  | nil => exact same
  | cons rule rules ih =>
      rw [List.forall_mem_cons] at inRange
      rw [routeUpdate, wp_bind]
      apply wp_mono _ _ _ (applyRule_of same inRange.1)
      · intro _ held after afterSame
        apply ih afterSame
        simpa only [NsoLayer.ifacesNb, ifaces_appliedRule] using inRange.2
      · exact fun _ _ _ fails => fails
      · exact fun _ _ _ fails => fails

end Fwding

end Nrg5
