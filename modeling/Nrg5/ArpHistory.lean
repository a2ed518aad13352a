import Nrg5.Lib.AgingTable
import Nrg5.Handlers

/-!
# The ARP table over its calls

One list and two hash tables hold the same entries.  What the lookups answer depends on no
value of a hash function: the two functions are parameters here, and the table of the library
is the one of `hash_device_id` and `hash_l2addr`.
-/

namespace Nrg5

open LockProg

/-- The hash functions of the two indexes. -/
structure ArpHashes where
  devId : DeviceId → UInt32
  l2addr : L2addr → UInt32

/-- `hash_device_id` and `hash_l2addr`. -/
def ArpHashes.ofSource : ArpHashes := ⟨hashDeviceId, hashL2addr⟩

namespace ArpHashes

variable (hashes : ArpHashes)

def bucket (index : ArpIndex) (entry : ArpEntry) : Nat :=
  match index with
  | .devId => hashMin (hashes.devId entry.devId) arptHashBits
  | .l2addr => hashMin (hashes.l2addr entry.l2addr) arptHashBits

/-- `arp_table_add`, inside the lock. -/
def add (entry : ArpEntry) (table : ArpTable) : ArpTable := table.addHead hashes.bucket entry

/-- `arp_table_lookup_from_dev_id_unsafe`. -/
def lookupFromDevId (devId : DeviceId) (table : ArpTable) : Option ArpEntry :=
  table.find .devId (hashMin (hashes.devId devId) arptHashBits) fun entry => entry.devId == devId

/-- `arp_table_lookup_from_l2addr_unsafe`. -/
def lookupFromL2addr (addr : L2addr) (table : ArpTable) : Option ArpEntry :=
  table.find .l2addr (hashMin (hashes.l2addr addr) arptHashBits) fun entry => entry.l2addr == addr

/-- `arp_table_add`. -/
def tableAdd (entry : ArpEntry) : Prog Unit := do
  acquire .arpt
  modify .table (Node.updateArpt (hashes.add entry))
  release .arpt

/-- `arp_table_lookup_from_dev_id`. -/
def tableLookupFromDevId (devId : DeviceId) : Prog (Option ArpEntry) := do
  acquire .arpt
  let pos ← query .table fun node => hashes.lookupFromDevId devId node.nsol.arpt
  release .arpt
  pure pos

/-- `arp_table_lookup_from_l2addr`. -/
def tableLookupFromL2addr (addr : L2addr) : Prog (Option ArpEntry) := do
  acquire .arpt
  let pos ← query .table fun node => hashes.lookupFromL2addr addr node.nsol.arpt
  release .arpt
  pure pos

/-- A refresh is the locked write of a handler. -/
def call : AgingCall ArpEntry → Prog Unit
  | .add entry => hashes.tableAdd entry
  | .del entry => arpTableDel entry
  | .refresh entry => do
      acquire .arpt
      modify .table (Node.updateArpt (ArpTable.refresh entry))
      release .arpt
  | .aging => arpTableAging

/-- What a call does to the table. -/
def apply : AgingCall ArpEntry → ArpTable → ArpTable
  | .add entry => hashes.add entry
  | .del entry => ArpTable.del entry
  | .refresh entry => ArpTable.refresh entry
  | .aging => ArpTable.aging

/-- How the entries of the table age. -/
def kind : AgingKind ArpIndex ArpEntry where
  bucket := hashes.bucket
  addr := ArpEntry.addr
  expired entry := entry.status == .expired
  mark entry := { entry with status := .expired }
  clear entry := { entry with status := .active }
  expired_mark _ := rfl
  expired_clear _ := rfl
  addr_mark _ := rfl
  addr_clear _ := rfl
  bucket_mark index _ := by cases index <;> rfl
  bucket_clear index _ := by cases index <;> rfl

theorem apply_eq : hashes.apply = hashes.kind.apply := by
  funext call table
  cases call <;> rfl

end ArpHashes

theorem arp_ofSource :
    ArpHashes.ofSource.tableAdd = arpTableAdd ∧
      ArpHashes.ofSource.tableLookupFromDevId = arpTableLookupFromDevId ∧
      ArpHashes.ofSource.tableLookupFromL2addr = arpTableLookupFromL2addr ∧
      ArpHashes.ofSource.lookupFromDevId = ArpTable.lookupFromDevId ∧
      ArpHashes.ofSource.lookupFromL2addr = ArpTable.lookupFromL2addr :=
  ⟨rfl, rfl, rfl, rfl, rfl⟩

/-! ## The calls -/

namespace ArpHashes

variable {hashes : ArpHashes} {node : Node} {history : List (AgingCall ArpEntry)}

theorem exec_call (call : AgingCall ArpEntry) :
    ((hashes.call call).exec (fun _ => false) node).result = .done () ∧
      ((hashes.call call).exec (fun _ => false) node).held = (fun _ => false) ∧
      ((hashes.call call).exec (fun _ => false) node).state =
        node.updateArpt (hashes.apply call) := by
  have returns : (hashes.call call).wp (fun _ _ => True)
      { post := fun _ held after =>
          held = (fun _ => false) ∧ after = node.updateArpt (hashes.apply call) }
      (fun _ => false) node := by
    cases call with
    | add entry => simp [ArpHashes.call, tableAdd, apply]
    | del entry => simp [ArpHashes.call, arpTableDel, apply]
    | refresh entry => simp [ArpHashes.call, apply]
    | aging => simp [ArpHashes.call, arpTableAging, apply]
  rcases (wp_done_iff_exec _ _).mp returns with ⟨-, value, isDone, isHeld, isAfter⟩
  exact ⟨isDone, isHeld, isAfter⟩

/-- The node after some calls, one after another. -/
def nodeAfter (hashes : ArpHashes) (history : List (AgingCall ArpEntry)) (node : Node) : Node :=
  history.foldl (fun node call => ((hashes.call call).exec (fun _ => false) node).state) node

theorem nodeAfter_eq : hashes.nodeAfter history node = node.updateArpt fun table =>
    history.foldl (fun table call => hashes.apply call table) table := by
  induction history generalizing node with
  | nil => rfl
  | cons call rest ih =>
      rw [nodeAfter, List.foldl_cons, (exec_call call).2.2]
      exact ih

theorem exec_tableLookupFromDevId (devId : DeviceId) :
    ((hashes.tableLookupFromDevId devId).exec (fun _ => false) node).result =
      .done (hashes.lookupFromDevId devId node.nsol.arpt) := by
  have returns : (hashes.tableLookupFromDevId devId).wp (fun _ _ => True)
      { post := fun value _ _ => value = hashes.lookupFromDevId devId node.nsol.arpt }
      (fun _ => false) node := by
    simp [tableLookupFromDevId]
  rcases (wp_done_iff_exec _ _).mp returns with ⟨-, value, isDone, rfl⟩
  exact isDone

theorem exec_tableLookupFromL2addr (addr : L2addr) :
    ((hashes.tableLookupFromL2addr addr).exec (fun _ => false) node).result =
      .done (hashes.lookupFromL2addr addr node.nsol.arpt) := by
  have returns : (hashes.tableLookupFromL2addr addr).wp (fun _ _ => True)
      { post := fun value _ _ => value = hashes.lookupFromL2addr addr node.nsol.arpt }
      (fun _ => false) node := by
    simp [tableLookupFromL2addr]
  rcases (wp_done_iff_exec _ _).mp returns with ⟨-, value, isDone, rfl⟩
  exact isDone

end ArpHashes

/-! ## The end of a table -/

namespace ArpTable

/-- `arp_table_destroy`: the freed entries, and what is left of the table.  The head of an empty
list is no entry. -/
def destroy (table : ArpTable) : Option (List Nat × ArpTable) :=
  if table.size = 0 then some ([], { table with size := table.size - 1 })
  else match _isList : table.ll with
    | [] => none
    | entry :: _ =>
        (destroy (del entry table)).map fun (freed, after) => (entry.addr :: freed, after)
termination_by table.ll.length
decreasing_by
  rw [del, HashedTable.unlink, _isList, List.filter_cons_of_neg (by simp), List.length_cons]
  exact Nat.lt_succ_of_le (List.length_filter_le _ _)

theorem destroy_sound {bucket : ArpIndex → ArpEntry → Nat} {table : ArpTable}
    (sound : table.Sound bucket ArpEntry.addr) :
    destroy table =
      some (table.ll.map ArpEntry.addr, { size := -1, ll := [], chains := fun _ _ => [] }) := by
  rcases table with ⟨size, ll, chains⟩
  induction ll generalizing size chains with
  | nil =>
      have isZero : size = 0 := sound.size
      have noChains : chains = fun _ _ => [] := by
        funext index slot
        exact sound.chains index slot
      rw [destroy, if_pos isZero, isZero, noChains]
      rfl
  | cons entry rest ih =>
      have notZero : ¬ size = 0 := by
        have counted : size = (entry :: rest).length := sound.size
        rw [counted, List.length_cons]
        omega
      have isRest : (del entry ⟨size, entry :: rest, chains⟩).ll = rest := by
        rw [del, HashedTable.unlink, List.filter_cons_of_neg (by simp), List.filter_eq_self]
        intro other isMem
        have isOther := (List.nodup_cons.mp sound.distinct).1
        rw [Bool.not_eq_true', beq_eq_false_iff_ne]
        exact fun same => isOther (List.mem_map.mpr ⟨other, isMem, same⟩)
      have smaller : (del entry ⟨size, entry :: rest, chains⟩).Sound bucket ArpEntry.addr :=
        sound.unlink List.mem_cons_self
      rw [destroy, if_neg notZero]
      dsimp only
      rcases isDel : del entry ⟨size, entry :: rest, chains⟩ with ⟨size', ll', chains'⟩
      rw [isDel] at isRest smaller
      cases isRest
      rw [ih size' chains' smaller]
      rfl

end ArpTable

/-! ## What the table represents -/

namespace ArpHashes

/-- The list of a node holds the entries that were added and neither deleted nor aged out since,
with the marks that the calls left.  The two hash tables hold the same entries, each of them once
and in its own bucket, and the size counts them.  Both kinds of lookup answer with the newest
entry, and the end of the table frees every entry once. -/
structure Represents (hashes : ArpHashes) (history : List (AgingCall ArpEntry)) (node : Node) :
    Prop where
  entries : ∀ entry, entry ∈ node.nsol.arpt.ll ↔
    (∃ status, hashes.kind.Lives history { entry with status := status }) ∧
      (entry.status = .expired ↔ hashes.kind.Marked history entry.addr)
  onceInList : (node.nsol.arpt.ll.map ArpEntry.addr).Nodup
  onceInChain : ∀ index slot, ((node.nsol.arpt.chains index slot).map ArpEntry.addr).Nodup
  inOwnBucket : ∀ index slot entry, entry ∈ node.nsol.arpt.chains index slot ↔
    entry ∈ node.nsol.arpt.ll ∧ hashes.bucket index entry = slot
  size : node.nsol.arpt.size = node.nsol.arpt.ll.length
  byDevId : ∀ devId, hashes.kind.NewestOf history node.nsol.arpt.ll
    (fun entry => entry.devId == devId) (hashes.lookupFromDevId devId node.nsol.arpt)
  byL2addr : ∀ addr, hashes.kind.NewestOf history node.nsol.arpt.ll
    (fun entry => entry.l2addr == addr) (hashes.lookupFromL2addr addr node.nsol.arpt)
  lockedByDevId : ∀ devId,
    ((hashes.tableLookupFromDevId devId).exec (fun _ => false) node).result =
      .done (hashes.lookupFromDevId devId node.nsol.arpt)
  lockedByL2addr : ∀ addr,
    ((hashes.tableLookupFromL2addr addr).exec (fun _ => false) node).result =
      .done (hashes.lookupFromL2addr addr node.nsol.arpt)
  freedOnce : ∃ after, ArpTable.destroy node.nsol.arpt =
    some (node.nsol.arpt.ll.map ArpEntry.addr, after) ∧ after.ll = []

variable {hashes : ArpHashes} {node : Node} {history : List (AgingCall ArpEntry)}

/-- An entry apart from its status, which is all that the calls write. -/
def withoutStatus (entry : ArpEntry) : ArpEntry := { entry with status := .active }

theorem addr_eq_of_withoutStatus {first second : ArpEntry}
    (same : withoutStatus first = withoutStatus second) : first.addr = second.addr := by
  have sameAddr := congrArg ArpEntry.addr same
  exact sameAddr

theorem withoutStatus_inj {first second : ArpEntry}
    (same : withoutStatus first = withoutStatus second) :
    first = { second with status := first.status } := by
  rcases first with ⟨addr, devId, l2addr, status⟩
  rcases second with ⟨addr', devId', l2addr', status'⟩
  simp only [withoutStatus, ArpEntry.mk.injEq, and_true] at same ⊢
  exact same

theorem status_eq_of_iff {first second : EntryStatus}
    (same : first = .expired ↔ second = .expired) : first = second := by
  cases first with
  | active =>
      cases second with
      | active => rfl
      | expired => exact same.mpr rfl
  | expired => exact (same.mp rfl).symm

theorem mem_ll_iff (reflects : hashes.kind.Reflects withoutStatus history node.nsol.arpt)
    (entry : ArpEntry) : entry ∈ node.nsol.arpt.ll ↔
      (∃ status, hashes.kind.Lives history { entry with status := status }) ∧
        (entry.status = .expired ↔ hashes.kind.Marked history entry.addr) := by
  have marks : ∀ other ∈ node.nsol.arpt.ll,
      other.status = .expired ↔ hashes.kind.Marked history other.addr := by
    intro other isMem
    rw [← beq_iff_eq]
    exact reflects.marks other isMem
  constructor
  · intro isMem
    rcases (reflects.holds _).mp (List.mem_map_of_mem isMem) with ⟨added, isLiving, same⟩
    rw [withoutStatus_inj same] at isLiving
    exact ⟨⟨_, isLiving⟩, marks entry isMem⟩
  · rintro ⟨⟨status, isLiving⟩, isMarked⟩
    rcases List.mem_map.mp ((reflects.holds _).mpr ⟨_, isLiving, rfl⟩) with ⟨other, isMem, same⟩
    have isMarkedOther := marks other isMem
    rw [addr_eq_of_withoutStatus same, ← isMarked] at isMarkedOther
    have isEntry : other = entry := by
      rw [withoutStatus_inj same, status_eq_of_iff isMarkedOther]
    rw [← isEntry]
    exact isMem

theorem represents_of_ordered (ordered : hashes.kind.Ordered history node.nsol.arpt)
    (reflects : hashes.kind.Reflects withoutStatus history node.nsol.arpt) :
    hashes.Represents history node := by
  refine ⟨mem_ll_iff reflects, ordered.sound.distinct, ?_, ?_, ordered.sound.size, ?_, ?_,
    exec_tableLookupFromDevId, exec_tableLookupFromL2addr, _,
    ArpTable.destroy_sound ordered.sound, rfl⟩
  · intro index slot
    rw [ordered.sound.chains]
    exact ordered.sound.distinct.sublist (List.filter_sublist.map _)
  · intro index slot entry
    rw [ordered.sound.chains, List.mem_filter, beq_iff_eq]
    rfl
  · intro devId
    apply ordered.find_newest
    intro entry isMatch
    dsimp only [kind, bucket]
    rw [beq_iff_eq.mp isMatch]
  · intro addr
    apply ordered.find_newest
    intro entry isMatch
    dsimp only [kind, bucket]
    rw [beq_iff_eq.mp isMatch]

end ArpHashes

/-- Whatever the hash functions are, after every sequence of calls on new and present entries the
table represents its entries. -/
theorem arp_table_represents (hashes : ArpHashes) (node : Node)
    (history : List (AgingCall ArpEntry)) (isEmpty : node.nsol.arpt = .empty)
    (fitting : Fitting ArpEntry.addr hashes.apply .empty history) :
    hashes.Represents history (hashes.nodeAfter history node) := by
  rw [hashes.apply_eq] at fitting
  have isTable : (hashes.nodeAfter history node).nsol.arpt =
      tableAfter hashes.kind.apply history := by
    rw [ArpHashes.nodeAfter_eq, hashes.apply_eq]
    dsimp only [Node.updateArpt, Node.updateLayer]
    rw [isEmpty]
    rfl
  apply ArpHashes.represents_of_ordered
  · rw [isTable]
    exact hashes.kind.ordered_after fitting
  · rw [isTable]
    exact AgingKind.reflects_after fitting (fun _ _ => ArpHashes.addr_eq_of_withoutStatus)
      (fun _ => rfl) fun _ => rfl

/-- Two entries for one device in one bucket, of which the newer one is deleted. -/
def shadowed : List (AgingCall ArpEntry) :=
  [.add ⟨1, 7, [2, 0, 0, 0, 0, 1], .active⟩, .add ⟨2, 7, [2, 0, 0, 0, 0, 2], .active⟩, .aging,
    .del ⟨2, 7, [2, 0, 0, 0, 0, 2], .active⟩]

theorem shadowed_represents :
    ArpHashes.Represents ⟨fun _ => 0, fun _ => 0⟩ shadowed
      (ArpHashes.nodeAfter ⟨fun _ => 0, fun _ => 0⟩ shadowed
        (Node.start (NsoLayer.initial 1 0 1500 [wlan0] wlan0_fits) .nominal)) :=
  arp_table_represents _ _ shadowed rfl (by decide)

end Nrg5
