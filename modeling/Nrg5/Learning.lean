import Nrg5.HandlerRules

/-!
# What a handler learns

Every handler learns in two critical sections: it looks a key up and, when the
lookup found nothing, it adds an entry later.  This file gives the two sections for
the ARP table, the temporary routes and the neighbour table, and what each of them
does to the keys of the tables.
-/

namespace Nrg5

/-- The tables that the receive threads learn into. -/
inductive LearnedTable : Type where
  | arpt
  | localFwdt
  | nbrt
deriving DecidableEq

/-- The keys of a table, one for each entry. -/
def Node.keysOf (table : LearnedTable) (node : Node) : List DeviceId :=
  match table with
  | .arpt => node.nsol.arpt.ll.map ArpEntry.devId
  | .localFwdt => node.nsol.localFwdt.ll.map FwdEntry.dest
  | .nbrt => node.nsol.nbrt.ll.map NbrEntry.devId

/-- No table holds two entries with the same key. -/
def Node.UniqueKeys (node : Node) : Prop := ∀ table, (node.keysOf table).Nodup

/-- The chains of the learned tables hold what their lists hold. -/
structure Node.Covered (node : Node) : Prop where
  arpt : node.nsol.arpt.Covers ArpTable.bucket
  localFwdt : node.nsol.localFwdt.Covers FwdTable.bucket
  nbrt : node.nsol.nbrt.Covers NbrTable.bucket

/-- The learned tables and the registration state are the same. -/
structure Node.SameLearned (node after : Node) : Prop where
  arpt : after.nsol.arpt = node.nsol.arpt
  localFwdt : after.nsol.localFwdt = node.nsol.localFwdt
  nbrt : after.nsol.nbrt = node.nsol.nbrt
  devState : after.nsol.devState = node.nsol.devState

variable {node mid after : Node}

theorem Node.SameLearned.refl (node : Node) : node.SameLearned node := ⟨rfl, rfl, rfl, rfl⟩

theorem Node.SameLearned.trans (first : node.SameLearned mid) (second : mid.SameLearned after) :
    node.SameLearned after :=
  ⟨second.arpt.trans first.arpt, second.localFwdt.trans first.localFwdt,
    second.nbrt.trans first.nbrt, second.devState.trans first.devState⟩

theorem Node.SameLearned.of_nsol (same : after.nsol = node.nsol) : node.SameLearned after := by
  refine ⟨?_, ?_, ?_, ?_⟩ <;> rw [same]

theorem Node.SameLearned.keysOf (same : node.SameLearned after) (table : LearnedTable) :
    after.keysOf table = node.keysOf table := by
  cases table with
  | arpt => simp only [Node.keysOf, same.arpt]
  | localFwdt => simp only [Node.keysOf, same.localFwdt]
  | nbrt => simp only [Node.keysOf, same.nbrt]

theorem Node.SameLearned.covered (same : node.SameLearned after) (covered : node.Covered) :
    after.Covered := by
  refine ⟨?_, ?_, ?_⟩
  · rw [same.arpt]
    exact covered.arpt
  · rw [same.localFwdt]
    exact covered.localFwdt
  · rw [same.nbrt]
    exact covered.nbrt

/-- The node after the registration stores its gateway. -/
def Node.connectedTo (gwId : DeviceId) (node : Node) : Node :=
  node.updateLayer fun layer => { layer with gwId := gwId, devState := .connected }

theorem covered_connectedTo (covered : node.Covered) (gwId : DeviceId) :
    (node.connectedTo gwId).Covered :=
  ⟨covered.arpt, covered.localFwdt, covered.nbrt⟩

@[simp]
theorem keysOf_connectedTo (table : LearnedTable) (gwId : DeviceId) (node : Node) :
    (node.connectedTo gwId).keysOf table = node.keysOf table := by
  cases table <;> rfl

/-- What a handler learns from a packet. -/
inductive Learning : Type where
  | arp (devId : DeviceId) (mac : L2addr)
  | route (dest nxthop : DeviceId) (iface : NsoIf)
  | nbr (devId : DeviceId) (iface : NsoIf)
deriving DecidableEq

namespace Learning

def table : Learning → LearnedTable
  | .arp _ _ => .arpt
  | .route _ _ _ => .localFwdt
  | .nbr _ _ => .nbrt

def devId : Learning → DeviceId
  | .arp devId _ => devId
  | .route dest _ _ => dest
  | .nbr devId _ => devId

/-- The locked lookup finds an entry. -/
def known (node : Node) : Learning → Bool
  | .arp devId _ => (ArpTable.lookupFromDevId devId node.nsol.arpt).isSome
  | .route dest _ _ => (FwdTable.lookup dest node.nsol.localFwdt).isSome
  | .nbr devId _ => (NbrTable.lookup devId node.nsol.nbrt).isSome

/-- The node after a lookup that finds an entry: it is refreshed under the same lock. -/
def refreshed (node : Node) : Learning → Node
  | .arp devId _ =>
      match ArpTable.lookupFromDevId devId node.nsol.arpt with
      | some entry => node.updateArpt (ArpTable.refresh entry)
      | none => node
  | .route dest _ _ =>
      match FwdTable.lookup dest node.nsol.localFwdt with
      | some entry => node.updateLocalFwdt (FwdTable.refresh entry)
      | none => node
  | .nbr devId _ =>
      match NbrTable.lookup devId node.nsol.nbrt with
      | some entry => node.updateNbrt (NbrTable.refresh entry)
      | none => node

/-- The node after the addition of a new entry. -/
def added (node : Node) : Learning → Node
  | .arp devId mac =>
      { node with heap := node.heap + 1 }.updateArpt
        (ArpTable.add ⟨node.heap, devId, mac, .active⟩)
  | .route dest nxthop iface =>
      { node with heap := node.heap + 1 }.updateLocalFwdt
        (FwdTable.add ⟨node.heap, dest, nxthop, iface, .active⟩)
  | .nbr devId iface =>
      { node with heap := node.heap + 1 }.updateNbrt
        (NbrTable.add ⟨node.heap, devId, 1, some iface, .active⟩)

/-- The node after both sections without a thread in between. -/
def learned (node : Node) : Learning → Node
  | .arp devId mac => node.learnedArp devId mac
  | .route dest nxthop iface => node.learnedRoute dest nxthop iface
  | .nbr devId iface => node.learnedNbr devId (some iface)

variable {item : Learning} {table : LearnedTable}

theorem learned_eq :
    item.learned node =
      if item.known node = true then item.refreshed node else item.added node := by
  cases item with
  | arp devId mac =>
      cases found : ArpTable.lookupFromDevId devId node.nsol.arpt <;>
        simp [learned, known, refreshed, added, Node.learnedArp, found]
  | route dest nxthop iface =>
      cases found : FwdTable.lookup dest node.nsol.localFwdt <;>
        simp [learned, known, refreshed, added, Node.learnedRoute, found]
  | nbr devId iface =>
      cases found : NbrTable.lookup devId node.nsol.nbrt <;>
        simp [learned, known, refreshed, added, Node.learnedNbr, found]

/-! ## What the sections do to the keys -/

theorem known_iff (covered : node.Covered) :
    item.known node = true ↔ item.devId ∈ node.keysOf item.table := by
  cases item with
  | arp devId mac =>
      simp only [known, ArpTable.lookupFromDevId, Learning.devId, Learning.table, Node.keysOf,
        List.mem_map]
      rw [covered.arpt.find_isSome]
      · simp only [beq_iff_eq]
      · intro entry isMatch
        simp only [ArpTable.bucket, beq_iff_eq.mp isMatch]
  | route dest nxthop iface =>
      simp only [known, FwdTable.lookup, Learning.devId, Learning.table, Node.keysOf,
        List.mem_map]
      rw [covered.localFwdt.find_isSome]
      · simp only [beq_iff_eq]
      · intro entry isMatch
        simp only [FwdTable.bucket, beq_iff_eq.mp isMatch]
  | nbr devId iface =>
      simp only [known, NbrTable.lookup, Learning.devId, Learning.table, Node.keysOf,
        List.mem_map]
      rw [covered.nbrt.find_isSome]
      · simp only [beq_iff_eq]
      · intro entry isMatch
        simp only [NbrTable.bucket, beq_iff_eq.mp isMatch]

theorem keysOf_refreshed : (item.refreshed node).keysOf table = node.keysOf table := by
  cases item with
  | arp devId mac =>
      simp only [refreshed]
      cases ArpTable.lookupFromDevId devId node.nsol.arpt with
      | none => rfl
      | some entry => cases table with
        | arpt => exact HashedTable.map_ll_write fun _ => rfl
        | localFwdt => rfl
        | nbrt => rfl
  | route dest nxthop iface =>
      simp only [refreshed]
      cases FwdTable.lookup dest node.nsol.localFwdt with
      | none => rfl
      | some entry => cases table with
        | arpt => rfl
        | localFwdt => exact HashedTable.map_ll_write fun _ => rfl
        | nbrt => rfl
  | nbr devId iface =>
      simp only [refreshed]
      cases NbrTable.lookup devId node.nsol.nbrt with
      | none => rfl
      | some entry => cases table with
        | arpt => rfl
        | localFwdt => rfl
        | nbrt => exact HashedTable.map_ll_write fun _ => rfl

theorem keysOf_added :
    ((item.added node).keysOf item.table).Perm (item.devId :: node.keysOf item.table) := by
  cases item with
  | arp devId mac => exact .refl _
  | route dest nxthop iface =>
      simp only [added, Learning.table, Learning.devId, Node.keysOf, Node.updateLocalFwdt,
        Node.updateLayer, FwdTable.add, HashedTable.addTail, List.map_append, List.map_cons,
        List.map_nil]
      exact List.perm_append_singleton _ _
  | nbr devId iface => exact .refl _

theorem keysOf_added_other (different : table ≠ item.table) :
    (item.added node).keysOf table = node.keysOf table := by
  cases item <;> cases table <;> first | rfl | exact absurd rfl different

theorem mem_keysOf_added {devId : DeviceId} :
    devId ∈ (item.added node).keysOf table ↔
      (table = item.table ∧ devId = item.devId) ∨ devId ∈ node.keysOf table := by
  rcases eq_or_ne table item.table with rfl | different
  · simp only [keysOf_added.mem_iff, List.mem_cons, true_and]
  · simp only [keysOf_added_other different, different, false_and, false_or]

theorem uniqueKeys_added (unique : node.UniqueKeys)
    (absent : item.devId ∉ node.keysOf item.table) : (item.added node).UniqueKeys := by
  intro table
  rcases eq_or_ne table item.table with rfl | different
  · rw [keysOf_added.nodup_iff]
    exact List.nodup_cons.mpr ⟨absent, unique item.table⟩
  · rw [keysOf_added_other different]
    exact unique table

theorem covered_refreshed (covered : node.Covered) : (item.refreshed node).Covered := by
  cases item with
  | arp devId mac =>
      simp only [refreshed]
      cases ArpTable.lookupFromDevId devId node.nsol.arpt with
      | none => exact covered
      | some entry =>
          refine ⟨covered.arpt.write ?_, covered.localFwdt, covered.nbrt⟩
          intro index entry
          cases index <;> rfl
  | route dest nxthop iface =>
      simp only [refreshed]
      cases FwdTable.lookup dest node.nsol.localFwdt with
      | none => exact covered
      | some entry => exact ⟨covered.arpt, covered.localFwdt.write fun _ _ => rfl, covered.nbrt⟩
  | nbr devId iface =>
      simp only [refreshed]
      cases NbrTable.lookup devId node.nsol.nbrt with
      | none => exact covered
      | some entry => exact ⟨covered.arpt, covered.localFwdt, covered.nbrt.write fun _ _ => rfl⟩

theorem covered_added (covered : node.Covered) : (item.added node).Covered := by
  cases item with
  | arp devId mac => exact ⟨covered.arpt.addHead, covered.localFwdt, covered.nbrt⟩
  | route dest nxthop iface => exact ⟨covered.arpt, covered.localFwdt.addTail, covered.nbrt⟩
  | nbr devId iface => exact ⟨covered.arpt, covered.localFwdt, covered.nbrt.addHead⟩

@[simp]
theorem devState_refreshed : (item.refreshed node).nsol.devState = node.nsol.devState := by
  cases item with
  | arp devId mac =>
      simp only [refreshed]
      cases ArpTable.lookupFromDevId devId node.nsol.arpt <;> rfl
  | route dest nxthop iface =>
      simp only [refreshed]
      cases FwdTable.lookup dest node.nsol.localFwdt <;> rfl
  | nbr devId iface =>
      simp only [refreshed]
      cases NbrTable.lookup devId node.nsol.nbrt <;> rfl

@[simp]
theorem devState_added : (item.added node).nsol.devState = node.nsol.devState := by
  cases item <;> rfl

end Learning

end Nrg5
