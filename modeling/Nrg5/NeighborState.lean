import Nrg5.HandlerRules

/-!
# Neighbour advertisements

A neighbour says who it is by a broadcast; the source address and the interface are those of
the frame.  The handler refreshes the entries that it finds, as they are.
-/

namespace Nrg5

open LockProg

/-- An advertisement with the source address of its frame and the interface it came in on. -/
structure NeighborFrame where
  pkt : Packet
  src : L2addr
  iface : NsoIf

def NeighborFrame.devId (advertised : NeighborFrame) : DeviceId := advertised.pkt.srcDevid

/-- The node after an advertisement that it handles alone, with all mutexes free. -/
def Node.advertisedBy (node : Node) (advertised : NeighborFrame) : Node :=
  ((neighborMaintain advertised.pkt (some advertised.src) (some advertised.iface)).exec
    (fun _ => false) node).state

/-- The MAC that the ARP lookup of a device answers. -/
def Node.macOf (node : Node) (devId : DeviceId) : Option L2addr :=
  (ArpTable.lookupFromDevId devId node.nsol.arpt).map ArpEntry.l2addr

/-- The interface that the neighbour lookup of a device answers. -/
def Node.ifaceOf (node : Node) (devId : DeviceId) : Option (Option NsoIf) :=
  (NbrTable.lookup devId node.nsol.nbrt).map NbrEntry.iface

/-- The neighbour lookup of a device answers with an active entry. -/
def Node.HearsActive (node : Node) (devId : DeviceId) : Prop :=
  ∃ entry, NbrTable.lookup devId node.nsol.nbrt = some entry ∧ entry.status = .active

def firstOf (devId : DeviceId) (sequence : List NeighborFrame) : Option NeighborFrame :=
  sequence.find? fun advertised => advertised.devId == devId

def latestOf (devId : DeviceId) (sequence : List NeighborFrame) : Option NeighborFrame :=
  firstOf devId sequence.reverse

variable {node : Node} {devId : DeviceId} {advertised : NeighborFrame}
  {sequence : List NeighborFrame}

theorem NbrTable.lookup_add {table : NbrTable} {entry : NbrEntry} :
    NbrTable.lookup devId (NbrTable.add entry table) =
      if entry.devId = devId then some entry else NbrTable.lookup devId table := by
  split
  · rename_i same
    apply HashedTable.find_addHead_same
    · simp only [bucket, same]
    · simpa using same
  · rename_i different
    apply HashedTable.find_addHead_other
    simpa using different

theorem NbrTable.lookup_refresh {table : NbrTable} {entry : NbrEntry} :
    NbrTable.lookup devId (NbrTable.refresh entry table) =
      (NbrTable.lookup devId table).map fun other =>
        if other.addr == entry.addr then { other with status := .active } else other :=
  HashedTable.find_write fun _ => rfl

/-! ## One advertisement -/

theorem advertisedBy_eq : node.advertisedBy advertised =
    (node.learnedArp advertised.devId advertised.src).learnedNbr advertised.devId
      (some advertised.iface) := by
  have returns : (neighborMaintain advertised.pkt (some advertised.src)
      (some advertised.iface)).wp (fun _ _ => True)
      { post := fun _ _ after => after =
          (node.learnedArp advertised.devId advertised.src).learnedNbr advertised.devId
            (some advertised.iface) } (fun _ => false) node := by
    rw [wp_neighborMaintain_air tolerant_true ⟨rfl, rfl, rfl, rfl⟩, if_neg Bool.false_ne_true]
    rfl
  rcases (wp_done_iff_exec _ _).mp returns with ⟨-, value, -, isAfter⟩
  exact isAfter

/-- The MAC of a device is learned once. -/
theorem macOf_advertisedBy : (node.advertisedBy advertised).macOf devId =
    (node.macOf devId).or
      (if advertised.devId = devId then some advertised.src else none) := by
  have sameTable : (node.advertisedBy advertised).macOf devId =
      (node.learnedArp advertised.devId advertised.src).macOf devId := by
    rw [advertisedBy_eq, Node.learnedNbr]
    cases NbrTable.lookup advertised.devId
      (node.learnedArp advertised.devId advertised.src).nsol.nbrt <;> rfl
  rw [sameTable, Node.learnedArp]
  cases known : ArpTable.lookupFromDevId advertised.devId node.nsol.arpt with
  | some entry =>
      dsimp only [Node.macOf, Node.updateArpt, Node.updateLayer]
      rw [ArpTable.lookupFromDevId_refresh, Option.map_map]
      have keepsMac : (ArpEntry.l2addr ∘ fun other : ArpEntry =>
          if other.addr == entry.addr then { other with status := .active } else other) =
          ArpEntry.l2addr := by
        funext other
        rw [Function.comp_apply]
        split <;> rfl
      rw [keepsMac]
      split
      · rename_i isSame
        rw [← isSame, known]
        rfl
      · rw [Option.or_none]
  | none =>
      dsimp only [Node.macOf, Node.updateArpt, Node.updateLayer]
      rw [ArpTable.lookupFromDevId_add]
      split
      · rename_i isSame
        rw [← isSame, known]
        rfl
      · rw [Option.or_none]

theorem ifaceOf_advertisedBy : (node.advertisedBy advertised).ifaceOf devId =
    (node.ifaceOf devId).or
      (if advertised.devId = devId then some (some advertised.iface) else none) := by
  have sameTable : (node.learnedArp advertised.devId advertised.src).nsol.nbrt =
      node.nsol.nbrt := by
    rw [Node.learnedArp]
    cases ArpTable.lookupFromDevId advertised.devId node.nsol.arpt <;> rfl
  rw [advertisedBy_eq, Node.learnedNbr, sameTable]
  cases known : NbrTable.lookup advertised.devId node.nsol.nbrt with
  | some entry =>
      dsimp only [Node.ifaceOf, Node.updateNbrt, Node.updateLayer]
      rw [sameTable, NbrTable.lookup_refresh, Option.map_map]
      have keepsIface : (NbrEntry.iface ∘ fun other : NbrEntry =>
          if other.addr == entry.addr then { other with status := .active } else other) =
          NbrEntry.iface := by
        funext other
        rw [Function.comp_apply]
        split <;> rfl
      rw [keepsIface]
      split
      · rename_i isSame
        rw [← isSame, known]
        rfl
      · rw [Option.or_none]
  | none =>
      dsimp only [Node.ifaceOf, Node.updateNbrt, Node.updateLayer]
      rw [sameTable, NbrTable.lookup_add]
      split
      · rename_i isSame
        rw [← isSame, known]
        rfl
      · rw [Option.or_none]

theorem hearsActive_advertisedBy
    (active : node.HearsActive devId ∨ advertised.devId = devId) :
    (node.advertisedBy advertised).HearsActive devId := by
  have sameTable : (node.learnedArp advertised.devId advertised.src).nsol.nbrt =
      node.nsol.nbrt := by
    rw [Node.learnedArp]
    cases ArpTable.lookupFromDevId advertised.devId node.nsol.arpt <;> rfl
  rw [advertisedBy_eq, Node.learnedNbr, sameTable]
  cases known : NbrTable.lookup advertised.devId node.nsol.nbrt with
  | some entry =>
      dsimp only [Node.HearsActive, Node.updateNbrt, Node.updateLayer]
      rw [sameTable, NbrTable.lookup_refresh]
      rcases active with ⟨other, found, isActive⟩ | rfl
      · rw [found]
        refine ⟨_, rfl, ?_⟩
        dsimp only
        split
        · rfl
        · exact isActive
      · rw [known]
        refine ⟨_, rfl, ?_⟩
        dsimp only
        rw [if_pos (beq_self_eq_true _)]
  | none =>
      dsimp only [Node.HearsActive, Node.updateNbrt, Node.updateLayer]
      rw [sameTable, NbrTable.lookup_add]
      split
      · exact ⟨_, rfl, rfl⟩
      · rename_i isOther
        rcases active with isActive | isSame
        · exact isActive
        · exact absurd isSame isOther

/-! ## A sequence of advertisements -/

theorem firstOf_append : firstOf devId (sequence ++ [advertised]) =
    (firstOf devId sequence).or (if advertised.devId = devId then some advertised else none) := by
  rw [firstOf, List.find?_append, List.find?_singleton]
  simp only [beq_iff_eq]
  rfl

/-- The first advertisement of a device that the node did not know decides its MAC. -/
theorem macOf_run : (sequence.foldl Node.advertisedBy node).macOf devId =
    (node.macOf devId).or ((firstOf devId sequence).map NeighborFrame.src) := by
  induction sequence using List.reverseRecOn with
  | nil => exact (Option.or_none).symm
  | append_singleton sequence advertised ih =>
      rw [List.foldl_append, List.foldl_cons, List.foldl_nil, macOf_advertisedBy, ih,
        firstOf_append, Option.or_assoc]
      congr 1
      cases firstOf devId sequence with
      | some first => rfl
      | none => split <;> rfl

theorem ifaceOf_run : (sequence.foldl Node.advertisedBy node).ifaceOf devId =
    (node.ifaceOf devId).or
      ((firstOf devId sequence).map fun advertised => some advertised.iface) := by
  induction sequence using List.reverseRecOn with
  | nil => exact (Option.or_none).symm
  | append_singleton sequence advertised ih =>
      rw [List.foldl_append, List.foldl_cons, List.foldl_nil, ifaceOf_advertisedBy, ih,
        firstOf_append, Option.or_assoc]
      congr 1
      cases firstOf devId sequence with
      | some first => rfl
      | none => split <;> rfl

theorem hearsActive_run (node : Node)
    (isAdvertised : ∃ advertised ∈ sequence, advertised.devId = devId) :
    (sequence.foldl Node.advertisedBy node).HearsActive devId := by
  induction sequence using List.reverseRecOn with
  | nil =>
      rcases isAdvertised with ⟨advertised, isMem, -⟩
      exact nomatch isMem
  | append_singleton sequence last ih =>
      rw [List.foldl_append, List.foldl_cons, List.foldl_nil]
      apply hearsActive_advertisedBy
      rcases isAdvertised with ⟨advertised, isMem, isDev⟩
      rcases List.mem_append.mp isMem with isEarlier | isLast
      · exact .inl (ih ⟨advertised, isEarlier, isDev⟩)
      · rcases List.mem_singleton.mp isLast with rfl
        exact .inr isDev

/-- For every advertised device the ARP lookup answers with the MAC of its latest
advertisement, and the neighbour lookup with an active entry of the interface it came in on. -/
def FollowsLatest (node : Node) (sequence : List NeighborFrame) : Prop :=
  ∀ devId advertised, latestOf devId sequence = some advertised →
    (∃ entry, ArpTable.lookupFromDevId devId
        (sequence.foldl Node.advertisedBy node).nsol.arpt = some entry ∧
      entry.l2addr = advertised.src) ∧
    ∃ entry, NbrTable.lookup devId
        (sequence.foldl Node.advertisedBy node).nsol.nbrt = some entry ∧
      entry.status = .active ∧ entry.iface = some advertised.iface

/-- The latest advertisement of a device repeats what the node knew of it, or else what its
first advertisement said. -/
def RepeatsFirst (node : Node) (sequence : List NeighborFrame) : Prop :=
  ∀ devId advertised, latestOf devId sequence = some advertised →
    (node.macOf devId).or ((firstOf devId sequence).map NeighborFrame.src) = some advertised.src ∧
    (node.ifaceOf devId).or
      ((firstOf devId sequence).map fun advertised => some advertised.iface) =
        some (some advertised.iface)

theorem follows_iff : FollowsLatest node sequence ↔ RepeatsFirst node sequence := by
  refine forall_congr' fun devId => forall_congr' fun advertised =>
    forall_congr' fun isLatest => ?_
  have isMem : advertised ∈ sequence := List.mem_reverse.mp (List.mem_of_find?_eq_some isLatest)
  have isDev : advertised.devId = devId := by simpa using List.find?_some isLatest
  rcases hearsActive_run node ⟨advertised, isMem, isDev⟩ with ⟨entry, found, isActive⟩
  rw [← macOf_run, ← ifaceOf_run, Node.macOf, Node.ifaceOf, found, Option.map_eq_some_iff,
    Option.map_some, Option.some_inj]
  apply and_congr_right
  intro _
  constructor
  · rintro ⟨other, isFound, -, isIface⟩
    cases isFound
    exact isIface
  · exact fun isIface => ⟨entry, rfl, isActive, isIface⟩

/-- The tables follow the latest advertisements exactly when these repeat what was known or
said first. -/
theorem neighbor_state_follows_iff (node : Node) (sequence : List NeighborFrame) :
    FollowsLatest node sequence ↔ RepeatsFirst node sequence :=
  follows_iff

/-- A node that knows nobody yet. -/
def unacquainted : Node := Node.start (NsoLayer.initial 1 0 1500 [wlan0] wlan0_fits) .nominal

theorem macSize_wlan1 : [(2 : UInt8), 0, 0, 0, 0, 2].length = ethAlen := rfl

def wlan1 : NsoIf := { ifIndex := 1, ifMac := [2, 0, 0, 0, 0, 2], macSize := macSize_wlan1 }

/-- An advertisement of device 7. -/
def fromSeven (src : L2addr) (iface : NsoIf) : NeighborFrame :=
  ⟨(allocPacket (fun _ => 0) 1500).setSrcDevid 7, src, iface⟩

theorem devId_fromSeven (src : L2addr) (iface : NsoIf) : (fromSeven src iface).devId = 7 := by
  have isSeven : ((allocPacket (fun _ => 0) 1500).setSrcDevid 7).srcDevid = 7 := by decide
  exact isSeven

theorem firstOf_fromSeven (src : L2addr) (iface : NsoIf) (rest : List NeighborFrame) :
    firstOf 7 (fromSeven src iface :: rest) = some (fromSeven src iface) := by
  rw [firstOf, List.find?_cons_of_pos]
  rw [devId_fromSeven, beq_self_eq_true]

/-- A device that comes back with another address, and one that comes back on another
interface. -/
theorem moved_unfollowed :
    ¬ FollowsLatest unacquainted
        [fromSeven [2, 0, 0, 0, 0, 7] wlan0, fromSeven [2, 0, 0, 0, 0, 8] wlan0] ∧
      ¬ FollowsLatest unacquainted
        [fromSeven [2, 0, 0, 0, 0, 7] wlan0, fromSeven [2, 0, 0, 0, 0, 7] wlan1] := by
  constructor
  · intro follows
    have repeats := (follows_iff.mp follows 7 _ (firstOf_fromSeven _ _ _)).1
    have unknown : unacquainted.macOf 7 = none := rfl
    rw [firstOf_fromSeven, unknown] at repeats
    exact absurd repeats (by decide)
  · intro follows
    have repeats := (follows_iff.mp follows 7 _ (firstOf_fromSeven _ _ _)).2
    have unknown : unacquainted.ifaceOf 7 = none := rfl
    rw [firstOf_fromSeven, unknown] at repeats
    exact absurd repeats (by decide)

end Nrg5
