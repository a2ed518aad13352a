import Nrg5.ArpHistory

/-!
# Two-phase aging

The ARP, neighbour and forwarding tables age in the same way.  An aging call removes the
entries that the call before it has marked and marks the others, and a refresh takes the mark
away, so that an entry goes when it is silent from one aging call to the next.  Each table is
an instance of `AgingKind`, which says where the mark is and that it does not touch the keys;
the lemmas of that library are proved once for all three.

The list of a forwarding table grows at its tail, the other two at their heads.  The order of
a list decides nothing about which entries go, but it decides which one a search finds first,
and therefore the two ways of growing have lemmas of their own.
-/

namespace Nrg5

namespace ArpTable

def apply : AgingCall ArpEntry → ArpTable → ArpTable
  | .add entry => add entry
  | .del entry => del entry
  | .refresh entry => refresh entry
  | .aging => aging

def kind : AgingKind ArpIndex ArpEntry := ArpHashes.ofSource.kind

theorem apply_eq : apply = kind.apply := by
  funext call table
  cases call <;> rfl

end ArpTable

namespace NbrTable

def apply : AgingCall NbrEntry → NbrTable → NbrTable
  | .add entry => add entry
  | .del entry => del entry
  | .refresh entry => refresh entry
  | .aging => aging

def kind : AgingKind Unit NbrEntry where
  bucket := bucket
  addr := NbrEntry.addr
  expired entry := entry.status == .expired
  mark entry := { entry with status := .expired }
  clear entry := { entry with status := .active }
  expired_mark _ := rfl
  expired_clear _ := rfl
  addr_mark _ := rfl
  addr_clear _ := rfl
  bucket_mark _ _ := rfl
  bucket_clear _ _ := rfl

theorem apply_eq : apply = kind.apply := by
  funext call table
  cases call <;> rfl

end NbrTable

namespace FwdTable

def apply : AgingCall FwdEntry → FwdTable → FwdTable
  | .add entry => add entry
  | .del entry => del entry
  | .refresh entry => refresh entry
  | .aging => aging

def kind : AgingKind Unit FwdEntry where
  bucket := bucket
  addr := FwdEntry.addr
  expired entry := entry.status == .expired
  mark entry := { entry with status := .expired }
  clear entry := { entry with status := .active }
  expired_mark _ := rfl
  expired_clear _ := rfl
  addr_mark _ := rfl
  addr_clear _ := rfl
  bucket_mark _ _ := rfl
  bucket_clear _ _ := rfl

theorem apply_eq : apply = kind.applyTail := by
  funext call table
  cases call <;> rfl

end FwdTable

/-! ## The three tables -/

/-- The ARP table can be searched by the identifier and by the address. -/
theorem arp_aged {history : List (AgingCall ArpEntry)}
    (fitting : Fitting ArpEntry.addr ArpTable.apply .empty history)
    (fresh : ∀ entry, .add entry ∈ history → entry.status = .active) :
    ArpTable.kind.Aged history (tableAfter ArpTable.apply history)
        (tableAfter ArpTable.apply (history ++ [.aging])) ∧
      ArpTable.kind.Findable history ArpEntry.devId ArpTable.lookupFromDevId
        (tableAfter ArpTable.apply history) (tableAfter ArpTable.apply (history ++ [.aging])) ∧
      ArpTable.kind.Findable history ArpEntry.l2addr ArpTable.lookupFromL2addr
        (tableAfter ArpTable.apply history) (tableAfter ArpTable.apply (history ++ [.aging])) := by
  have unmarked : ArpTable.kind.AddsFresh history := by
    intro entry isMem
    have isActive := fresh entry isMem
    simp [ArpTable.kind, ArpHashes.kind, isActive]
  rw [ArpTable.apply_eq] at fitting ⊢
  refine ⟨?_, ?_, ?_⟩
  · rw [tableAfter_append]
    exact AgingKind.aged_after fitting unmarked
  · exact AgingKind.findable_after .devId (fun devId => hashMin (hashDeviceId devId) arptHashBits)
      fitting unmarked (fun _ _ => rfl) (fun _ => rfl) fun _ => rfl
  · exact AgingKind.findable_after .l2addr (fun addr => hashMin (hashL2addr addr) arptHashBits)
      fitting unmarked (fun _ _ => rfl) (fun _ => rfl) fun _ => rfl

/-- The neighbour table has one index. -/
theorem nbr_aged {history : List (AgingCall NbrEntry)}
    (fitting : Fitting NbrEntry.addr NbrTable.apply .empty history)
    (fresh : ∀ entry, .add entry ∈ history → entry.status = .active) :
    NbrTable.kind.Aged history (tableAfter NbrTable.apply history)
        (tableAfter NbrTable.apply (history ++ [.aging])) ∧
      NbrTable.kind.Findable history NbrEntry.devId NbrTable.lookup
        (tableAfter NbrTable.apply history) (tableAfter NbrTable.apply (history ++ [.aging])) := by
  have unmarked : NbrTable.kind.AddsFresh history := by
    intro entry isMem
    have isActive := fresh entry isMem
    simp [NbrTable.kind, isActive]
  rw [NbrTable.apply_eq] at fitting ⊢
  refine ⟨?_, ?_⟩
  · rw [tableAfter_append]
    exact AgingKind.aged_after fitting unmarked
  · exact AgingKind.findable_after () (fun devId => hashMin (hashDeviceId devId) nbrtHashBits)
      fitting unmarked (fun _ _ => rfl) (fun _ => rfl) fun _ => rfl

/-- A forwarding table grows at its tail, where an aged list keeps its order as well. -/
theorem fwd_aged {history : List (AgingCall FwdEntry)}
    (fitting : Fitting FwdEntry.addr FwdTable.apply .empty history)
    (fresh : ∀ entry, .add entry ∈ history → entry.status = .active) :
    FwdTable.kind.Aged history (tableAfter FwdTable.apply history)
        (tableAfter FwdTable.apply (history ++ [.aging])) ∧
      FwdTable.kind.Findable history FwdEntry.dest FwdTable.lookup
        (tableAfter FwdTable.apply history) (tableAfter FwdTable.apply (history ++ [.aging])) := by
  have unmarked : FwdTable.kind.AddsFresh history := by
    intro entry isMem
    have isActive := fresh entry isMem
    simp [FwdTable.kind, isActive]
  rw [FwdTable.apply_eq] at fitting ⊢
  exact ⟨AgingKind.aged_after_tail fitting unmarked,
    AgingKind.findable_after_tail () (fun dest => hashMin (hashDeviceId dest) fwdtHashBits)
      fitting unmarked (fun _ _ => rfl) (fun _ => rfl) fun _ => rfl⟩

/-- After every history of calls on new, active and present entries, one more aging call removes
exactly the silent entries of the ARP table, the neighbour table and a forwarding table. -/
theorem aging_exact :
    (∀ history : List (AgingCall ArpEntry), Fitting ArpEntry.addr ArpTable.apply .empty history →
      (∀ entry, .add entry ∈ history → entry.status = .active) →
      ArpTable.kind.Aged history (tableAfter ArpTable.apply history)
          (tableAfter ArpTable.apply (history ++ [.aging])) ∧
        ArpTable.kind.Findable history ArpEntry.devId ArpTable.lookupFromDevId
          (tableAfter ArpTable.apply history) (tableAfter ArpTable.apply (history ++ [.aging])) ∧
        ArpTable.kind.Findable history ArpEntry.l2addr ArpTable.lookupFromL2addr
          (tableAfter ArpTable.apply history)
          (tableAfter ArpTable.apply (history ++ [.aging]))) ∧
    (∀ history : List (AgingCall NbrEntry), Fitting NbrEntry.addr NbrTable.apply .empty history →
      (∀ entry, .add entry ∈ history → entry.status = .active) →
      NbrTable.kind.Aged history (tableAfter NbrTable.apply history)
          (tableAfter NbrTable.apply (history ++ [.aging])) ∧
        NbrTable.kind.Findable history NbrEntry.devId NbrTable.lookup
          (tableAfter NbrTable.apply history)
          (tableAfter NbrTable.apply (history ++ [.aging]))) ∧
    (∀ history : List (AgingCall FwdEntry), Fitting FwdEntry.addr FwdTable.apply .empty history →
      (∀ entry, .add entry ∈ history → entry.status = .active) →
      FwdTable.kind.Aged history (tableAfter FwdTable.apply history)
          (tableAfter FwdTable.apply (history ++ [.aging])) ∧
        FwdTable.kind.Findable history FwdEntry.dest FwdTable.lookup
          (tableAfter FwdTable.apply history)
          (tableAfter FwdTable.apply (history ++ [.aging]))) :=
  ⟨fun _ => arp_aged, fun _ => nbr_aged, fun _ => fwd_aged⟩

/-- Two routes, of which one is refreshed between two aging calls. -/
def refreshedOnce : List (AgingCall FwdEntry) :=
  [.add ⟨1, 5, 7, wlan0, .active⟩, .add ⟨2, 6, 7, wlan0, .active⟩, .aging,
    .refresh ⟨1, 5, 7, wlan0, .expired⟩]

/-- The refreshed route stays and the silent one goes. -/
theorem refreshedOnce_aged :
    FwdTable.kind.Aged refreshedOnce (tableAfter FwdTable.apply refreshedOnce)
      (tableAfter FwdTable.apply (refreshedOnce ++ [.aging])) :=
  (aging_exact.2.2 refreshedOnce (by decide) (by simp [refreshedOnce])).1

end Nrg5
