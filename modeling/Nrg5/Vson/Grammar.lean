import Nrg5.Vson.Report
import Nrg5.Vson.Southbound

/-!
# The grammar of topology reports

The comment in `__process_topo_repo` gives the format: a battery byte, a counted list of
interfaces and a counted list of neighbours.  The code accepts the reports of this format
that have an interface, and those bytes behind a report without neighbours that nothing
unpacks.  Everything else ends in an exception before anything is stored.
-/

namespace Nrg5

namespace Vson

open ByteMemory TopologyGraph

/-- The exceptions of the southbound handlers. -/
inductive SouthError : Type where
  | structError
  | unboundLocal
  | nso
deriving DecidableEq

def TopoRepo.report (repo : TopoRepo) : Report :=
  { battery := some repo.battery, intfs := some repo.intfs, nbrs := some repo.nbrs }

/-- The exception that ends the unpacking: without interfaces `M` has no value, and
`struct.unpack` raises for every other message that it does not take. -/
def unpackError (msg : List UInt8) : SouthError :=
  if msg[1]? = some 0 then .unboundLocal else .structError

/-- `__process_topo_repo`. -/
def processTopoRepo (src : PyInt) (msg : List UInt8) (nodes : Nodes) :
    Except SouthError Unit × Nodes :=
  match unpackTopoRepo src msg with
  | some repo => (.ok (), (putNodeInfo src repo.report nodes).2)
  | none => (.error (unpackError msg), nodes)

/-! ## The documented format -/

structure NbrRecord where
  ID : UInt64
  quality : UInt8
  interface : UInt8

/-- A report of the documented format. -/
structure TopoReport where
  battery : UInt8
  intfs : List (UInt8 × UInt8)
  nbrs : List NbrRecord
  intfsFit : intfs.length < 256
  nbrsFit : nbrs.length < 65536

def intfBytes (intfs : List (UInt8 × UInt8)) : List UInt8 :=
  intfs.flatMap fun intf => [intf.1, intf.2]

def nbrBytes (nbrs : List NbrRecord) : List UInt8 :=
  nbrs.flatMap fun nbr => beBytes 8 nbr.ID.toNat ++ [nbr.quality, nbr.interface]

def intfOf (intf : UInt8 × UInt8) : Interface := ⟨intf.1.toNat, intf.2.toNat⟩

def NbrRecord.linkFrom (src : PyInt) (nbr : NbrRecord) : Link :=
  { beginID := src, endID := nbr.ID.toNat, lq := nbr.quality.toNat,
    intfIdx := nbr.interface.toNat }

namespace TopoReport

def bytes (self : TopoReport) : List UInt8 :=
  [self.battery, UInt8.ofNat self.intfs.length] ++ intfBytes self.intfs ++
    beBytes 2 self.nbrs.length ++ nbrBytes self.nbrs

/-- What the report says about a node. -/
def reportOf (src : PyInt) (self : TopoReport) : Report :=
  { battery := some self.battery.toNat, intfs := some (self.intfs.map intfOf),
    nbrs := some (self.nbrs.map (NbrRecord.linkFrom src)) }

/-- What the unpacking gets out of it, with some bytes behind it. -/
def repo (src : PyInt) (self : TopoReport) (extra : List UInt8) : TopoRepo :=
  ⟨self.battery.toNat, self.intfs.map intfOf, self.nbrs.map (NbrRecord.linkFrom src), extra⟩

end TopoReport

/-! ## Lists of records -/

theorem length_intfBytes (intfs : List (UInt8 × UInt8)) :
    (intfBytes intfs).length = intfs.length * 2 := by
  induction intfs with
  | nil => rfl
  | cons intf rest ih =>
      rw [intfBytes, List.flatMap_cons, List.length_append, ← intfBytes, ih, List.length_cons]
      simp only [List.length_cons, List.length_nil]
      omega

theorem length_nbrBytes (nbrs : List NbrRecord) : (nbrBytes nbrs).length = nbrs.length * 10 := by
  induction nbrs with
  | nil => rfl
  | cons nbr rest ih =>
      rw [nbrBytes, List.flatMap_cons, List.length_append, ← nbrBytes, ih, List.length_append,
        length_beBytes, List.length_cons]
      simp only [List.length_cons, List.length_nil]
      omega

theorem exists_intfs {count : Nat} {raw : List UInt8} (whole : raw.length = count * 2) :
    ∃ intfs : List (UInt8 × UInt8), intfs.length = count ∧ raw = intfBytes intfs := by
  induction count generalizing raw with
  | zero => exact ⟨[], rfl, List.eq_nil_of_length_eq_zero (by omega)⟩
  | succ count ih =>
      rcases raw with _ | ⟨index, _ | ⟨quality, rest⟩⟩
      · simp at whole
      · simp only [List.length_cons, List.length_nil] at whole
        omega
      · simp only [List.length_cons] at whole
        rcases ih (by omega : rest.length = count * 2) with ⟨intfs, length, rfl⟩
        exact ⟨(index, quality) :: intfs, by rw [List.length_cons, length], rfl⟩

theorem exists_nbrs {count : Nat} {raw : List UInt8} (whole : raw.length = count * 10) :
    ∃ nbrs : List NbrRecord, nbrs.length = count ∧ raw = nbrBytes nbrs := by
  induction count generalizing raw with
  | zero => exact ⟨[], rfl, List.eq_nil_of_length_eq_zero (by omega)⟩
  | succ count ih =>
      have eight : (raw.take 8).length = 8 := by
        rw [List.length_take]
        omega
      have behind : (raw.drop 8).length = count * 10 + 2 := by
        rw [List.length_drop]
        omega
      rcases back : raw.drop 8 with _ | ⟨quality, _ | ⟨interface, rest⟩⟩
      · simp [back] at behind
      · simp only [back, List.length_cons, List.length_nil] at behind
        omega
      · simp only [back, List.length_cons] at behind
        rcases ih (by omega : rest.length = count * 10) with ⟨nbrs, length, rfl⟩
        have small := beNat_lt (raw.take 8)
        rw [eight] at small
        refine ⟨⟨UInt64.ofNat (beNat (raw.take 8)), quality, interface⟩ :: nbrs,
          by rw [List.length_cons, length], ?_⟩
        have number : (UInt64.ofNat (beNat (raw.take 8))).toNat = beNat (raw.take 8) := by
          rw [UInt64.toNat_ofNat']
          exact Nat.mod_eq_of_lt small
        have front : beBytes 8 (beNat (raw.take 8)) = raw.take 8 := by
          have again := beBytes_beNat (raw.take 8)
          rwa [eight] at again
        rw [nbrBytes, List.flatMap_cons, number, front, ← nbrBytes, List.append_assoc]
        exact (List.take_append_drop 8 raw).symm.trans (congrArg (raw.take 8 ++ ·) back)

theorem unpackIntfs_bytes (intfs : List (UInt8 × UInt8)) :
    unpackIntfs intfs.length (intfBytes intfs) = some (intfs.map intfOf) := by
  induction intfs with
  | nil => rfl
  | cons intf rest ih =>
      simp only [intfBytes, List.flatMap_cons, List.cons_append, List.nil_append,
        List.length_cons, unpackIntfs]
      rw [← intfBytes, if_pos (length_intfBytes rest), ih]
      rfl

theorem unpackNbrs_bytes (src : PyInt) (nbrs : List NbrRecord) :
    unpackNbrs src nbrs.length (nbrBytes nbrs) =
      some (nbrs.map (NbrRecord.linkFrom src), []) := by
  induction nbrs with
  | nil => rfl
  | cons nbr rest ih =>
      have eight := length_beBytes 8 nbr.ID.toNat
      have number : beNat (beBytes 8 nbr.ID.toNat) = nbr.ID.toNat := by
        rw [beNat_beBytes]
        exact Nat.mod_eq_of_lt nbr.ID.toNat_lt
      simp only [nbrBytes, List.flatMap_cons, List.append_assoc, List.length_cons, unpackNbrs,
        List.drop_left' eight, List.take_left' eight, List.cons_append, List.nil_append]
      rw [← nbrBytes, if_pos (length_nbrBytes rest), ih, number]
      rfl

/-- The neighbours are unpacked when none is missing and none left over, or none is expected. -/
theorem unpackNbrs_isSome {src : PyInt} {count : Nat} {raw : List UInt8} {links : List Link}
    {left : List UInt8} (unpacks : unpackNbrs src count raw = some (links, left)) :
    count = 0 ∨ raw.length = count * 10 := by
  cases count with
  | zero => exact .inl rfl
  | succ count =>
      right
      simp only [unpackNbrs] at unpacks
      split at unpacks
      · rename_i quality interface rest back
        split at unpacks
        · rename_i isWhole
          have behind := congrArg List.length back
          simp only [List.length_drop, List.length_cons] at behind
          omega
        · cases unpacks
      · cases unpacks

/-! ## What is unpacked -/

/-- The bytes behind a report are left alone when it lists no neighbour. -/
theorem unpackNbrs_extra {src : PyInt} {nbrs : List NbrRecord} {extra : List UInt8}
    (left : extra = [] ∨ nbrs = []) :
    unpackNbrs src nbrs.length (nbrBytes nbrs ++ extra) =
      some (nbrs.map (NbrRecord.linkFrom src), extra) := by
  rcases left with rfl | rfl
  · rw [List.append_nil]
    exact unpackNbrs_bytes src nbrs
  · rfl

theorem unpackTopoRepo_bytes {src : PyInt} {report : TopoReport} {extra : List UInt8}
    (hasIface : report.intfs ≠ []) (left : extra = [] ∨ report.nbrs = []) :
    unpackTopoRepo src (report.bytes ++ extra) = some (report.repo src extra) := by
  have count : (UInt8.ofNat report.intfs.length).toNat = report.intfs.length := by
    rw [UInt8.toNat_ofNat']
    exact Nat.mod_eq_of_lt report.intfsFit
  have nonzero : UInt8.ofNat report.intfs.length ≠ 0 := by
    intro isZero
    rw [isZero] at count
    exact hasIface (List.eq_nil_of_length_eq_zero count.symm)
  have intfs := length_intfBytes report.intfs
  have two := length_beBytes 2 report.nbrs.length
  have nbrs : beNat (beBytes 2 report.nbrs.length) = report.nbrs.length := by
    rw [beNat_beBytes]
    exact Nat.mod_eq_of_lt report.nbrsFit
  have behind : (intfBytes report.intfs ++ beBytes 2 report.nbrs.length).length =
      report.intfs.length * 2 + 2 := by
    rw [List.length_append, intfs, two]
  simp only [TopoReport.bytes, unpackTopoRepo, List.cons_append, List.nil_append,
    List.append_assoc, count, if_neg nonzero]
  rw [if_neg (by simp only [List.length_append, intfs, two]; omega), List.take_left' intfs,
    List.drop_left' intfs, List.take_left' two, nbrs, ← List.append_assoc (intfBytes _),
    List.drop_left' behind, unpackNbrs_extra left]
  simp only [unpackIntfs_bytes, TopoReport.repo]

/-- What is unpacked is a report with an interface, and behind one without neighbours there may
be anything. -/
theorem exists_of_unpackTopoRepo {src : PyInt} {msg : List UInt8} {repo : TopoRepo}
    (unpacks : unpackTopoRepo src msg = some repo) :
    ∃ report extra, msg = TopoReport.bytes report ++ extra ∧ report.intfs ≠ [] ∧
      (extra = [] ∨ report.nbrs = []) := by
  rcases msg with _ | ⟨battery, _ | ⟨N, rest⟩⟩
  · cases unpacks
  · cases unpacks
  · simp only [unpackTopoRepo] at unpacks
    split at unpacks
    · cases unpacks
    rename_i nonzero
    split at unpacks
    · cases unpacks
    rename_i long
    split at unpacks
    · rename_i unpacked links nbrsLeft _ isNbrs
      have NSmall := N.toNat_lt
      have NPositive : N.toNat ≠ 0 := fun isZero => nonzero (UInt8.toNat_inj.mp isZero)
      rcases exists_intfs (show (rest.take (N.toNat * 2)).length = N.toNat * 2 by
        rw [List.length_take]; omega) with ⟨intfs, length, areIntfs⟩
      have two : ((rest.drop (N.toNat * 2)).take 2).length = 2 := by
        rw [List.length_take, List.length_drop]
        omega
      have MSmall := beNat_lt ((rest.drop (N.toNat * 2)).take 2)
      have MBytes := beBytes_beNat ((rest.drop (N.toNat * 2)).take 2)
      rw [two] at MSmall MBytes
      have parts : rest = rest.take (N.toNat * 2) ++ ((rest.drop (N.toNat * 2)).take 2 ++
          rest.drop (N.toNat * 2 + 2)) := by
        rw [← List.drop_drop, List.take_append_drop, List.take_append_drop]
      have isN : UInt8.ofNat intfs.length = N := by
        rw [length]
        exact UInt8.ofNat_toNat
      have hasIntfs : intfs ≠ [] := by
        rintro rfl
        exact NPositive length.symm
      have assemble : ∀ (nbrs : List NbrRecord) (extra : List UInt8),
          nbrs.length = beNat ((rest.drop (N.toNat * 2)).take 2) →
          rest.drop (N.toNat * 2 + 2) = nbrBytes nbrs ++ extra →
          (extra = [] ∨ nbrs = []) → ∃ report extra,
            battery :: N :: rest = TopoReport.bytes report ++ extra ∧ report.intfs ≠ [] ∧
              (extra = [] ∨ report.nbrs = []) := by
        intro nbrs extra isM isRest left
        refine ⟨⟨battery, intfs, nbrs, by omega, by omega⟩, extra, ?_, hasIntfs, left⟩
        rw [TopoReport.bytes]
        dsimp only
        rw [isN, isM, MBytes, ← areIntfs]
        simp only [List.append_assoc, List.cons_append, List.nil_append, ← isRest]
        rw [← parts]
      rcases unpackNbrs_isSome isNbrs with isNone | whole
      · exact assemble [] _ isNone.symm rfl (.inr rfl)
      · rcases exists_nbrs whole with ⟨nbrs, isM, areNbrs⟩
        exact assemble nbrs [] isM (by rw [areNbrs, List.append_nil]) (.inl rfl)
    · cases unpacks

theorem unpackTopoRepo_noIntfs {src : PyInt} {report : TopoReport} (noIntfs : report.intfs = []) :
    unpackTopoRepo src report.bytes = none := by
  simp [TopoReport.bytes, unpackTopoRepo, noIntfs]

/-! ## Reports that tell a node nothing new -/

/-- What a report says about an interface last. -/
def lastQuality (intfs : List Interface) (index : PyInt) : Option PyInt :=
  (intfs.reverse.find? fun intf => intf.index == index).map Interface.quality

theorem lastQuality_append (intfs : List Interface) (last : Interface) (index : PyInt) :
    lastQuality (intfs ++ [last]) index =
      if last.index = index then some last.quality else lastQuality intfs index := by
  rw [lastQuality, List.reverse_append, List.reverse_singleton, List.singleton_append,
    List.find?_cons]
  split
  · rename_i same
    rw [if_pos (by simpa using same)]
    rfl
  · rename_i other
    rw [if_neg (by simpa using other)]
    rfl

theorem lookup_addInterface (n : Node) (intf : Interface) (index : PyInt) :
    (n.addInterface intf).intfs.lookup index =
      if index = intf.index then
        some { (n.intfs.lookup index).getD intf with quality := intf.quality }
      else n.intfs.lookup index := by
  rw [Node.addInterface]
  cases found : n.intfs.lookup intf.index with
  | none =>
      dsimp only
      rw [ObjectDict.lookup_insert_eq]
      split
      · rename_i same
        rw [same, found]
        rfl
      · rfl
  | some known =>
      dsimp only
      split
      · rw [ObjectDict.lookup_insert_eq]
        split
        · rename_i same
          rw [same, found]
          rfl
        · rfl
      · rename_i noChange
        split
        · rename_i same
          rw [same, found, Option.getD_some, ← not_not.mp noChange]
        · rfl

/-- A known interface keeps everything but its quality. -/
theorem lookup_addInterfaces_known (intfs : List Interface) (n : Node) {index : PyInt}
    {known : Interface} (found : n.intfs.lookup index = some known) :
    ∃ quality, (intfs.foldl Node.addInterface n).intfs.lookup index =
      some { known with quality := quality } := by
  induction intfs generalizing n known with
  | nil => exact ⟨known.quality, found⟩
  | cons intf rest ih =>
      rw [List.foldl_cons]
      have next := lookup_addInterface n intf index
      rw [found] at next
      split at next
      · rcases ih _ next with ⟨quality, isFound⟩
        exact ⟨quality, isFound⟩
      · exact ih _ next

/-- The interfaces of a node stay as they are exactly when it knows the last qualities. -/
theorem lookup_addInterfaces_eq_iff (intfs : List Interface) (n : Node) (index : PyInt) :
    (intfs.foldl Node.addInterface n).intfs.lookup index = n.intfs.lookup index ↔
      ∀ quality, lastQuality intfs index = some quality →
        (n.intfs.lookup index).map Interface.quality = some quality := by
  induction intfs using List.reverseRecOn with
  | nil => exact iff_of_true rfl fun _ isLast => nomatch isLast
  | append_singleton rest last ih =>
      rw [List.foldl_append, List.foldl_cons, List.foldl_nil, lookup_addInterface,
        lastQuality_append]
      rcases eq_or_ne index last.index with rfl | isOther
      · rw [if_pos rfl, if_pos rfl]
        simp only [Option.some.injEq, forall_eq']
        cases found : n.intfs.lookup last.index with
        | none => exact iff_of_false nofun nofun
        | some known =>
            rcases lookup_addInterfaces_known rest n found with ⟨quality, isFound⟩
            rw [isFound, Option.getD_some, Option.some.injEq, Option.map_some, Option.some.injEq]
            constructor
            · exact fun same => (congrArg Interface.quality same).symm
            · exact fun same => same ▸ rfl
      · rw [if_neg isOther, if_neg isOther.symm]
        exact ih

/-- A node without its interfaces. -/
def Node.bare (n : Node) : Node := { n with intfs := ∅ }

theorem bare_addInterfaces (intfs : List Interface) (n : Node) :
    (intfs.foldl Node.addInterface n).bare = n.bare :=
  view_addInterfaces (fun _ _ => rfl) intfs n

/-- Two records of a node, with the same interfaces in any order. -/
def Node.Same (n m : Node) : Prop :=
  n.bare = m.bare ∧ ∀ index, n.intfs.lookup index = m.intfs.lookup index

def SameGraph (nodes after : Nodes) : Prop :=
  ∀ a, Option.Rel Node.Same (nodes.lookup a) (after.lookup a)

theorem Node.same_refl (n : Node) : n.Same n := ⟨rfl, fun _ => rfl⟩

theorem sameGraph_refl (nodes : Nodes) : SameGraph nodes nodes := by
  intro a
  cases nodes.lookup a with
  | none => exact .none
  | some n => exact .some n.same_refl

/-- The record of the sender, if there is one, says what the report says. -/
def Told (src : PyInt) (report : TopoReport) (nodes : Nodes) : Prop :=
  ∀ n, nodes.lookup src = some n → n.alive = true ∧ n.batt = some (report.battery.toNat : PyInt) ∧
    n.N = report.intfs.length ∧ n.M = report.nbrs.length ∧
      ∀ index quality, lastQuality (report.intfs.map intfOf) index = some quality →
        (n.intfs.lookup index).map Interface.quality = some quality

theorem same_reported_iff {src : PyInt} {report : TopoReport} {n : Node} :
    n.Same (reported (report.reportOf src) n) ↔
      n.alive = true ∧ n.batt = some (report.battery.toNat : PyInt) ∧
      n.N = report.intfs.length ∧ n.M = report.nbrs.length ∧
        ∀ index quality, lastQuality (report.intfs.map intfOf) index = some quality →
          (n.intfs.lookup index).map Interface.quality = some quality := by
  have isBare : (reported (report.reportOf src) n).bare =
      { n.bare with
        alive := true, batt := some (report.battery.toNat : PyInt), N := report.intfs.length,
        M := report.nbrs.length } := by
    have wired := bare_addInterfaces (report.intfs.map intfOf)
      { n with alive := true, batt := some (report.battery.toNat : PyInt),
               N := (report.intfs.map intfOf).length }
    simp only [Node.bare, Node.mk.injEq, List.length_map] at wired
    simp only [reported, TopoReport.reportOf, Node.setBattery, Node.bare, List.length_map, wired]
  have lookups : ∀ index, (reported (report.reportOf src) n).intfs.lookup index =
      ((report.intfs.map intfOf).foldl Node.addInterface
        { n with alive := true, batt := some (report.battery.toNat : PyInt),
                 N := (report.intfs.map intfOf).length }).intfs.lookup index := fun _ => rfl
  have known := lookup_addInterfaces_eq_iff (report.intfs.map intfOf)
    { n with alive := true, batt := some (report.battery.toNat : PyInt),
             N := (report.intfs.map intfOf).length }
  rw [Node.Same, isBare]
  simp only [lookups, Node.bare, Node.mk.injEq, true_and, and_true, and_assoc]
  constructor
  · rintro ⟨battery, count, alive, links, same⟩
    refine ⟨alive, battery, count, links, ?_⟩
    intro index
    exact (known index).mp (same index).symm
  · rintro ⟨alive, battery, count, links, qualities⟩
    refine ⟨battery, count, alive, links, ?_⟩
    intro index
    exact ((known index).mpr (qualities index)).symm

/-- A report without neighbours leaves the graph as it is exactly when it tells nothing new. -/
theorem sameGraph_putNodeInfo_iff {src : PyInt} {report : TopoReport} {nodes : Nodes}
    (noNbrs : report.nbrs = []) :
    SameGraph nodes (putNodeInfo src (report.reportOf src) nodes).2 ↔ Told src report nodes := by
  rw [putNodeInfo]
  cases found : nodes.lookup src with
  | none =>
      refine iff_of_true (sameGraph_refl nodes) ?_
      intro n isFound
      rw [found] at isFound
      cases isFound
  | some node =>
      have inserted : ((report.reportOf src).nbrs.getD []).foldl enforceLink
          (nodes.insert src (reported (report.reportOf src) node)) =
            nodes.insert src (reported (report.reportOf src) node) := by
        rw [TopoReport.reportOf, noNbrs]
        rfl
      simp only [inserted]
      constructor
      · intro same n isFound
        rw [found] at isFound
        rcases Option.some.inj isFound with rfl
        have atSrc := same src
        rw [found, ObjectDict.lookup_insert_eq, if_pos rfl] at atSrc
        cases atSrc with
        | some isSame => exact same_reported_iff.mp isSame
      · intro told a
        rw [ObjectDict.lookup_insert_eq]
        split
        · rename_i isSrc
          rw [isSrc, found]
          exact .some (same_reported_iff.mpr (told node found))
        · exact sameGraph_refl nodes a

/-! ## The handler -/

/-- What the handler is to do with the bytes behind the message type. -/
structure Handles (src : PyInt) (msg : List UInt8) (nodes : Nodes) : Prop where
  accepted : ∀ report : TopoReport, msg = report.bytes → processTopoRepo src msg nodes =
    (.ok (), (putNodeInfo src (report.reportOf src) nodes).2)
  rejected : (∀ report : TopoReport, msg ≠ report.bytes) →
    SameGraph nodes (processTopoRepo src msg nodes).2 ∧
      ∀ error, (processTopoRepo src msg nodes).1 = .error error → error = .nso

variable {src : PyInt} {msg : List UInt8} {nodes : Nodes} {report : TopoReport}

theorem processTopoRepo_none (stops : unpackTopoRepo src msg = none) :
    processTopoRepo src msg nodes = (.error (unpackError msg), nodes) := by
  rw [processTopoRepo, stops]

theorem processTopoRepo_bytes {extra : List UInt8} (hasIface : report.intfs ≠ [])
    (left : extra = [] ∨ report.nbrs = []) :
    processTopoRepo src (report.bytes ++ extra) nodes =
      (.ok (), (putNodeInfo src (report.reportOf src) nodes).2) := by
  rw [processTopoRepo, unpackTopoRepo_bytes hasIface left]
  rfl

theorem unpackError_ne_nso (msg : List UInt8) : unpackError msg ≠ .nso := by
  rw [unpackError]
  split <;> nofun

/-- Bytes left over behind a report do not make another report. -/
theorem notDocumented_of_extra {extra : List UInt8} (hasIface : report.intfs ≠ [])
    (noNbrs : report.nbrs = []) (isExtra : extra ≠ []) (other : TopoReport) :
    report.bytes ++ extra ≠ other.bytes := by
  intro same
  have unpacked := @unpackTopoRepo_bytes 0 report extra hasIface (.inr noNbrs)
  rw [same] at unpacked
  rcases eq_or_ne other.intfs [] with noIntfs | hasIntfs
  · rw [unpackTopoRepo_noIntfs noIntfs] at unpacked
    exact nomatch unpacked
  · have again := @unpackTopoRepo_bytes 0 other [] hasIntfs (.inl rfl)
    rw [List.append_nil, unpacked] at again
    exact isExtra (congrArg TopoRepo.nbrsRaw (Option.some.inj again))

end Vson

end Nrg5
