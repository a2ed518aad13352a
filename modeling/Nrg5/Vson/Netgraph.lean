import Nrg5.Lib.Bytes
import Nrg5.Vson.Deletion

/-!
# The netgraph document

`tojson('netgraph')` is what the REST interface serves and what the export file holds.
Identifiers go through `struct.pack("!Q", …)` and `struct.unpack("=Q", …)`, and so the
document shows the number that the host reads in the eight bytes of the wire.  A number
that does not fit into them raises.

The cost of a link is drawn anew in every export and is left out.
-/

namespace Nrg5

namespace Vson

open ByteMemory

/-- The byte order of the host, which `struct` uses for `=`. -/
inductive ByteOrder : Type where
  | little
  | big
deriving DecidableEq

/-- The exceptions that leave the methods of the graph. -/
inductive PyError : Type where
  | structError
  | ioError
  | keyError (key : PyInt)
deriving DecidableEq

/-- `hex` of a number; a `long` has a suffix. -/
def hex (n : PyInt) : String :=
  let digits := if n = 0 then "0"
    else String.ofList ((Nat.digits 16 n.natAbs).reverse.map Nat.digitChar)
  let suffix := if -2 ^ 63 ≤ n ∧ n < 2 ^ 63 then "" else "L"
  (if n < 0 then "-0x" else "0x") ++ digits ++ suffix

/-- The numbers that fit into eight bytes. -/
def FitsQ (n : PyInt) : Prop := (0 : Int) ≤ n ∧ (n : Int) < 2 ^ 64

instance (n : PyInt) : Decidable (FitsQ n) := inferInstanceAs (Decidable (_ ∧ _))

/-- `struct.pack("!Q", n)`. -/
def packQ (n : PyInt) : Except PyError (List UInt8) :=
  if FitsQ n then .ok (beBytes 8 n.toNat) else .error .structError

/-- `struct.unpack("=Q", bytes)[0]`. -/
def unpackQ (host : ByteOrder) (bytes : List UInt8) : Nat :=
  match host with
  | .little => leNat bytes
  | .big => beNat bytes

/-- The identifier as both exporters show it. -/
def exportedID (host : ByteOrder) (n : PyInt) : Except PyError String := do
  let bytes ← packQ n
  pure (hex (unpackQ host bytes))

structure LinkDoc where
  source : String
  target : String
  linkQuality : PyInt
  interface : String
deriving DecidableEq

/-- The label is the description of the node, which the constructor never sets. -/
structure NodeDoc where
  id : String
  label : Option String
  battery : Option PyInt
  interfaces : Nat
  neighbours : Nat
  nbrsLst : List String
  baseStation : Bool
deriving DecidableEq

structure Netgraph where
  type : String
  protocol : String
  version : String
  metric : String
  nodes : List NodeDoc
  links : List LinkDoc
  topologyId : String
deriving DecidableEq

/-- `Link.tojson('netgraph')`. -/
def Link.tojson (host : ByteOrder) (self : Link) : Except PyError LinkDoc := do
  let source ← exportedID host self.beginID
  let target ← exportedID host self.endID
  pure { source := source, target := target, linkQuality := self.lq,
         interface := hex self.intfIdx }

/-- `Node.tojson('netgraph')`: the neighbours are not swapped. -/
def Node.tojson (host : ByteOrder) (self : Node) : Except PyError NodeDoc := do
  let id ← exportedID host self.ID
  pure { id := id, label := none, battery := self.batt, interfaces := self.N,
         neighbours := self.M, nbrsLst := self.oLinks.map fun link => hex link.endID,
         baseStation := self.bs }

/-- `TopologyGraph.tojson('netgraph')`, for the order in which the dictionary is iterated. -/
def TopologyGraph.tojson (host : ByteOrder) (order : List PyInt) (nodes : Nodes) :
    Except PyError Netgraph := do
  let listed := order.filterMap nodes.lookup
  let nodeDocs ← listed.mapM (Node.tojson host)
  let linkDocs ← (listed.flatMap Node.oLinks).mapM (Link.tojson host)
  pure { type := "NetworkGraph", protocol := "NSO", version := "1", metric := "shortest path",
         nodes := nodeDocs, links := linkDocs, topologyId := hex 0xF1257 }

/-! ## Numbers in hexadecimal -/

theorem digitChar_injective {a b : Nat} (aSmall : a < 16) (bSmall : b < 16)
    (same : Nat.digitChar a = Nat.digitChar b) : a = b := by
  have table : ∀ a b : Fin 16, Nat.digitChar a = Nat.digitChar b → a = b := by decide
  exact congrArg Fin.val (table ⟨a, aSmall⟩ ⟨b, bSmall⟩ same)

theorem map_digitChar_injective {first second : List Nat} (firstSmall : ∀ d ∈ first, d < 16)
    (secondSmall : ∀ d ∈ second, d < 16)
    (same : first.map Nat.digitChar = second.map Nat.digitChar) : first = second := by
  induction first generalizing second with
  | nil => exact (List.map_eq_nil_iff.mp same.symm).symm
  | cons d rest ih =>
      cases second with
      | nil => simp at same
      | cons e others =>
          rw [List.forall_mem_cons] at firstSmall secondSmall
          simp only [List.map_cons, List.cons.injEq] at same ⊢
          exact ⟨digitChar_injective firstSmall.1 secondSmall.1 same.1,
            ih firstSmall.2 secondSmall.2 same.2⟩

/-- The digits of a number that is not negative. -/
def hexDigits (n : Nat) : List Nat := if n = 0 then [0] else (Nat.digits 16 n).reverse

theorem hexDigits_small (n : Nat) : ∀ d ∈ hexDigits n, d < 16 := by
  intro d isDigit
  rw [hexDigits] at isDigit
  split at isDigit
  · rcases List.mem_singleton.mp isDigit with rfl
    decide
  · exact Nat.digits_lt_base (by decide) (List.mem_reverse.mp isDigit)

theorem hexDigits_injective {m n : Nat} (same : hexDigits m = hexDigits n) : m = n := by
  have noLeadingZero : ∀ k, k ≠ 0 → (Nat.digits 16 k).reverse ≠ [0] := by
    intro k nonzero isZero
    have digits : Nat.digits 16 k = [0] := by
      rw [← List.reverse_reverse (Nat.digits 16 k), isZero]
      rfl
    have value := Nat.ofDigits_digits 16 k
    rw [digits] at value
    exact nonzero value.symm
  simp only [hexDigits] at same
  split at same
  · rename_i mZero
    split at same
    · rename_i nZero
      rw [mZero, nZero]
    · rename_i nNonzero
      exact absurd same.symm (noLeadingZero n nNonzero)
  · rename_i mNonzero
    split at same
    · exact absurd same (noLeadingZero m mNonzero)
    · exact Nat.digits_inj_iff.mp (List.reverse_injective same)

theorem toList_hex (n : Nat) : (hex n).toList =
    '0' :: 'x' :: ((hexDigits n).map Nat.digitChar ++ if n < 2 ^ 63 then [] else ['L']) := by
  have nonneg : ¬ (n : Int) < 0 := by omega
  have short : (-2 ^ 63 ≤ (n : Int) ∧ (n : Int) < 2 ^ 63) ↔ n < 2 ^ 63 := by omega
  simp only [hex, if_neg nonneg, short, Int.natCast_eq_zero, Int.natAbs_natCast, hexDigits]
  rcases eq_or_ne n 0 with rfl | nonzero
  · rfl
  · rw [if_neg nonzero, if_neg nonzero]
    split <;> simp

theorem hex_injective {m n : Nat} (same : hex m = hex n) : m = n := by
  have chars := congrArg String.toList same
  simp only [toList_hex, List.cons.injEq, true_and] at chars
  have digits : (hexDigits m).map Nat.digitChar = (hexDigits n).map Nat.digitChar := by
    split at chars
    · split at chars
      · simpa using chars
      · exact absurd (chars ▸ List.mem_append_right _ (List.mem_singleton_self _) :
          'L' ∈ (hexDigits m).map Nat.digitChar ++ []) (by simp)
    · split at chars
      · exact absurd (chars ▸ List.mem_append_right _ (List.mem_singleton_self _) :
          'L' ∈ (hexDigits n).map Nat.digitChar ++ []) (by simp)
      · exact List.append_cancel_right chars
  exact hexDigits_injective
    (map_digitChar_injective (hexDigits_small m) (hexDigits_small n) digits)

/-! ## Exported identifiers -/

section ExportedIDs

variable {host : ByteOrder} {m n : PyInt} {shown : String}

/-- The number that the host reads in the bytes of an identifier. -/
def hostNumber (host : ByteOrder) (n : PyInt) : Nat := unpackQ host (beBytes 8 n.toNat)

theorem exportedID_fits (fits : FitsQ n) :
    exportedID host n = .ok (hex (hostNumber host n)) := by
  rw [exportedID, packQ, if_pos fits]
  rfl

theorem exportedID_ok_iff :
    exportedID host n = .ok shown ↔ FitsQ n ∧ hex (hostNumber host n) = shown := by
  rcases em (FitsQ n) with fits | wide
  · rw [exportedID_fits fits, Except.ok.injEq]
    exact (and_iff_right fits).symm
  · rw [exportedID, packQ, if_neg wide]
    exact iff_of_false (fun isOk => nomatch isOk) fun isOk => wide isOk.1

/-- Reversing the bytes twice gives the identifier back. -/
theorem hostNumber_hostNumber (fits : FitsQ n) :
    (hostNumber host (hostNumber host n : Int) : Int) = n := by
  rcases fits with ⟨nonneg, small⟩
  rcases Int.eq_ofNat_of_zero_le nonneg with ⟨k, rfl⟩
  have inRange : k < 2 ^ 64 := by exact_mod_cast small
  have whole : k % 256 ^ 8 = k := Nat.mod_eq_of_lt inRange
  congr 1
  cases host with
  | little =>
      have back := leBytes_leNat (beBytes 8 k)
      rw [length_beBytes] at back
      have again : beBytes 8 (leNat (beBytes 8 k)) = leBytes 8 k := by
        rw [beBytes, back, beBytes, List.reverse_reverse]
      simp only [hostNumber, unpackQ, Int.toNat_natCast]
      rw [again, leNat_leBytes, whole]
  | big => simp only [hostNumber, unpackQ, Int.toNat_natCast, beNat_beBytes, whole]

theorem hostNumber_injective (mFits : FitsQ m) (nFits : FitsQ n)
    (same : hostNumber host m = hostNumber host n) : m = n := by
  rw [← hostNumber_hostNumber mFits, same, hostNumber_hostNumber nFits]

theorem exportedID_injective (first : exportedID host m = .ok shown)
    (second : exportedID host n = .ok shown) : m = n := by
  rcases exportedID_ok_iff.mp first with ⟨mFits, rfl⟩
  rcases exportedID_ok_iff.mp second with ⟨nFits, same⟩
  exact hostNumber_injective mFits nFits (hex_injective same.symm)

end ExportedIDs

/-! ## What a document lists -/

theorem mem_mapM_ok {α β ε : Type} {f : α → Except ε β} {args : List α} {results : List β}
    (isOk : args.mapM f = .ok results) {result : β} :
    result ∈ results ↔ ∃ arg ∈ args, f arg = .ok result := by
  induction args generalizing results with
  | nil =>
      rcases Except.ok.inj isOk with rfl
      simp
  | cons arg rest ih =>
      rw [List.mapM_cons] at isOk
      cases first : f arg with
      | error e =>
          rw [first] at isOk
          exact nomatch isOk
      | ok value =>
          cases others : rest.mapM f with
          | error e =>
              rw [first, others] at isOk
              exact nomatch isOk
          | ok values =>
              rw [first, others] at isOk
              rcases Except.ok.inj isOk with rfl
              simp only [List.mem_cons, ih others, exists_eq_or_imp, first, Except.ok.injEq]
              exact or_congr_left eq_comm

theorem mapM_ok_each {α β ε : Type} {f : α → Except ε β} {args : List α} {results : List β}
    (isOk : args.mapM f = .ok results) : ∀ arg ∈ args, ∃ result, f arg = .ok result := by
  induction args generalizing results with
  | nil => simp
  | cons arg rest ih =>
      rw [List.mapM_cons] at isOk
      cases first : f arg with
      | error e =>
          rw [first] at isOk
          exact nomatch isOk
      | ok value =>
          cases others : rest.mapM f with
          | error e =>
              rw [first, others] at isOk
              exact nomatch isOk
          | ok values => exact List.forall_mem_cons.mpr ⟨⟨value, first⟩, ih others⟩

theorem mapM_isOk {α β ε : Type} {f : α → Except ε β} {args : List α}
    (each : ∀ arg ∈ args, ∃ result, f arg = .ok result) : ∃ results, args.mapM f = .ok results := by
  induction args with
  | nil => exact ⟨[], rfl⟩
  | cons arg rest ih =>
      rw [List.forall_mem_cons] at each
      rcases each.1 with ⟨value, first⟩
      rcases ih each.2 with ⟨values, others⟩
      refine ⟨value :: values, ?_⟩
      rw [List.mapM_cons, first, others]
      rfl

section Documents

variable {host : ByteOrder} {order : List PyInt} {nodes : Nodes} {doc : Netgraph}

theorem Node.tojson_ok_iff {n : Node} {shown : NodeDoc} :
    n.tojson host = .ok shown ↔ ∃ id, exportedID host n.ID = .ok id ∧
      shown = { id := id, label := none, battery := n.batt, interfaces := n.N, neighbours := n.M,
                nbrsLst := n.oLinks.map fun link => hex link.endID, baseStation := n.bs } := by
  rw [Node.tojson]
  cases exportedID host n.ID with
  | error e => exact iff_of_false (fun isOk => nomatch isOk) fun ⟨_, isOk, _⟩ => nomatch isOk
  | ok id =>
      simp only [Except.ok.injEq, exists_eq_left', bind, Except.bind, pure, Except.pure]
      exact eq_comm

theorem Link.tojson_ok_iff {link : Link} {shown : LinkDoc} :
    link.tojson host = .ok shown ↔ ∃ source target, exportedID host link.beginID = .ok source ∧
      exportedID host link.endID = .ok target ∧
        shown = { source := source, target := target, linkQuality := link.lq,
                  interface := hex link.intfIdx } := by
  rw [Link.tojson]
  cases exportedID host link.beginID with
  | error e => exact iff_of_false (fun isOk => nomatch isOk) fun ⟨_, _, isOk, _⟩ => nomatch isOk
  | ok source =>
      cases exportedID host link.endID with
      | error e =>
          exact iff_of_false (fun isOk => nomatch isOk) fun ⟨_, _, _, isOk, _⟩ => nomatch isOk
      | ok target =>
          simp only [Except.ok.injEq, exists_and_left, exists_eq_left', bind, Except.bind, pure,
            Except.pure]
          exact eq_comm

theorem mem_listed (iterates : order.Perm nodes.keys) {n : Node} :
    n ∈ order.filterMap nodes.lookup ↔ ∃ a, nodes.lookup a = some n := by
  rw [List.mem_filterMap]
  constructor
  · rintro ⟨a, _, found⟩
    exact ⟨a, found⟩
  · rintro ⟨a, found⟩
    have isKey := (ObjectDict.perm_keys_iff.mp iterates).2 a
    exact ⟨a, isKey.mpr (Option.isSome_of_eq_some found), found⟩

theorem tojson_ok (isDoc : TopologyGraph.tojson host order nodes = .ok doc) :
    (order.filterMap nodes.lookup).mapM (Node.tojson host) = .ok doc.nodes ∧
      ((order.filterMap nodes.lookup).flatMap Node.oLinks).mapM (Link.tojson host) =
        .ok doc.links := by
  rw [TopologyGraph.tojson] at isDoc
  cases listedNodes : (order.filterMap nodes.lookup).mapM (Node.tojson host) with
  | error e =>
      simp only [listedNodes] at isDoc
      exact nomatch isDoc
  | ok nodeDocs =>
      cases listedLinks : ((order.filterMap nodes.lookup).flatMap Node.oLinks).mapM
          (Link.tojson host) with
      | error e =>
          simp only [listedNodes, listedLinks] at isDoc
          exact nomatch isDoc
      | ok linkDocs =>
          simp only [listedNodes, listedLinks] at isDoc
          rcases Except.ok.inj isDoc with rfl
          exact ⟨rfl, rfl⟩

theorem mem_nodes (iterates : order.Perm nodes.keys)
    (isDoc : TopologyGraph.tojson host order nodes = .ok doc) {shown : NodeDoc} :
    shown ∈ doc.nodes ↔ ∃ a n, nodes.lookup a = some n ∧ n.tojson host = .ok shown := by
  rw [mem_mapM_ok (tojson_ok isDoc).1]
  simp only [mem_listed iterates]
  exact ⟨fun ⟨n, ⟨a, found⟩, isShown⟩ => ⟨a, n, found, isShown⟩,
    fun ⟨a, n, found, isShown⟩ => ⟨n, ⟨a, found⟩, isShown⟩⟩

theorem mem_links (iterates : order.Perm nodes.keys)
    (isDoc : TopologyGraph.tojson host order nodes = .ok doc) {shown : LinkDoc} :
    shown ∈ doc.links ↔ ∃ a n, nodes.lookup a = some n ∧
      ∃ link ∈ n.oLinks, link.tojson host = .ok shown := by
  rw [mem_mapM_ok (tojson_ok isDoc).2]
  simp only [List.mem_flatMap, mem_listed iterates]
  exact ⟨fun ⟨link, ⟨n, ⟨a, found⟩, isOut⟩, isShown⟩ => ⟨a, n, found, link, isOut, isShown⟩,
    fun ⟨a, n, found, link, isOut, isShown⟩ => ⟨link, ⟨n, ⟨a, found⟩, isOut⟩, isShown⟩⟩

/-- A graph whose identifiers fit into eight bytes has a document. -/
theorem tojson_isOk (iterates : order.Perm nodes.keys) (integrity : Integrity nodes)
    (fits : ∀ a, (nodes.lookup a).isSome = true → FitsQ a) :
    ∃ doc, TopologyGraph.tojson host order nodes = .ok doc := by
  have shown : ∀ a, (nodes.lookup a).isSome = true →
      exportedID host a = .ok (hex (hostNumber host a)) := fun a isThere =>
    exportedID_fits (fits a isThere)
  have nodeDocs : ∀ n ∈ order.filterMap nodes.lookup, ∃ result, n.tojson host = .ok result := by
    intro n isListed
    rcases (mem_listed iterates).mp isListed with ⟨a, found⟩
    have own := shown a (Option.isSome_of_eq_some found)
    rw [← integrity.ownID a n found] at own
    exact ⟨_, Node.tojson_ok_iff.mpr ⟨_, own, rfl⟩⟩
  have linkDocs : ∀ link ∈ (order.filterMap nodes.lookup).flatMap Node.oLinks,
      ∃ result, link.tojson host = .ok result := by
    intro link isListed
    rcases List.mem_flatMap.mp isListed with ⟨n, isNode, isOut⟩
    rcases (mem_listed iterates).mp isNode with ⟨a, found⟩
    rcases integrity.outgoing a n found link isOut with ⟨isBegin, hasEnd⟩
    have begins := shown a (Option.isSome_of_eq_some found)
    rw [← isBegin] at begins
    exact ⟨_, Link.tojson_ok_iff.mpr ⟨_, _, begins, shown _ hasEnd, rfl⟩⟩
  rcases mapM_isOk nodeDocs with ⟨nodeResults, areNodes⟩
  rcases mapM_isOk linkDocs with ⟨linkResults, areLinks⟩
  rw [TopologyGraph.tojson]
  simp only [areNodes, areLinks]
  exact ⟨_, rfl⟩

end Documents

end Vson

end Nrg5
