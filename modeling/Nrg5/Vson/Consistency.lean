import Nrg5.Vson.Export

/-!
# Identifiers in a document

The ends of a link are shown as the nodes are, and so every link of a document leads from
one of its nodes to another.  The neighbours of a node are shown as they are stored:
they are the targets of its links when the host does not swap them, or swaps them among
each other.
-/

namespace Nrg5

namespace Vson

/-- Every identifier in the document is that of a node, and a node lists the targets of its
links. -/
structure Netgraph.Consistent (doc : Netgraph) : Prop where
  sources : ∀ link ∈ doc.links, ∃ n ∈ doc.nodes, n.id = link.source
  targets : ∀ link ∈ doc.links, ∃ n ∈ doc.nodes, n.id = link.target
  neighbours : ∀ n ∈ doc.nodes, ∀ id ∈ n.nbrsLst, ∃ m ∈ doc.nodes, m.id = id
  ofLinks : ∀ n ∈ doc.nodes, ∀ id,
    id ∈ n.nbrsLst ↔ ∃ link ∈ doc.links, link.source = n.id ∧ link.target = id

/-- The number with the eight bytes of an identifier in reverse. -/
def swapped (ID : PyInt) : PyInt := (hostNumber .little ID : Int)

/-- The neighbours of each node are swapped among each other. -/
def SwapsNeighbours (nodes : Nodes) : Prop :=
  ∀ a n, nodes.lookup a = some n → ∀ link ∈ n.oLinks, ∃ other ∈ n.oLinks,
    other.endID = swapped link.endID

variable {host : ByteOrder} {order : List PyInt} {nodes : Nodes} {doc : Netgraph}

theorem swapped_swapped {ID : PyInt} (fits : FitsQ ID) : swapped (swapped ID) = ID :=
  hostNumber_hostNumber fits

theorem exportedID_little {ID : PyInt} (fits : FitsQ ID) :
    exportedID .little ID = .ok (hex (swapped ID)) := exportedID_fits fits

theorem hex_swapped_injective {m n : PyInt} (mFits : FitsQ m)
    (same : hex (swapped m) = hex n) (nFits : FitsQ n) : m = swapped n := by
  rw [← swapped_swapped nFits] at same
  have numbers := hex_injective same
  rw [← swapped_swapped mFits]
  exact congrArg swapped ((congrArg Int.ofNat numbers).trans (swapped_swapped nFits))

section Document

variable (iterates : order.Perm nodes.keys) (integrity : Integrity nodes)
  (isDoc : TopologyGraph.tojson host order nodes = .ok doc)

include iterates integrity isDoc

theorem exists_shown {a : PyInt} {id : String} (isThere : (nodes.lookup a).isSome = true)
    (isId : exportedID host a = .ok id) : ∃ n ∈ doc.nodes, n.id = id := by
  rcases Option.isSome_iff_exists.mp isThere with ⟨n, found⟩
  rw [← integrity.ownID a n found] at isId
  exact ⟨_, (mem_nodes iterates isDoc).mpr ⟨a, n, found, Node.tojson_ok_iff.mpr ⟨id, isId, rfl⟩⟩,
    rfl⟩

theorem ends_shown (shown : LinkDoc) (isShown : shown ∈ doc.links) :
    (∃ n ∈ doc.nodes, n.id = shown.source) ∧ ∃ n ∈ doc.nodes, n.id = shown.target := by
  rcases (mem_links iterates isDoc).mp isShown with ⟨a, n, found, link, isOut, isLink⟩
  rcases Link.tojson_ok_iff.mp isLink with ⟨source, target, isSource, isTarget, rfl⟩
  rcases integrity.outgoing a n found link isOut with ⟨isBegin, hasEnd⟩
  rw [isBegin] at isSource
  exact ⟨exists_shown iterates integrity isDoc (Option.isSome_of_eq_some found) isSource,
    exists_shown iterates integrity isDoc hasEnd isTarget⟩

theorem mem_links_of {a : PyInt} {n : Node} {id target : String}
    (found : nodes.lookup a = some n) (isId : exportedID host a = .ok id) :
    (∃ link ∈ doc.links, link.source = id ∧ link.target = target) ↔
      ∃ link ∈ n.oLinks, exportedID host link.endID = .ok target := by
  constructor
  · rintro ⟨shown, isShown, isSource, rfl⟩
    rcases (mem_links iterates isDoc).mp isShown with ⟨b, m, foundOther, link, isOut, isLink⟩
    rcases Link.tojson_ok_iff.mp isLink with ⟨source, target, fromSource, isTarget, rfl⟩
    rw [(integrity.outgoing b m foundOther link isOut).1] at fromSource
    dsimp only at isSource
    rw [isSource] at fromSource
    rcases exportedID_injective fromSource isId with rfl
    rw [found] at foundOther
    rcases Option.some.inj foundOther with rfl
    exact ⟨link, isOut, isTarget⟩
  · rintro ⟨link, isOut, isTarget⟩
    have isBegin := (integrity.outgoing a n found link isOut).1
    rw [← isBegin] at isId
    exact ⟨_, (mem_links iterates isDoc).mpr
      ⟨a, n, found, link, isOut, Link.tojson_ok_iff.mpr ⟨id, target, isId, isTarget, rfl⟩⟩,
      rfl, rfl⟩

omit integrity in
/-- A document shows the ends of all links, so their identifiers fit into eight bytes. -/
theorem fits_end {a : PyInt} {n : Node} {link : Link} (found : nodes.lookup a = some n)
    (isOut : link ∈ n.oLinks) : FitsQ link.endID := by
  have isListed : link ∈ (order.filterMap nodes.lookup).flatMap Node.oLinks :=
    List.mem_flatMap.mpr ⟨n, (mem_listed iterates).mpr ⟨a, found⟩, isOut⟩
  rcases mapM_ok_each (tojson_ok isDoc).2 link isListed with ⟨shown, isShown⟩
  rcases Link.tojson_ok_iff.mp isShown with ⟨_, _, _, isTarget, _⟩
  exact (exportedID_ok_iff.mp isTarget).1

end Document

/-- On a little-endian host the document is consistent exactly when the neighbours of each
node are swapped among each other. -/
theorem consistent_iff (iterates : order.Perm nodes.keys) (integrity : Integrity nodes)
    (isDoc : TopologyGraph.tojson .little order nodes = .ok doc) :
    doc.Consistent ↔ SwapsNeighbours nodes := by
  have shownNode : ∀ shown ∈ doc.nodes, ∃ a n id, nodes.lookup a = some n ∧
      exportedID .little a = .ok id ∧ shown.id = id ∧
        shown.nbrsLst = n.oLinks.map fun link => hex link.endID := by
    intro shown isShown
    rcases (mem_nodes iterates isDoc).mp isShown with ⟨a, n, found, isNode⟩
    rcases Node.tojson_ok_iff.mp isNode with ⟨id, isId, rfl⟩
    rw [integrity.ownID a n found] at isId
    exact ⟨a, n, id, found, isId, rfl, rfl⟩
  constructor
  · intro consistent a n found link isOut
    have listed := (mem_listed iterates).mpr ⟨a, found⟩
    rcases mapM_ok_each (tojson_ok isDoc).1 n listed with ⟨shown, isNode⟩
    have isShown := (mem_nodes iterates isDoc).mpr ⟨a, n, found, isNode⟩
    rcases Node.tojson_ok_iff.mp isNode with ⟨id, isId, rfl⟩
    rw [integrity.ownID a n found] at isId
    have isListed := (consistent.ofLinks _ isShown (hex link.endID)).mp
      (List.mem_map.mpr ⟨link, isOut, rfl⟩)
    rcases (mem_links_of iterates integrity isDoc found isId).mp isListed with
      ⟨other, isOther, isTarget⟩
    rcases exportedID_ok_iff.mp isTarget with ⟨fits, same⟩
    exact ⟨other, isOther,
      hex_swapped_injective fits same (fits_end iterates isDoc found isOut)⟩
  · intro swaps
    have ofLinks : ∀ shown ∈ doc.nodes, ∀ id, id ∈ shown.nbrsLst ↔
        ∃ link ∈ doc.links, link.source = shown.id ∧ link.target = id := by
      intro shown isShown id
      rcases shownNode shown isShown with ⟨a, n, own, found, isOwn, rfl, nbrs⟩
      rw [nbrs, List.mem_map, mem_links_of iterates integrity isDoc found isOwn]
      constructor
      · rintro ⟨link, isOut, rfl⟩
        rcases swaps a n found link isOut with ⟨other, isOther, isSwapped⟩
        have fits := fits_end iterates isDoc found isOther
        refine ⟨other, isOther, ?_⟩
        rw [exportedID_little fits, isSwapped,
          swapped_swapped (fits_end iterates isDoc found isOut)]
      · rintro ⟨other, isOther, isTarget⟩
        rcases swaps a n found other isOther with ⟨link, isOut, isSwapped⟩
        rcases exportedID_ok_iff.mp isTarget with ⟨_, rfl⟩
        exact ⟨link, isOut, congrArg hex isSwapped⟩
    have ends := ends_shown iterates integrity isDoc
    refine ⟨fun link isLink => (ends link isLink).1, fun link isLink => (ends link isLink).2, ?_,
      ofLinks⟩
    intro shown isShown id isListed
    rcases (ofLinks shown isShown id).mp isListed with ⟨link, isLink, _, rfl⟩
    exact (ends link isLink).2

namespace Topo

/-- In a document of a run on a little-endian host the links lead between its nodes, and the
neighbour lists agree with the links exactly when the neighbours of each node are swapped
among each other. -/
theorem netgraph_consistent_iff {history : List (Op × Topo)} {self : Topo}
    (run : Run .little history self) {doc : Netgraph} (isDoc : self.tojson .little = .ok doc) :
    doc.Consistent ↔ SwapsNeighbours self.nodes :=
  consistent_iff (shaped_run run).iterates (shaped_run run).integrity isDoc

/-! ### A node that sees another one -/

/-- A base station has reported its link to a device. -/
def seeing (bsID devID : PyInt) : Topo :=
  let pushed := (init.pushNode .little .completes [bsID] bsID "" true true).2
  let both := (pushed.pushNode .little .completes [devID, bsID] devID "" true false).2
  (both.putNodeInfo .little .completes bsID
    ⟨some 90, some [⟨0, 0⟩], some [⟨bsID, devID, 5, 0⟩]⟩).2

theorem order_first (bsID : PyInt) :
    (init.pushNode .little .completes [bsID] bsID "" true true).2.order = [bsID] :=
  nodes_commit.2

theorem seeing_run (bsID devID : PyInt) : ∃ history, Run .little history (seeing bsID devID) ∧
    (FitsQ bsID → FitsQ devID → ∀ entry ∈ history, entry.1.Fits) := by
  have pushed : Run .little _ (init.pushNode .little .completes [bsID] bsID "" true true).2 :=
    .call .init (.pushNode bsID "" true true [bsID] .completes) fun _ => .refl _
  have both := Run.call pushed (.pushNode devID "" true false [devID, bsID] .completes) fun _ =>
    .cons _ (.of_eq (order_first bsID).symm)
  have reported := Run.call both (.putNodeInfo bsID
    ⟨some 90, some [⟨0, 0⟩], some [⟨bsID, devID, 5, 0⟩]⟩ .completes) trivial
  refine ⟨_, reported, ?_⟩
  intro bsFits devFits entry isMem
  simp only [List.mem_cons, List.not_mem_nil, or_false] at isMem
  rcases isMem with rfl | rfl | rfl
  · exact trivial
  · exact devFits
  · exact bsFits

theorem seeing_document {bsID devID : PyInt} (bsFits : FitsQ bsID) (devFits : FitsQ devID) :
    ∃ history doc, Run .little history (seeing bsID devID) ∧
      (seeing bsID devID).tojson .little = .ok doc := by
  rcases seeing_run bsID devID with ⟨history, run, fits⟩
  rcases ((sound_run run (fits bsFits devFits)).1.tojson_isOk :
    ∃ doc, (seeing bsID devID).tojson .little = .ok doc) with ⟨doc, isDoc⟩
  exact ⟨history, doc, run, isDoc⟩

/-- Two identifiers that read the same backwards. -/
theorem palindromes_consistent : ∃ history doc, Run .little history
      (seeing 0x0100000000000001 0x0200000000000002) ∧
    (seeing 0x0100000000000001 0x0200000000000002).tojson .little = .ok doc ∧ doc.Consistent := by
  rcases @seeing_document 0x0100000000000001 0x0200000000000002 (by decide) (by decide) with
    ⟨history, doc, run, isDoc⟩
  refine ⟨history, doc, run, isDoc, (netgraph_consistent_iff run isDoc).mpr ?_⟩
  have swaps : ∀ entry ∈ (seeing 0x0100000000000001 0x0200000000000002).nodes.entries,
      ∀ link ∈ entry.2.oLinks, ∃ other ∈ entry.2.oLinks, other.endID = swapped link.endID := by
    decide +kernel
  exact fun a n found => swaps ⟨a, n⟩ (AList.mem_lookup_iff.mp found)

/-- Two small numbers: the neighbour is listed as `0x2`, and no node has this identifier. -/
theorem small_inconsistent : ∃ history doc, Run .little history (seeing 1 2) ∧
    (seeing 1 2).tojson .little = .ok doc ∧ ¬ doc.Consistent := by
  rcases @seeing_document 1 2 (by decide) (by decide) with ⟨history, doc, run, isDoc⟩
  refine ⟨history, doc, run, isDoc, ?_⟩
  have shaped := shaped_run run
  rw [consistent_iff shaped.iterates shaped.integrity isDoc]
  intro swaps
  have seen : ∃ entry ∈ (seeing 1 2).nodes.entries, ∃ link ∈ entry.2.oLinks,
      ∀ other ∈ entry.2.oLinks, other.endID ≠ swapped link.endID := by
    decide +kernel
  rcases seen with ⟨⟨a, n⟩, isMem, link, isOut, noneSwapped⟩
  rcases swaps a n (AList.mem_lookup_iff.mpr isMem) link isOut with ⟨other, isOther, isSwapped⟩
  exact noneSwapped other isOther isSwapped

end Topo

end Vson

end Nrg5
