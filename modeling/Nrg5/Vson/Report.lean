import Nrg5.Vson.Deletion

/-!
# What a report leaves in the graph

The interfaces of the reporting node take the reported values.  A link does so only
when its key is new: `add_outlink` and `add_inlink` keep the object that is stored
under a known key.
-/

namespace Nrg5

namespace Vson

open TopologyGraph

/-! ## Interfaces -/

theorem quality_addInterface (n : Node) (intf : Interface) (index : PyInt) :
    ((n.addInterface intf).intfs.lookup index).map Interface.quality =
      if index = intf.index then some intf.quality
      else (n.intfs.lookup index).map Interface.quality := by
  unfold Node.addInterface
  cases found : n.intfs.lookup intf.index with
  | none =>
      dsimp only
      rw [ObjectDict.lookup_insert_eq]
      split <;> rfl
  | some known =>
      dsimp only
      split
      · rw [ObjectDict.lookup_insert_eq]
        split <;> rfl
      · rename_i noChange
        split
        · rename_i same
          subst same
          rw [found, Option.map_some]
          exact congrArg some (not_not.mp noChange)
        · rfl

theorem quality_addInterfaces_of_new (intfs : List Interface) (n : Node) {index : PyInt}
    (isNew : index ∉ intfs.map Interface.index) :
    ((intfs.foldl Node.addInterface n).intfs.lookup index).map Interface.quality =
      (n.intfs.lookup index).map Interface.quality := by
  induction intfs generalizing n with
  | nil => rfl
  | cons first rest ih =>
      rw [List.map_cons, List.mem_cons, not_or] at isNew
      rw [List.foldl_cons, ih _ isNew.2, quality_addInterface, if_neg isNew.1]

theorem quality_addInterfaces (intfs : List Interface) (n : Node)
    (nodup : (intfs.map Interface.index).Nodup) :
    ∀ intf ∈ intfs,
      ((intfs.foldl Node.addInterface n).intfs.lookup intf.index).map Interface.quality =
        some intf.quality := by
  induction intfs generalizing n with
  | nil => simp
  | cons first rest ih =>
      rw [List.map_cons, List.nodup_cons] at nodup
      intro intf intfMem
      rw [List.foldl_cons]
      rcases List.mem_cons.mp intfMem with rfl | isLater
      · rw [quality_addInterfaces_of_new rest _ nodup.1, quality_addInterface, if_pos rfl]
      · exact ih _ nodup.2 intf isLater

theorem batt_addInterfaces (intfs : List Interface) (n : Node) :
    (intfs.foldl Node.addInterface n).batt = n.batt :=
  view_addInterfaces (fun _ _ => rfl) intfs n

/-- What a report says about the node itself. -/
def Node.deviceView (n : Node) : Option PyInt × ObjectDict PyInt Interface := (n.batt, n.intfs)

theorem deviceView_addOutlink (link : Link) (n : Node) :
    (n.addOutlink link).deviceView = n.deviceView := by
  unfold Node.addOutlink
  cases n.oLinks.find? fun x => x.isSame link <;> rfl

theorem deviceView_addInlink (link : Link) (n : Node) :
    (n.addInlink link).deviceView = n.deviceView := by
  unfold Node.addInlink
  cases n.iLinks.find? fun x => x.isSame link <;> rfl

/-- Enforcing links changes nothing in the nodes but their links. -/
theorem view_enforceLinks {β : Type} {view : Node → β}
    (outlink : ∀ link n, view (n.addOutlink link) = view n)
    (inlink : ∀ link n, view (n.addInlink link) = view n) (links : List Link) (nodes : Nodes)
    (a : PyInt) :
    ((links.foldl enforceLink nodes).lookup a).map view = (nodes.lookup a).map view := by
  induction links generalizing nodes with
  | nil => rfl
  | cons link rest ih =>
      rw [List.foldl_cons, ih]
      by_cases registered : (nodes.lookup link.beginID).isSome = true ∧
          (nodes.lookup link.endID).isSome = true
      · rw [lookup_enforceLink registered.1 registered.2, Option.map_map]
        congr 1
        funext n
        dsimp only [Function.comp]
        split <;> split <;> simp only [inlink, outlink]
      · rw [enforceLink_unregistered registered]

theorem deviceView_enforceLinks (links : List Link) (nodes : Nodes) (a : PyInt) :
    ((links.foldl enforceLink nodes).lookup a).map Node.deviceView =
      (nodes.lookup a).map Node.deviceView :=
  view_enforceLinks deviceView_addOutlink deviceView_addInlink links nodes a

theorem registered_enforceLinks (links : List Link) (nodes : Nodes) (a : PyInt) :
    ((links.foldl enforceLink nodes).lookup a).isSome = (nodes.lookup a).isSome := by
  have views := congrArg Option.isSome (deviceView_enforceLinks links nodes a)
  simpa using views

/-! ## Links -/

/-- The link that a list holds under the key of another one. -/
def sameLink (link : Link) (links : List Link) : Option Link :=
  links.find? fun x => x.isSame link

theorem sameLink_addLink (link other : Link) (links : List Link) :
    sameLink link (addLink other links) =
      if other.key = link.key then (sameLink link links).or (some other)
      else sameLink link links := by
  by_cases sameKey : other.key = link.key
  · have sameTest : ∀ x : Link, x.isSame other = x.isSame link := by
      intro x
      rw [Bool.eq_iff_iff, Link.isSame_iff, Link.isSame_iff, sameKey]
    rw [if_pos sameKey]
    simp only [addLink, sameLink, sameTest]
    cases found : links.find? fun x => x.isSame link with
    | some known => simp [found]
    | none =>
        rw [List.find?_append, found]
        simp [(Link.isSame_iff other link).mpr sameKey]
  · rw [if_neg sameKey]
    simp only [addLink, sameLink]
    cases links.find? fun x => x.isSame other with
    | some known => rfl
    | none =>
        have notSame : other.isSame link = false := by
          rw [Bool.eq_false_iff, Ne, Link.isSame_iff]
          exact sameKey
        simp only [List.find?_append, List.find?_cons, notSame, List.find?_nil, Option.or_none]

theorem of_sameLink {links : List Link} {link known : Link}
    (found : sameLink link links = some known) : known ∈ links ∧ known.key = link.key := by
  unfold sameLink at found
  have isSame := List.find?_some found
  exact ⟨List.mem_of_find?_eq_some found, (Link.isSame_iff known link).mp isSame⟩

theorem sameLink_eq_some_iff {links : List Link} (nodup : (links.map Link.key).Nodup)
    {link known : Link} :
    sameLink link links = some known ↔ known ∈ links ∧ known.key = link.key := by
  constructor
  · exact of_sameLink
  · rintro ⟨isMem, sameKey⟩
    have someFound : (sameLink link links).isSome = true :=
      List.find?_isSome.mpr ⟨known, isMem, (Link.isSame_iff known link).mpr sameKey⟩
    rcases Option.isSome_iff_exists.mp someFound with ⟨x, found⟩
    rcases of_sameLink found with ⟨xMem, xSame⟩
    have unique := List.inj_on_of_nodup_map nodup xMem isMem (xSame.trans sameKey.symm)
    rw [found, unique]

/-- The link stored under a key in the outgoing links of its begin node. -/
def outStored (nodes : Nodes) (link : Link) : Option Link :=
  (nodes.lookup link.beginID).bind fun b => sameLink link b.oLinks

/-- The link stored under a key in the incoming links of its end node. -/
def inStored (nodes : Nodes) (link : Link) : Option Link :=
  (nodes.lookup link.endID).bind fun e => sameLink link e.iLinks

theorem inStored_eq {nodes : Nodes} (integrity : Integrity nodes) {link : Link}
    (hasBegin : (nodes.lookup link.beginID).isSome = true)
    (hasEnd : (nodes.lookup link.endID).isSome = true) :
    inStored nodes link = outStored nodes link := by
  rcases Option.isSome_iff_exists.mp hasBegin with ⟨b, foundBegin⟩
  rcases Option.isSome_iff_exists.mp hasEnd with ⟨e, foundEnd⟩
  simp only [inStored, outStored, foundBegin, foundEnd, Option.bind_some]
  apply Option.ext
  intro known
  rw [sameLink_eq_some_iff (integrity.inKeys _ e foundEnd),
    sameLink_eq_some_iff (integrity.outKeys _ b foundBegin)]
  apply and_congr_left
  intro sameKey
  simp only [Link.key, Prod.mk.injEq] at sameKey
  have mirrored := integrity.mirrored known b e (by rwa [sameKey.1]) (by rwa [sameKey.2.1])
  exact mirrored.symm

theorem outStored_enforceLink (nodes : Nodes) (other link : Link)
    (hasBegin : (nodes.lookup link.beginID).isSome = true)
    (hasEnd : (nodes.lookup link.endID).isSome = true) :
    outStored (enforceLink nodes other) link =
      if other.key = link.key then (outStored nodes link).or (some other)
      else outStored nodes link := by
  by_cases registered : (nodes.lookup other.beginID).isSome = true ∧
      (nodes.lookup other.endID).isSome = true
  · simp only [outStored]
    rw [lookup_enforceLink registered.1 registered.2]
    rcases Option.isSome_iff_exists.mp hasBegin with ⟨b, foundBegin⟩
    rw [foundBegin]
    simp only [Option.map_some, Option.bind_some]
    have outLinks : ((if link.beginID = other.endID then
          (if link.beginID = other.beginID then b.addOutlink other else b).addInlink other
        else if link.beginID = other.beginID then b.addOutlink other else b).oLinks) =
        if link.beginID = other.beginID then addLink other b.oLinks else b.oLinks := by
      split <;> split <;> simp only [oLinks_addInlink, oLinks_addOutlink]
    rw [outLinks]
    by_cases isBegin : link.beginID = other.beginID
    · rw [if_pos isBegin, sameLink_addLink]
    · have otherKey : other.key ≠ link.key := by
        intro sameKey
        simp only [Link.key, Prod.mk.injEq] at sameKey
        exact isBegin sameKey.1.symm
      rw [if_neg isBegin, if_neg otherKey]
  · have otherKey : other.key ≠ link.key := by
      intro sameKey
      simp only [Link.key, Prod.mk.injEq] at sameKey
      rw [sameKey.1, sameKey.2.1] at registered
      exact registered ⟨hasBegin, hasEnd⟩
    rw [enforceLink_unregistered registered, if_neg otherKey]

theorem outStored_enforceLinks_of_new (links : List Link) (nodes : Nodes) {link : Link}
    (hasBegin : (nodes.lookup link.beginID).isSome = true)
    (hasEnd : (nodes.lookup link.endID).isSome = true)
    (isNew : link.key ∉ links.map Link.key) :
    outStored (links.foldl enforceLink nodes) link = outStored nodes link := by
  induction links generalizing nodes with
  | nil => rfl
  | cons first rest ih =>
      rw [List.map_cons, List.mem_cons, not_or] at isNew
      have sameDomain := registered_enforceLinks [first] nodes
      rw [List.foldl_cons, ih (enforceLink nodes first) ((sameDomain _).trans hasBegin)
        ((sameDomain _).trans hasEnd) isNew.2, outStored_enforceLink nodes first link hasBegin
          hasEnd, if_neg (Ne.symm isNew.1)]

/-- After a report a key has the link it had before, or else the reported one. -/
theorem outStored_enforceLinks (links : List Link) (nodes : Nodes)
    (nodup : (links.map Link.key).Nodup) :
    ∀ link ∈ links, (nodes.lookup link.beginID).isSome = true →
      (nodes.lookup link.endID).isSome = true →
        outStored (links.foldl enforceLink nodes) link =
          some ((outStored nodes link).getD link) := by
  induction links generalizing nodes with
  | nil => simp
  | cons first rest ih =>
      rw [List.map_cons, List.nodup_cons] at nodup
      intro link linkMem hasBegin hasEnd
      have sameDomain := registered_enforceLinks [first] nodes
      have nextBegin : ((enforceLink nodes first).lookup link.beginID).isSome = true :=
        (sameDomain _).trans hasBegin
      have nextEnd : ((enforceLink nodes first).lookup link.endID).isSome = true :=
        (sameDomain _).trans hasEnd
      have added := outStored_enforceLink nodes first link hasBegin hasEnd
      rw [List.foldl_cons]
      rcases List.mem_cons.mp linkMem with rfl | isLater
      · rw [outStored_enforceLinks_of_new rest _ nextBegin nextEnd nodup.1, added, if_pos rfl]
        cases outStored nodes link <;> rfl
      · have otherKey : first.key ≠ link.key := by
          intro sameKey
          rw [sameKey] at nodup
          exact nodup.1 (List.mem_map_of_mem isLater)
        rw [ih _ nodup.2 link isLater nextBegin nextEnd, added, if_neg otherKey]

/-! ## The latest report -/

/-- The graph carries a report: battery, interfaces, and the links whose end is there. -/
structure CarriesReport (ID battery : PyInt) (intfs : List Interface) (nbrs : List Link)
    (after : Nodes) : Prop where
  device : ∃ n, after.lookup ID = some n ∧ n.batt = some battery ∧
    ∀ intf ∈ intfs, (n.intfs.lookup intf.index).map Interface.quality = some intf.quality
  links : ∀ link ∈ nbrs, (after.lookup link.endID).isSome = true →
    (outStored after link).map Link.lq = some link.lq ∧
      (inStored after link).map Link.lq = some link.lq

section Carries

variable {nodes : Nodes} {ID : PyInt} {node : Node} {battery : PyInt} {intfs : List Interface}
  {nbrs : List Link}

theorem carries_device (registered : nodes.lookup ID = some node)
    (indexes : (intfs.map Interface.index).Nodup) :
    ∃ n, (putNodeInfo ID ⟨some battery, some intfs, some nbrs⟩ nodes).2.lookup ID = some n ∧
      n.batt = some battery ∧
        ∀ intf ∈ intfs,
          (n.intfs.lookup intf.index).map Interface.quality = some intf.quality := by
  simp only [putNodeInfo, registered, Option.getD_some]
  have views := deviceView_enforceLinks nbrs
    (nodes.insert ID (reported ⟨some battery, some intfs, some nbrs⟩ node)) ID
  rw [AList.lookup_insert, Option.map_some] at views
  rcases Option.map_eq_some_iff.mp views with ⟨n, found, view⟩
  simp only [Node.deviceView, reported, Prod.mk.injEq] at view
  refine ⟨n, found, ?_, ?_⟩
  · rw [view.1, batt_addInterfaces]
    rfl
  · rw [view.2]
    exact quality_addInterfaces intfs _ indexes

theorem stored_putNodeInfo (integrity : Integrity nodes)
    (registered : nodes.lookup ID = some node) (fromID : ∀ link ∈ nbrs, link.beginID = ID)
    (keys : (nbrs.map Link.key).Nodup) {link : Link} (linkMem : link ∈ nbrs)
    (hasEnd : (nodes.lookup link.endID).isSome = true) :
    let after := (putNodeInfo ID ⟨some battery, some intfs, some nbrs⟩ nodes).2
    outStored after link = some ((sameLink link node.oLinks).getD link) ∧
      inStored after link = outStored after link := by
  have isBegin := fromID link linkMem
  have startIntegrity := integrity_insert_reported integrity registered
    ⟨some battery, some intfs, some nbrs⟩
  have sameOut : (reported ⟨some battery, some intfs, some nbrs⟩ node).oLinks = node.oLinks :=
    congrArg (fun view => view.2.1)
      (linkView_reported ⟨some battery, some intfs, some nbrs⟩ node)
  simp only [putNodeInfo, registered, Option.getD_some]
  generalize reported ⟨some battery, some intfs, some nbrs⟩ node = start at *
  have startBegin : ((nodes.insert ID start).lookup link.beginID).isSome = true := by
    rw [isBegin, AList.lookup_insert]
    rfl
  have startEnd : ((nodes.insert ID start).lookup link.endID).isSome = true := by
    rw [ObjectDict.lookup_insert_eq]
    split
    · rfl
    · exact hasEnd
  have startStored : outStored (nodes.insert ID start) link = sameLink link node.oLinks := by
    simp only [outStored, ObjectDict.lookup_insert_eq, if_pos isBegin, Option.bind_some, sameOut]
  constructor
  · rw [outStored_enforceLinks nbrs _ keys link linkMem startBegin startEnd, startStored]
  · apply inStored_eq (integrity_enforceLinks startIntegrity nbrs)
    · rwa [registered_enforceLinks]
    · rwa [registered_enforceLinks]

theorem registered_putNodeInfo (registered : nodes.lookup ID = some node) (report : Report)
    (a : PyInt) :
    ((putNodeInfo ID report nodes).2.lookup a).isSome = (nodes.lookup a).isSome := by
  simp only [putNodeInfo, registered]
  rw [registered_enforceLinks, ObjectDict.lookup_insert_eq]
  split
  · rename_i same
    rw [same, registered]
    rfl
  · rfl

end Carries

/-- The graph carries the latest report exactly when no reported link is stored with
another quality. -/
theorem putNodeInfo_carries_report_iff (nodes : Nodes) (reachable : Reachable nodes)
    (ID : PyInt) (node : Node) (registered : nodes.lookup ID = some node) (battery : PyInt)
    (intfs : List Interface) (nbrs : List Link)
    (indexes : (intfs.map Interface.index).Nodup)
    (fromID : ∀ link ∈ nbrs, link.beginID = ID) (keys : (nbrs.map Link.key).Nodup) :
    ((putNodeInfo ID ⟨some battery, some intfs, some nbrs⟩ nodes).1 = .success ∧
      CarriesReport ID battery intfs nbrs
        (putNodeInfo ID ⟨some battery, some intfs, some nbrs⟩ nodes).2) ↔
    ∀ link ∈ nbrs, (nodes.lookup link.endID).isSome = true →
      ∀ old ∈ node.oLinks, old.key = link.key → old.lq = link.lq := by
  have integrity := integrity_reachable reachable
  have unique := integrity.outKeys ID node registered
  constructor
  · rintro ⟨_, carries⟩ link linkMem hasEnd old oldMem sameKey
    have stored := (@stored_putNodeInfo _ _ _ battery intfs _ integrity registered fromID keys _
      linkMem hasEnd).1
    have latest := (carries.links link linkMem (by rwa [registered_putNodeInfo registered])).1
    have isKnown := (sameLink_eq_some_iff unique).mpr ⟨oldMem, sameKey⟩
    rw [stored, isKnown] at latest
    exact Option.some.inj latest
  · intro agrees
    refine ⟨?_, carries_device registered indexes, ?_⟩
    · simp only [putNodeInfo, registered]
    · intro link linkMem hasEnd
      rw [registered_putNodeInfo registered] at hasEnd
      rcases stored_putNodeInfo integrity registered
        fromID keys linkMem hasEnd with ⟨stored, sameIn⟩
      have latest : ((sameLink link node.oLinks).getD link).lq = link.lq := by
        cases found : sameLink link node.oLinks with
        | none => rfl
        | some old =>
            rcases of_sameLink found with ⟨oldMem, sameKey⟩
            exact agrees link linkMem hasEnd old oldMem sameKey
      rw [sameIn, stored, Option.map_some, latest]
      exact ⟨rfl, rfl⟩

/-! ### A first and a second report -/

theorem linkedNodes_second : (linkedNodes.lookup 2).isSome = true := by decide

theorem firstReport_carried :
    (putNodeInfo 2 ⟨some 70, some [⟨0, 3⟩], some [⟨2, 1, 4, 0⟩]⟩ linkedNodes).1 = .success ∧
      CarriesReport 2 70 [⟨0, 3⟩] [⟨2, 1, 4, 0⟩]
        (putNodeInfo 2 ⟨some 70, some [⟨0, 3⟩], some [⟨2, 1, 4, 0⟩]⟩ linkedNodes).2 := by
  apply (putNodeInfo_carries_report_iff linkedNodes linkedNodes_reachable 2
    ((linkedNodes.lookup 2).get linkedNodes_second) (Option.some_get _).symm 70 [⟨0, 3⟩]
    [⟨2, 1, 4, 0⟩] (by decide) (by decide) (by decide)).mpr
  decide

/-- Node 1 reports its link to node 2 again, with quality 9 in place of 5. -/
theorem secondReport_not_carried :
    Reachable linkedNodes ∧ (linkedNodes.lookup 1).isSome = true ∧
      ¬ CarriesReport 1 80 [⟨0, 3⟩] [⟨1, 2, 9, 0⟩]
        (putNodeInfo 1 ⟨some 80, some [⟨0, 3⟩], some [⟨1, 2, 9, 0⟩]⟩ linkedNodes).2 := by
  refine ⟨linkedNodes_reachable, by decide, ?_⟩
  intro carries
  have latest := (carries.links ⟨1, 2, 9, 0⟩ List.mem_cons_self (by decide)).1
  exact absurd latest (by decide)

end Vson

end Nrg5
