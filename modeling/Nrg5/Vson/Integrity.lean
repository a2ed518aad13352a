import Nrg5.Lib.KeyedList
import Nrg5.Vson.Graph

/-!
# Integrity of the topology graph

The two lists that hold a link agree in every reachable state, and every link lies
between registered nodes.  This is what `delete_node` relies on: it looks up the
other end of each link of the node without a check.
-/

namespace Nrg5

namespace Vson

open TopologyGraph

/-! ## The invariant -/

/-- What `isSame` compares. -/
def Link.key (link : Link) : PyInt × PyInt × PyInt := (link.beginID, link.endID, link.intfIdx)

theorem Link.isSame_iff (self link : Link) : self.isSame link = true ↔ self.key = link.key := by
  simp only [Link.isSame, Link.key, Bool.and_eq_true, beq_iff_eq, Prod.mk.injEq, and_assoc]
  constructor
  · rintro ⟨beginSame, endSame, intfSame⟩
    exact ⟨beginSame.symm, endSame.symm, intfSame.symm⟩
  · rintro ⟨beginSame, endSame, intfSame⟩
    exact ⟨beginSame.symm, endSame.symm, intfSame.symm⟩

/-- Every link is in the lists of its two ends, and nowhere else, once. -/
structure Integrity (nodes : Nodes) : Prop where
  ownID : ∀ a n, nodes.lookup a = some n → n.ID = a
  outgoing : ∀ a n, nodes.lookup a = some n → ∀ link ∈ n.oLinks,
    link.beginID = a ∧ (nodes.lookup link.endID).isSome = true
  incoming : ∀ a n, nodes.lookup a = some n → ∀ link ∈ n.iLinks,
    link.endID = a ∧ (nodes.lookup link.beginID).isSome = true
  mirrored : ∀ link b e, nodes.lookup link.beginID = some b → nodes.lookup link.endID = some e →
    (link ∈ b.oLinks ↔ link ∈ e.iLinks)
  outKeys : ∀ a n, nodes.lookup a = some n → (n.oLinks.map Link.key).Nodup
  inKeys : ∀ a n, nodes.lookup a = some n → (n.iLinks.map Link.key).Nodup

theorem integrity_empty : Integrity ∅ where
  ownID := by simp
  outgoing := by simp
  incoming := by simp
  mirrored := by simp
  outKeys := by simp
  inKeys := by simp

/-- What the invariant looks at in a node. -/
def Node.linkView (n : Node) : PyInt × List Link × List Link := (n.ID, n.oLinks, n.iLinks)

theorem Integrity.congr {nodes after : Nodes} (integrity : Integrity nodes)
    (sameViews : ∀ a, (after.lookup a).map Node.linkView = (nodes.lookup a).map Node.linkView) :
    Integrity after := by
  have sameDomain : ∀ a, (after.lookup a).isSome = (nodes.lookup a).isSome := by
    intro a
    have views := congrArg Option.isSome (sameViews a)
    simpa using views
  have origin : ∀ a n, after.lookup a = some n →
      ∃ m, nodes.lookup a = some m ∧ n.ID = m.ID ∧ n.oLinks = m.oLinks ∧ n.iLinks = m.iLinks := by
    intro a n found
    have views := sameViews a
    rw [found, Option.map_some] at views
    rcases Option.map_eq_some_iff.mp views.symm with ⟨m, isFound, view⟩
    simp only [Node.linkView, Prod.mk.injEq] at view
    exact ⟨m, isFound, view.1.symm, view.2.1.symm, view.2.2.symm⟩
  constructor
  · intro a n found
    rcases origin a n found with ⟨m, isFound, sameID, _, _⟩
    rw [sameID]
    exact integrity.ownID a m isFound
  · intro a n found link linkMem
    rcases origin a n found with ⟨m, isFound, _, sameOut, _⟩
    rw [sameOut] at linkMem
    rw [sameDomain]
    exact integrity.outgoing a m isFound link linkMem
  · intro a n found link linkMem
    rcases origin a n found with ⟨m, isFound, _, _, sameIn⟩
    rw [sameIn] at linkMem
    rw [sameDomain]
    exact integrity.incoming a m isFound link linkMem
  · intro link b e foundBegin foundEnd
    rcases origin _ b foundBegin with ⟨b', isFoundBegin, _, sameOut, _⟩
    rcases origin _ e foundEnd with ⟨e', isFoundEnd, _, _, sameIn⟩
    rw [sameOut, sameIn]
    exact integrity.mirrored link b' e' isFoundBegin isFoundEnd
  · intro a n found
    rcases origin a n found with ⟨m, isFound, _, sameOut, _⟩
    rw [sameOut]
    exact integrity.outKeys a m isFound
  · intro a n found
    rcases origin a n found with ⟨m, isFound, _, _, sameIn⟩
    rw [sameIn]
    exact integrity.inKeys a m isFound

/-! ## Adding a link -/

/-- A list with a link that has no equal key in it yet. -/
def addLink (link : Link) (links : List Link) : List Link :=
  match links.find? fun x => x.isSame link with
  | none => links ++ [link]
  | some _ => links

theorem oLinks_addOutlink (link : Link) (n : Node) :
    (n.addOutlink link).oLinks = addLink link n.oLinks := by
  unfold Node.addOutlink addLink
  cases n.oLinks.find? fun x => x.isSame link <;> rfl

theorem iLinks_addOutlink (link : Link) (n : Node) : (n.addOutlink link).iLinks = n.iLinks := by
  unfold Node.addOutlink
  cases n.oLinks.find? fun x => x.isSame link <;> rfl

theorem ID_addOutlink (link : Link) (n : Node) : (n.addOutlink link).ID = n.ID := by
  unfold Node.addOutlink
  cases n.oLinks.find? fun x => x.isSame link <;> rfl

theorem iLinks_addInlink (link : Link) (n : Node) :
    (n.addInlink link).iLinks = addLink link n.iLinks := by
  unfold Node.addInlink addLink
  cases n.iLinks.find? fun x => x.isSame link <;> rfl

theorem oLinks_addInlink (link : Link) (n : Node) : (n.addInlink link).oLinks = n.oLinks := by
  unfold Node.addInlink
  cases n.iLinks.find? fun x => x.isSame link <;> rfl

theorem ID_addInlink (link : Link) (n : Node) : (n.addInlink link).ID = n.ID := by
  unfold Node.addInlink
  cases n.iLinks.find? fun x => x.isSame link <;> rfl

/-- The keys of a list. -/
def HasKey (links : List Link) (link : Link) : Prop := ∃ x ∈ links, x.key = link.key

theorem addLink_of_hasKey {links : List Link} {link : Link} (known : HasKey links link) :
    addLink link links = links := by
  rcases known with ⟨x, xMem, sameKey⟩
  unfold addLink
  cases found : links.find? fun x => x.isSame link with
  | some _ => rfl
  | none =>
      have isSame := (Link.isSame_iff x link).mpr sameKey
      have notSame := List.find?_eq_none.mp found x xMem
      exact absurd isSame notSame

theorem addLink_of_new {links : List Link} {link : Link} (isNew : ¬ HasKey links link) :
    addLink link links = links ++ [link] := by
  unfold addLink
  cases found : links.find? fun x => x.isSame link with
  | none => rfl
  | some x =>
      have isSame := List.find?_some found
      exact absurd ⟨x, List.mem_of_find?_eq_some found, (Link.isSame_iff x link).mp isSame⟩ isNew

theorem addLink_eq (link : Link) (links : List Link) :
    addLink link links = KeyedList.add Link.key links link := by
  rcases em (HasKey links link) with known | isNew
  · rw [addLink_of_hasKey known, KeyedList.add_of_known (List.mem_map.mpr known)]
  · rw [addLink_of_new isNew, KeyedList.add_of_new fun known => isNew (List.mem_map.mp known)]

theorem nodup_addLink {links : List Link} (link : Link) (nodup : (links.map Link.key).Nodup) :
    ((addLink link links).map Link.key).Nodup := by
  rw [addLink_eq]
  exact KeyedList.nodup_add nodup link

theorem mem_addLink {links : List Link} {link other : Link} :
    other ∈ addLink link links ↔ other ∈ links ∨ (other = link ∧ ¬ HasKey links link) := by
  by_cases known : HasKey links link
  · simp [addLink_of_hasKey known, known]
  · simp [addLink_of_new known, known]

/-- A link is new only in the list of the node at its own end. -/
theorem mem_addLink_at (endOf : Link → PyInt) {links known : List Link} {link other : Link}
    (isKnown : endOf other = endOf link → links = known) :
    (other ∈ if endOf other = endOf link then addLink link links else links) ↔
      other ∈ links ∨ (other = link ∧ ¬ HasKey known link) := by
  split
  · rename_i isHere
    rw [mem_addLink, ← isKnown isHere]
  · rename_i isElsewhere
    constructor
    · exact Or.inl
    · rintro (isOld | ⟨rfl, _⟩)
      · exact isOld
      · exact absurd rfl isElsewhere

/-- What `__enforce_link` does between two registered nodes. -/
theorem lookup_enforceLink {nodes : Nodes} {link : Link}
    (hasBegin : (nodes.lookup link.beginID).isSome = true)
    (hasEnd : (nodes.lookup link.endID).isSome = true) (a : PyInt) :
    (enforceLink nodes link).lookup a = (nodes.lookup a).map fun n =>
      let out := if a = link.beginID then n.addOutlink link else n
      if a = link.endID then out.addInlink link else out := by
  rcases Option.isSome_iff_exists.mp hasBegin with ⟨b, foundBegin⟩
  rcases Option.isSome_iff_exists.mp hasEnd with ⟨e, foundEnd⟩
  simp only [enforceLink, foundBegin, foundEnd, ObjectDict.lookup_insert_eq]
  by_cases selfLink : link.endID = link.beginID
  · rw [if_pos selfLink]
    simp only [ObjectDict.lookup_insert_eq]
    by_cases isEnd : a = link.endID
    · subst isEnd
      have sameNode : b = e := by
        rw [selfLink, foundBegin] at foundEnd
        exact Option.some.inj foundEnd
      simp [selfLink, foundEnd, sameNode]
    · simp [isEnd, ← selfLink]
  · rw [if_neg selfLink]
    simp only [ObjectDict.lookup_insert_eq]
    by_cases isEnd : a = link.endID
    · subst isEnd
      simp [selfLink, foundEnd]
    · by_cases isBegin : a = link.beginID
      · subst isBegin
        simp [Ne.symm selfLink, foundBegin]
      · simp [isEnd, isBegin]

theorem enforceLink_unregistered {nodes : Nodes} {link : Link}
    (missing : ¬ ((nodes.lookup link.beginID).isSome = true ∧
      (nodes.lookup link.endID).isSome = true)) : enforceLink nodes link = nodes := by
  unfold enforceLink
  cases foundBegin : nodes.lookup link.beginID with
  | none => rfl
  | some b =>
      cases foundEnd : nodes.lookup link.endID with
      | none => rfl
      | some e => simp [foundBegin, foundEnd] at missing

/-- The links of a node after `__enforce_link`. -/
theorem links_enforceLink {nodes : Nodes} {link : Link}
    (hasBegin : (nodes.lookup link.beginID).isSome = true)
    (hasEnd : (nodes.lookup link.endID).isSome = true) {a : PyInt} {n : Node}
    (found : (enforceLink nodes link).lookup a = some n) :
    ∃ m, nodes.lookup a = some m ∧ n.ID = m.ID ∧
      n.oLinks = (if a = link.beginID then addLink link m.oLinks else m.oLinks) ∧
      n.iLinks = (if a = link.endID then addLink link m.iLinks else m.iLinks) := by
  rw [lookup_enforceLink hasBegin hasEnd] at found
  rcases Option.map_eq_some_iff.mp found with ⟨m, isFound, rfl⟩
  refine ⟨m, isFound, ?_, ?_, ?_⟩
  · dsimp only
    split <;> split <;> simp only [ID_addInlink, ID_addOutlink]
  · dsimp only
    split <;> split <;> simp only [oLinks_addInlink, oLinks_addOutlink]
  · dsimp only
    split <;> split <;> simp only [iLinks_addInlink, iLinks_addOutlink]

/-- The two ends of a link know its key together. -/
theorem Integrity.hasKey_iff {nodes : Nodes} (integrity : Integrity nodes) {link : Link}
    {b e : Node} (foundBegin : nodes.lookup link.beginID = some b)
    (foundEnd : nodes.lookup link.endID = some e) :
    HasKey b.oLinks link ↔ HasKey e.iLinks link := by
  have sameEnds : ∀ x : Link, x.key = link.key →
      x.beginID = link.beginID ∧ x.endID = link.endID := by
    intro x sameKey
    simp only [Link.key, Prod.mk.injEq] at sameKey
    exact ⟨sameKey.1, sameKey.2.1⟩
  constructor
  · rintro ⟨x, xMem, sameKey⟩
    rcases sameEnds x sameKey with ⟨beginSame, endSame⟩
    refine ⟨x, ?_, sameKey⟩
    exact (integrity.mirrored x b e (by rwa [beginSame]) (by rwa [endSame])).mp xMem
  · rintro ⟨x, xMem, sameKey⟩
    rcases sameEnds x sameKey with ⟨beginSame, endSame⟩
    refine ⟨x, ?_, sameKey⟩
    exact (integrity.mirrored x b e (by rwa [beginSame]) (by rwa [endSame])).mpr xMem

theorem integrity_enforceLink {nodes : Nodes} (integrity : Integrity nodes) (link : Link) :
    Integrity (enforceLink nodes link) := by
  by_cases registered : (nodes.lookup link.beginID).isSome = true ∧
      (nodes.lookup link.endID).isSome = true
  · rcases registered with ⟨hasBegin, hasEnd⟩
    rcases Option.isSome_iff_exists.mp hasBegin with ⟨b, foundBegin⟩
    rcases Option.isSome_iff_exists.mp hasEnd with ⟨e, foundEnd⟩
    have bothKnow := integrity.hasKey_iff foundBegin foundEnd
    have sameDomain : ∀ a, ((enforceLink nodes link).lookup a).isSome =
        (nodes.lookup a).isSome := by
      intro a
      rw [lookup_enforceLink hasBegin hasEnd, Option.isSome_map]
    constructor
    · intro a n found
      rcases links_enforceLink hasBegin hasEnd found with ⟨m, isFound, sameID, _, _⟩
      rw [sameID]
      exact integrity.ownID a m isFound
    · intro a n found other otherMem
      rcases links_enforceLink hasBegin hasEnd found with ⟨m, isFound, _, outLinks, _⟩
      rw [sameDomain]
      rw [outLinks] at otherMem
      split at otherMem
      · rename_i isBegin
        rcases mem_addLink.mp otherMem with old | ⟨rfl, _⟩
        · exact integrity.outgoing a m isFound other old
        · exact ⟨isBegin.symm, hasEnd⟩
      · exact integrity.outgoing a m isFound other otherMem
    · intro a n found other otherMem
      rcases links_enforceLink hasBegin hasEnd found with ⟨m, isFound, _, _, inLinks⟩
      rw [sameDomain]
      rw [inLinks] at otherMem
      split at otherMem
      · rename_i isEnd
        rcases mem_addLink.mp otherMem with old | ⟨rfl, _⟩
        · exact integrity.incoming a m isFound other old
        · exact ⟨isEnd.symm, hasBegin⟩
      · exact integrity.incoming a m isFound other otherMem
    · intro other b' e' foundBegin' foundEnd'
      rcases links_enforceLink hasBegin hasEnd foundBegin' with ⟨mb, isFoundBegin, _, outLinks, _⟩
      rcases links_enforceLink hasBegin hasEnd foundEnd' with ⟨me, isFoundEnd, _, _, inLinks⟩
      have old := integrity.mirrored other mb me isFoundBegin isFoundEnd
      have memOut : other ∈ b'.oLinks ↔
          other ∈ mb.oLinks ∨ (other = link ∧ ¬ HasKey b.oLinks link) := by
        rw [outLinks, mem_addLink_at Link.beginID]
        exact fun isBegin =>
          congrArg Node.oLinks (Option.some.inj (by rw [← isFoundBegin, isBegin, foundBegin]))
      have memIn : other ∈ e'.iLinks ↔
          other ∈ me.iLinks ∨ (other = link ∧ ¬ HasKey e.iLinks link) := by
        rw [inLinks, mem_addLink_at Link.endID]
        exact fun isEnd =>
          congrArg Node.iLinks (Option.some.inj (by rw [← isFoundEnd, isEnd, foundEnd]))
      rw [memOut, memIn, old, bothKnow]
    · intro a n found
      rcases links_enforceLink hasBegin hasEnd found with ⟨m, isFound, _, outLinks, _⟩
      rw [outLinks]
      split
      · exact nodup_addLink link (integrity.outKeys a m isFound)
      · exact integrity.outKeys a m isFound
    · intro a n found
      rcases links_enforceLink hasBegin hasEnd found with ⟨m, isFound, _, _, inLinks⟩
      rw [inLinks]
      split
      · exact nodup_addLink link (integrity.inKeys a m isFound)
      · exact integrity.inKeys a m isFound
  · rw [enforceLink_unregistered registered]
    exact integrity

/-! ## Reports and new nodes -/

/-- What does not show the interfaces of a node is left by the merge of some. -/
theorem view_addInterfaces {β : Type} {view : Node → β}
    (blind : ∀ n intfs, view { n with intfs := intfs } = view n) (intfs : List Interface)
    (n : Node) : view (intfs.foldl Node.addInterface n) = view n := by
  induction intfs generalizing n with
  | nil => rfl
  | cons intf rest ih =>
      rw [List.foldl_cons, ih]
      unfold Node.addInterface
      cases n.intfs.lookup intf.index with
      | none => exact blind _ _
      | some known =>
          dsimp only
          split
          · exact blind _ _
          · rfl

theorem linkView_addInterfaces (intfs : List Interface) (n : Node) :
    (intfs.foldl Node.addInterface n).linkView = n.linkView :=
  view_addInterfaces (fun _ _ => rfl) intfs n

theorem linkView_reported (report : Report) (n : Node) :
    (reported report n).linkView = n.linkView := by
  rcases report with ⟨battery, intfs, nbrs⟩
  simp only [reported]
  cases intfs with
  | none => cases battery <;> cases nbrs <;> rfl
  | some intfs =>
      have charged := linkView_addInterfaces intfs
      cases battery <;> cases nbrs <;> exact charged _

theorem integrity_insert_reported {nodes : Nodes} (integrity : Integrity nodes) {ID : PyInt}
    {node : Node} (found : nodes.lookup ID = some node) (report : Report) :
    Integrity (nodes.insert ID (reported report node)) := by
  apply integrity.congr
  intro a
  rw [ObjectDict.lookup_insert_eq]
  split
  · rename_i same
    subst same
    rw [found, Option.map_some, Option.map_some, linkView_reported]
  · rfl

theorem integrity_enforceLinks {nodes : Nodes} (integrity : Integrity nodes)
    (links : List Link) : Integrity (links.foldl enforceLink nodes) := by
  induction links generalizing nodes with
  | nil => exact integrity
  | cons link rest ih => exact ih (integrity_enforceLink integrity link)

theorem integrity_putNodeInfo {nodes : Nodes} (integrity : Integrity nodes) (ID : PyInt)
    (report : Report) : Integrity (putNodeInfo ID report nodes).2 := by
  unfold putNodeInfo
  cases found : nodes.lookup ID with
  | none => exact integrity
  | some node =>
      exact integrity_enforceLinks (integrity_insert_reported integrity found report) _

theorem integrity_pushNode {nodes : Nodes} (integrity : Integrity nodes) (ID : PyInt)
    (sign : String) (reg bs : Bool) : Integrity (pushNode ID sign reg bs nodes).2 := by
  unfold pushNode
  cases missing : nodes.lookup ID with
  | some node => exact integrity
  | none =>
      have stillThere : ∀ a, (nodes.lookup a).isSome = true →
          ((nodes.insert ID (Node.new ID sign reg bs)).lookup a).isSome = true := by
        intro a isThere
        rw [ObjectDict.lookup_insert_eq]
        split
        · rfl
        · exact isThere
      have isOld : ∀ a, (nodes.lookup a).isSome = true → a ≠ ID := by
        rintro a isThere rfl
        rw [missing] at isThere
        exact absurd isThere (by simp)
      have split : ∀ a n, (nodes.insert ID (Node.new ID sign reg bs)).lookup a = some n →
          (a = ID ∧ n = Node.new ID sign reg bs) ∨ nodes.lookup a = some n := by
        intro a n found
        rw [ObjectDict.lookup_insert_eq] at found
        by_cases same : a = ID
        · rw [if_pos same] at found
          exact .inl ⟨same, (Option.some.inj found).symm⟩
        · rw [if_neg same] at found
          exact .inr found
      constructor
      · intro a n found
        rcases split a n found with ⟨rfl, rfl⟩ | old
        · rfl
        · exact integrity.ownID a n old
      · intro a n found link linkMem
        rcases split a n found with ⟨rfl, rfl⟩ | old
        · simp [Node.new] at linkMem
        · rcases integrity.outgoing a n old link linkMem with ⟨isBegin, hasEnd⟩
          exact ⟨isBegin, stillThere _ hasEnd⟩
      · intro a n found link linkMem
        rcases split a n found with ⟨rfl, rfl⟩ | old
        · simp [Node.new] at linkMem
        · rcases integrity.incoming a n old link linkMem with ⟨isEnd, hasBegin⟩
          exact ⟨isEnd, stillThere _ hasBegin⟩
      · intro link b e foundBegin foundEnd
        -- a link of an old node lies between old nodes, so the new node has none
        rcases split _ b foundBegin with ⟨beginNew, rfl⟩ | oldBegin
        · rcases split _ e foundEnd with ⟨_, rfl⟩ | oldEnd
          · simp [Node.new]
          · constructor
            · intro isOut
              simp [Node.new] at isOut
            · intro isIn
              have hasBegin := (integrity.incoming _ e oldEnd link isIn).2
              exact absurd beginNew (isOld _ hasBegin)
        · rcases split _ e foundEnd with ⟨endNew, rfl⟩ | oldEnd
          · constructor
            · intro isOut
              have hasEnd := (integrity.outgoing _ b oldBegin link isOut).2
              exact absurd endNew (isOld _ hasEnd)
            · intro isIn
              simp [Node.new] at isIn
          · exact integrity.mirrored link b e oldBegin oldEnd
      · intro a n found
        rcases split a n found with ⟨rfl, rfl⟩ | old
        · simp [Node.new]
        · exact integrity.outKeys a n old
      · intro a n found
        rcases split a n found with ⟨rfl, rfl⟩ | old
        · simp [Node.new]
        · exact integrity.inKeys a n old

end Vson

end Nrg5
