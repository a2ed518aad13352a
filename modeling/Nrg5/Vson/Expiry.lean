import Nrg5.Vson.Export

/-!
# Expiry of nodes

A tick marks every node that is alive, and deletes the ones that it finds marked: those
that have been silent since the tick before.  The deletions leave the graph that the
survivors induce, in whatever order the dictionary is iterated.
-/

namespace Nrg5

namespace Vson

open TopologyGraph

/-- A node without its links to and from some others. -/
def Node.withoutAll (IDs : List PyInt) (n : Node) : Node :=
  { n with
    oLinks := n.oLinks.filter fun link => link.endID ∉ IDs
    iLinks := n.iLinks.filter fun link => link.beginID ∉ IDs }

theorem Node.withoutAll_cons (ID : PyInt) (rest : List PyInt) (n : Node) :
    (n.without ID).withoutAll rest = n.withoutAll (ID :: rest) := by
  simp only [Node.withoutAll, Node.without, Node.removeLinkToID, Node.removeLinkFromID,
    List.filter_filter, Node.mk.injEq, true_and]
  constructor
  · apply List.filter_congr
    intro link _
    rcases eq_or_ne link.endID ID with same | isOther
    · simp [same]
    · simp [isOther]
  · apply List.filter_congr
    intro link _
    rcases eq_or_ne link.beginID ID with same | isOther
    · simp [same]
    · simp [isOther]

theorem Node.withoutAll_nil : Node.withoutAll [] = id := by
  funext n
  simp [Node.withoutAll]

theorem Node.withoutAll_singleton (ID : PyInt) : Node.withoutAll [ID] = Node.without ID := by
  funext n
  rw [← Node.withoutAll_cons, Node.withoutAll_nil, id]

/-! ## Which nodes are alive -/

theorem alive_addOutlink (link : Link) (n : Node) : (n.addOutlink link).alive = n.alive := by
  unfold Node.addOutlink
  cases n.oLinks.find? fun x => x.isSame link <;> rfl

theorem alive_addInlink (link : Link) (n : Node) : (n.addInlink link).alive = n.alive := by
  unfold Node.addInlink
  cases n.iLinks.find? fun x => x.isSame link <;> rfl

theorem alive_addInterfaces (intfs : List Interface) (n : Node) :
    (intfs.foldl Node.addInterface n).alive = n.alive :=
  view_addInterfaces (fun _ _ => rfl) intfs n

theorem alive_reported (report : Report) (n : Node) : (reported report n).alive = true := by
  rcases report with ⟨battery, intfs, nbrs⟩
  simp only [reported]
  cases intfs with
  | none => cases battery <;> cases nbrs <;> rfl
  | some intfs =>
      have wired := alive_addInterfaces intfs
      cases battery <;> cases nbrs <;> exact wired _

/-- A report makes its node alive and no other one. -/
theorem alive_putNodeInfo {ID : PyInt} {node : Node} {nodes : Nodes}
    (registered : nodes.lookup ID = some node) (report : Report) (a : PyInt) :
    ((putNodeInfo ID report nodes).2.lookup a).map Node.alive =
      if a = ID then some true else (nodes.lookup a).map Node.alive := by
  simp only [putNodeInfo, registered]
  rw [view_enforceLinks alive_addOutlink alive_addInlink, ObjectDict.lookup_insert_eq]
  split
  · rw [Option.map_some, alive_reported]
  · rfl

namespace Topo

variable {host : ByteOrder} {self : Topo} {writes : PyInt → Write}

/-! ## The deletions of a tick -/

/-- `__update_netgraph` goes through for nodes that are iterated in an order. -/
def Written (write : Write) (order : List PyInt) : Prop :=
  write = .completes ∧ ∀ a ∈ order, FitsQ a

instance (write : Write) (order : List PyInt) : Decidable (Written write order) :=
  inferInstanceAs (Decidable (_ ∧ _))

/-- The nodes that the second loop of a tick deletes: it ends where the export file is not
written. -/
def deletedIn (writes : PyInt → Write) : List PyInt → List PyInt → List PyInt
  | [], _ => []
  | ID :: rest, order =>
      if Written (writes ID) (order.erase ID) then ID :: deletedIn writes rest (order.erase ID)
      else [ID]

theorem deletedIn_completes (completes : ∀ ID, writes ID = .completes) (IDs : List PyInt)
    {order : List PyInt} (fits : ∀ a ∈ order, FitsQ a) : deletedIn writes IDs order = IDs := by
  induction IDs generalizing order with
  | nil => rfl
  | cons ID rest ih =>
      have stillFits : ∀ a ∈ order.erase ID, FitsQ a := fun a isMem =>
        fits a (List.mem_of_mem_erase isMem)
      rw [deletedIn, if_pos ⟨completes ID, stillFits⟩, ih stillFits]

/-- A graph with a document has no identifier that is too wide. -/
theorem Shaped.fits {doc : Netgraph} (shaped : self.Shaped) (isDoc : self.tojson host = .ok doc) :
    ∀ a ∈ self.order, FitsQ a := by
  intro a isMem
  rcases Option.isSome_iff_exists.mp
    (((ObjectDict.perm_keys_iff.mp shaped.iterates).2 a).mp isMem) with ⟨n, found⟩
  have listed := (mem_listed shaped.iterates).mpr ⟨a, found⟩
  rcases mapM_ok_each (tojson_ok isDoc).1 n listed with ⟨shown, isShown⟩
  rcases Node.tojson_ok_iff.mp isShown with ⟨id, isId, _⟩
  rw [shaped.integrity.ownID a n found] at isId
  exact (exportedID_ok_iff.mp isId).1

theorem commit_cases {write : Write} (shaped : self.Shaped) :
    (Written write self.order ∧ (self.commit host write).1 = .ok .success) ∨
      ¬ Written write self.order ∧ ∃ e, (self.commit host write).1 = .error e := by
  cases isDoc : self.tojson host with
  | ok doc =>
      have fits := shaped.fits isDoc
      rw [commit_eq isDoc]
      cases write with
      | completes => exact .inl ⟨⟨rfl, fits⟩, rfl⟩
      | openFails => exact .inr ⟨fun written => absurd written.1 (by decide), _, rfl⟩
      | dumpFails => exact .inr ⟨fun written => absurd written.1 (by decide), _, rfl⟩
  | error e =>
      right
      constructor
      · intro written
        have valid : self.Valid := by
          refine ⟨shaped, fun a isThere => written.2 a ?_⟩
          exact ((ObjectDict.perm_keys_iff.mp shaped.iterates).2 a).mpr isThere
        rcases (valid.tojson_isOk : ∃ doc, self.tojson host = .ok doc) with ⟨doc, isOk⟩
        rw [isDoc] at isOk
        exact nomatch isOk
      · have raises : rebuild host { self with changed := true, outfile := none } =
            (.error e, { self with changed := false, outfile := none }) := by
          rw [rebuild, if_pos rfl]
          have cleared : tojson host { self with changed := false, outfile := none } = .error e :=
            isDoc
          simp only [cleared]
        rw [commit, updateNetgraph]
        cases write with
        | completes => exact ⟨e, by simp [raises]⟩
        | openFails => exact ⟨.ioError, by simp⟩
        | dumpFails => exact ⟨e, by simp [raises]⟩

theorem deleteNode_deletes {write : Write} {ID : PyInt} (shaped : self.Shaped)
    (isThere : (self.nodes.lookup ID).isSome = true) :
    Deleted ID self.nodes (self.deleteNode host write ID).2.nodes ∧
      (self.deleteNode host write ID).2.order = self.order.erase ID ∧
        ((Written write (self.order.erase ID) ∧
            (self.deleteNode host write ID).1 = .ok .success) ∨
          ¬ Written write (self.order.erase ID) ∧
            ∃ e, (self.deleteNode host write ID).1 = .error e) := by
  rcases deleteNode_cases shaped.integrity with ⟨missing, _⟩ | ⟨nodes, deleted, isCommit⟩
  · rw [missing] at isThere
    exact absurd isThere (by simp)
  · rw [isCommit, nodes_commit.1, nodes_commit.2]
    exact ⟨deleted, rfl, commit_cases (shaped_deleted shaped deleted)⟩

/-- The collected nodes are deleted up to the first one after which the export file is not
written, and all of them where it always is. -/
theorem deleteEach_deletes (IDs : List PyInt) (shaped : self.Shaped)
    (registered : ∀ ID ∈ IDs, (self.nodes.lookup ID).isSome = true) (nodup : IDs.Nodup) :
    (∀ a, (deleteEach host writes IDs self).2.nodes.lookup a =
      if a ∈ deletedIn writes IDs self.order then none
      else (self.nodes.lookup a).map (Node.withoutAll (deletedIn writes IDs self.order))) ∧
    ((∀ ID, writes ID = .completes) → (∀ a ∈ self.order, FitsQ a) →
      (deleteEach host writes IDs self).1 = .ok ()) := by
  induction IDs generalizing self with
  | nil =>
      refine ⟨?_, fun _ _ => rfl⟩
      intro a
      rw [deletedIn, if_neg List.not_mem_nil, Node.withoutAll_nil, Option.map_id_fun, id]
      rfl
  | cons ID rest ih =>
      rw [List.forall_mem_cons] at registered
      rw [List.nodup_cons] at nodup
      have isShaped := @shaped_deleteNode host self (writes ID) ID shaped
      rcases @deleteNode_deletes host self (writes ID) ID shaped registered.1 with
        ⟨deleted, sameOrder, outcomes⟩
      rw [deleteEach, deletedIn]
      rcases outcome : self.deleteNode host (writes ID) ID with ⟨answer, after⟩
      rw [outcome] at isShaped deleted sameOrder outcomes
      dsimp only at isShaped deleted sameOrder outcomes
      rcases outcomes with ⟨written, rfl⟩ | ⟨unwritten, e, rfl⟩
      · have restThere : ∀ a ∈ rest, (after.nodes.lookup a).isSome = true := by
          intro a isLater
          apply (registered_deleted deleted a).mpr
          exact ⟨fun same => nodup.1 (same ▸ isLater), registered.2 a isLater⟩
        rcases ih isShaped restThere nodup.2 with ⟨lookups, goesOn⟩
        rw [sameOrder] at lookups goesOn
        rw [if_pos written]
        constructor
        · intro a
          rw [lookups, deleted]
          rcases eq_or_ne a ID with rfl | isOther
          · simp
          · simp only [List.mem_cons, isOther, false_or, if_false]
            split
            · rfl
            · rw [Option.map_map]
              congr 1
              funext n
              exact Node.withoutAll_cons ID _ n
        · intro completes fits
          exact goesOn completes fun a isMem => fits a (List.mem_of_mem_erase isMem)
      · rw [if_neg unwritten]
        constructor
        · intro a
          rw [deleted, Node.withoutAll_singleton]
          simp only [List.mem_singleton]
        · intro completes fits
          exact absurd ⟨completes ID, fun a isMem => fits a (List.mem_of_mem_erase isMem)⟩ unwritten

/-- Where the export file can be written the collected nodes are deleted. -/
theorem deleteEach_ok (completes : ∀ ID, writes ID = .completes) (IDs : List PyInt)
    (valid : self.Valid) (registered : ∀ ID ∈ IDs, (self.nodes.lookup ID).isSome = true)
    (nodup : IDs.Nodup) :
    ∃ after, deleteEach host writes IDs self = (.ok (), after) ∧
      ∀ a, after.nodes.lookup a =
        if a ∈ IDs then none else (self.nodes.lookup a).map (Node.withoutAll IDs) := by
  have fits : ∀ a ∈ self.order, FitsQ a := by
    intro a isMem
    exact valid.fits a (((ObjectDict.perm_keys_iff.mp valid.iterates).2 a).mp isMem)
  rcases @deleteEach_deletes host self writes IDs valid.toShaped registered nodup with
    ⟨lookups, returns⟩
  rw [deletedIn_completes completes IDs fits] at lookups
  exact ⟨_, Prod.ext (returns completes fits) rfl, lookups⟩

/-! ## Renewals and ticks -/

theorem alive_deleteNode {write : Write} {ID a : PyInt} {n : Node} (shaped : self.Shaped)
    (found : (self.deleteNode host write ID).2.nodes.lookup a = some n) :
    ∃ m, self.nodes.lookup a = some m ∧ n.alive = m.alive := by
  rcases deleteNode_cases shaped.integrity with ⟨_, isSelf⟩ | ⟨nodes, deleted, isCommit⟩
  · rw [isSelf] at found
    exact ⟨n, found, rfl⟩
  · rw [isCommit, nodes_commit.1, deleted] at found
    split at found
    · exact nomatch found
    · rcases Option.map_eq_some_iff.mp found with ⟨m, isFound, rfl⟩
      exact ⟨m, isFound, rfl⟩

theorem alive_deleteEach {a : PyInt} {n : Node} (IDs : List PyInt) (shaped : self.Shaped)
    (found : (deleteEach host writes IDs self).2.nodes.lookup a = some n) :
    ∃ m, self.nodes.lookup a = some m ∧ n.alive = m.alive := by
  induction IDs generalizing self with
  | nil => exact ⟨n, found, rfl⟩
  | cons ID rest ih =>
      have keeps := fun n => @alive_deleteNode host self (writes ID) ID a n shaped
      have isShaped := @shaped_deleteNode host self (writes ID) ID shaped
      rw [deleteEach] at found
      rcases outcome : self.deleteNode host (writes ID) ID with ⟨error | status, after⟩
      all_goals rw [outcome] at found keeps isShaped
      · exact keeps n found
      · rcases ih isShaped found with ⟨m, isFound, same⟩
        rcases keeps m isFound with ⟨k, isFirst, sameFirst⟩
        exact ⟨k, isFirst, same.trans sameFirst⟩

namespace Op

def IsTick : Op → Prop
  | .deviceMonitor _ => True
  | _ => False

/-- The call registers a node, or reports about it. -/
def Renews (a : PyInt) (self : Topo) : Op → Prop
  | .pushNode ID _ _ _ _ _ => ID = a ∧ self.nodes.lookup a = none
  | .putNodeInfo ID _ _ => ID = a
  | _ => False

end Op

/-- What a call says about a node that is there after it. -/
inductive Lives (op : Op) (self : Topo) (a : PyInt) (n : Node) : Prop where
  | tick (isTick : op.IsTick) (wasThere : (self.nodes.lookup a).isSome = true)
      (marked : n.alive = false)
  | renewed (notTick : ¬ op.IsTick) (renews : op.Renews a self) (alive : n.alive = true)
  | kept (notTick : ¬ op.IsTick) (notRenewed : ¬ op.Renews a self) (m : Node)
      (was : self.nodes.lookup a = some m) (same : n.alive = m.alive)

theorem lives_of_call {op : Op} {a : PyInt} {n : Node} (shaped : self.Shaped)
    (found : (op.call host self).2.nodes.lookup a = some n) : Lives op self a n := by
  cases op with
  | pushNode ID sign reg bs order write =>
      change (self.pushNode host write order ID sign reg bs).2.nodes.lookup a = some n at found
      rw [nodes_pushNode] at found
      cases known : self.nodes.lookup ID with
      | some node =>
          simp only [TopologyGraph.pushNode, known] at found
          refine .kept not_false ?_ n found rfl
          rintro ⟨rfl, missing⟩
          rw [known] at missing
          cases missing
      | none =>
          rw [nodes_pushed known, ObjectDict.lookup_insert_eq] at found
          split at found
          · rename_i isNew
            rcases Option.some.inj found with rfl
            exact .renewed not_false ⟨isNew.symm, isNew ▸ known⟩ rfl
          · rename_i isOther
            exact .kept not_false (fun renews => isOther renews.1.symm) n found rfl
  | putNodeInfo ID report write =>
      change (self.putNodeInfo host write ID report).2.nodes.lookup a = some n at found
      rw [nodes_putNodeInfo] at found
      cases known : self.nodes.lookup ID with
      | none =>
          simp only [TopologyGraph.putNodeInfo, known] at found
          refine .kept not_false ?_ n found rfl
          rintro rfl
          rw [known] at found
          cases found
      | some node =>
          have alive := alive_putNodeInfo known report a
          rw [found, Option.map_some] at alive
          split at alive
          · rename_i isReported
            exact .renewed not_false isReported.symm (Option.some.inj alive)
          · rename_i isOther
            rcases Option.map_eq_some_iff.mp alive.symm with ⟨m, was, same⟩
            exact .kept not_false (fun renews => isOther renews.symm) m was same.symm
  | deleteNode ID write =>
      rcases alive_deleteNode shaped found with ⟨m, was, same⟩
      exact .kept not_false not_false m was same
  | deviceMonitor writes =>
      change (self.deviceMonitor host writes).2.nodes.lookup a = some n at found
      have remains : ∃ m, self.marked.nodes.lookup a = some m ∧ n.alive = m.alive := by
        rw [deviceMonitor_snd shaped] at found
        exact alive_deleteEach _ (shaped_marked shaped) found
      rcases remains with ⟨m, isMarked, same⟩
      rw [marked, lookup_markNodes] at isMarked
      rcases Option.map_eq_some_iff.mp isMarked with ⟨k, was, rfl⟩
      have isMem : a ∈ self.order :=
        ((ObjectDict.perm_keys_iff.mp shaped.iterates).2 a).mpr (Option.isSome_of_eq_some was)
      rw [if_pos isMem] at same
      exact .tick trivial (Option.isSome_of_eq_some was) same
  | getTopoAll =>
      change (self.getTopoAll host).2.nodes.lookup a = some n at found
      rw [getTopoAll_snd, nodes_rebuild.1] at found
      exact .kept not_false not_false n found rfl

/-- The node was registered at the latest tick, and no call has renewed it since. -/
def SilentSince (history : List (Op × Topo)) (a : PyInt) : Prop :=
  ∃ since writes before earlier, history = since ++ (.deviceMonitor writes, before) :: earlier ∧
    (before.nodes.lookup a).isSome = true ∧
      ∀ entry ∈ since, ¬ entry.1.IsTick ∧ ¬ entry.1.Renews a entry.2

variable {history : List (Op × Topo)} {a : PyInt} {op : Op}

theorem silentSince_tick (isTick : op.IsTick) :
    SilentSince ((op, self) :: history) a ↔ (self.nodes.lookup a).isSome = true := by
  constructor
  · rintro ⟨since, writes, before, earlier, isHistory, wasThere, noTick⟩
    cases since with
    | nil =>
        rw [List.nil_append, List.cons.injEq, Prod.mk.injEq] at isHistory
        rcases isHistory with ⟨⟨_, rfl⟩, _⟩
        exact wasThere
    | cons entry rest =>
        rw [List.cons_append, List.cons.injEq] at isHistory
        rcases isHistory with ⟨rfl, _⟩
        exact absurd isTick (noTick _ List.mem_cons_self).1
  · intro wasThere
    cases op with
    | deviceMonitor writes =>
        exact ⟨[], writes, self, history, rfl, wasThere, fun _ isMem => nomatch isMem⟩
    | pushNode ID sign reg bs order write => exact isTick.elim
    | putNodeInfo ID report write => exact isTick.elim
    | deleteNode ID write => exact isTick.elim
    | getTopoAll => exact isTick.elim

theorem silentSince_other (notTick : ¬ op.IsTick) :
    SilentSince ((op, self) :: history) a ↔ ¬ op.Renews a self ∧ SilentSince history a := by
  constructor
  · rintro ⟨since, writes, before, earlier, isHistory, wasThere, noTick⟩
    cases since with
    | nil =>
        rw [List.nil_append, List.cons.injEq, Prod.mk.injEq] at isHistory
        rcases isHistory with ⟨⟨rfl, _⟩, _⟩
        exact absurd trivial notTick
    | cons entry rest =>
        rw [List.cons_append, List.cons.injEq] at isHistory
        rcases isHistory with ⟨rfl, rfl⟩
        rw [List.forall_mem_cons] at noTick
        exact ⟨noTick.1.2, rest, writes, before, earlier, rfl, wasThere, noTick.2⟩
  · rintro ⟨notRenewed, since, writes, before, earlier, rfl, wasThere, noTick⟩
    exact ⟨(op, self) :: since, writes, before, earlier, rfl, wasThere,
      List.forall_mem_cons.mpr ⟨⟨notTick, notRenewed⟩, noTick⟩⟩

/-- In every run the nodes that are not alive are those that have been silent. -/
theorem alive_run (run : Run host history self) {n : Node}
    (found : self.nodes.lookup a = some n) : n.alive = false ↔ SilentSince history a := by
  induction run generalizing n with
  | init => exact nomatch found
  | @call history self before op iterates ih =>
      cases lives_of_call (shaped_run before) found with
      | tick isTick wasThere marked =>
          exact iff_of_true marked ((silentSince_tick isTick).mpr wasThere)
      | renewed notTick renews alive =>
          rw [silentSince_other notTick, alive]
          exact iff_of_false nofun fun isSilent => isSilent.1 renews
      | kept notTick notRenewed m was same =>
          rw [silentSince_other notTick, same, ih was]
          exact (and_iff_right notRenewed).symm

/-- What a tick is to leave of the nodes: without the ones that are gone, the others with the
links among them. -/
structure Expires (gone : PyInt → Prop) (nodes after : Nodes) : Prop where
  removed : ∀ a, (nodes.lookup a).isSome = true → (after.lookup a = none ↔ gone a)
  unknown : ∀ a, nodes.lookup a = none → after.lookup a = none
  induced : ∀ a n, nodes.lookup a = some n → ¬ gone a → after.lookup a = some
    { n with
      alive := false
      oLinks := n.oLinks.filter fun link => (after.lookup link.endID).isSome
      iLinks := n.iLinks.filter fun link => (after.lookup link.beginID).isSome }

theorem silent_eq {n : Node} {nodes : Nodes} (found : nodes.lookup a = some n) :
    silent nodes a = true ↔ n.alive = false := by
  simp [silent, found]

/-- A tick whose deletions go through leaves the graph that the survivors induce. -/
theorem deviceMonitor_expires (valid : self.Valid) (completes : ∀ ID, writes ID = .completes) :
    ∃ expired after, self.deviceMonitor host writes = (.ok expired, after) ∧
      Expires (fun a => silent self.nodes a = true) self.nodes after.nodes := by
  have isKey := (ObjectDict.perm_keys_iff.mp valid.iterates).2
  rcases collected_registered valid.toShaped with ⟨nodup, registered⟩
  rcases deleteEach_ok completes _ (valid_marked valid) registered nodup with
    ⟨after, returns, lookups⟩
  refine ⟨self.order.filter (silent self.nodes), after, ?_, ?_⟩
  · rw [deviceMonitor_eq valid.toShaped, returns]
  have collected : ∀ a, (self.nodes.lookup a).isSome = true →
      (a ∈ self.order.filter (silent self.nodes) ↔ silent self.nodes a = true) := by
    intro a isThere
    rw [List.mem_filter]
    exact and_iff_right ((isKey a).mpr isThere)
  have survives : ∀ a, (self.nodes.lookup a).isSome = true →
      (after.nodes.lookup a).isSome = decide (a ∉ self.order.filter (silent self.nodes)) := by
    intro a isThere
    rw [lookups]
    split
    · rename_i isGone
      simp [isGone]
    · rename_i remains
      rw [Option.isSome_map, registered_marked, isThere]
      exact (decide_eq_true remains).symm
  refine ⟨?_, ?_, ?_⟩
  · intro a isThere
    rw [← collected a isThere, ← Option.isNone_iff_eq_none, ← Option.not_isSome, survives a isThere]
    simp
  · intro a missing
    have isNone : self.marked.nodes.lookup a = none := by
      rw [← Option.isNone_iff_eq_none, ← Option.not_isSome, registered_marked, missing]
      rfl
    rw [lookups, isNone]
    split <;> rfl
  · intro a n found notGone
    have isThere : (self.nodes.lookup a).isSome = true := Option.isSome_of_eq_some found
    have isMarked : self.marked.nodes.lookup a = some n.marked := by
      rw [marked, lookup_markNodes, found, Option.map_some, if_pos ((isKey a).mpr isThere)]
    rw [lookups, if_neg (fun isGone => notGone ((collected a isThere).mp isGone)), isMarked,
      Option.map_some, Node.withoutAll]
    have outgoing : n.marked.oLinks.filter (fun link =>
        link.endID ∉ self.order.filter (silent self.nodes)) =
        n.oLinks.filter fun link => (after.nodes.lookup link.endID).isSome := by
      apply List.filter_congr
      intro link isOut
      exact (survives _ (valid.integrity.outgoing a n found link isOut).2).symm
    have incoming : n.marked.iLinks.filter (fun link =>
        link.beginID ∉ self.order.filter (silent self.nodes)) =
        n.iLinks.filter fun link => (after.nodes.lookup link.beginID).isSome := by
      apply List.filter_congr
      intro link isIn
      exact (survives _ (valid.integrity.incoming a n found link isIn).2).symm
    rw [outgoing, incoming]
    rfl

/-- Where every identifier fits into eight bytes, a tick that can write the export file removes
the nodes that have been silent since the tick before, and leaves the graph that the others
induce, in whatever order the dictionary is iterated. -/
theorem expiry_exact (run : Run host history self) (fits : ∀ entry ∈ history, entry.1.Fits)
    (completes : ∀ ID, writes ID = .completes) {order : List PyInt}
    (iterates : order.Perm self.order) :
    ∃ expired after,
      deviceMonitor host writes { self with order := order } = (.ok expired, after) ∧
        Expires (SilentSince history) self.nodes after.nodes := by
  have valid := (sound_run run fits).1
  have reordered : Valid { self with order := order } :=
    ⟨⟨iterates.trans valid.iterates, valid.integrity⟩, valid.fits⟩
  rcases (deviceMonitor_expires reordered completes :
    ∃ expired after, deviceMonitor host writes { self with order := order } =
      (.ok expired, after) ∧ _) with ⟨expired, after, returns, expires⟩
  refine ⟨expired, after, returns, ?_, expires.unknown, ?_⟩
  · intro a isThere
    rcases Option.isSome_iff_exists.mp isThere with ⟨n, found⟩
    rw [expires.removed a isThere, silent_eq found]
    exact alive_run run found
  · intro a n found notGone
    apply expires.induced a n found
    rw [silent_eq found]
    exact fun isSilent => notGone ((alive_run run found).mp isSilent)

/-! ### A silent node among linked ones, and two beside an identifier that is too wide -/

/-- A tick that can write the export file. -/
def tick : Op := .deviceMonitor fun _ => .completes

/-- A node reports its links to some others. -/
def reports (ID : PyInt) (others : List PyInt) : Op :=
  .putNodeInfo ID
    ⟨some 100, none, some (others.map fun other => ⟨ID, other, 1, 0⟩)⟩ .completes

/-- Three nodes are linked.  After a tick two of them report again. -/
def linkedCalls : List Op :=
  [.pushNode 1 "" true true [1] .completes, .pushNode 2 "" true false [2, 1] .completes,
    .pushNode 3 "" true false [3, 2, 1] .completes, reports 1 [2, 3], reports 2 [1, 3],
    reports 3 [1, 2], tick, reports 1 [2], reports 2 [1]]

def afterCalls (calls : List Op) : Topo :=
  calls.foldl (fun self op => (op.call .little self).2) init

def linked : Topo := afterCalls linkedCalls

theorem linked_run : ∃ history, Run .little history linked ∧
    ∀ entry ∈ history, entry.1 ∈ linkedCalls := by
  have one := (Run.init.call (.pushNode 1 "" true true [1] .completes) fun _ => .refl _ :
    Run .little _ (afterCalls (linkedCalls.take 1)))
  have two := one.call (.pushNode 2 "" true false [2, 1] .completes) fun _ => .refl _
  have three := two.call (.pushNode 3 "" true false [3, 2, 1] .completes) fun _ => .refl _
  have known := ((three.call (reports 1 [2, 3]) trivial).call (reports 2 [1, 3]) trivial).call
    (reports 3 [1, 2]) trivial
  have again :=
    ((known.call tick trivial).call (reports 1 [2]) trivial).call (reports 2 [1]) trivial
  refine ⟨_, again, ?_⟩
  simp [linkedCalls]

theorem fits_linkedCalls : ∀ op ∈ linkedCalls, op.Fits := by
  simp only [linkedCalls, List.forall_mem_cons, List.not_mem_nil, false_implies, implies_true,
    and_true]
  exact ⟨⟨by decide, by decide⟩, ⟨by decide, by decide⟩, ⟨by decide, by decide⟩, trivial, trivial,
    trivial, trivial, trivial, trivial⟩

/-- The silent node expires, and the others keep their link. -/
theorem linked_expiry : ∃ history expired after, Run .little history linked ∧
    deviceMonitor .little (fun _ => .completes) { linked with order := [1, 2, 3] } =
      (.ok expired, after) ∧
    Expires (SilentSince history) linked.nodes after.nodes ∧ expired = [3] ∧
    (after.nodes.lookup 1).map (fun n => n.oLinks.map Link.endID) = some [2] := by
  rcases linked_run with ⟨history, run, areCalls⟩
  rcases expiry_exact run (fun entry isMem => fits_linkedCalls _ (areCalls entry isMem))
    (fun _ => rfl) (by decide +kernel : [1, 2, 3].Perm linked.order) with
    ⟨expired, after, isMonitor, expires⟩
  have outcome : (deviceMonitor .little (fun _ => .completes)
      { linked with order := [1, 2, 3] }).1 = .ok [3] := by decide +kernel
  have links : ((deviceMonitor .little (fun _ => .completes)
      { linked with order := [1, 2, 3] }).2.nodes.lookup 1).map
        (fun n => n.oLinks.map Link.endID) = some [2] := by decide +kernel
  rw [isMonitor] at outcome links
  exact ⟨history, expired, after, run, isMonitor, expires, Except.ok.inj outcome, links⟩

def twoNodes : Topo := (oneNode.pushNode .little .completes [2, 1] 2 "" true false).2

def twoTicked : Topo := (tick.call .little twoNodes).2

def stuck : Topo :=
  (twoTicked.pushNode .little .completes [2 ^ 64, 2, 1] (2 ^ 64) "" true false).2

theorem twoNodes_run :
    Run .little [(.pushNode 2 "" true false [2, 1] .completes, oneNode),
      (.pushNode 1 "" true true [1] .dumpFails, init)] twoNodes :=
  .call oneNode_run _ fun _ => .refl _

theorem stuck_run : ∃ history, Run .little history stuck := by
  have ticked : Run .little _ twoTicked := .call twoNodes_run tick trivial
  exact ⟨_, .call ticked (.pushNode (2 ^ 64) "" true false [2 ^ 64, 2, 1] .completes)
    fun _ => .refl _⟩

/-- The tick raises at the first of the two deletions, and a node that is silent stays. -/
theorem stuck_unexpired : ∃ history, Run .little history stuck ∧
    ((tick.call .little stuck).1 = .error .structError ∧
      SilentSince history 1 ∧ ((tick.call .little stuck).2.nodes.lookup 1).isSome = true) ∧
      ¬ Expires (SilentSince history) stuck.nodes (tick.call .little stuck).2.nodes := by
  rcases stuck_run with ⟨history, run⟩
  have silentNode : (stuck.nodes.lookup 1).map Node.alive = some false := by decide +kernel
  rcases Option.map_eq_some_iff.mp silentNode with ⟨n, found, isSilent⟩
  have silentSince := (alive_run run found).mp isSilent
  have stays : ((tick.call .little stuck).2.nodes.lookup 1).isSome = true := by decide +kernel
  refine ⟨history, run, ⟨rfl, silentSince, stays⟩, ?_⟩
  intro expires
  rw [(expires.removed 1 (Option.isSome_of_eq_some found)).mpr silentSince] at stays
  exact nomatch stays

end Topo

end Vson

end Nrg5
