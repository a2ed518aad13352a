import Mathlib.Data.List.Basic
import Mathlib.Data.List.Nodup
import Mathlib.Logic.Function.Basic
import Mathlib.Tactic

/-!
# Hash chains inside their nodes

A chain is a list with a single pointer at its head.  A node has the pointer to the node
behind it and the address of the pointer that leads to it, which is the head of a chain or a
field of another node; a node in no chain has no such address.

`Holds` says that the memory holds the chains of all buckets, each node in one chain and
there once.  A walk along a chain reads what the nodes stand for, and it has no meaning where
a node is not there any more.
-/

/-- The place of a pointer to a node. -/
inductive ChainSlot (B N : Type) : Type where
  | first (bucket : B)
  | next (node : N)

/-- The heads of the buckets and the fields of the nodes. -/
structure ChainMemory (B N : Type) where
  first : B → Option (Option N)
  next : N → Option (Option N)
  pprev : N → Option (Option (ChainSlot B N))

namespace ChainMemory

variable {B N α : Type}

def load (slot : ChainSlot B N) (memory : ChainMemory B N) : Option (Option N) :=
  match slot with
  | .first bucket => memory.first bucket
  | .next node => memory.next node

/-! ## Chains -/

/-- The chain that starts with a pointer. -/
def Chain (memory : ChainMemory B N) : ChainSlot B N → List N → Prop
  | slot, [] => memory.load slot = some none
  | slot, node :: rest => memory.load slot = some (some node) ∧
      memory.pprev node = some (some slot) ∧ Chain memory (.next node) rest

/-- The pointer behind some nodes. -/
def endSlot : ChainSlot B N → List N → ChainSlot B N
  | slot, [] => slot
  | _, node :: rest => endSlot (.next node) rest

/-- The memory holds the chains of all buckets that there are. -/
structure Holds (memory : ChainMemory B N) (inside : B → Prop) (chains : B → List N) : Prop where
  chain : ∀ bucket, inside bucket → memory.Chain (.first bucket) (chains bucket)
  distinct : ∀ bucket, inside bucket → (chains bucket).Nodup
  disjoint : ∀ bucket other node, inside bucket → inside other →
    node ∈ chains bucket → node ∈ chains other → bucket = other

/-- Both fields of a node are there. -/
def Allocated (memory : ChainMemory B N) (node : N) : Prop :=
  (memory.next node).isSome = true ∧ (memory.pprev node).isSome = true

variable {memory memory' : ChainMemory B N} {slot : ChainSlot B N} {nodes before after : List N}
  {node new : N} {bucket : B} {inside : B → Prop} {chains : B → List N}

theorem Chain.frame (chain : memory.Chain slot nodes)
    (sameSlot : memory'.load slot = memory.load slot)
    (same : ∀ node ∈ nodes,
      memory'.next node = memory.next node ∧ memory'.pprev node = memory.pprev node) :
    memory'.Chain slot nodes := by
  induction nodes generalizing slot with
  | nil => exact sameSlot.trans chain
  | cons node rest ih =>
      rcases chain with ⟨isNode, isSlot, others⟩
      refine ⟨sameSlot.trans isNode, ?_, ih others ?_ ?_⟩
      · rw [(same node List.mem_cons_self).2]
        exact isSlot
      · exact (same node List.mem_cons_self).1
      · exact fun other isMem => same other (List.mem_cons_of_mem _ isMem)

theorem Chain.load_eq (chain : memory.Chain slot nodes) : memory.load slot = some nodes.head? := by
  cases nodes with
  | nil => exact chain
  | cons node rest => exact chain.1

theorem Chain.at_end (chain : memory.Chain slot (before ++ after)) :
    memory.Chain (endSlot slot before) after := by
  induction before generalizing slot with
  | nil => exact chain
  | cons node rest ih => exact ih chain.2.2

theorem Chain.allocated (chain : memory.Chain slot nodes) (isMem : node ∈ nodes) :
    memory.Allocated node := by
  rcases List.append_of_mem isMem with ⟨before, after, rfl⟩
  rcases chain.at_end with ⟨-, isSlot, others⟩
  have isNext : memory.next node = some after.head? := others.load_eq
  exact ⟨by rw [isNext, Option.isSome_some], by rw [isSlot, Option.isSome_some]⟩

/-- The pointer behind some nodes is the first one or a field of one of them. -/
theorem endSlot_cons (first : N) (rest : List N) :
    ∃ last ∈ first :: rest, (endSlot slot (first :: rest) : ChainSlot B N) = .next last := by
  induction rest generalizing slot first with
  | nil => exact ⟨first, List.mem_cons_self, rfl⟩
  | cons second others ih =>
      rcases @ih (.next first) second with ⟨last, isMem, isLast⟩
      exact ⟨last, List.mem_cons_of_mem _ isMem, isLast⟩

theorem endSlot_first_ne {other : B} (different : other ≠ bucket) (before : List N) :
    (ChainSlot.first other : ChainSlot B N) ≠ endSlot (.first bucket) before := by
  intro same
  cases before with
  | nil =>
      cases same
      exact different rfl
  | cons first rest =>
      rcases @endSlot_cons B N (.first bucket) first rest with ⟨last, -, isLast⟩
      rw [isLast] at same
      cases same

theorem next_ne_endSlot (isOther : node ∉ before) :
    (ChainSlot.next node : ChainSlot B N) ≠ endSlot (.first bucket) before := by
  intro same
  cases before with
  | nil => cases same
  | cons first rest =>
      rcases @endSlot_cons B N (.first bucket) first rest with ⟨last, isMem, isLast⟩
      rw [isLast] at same
      cases same
      exact isOther isMem

theorem Holds.frame (holds : memory.Holds inside chains) (sameFirst : memory'.first = memory.first)
    (same : ∀ bucket, inside bucket → ∀ node ∈ chains bucket,
      memory'.next node = memory.next node ∧ memory'.pprev node = memory.pprev node) :
    memory'.Holds inside chains := by
  refine ⟨?_, holds.distinct, holds.disjoint⟩
  intro bucket isInside
  exact (holds.chain bucket isInside).frame (congrFun sameFirst bucket) (same bucket isInside)

theorem Holds.congr {chains' : B → List N} (holds : memory.Holds inside chains)
    (same : ∀ bucket, inside bucket → chains' bucket = chains bucket) :
    memory.Holds inside chains' := by
  refine ⟨?_, ?_, ?_⟩
  · intro bucket isInside
    rw [same bucket isInside]
    exact holds.chain bucket isInside
  · intro bucket isInside
    rw [same bucket isInside]
    exact holds.distinct bucket isInside
  · intro one other node oneInside otherInside
    rw [same one oneInside, same other otherInside]
    exact holds.disjoint one other node oneInside otherInside

/-- A chain without one of its nodes, in a memory where the pointer to the node leads past it. -/
theorem Chain.bypass (chain : memory.Chain slot (before ++ node :: after))
    (distinct : (before ++ node :: after).Nodup)
    (outside : ∀ other, slot = .next other → other ∉ before ++ node :: after)
    (leads : memory'.load (endSlot slot before) = some after.head?)
    (sameLoad : ∀ place, place ≠ endSlot slot before → place ≠ .next node →
      memory'.load place = memory.load place)
    (leadsBack : ∀ other, after.head? = some other →
      memory'.pprev other = some (some (endSlot slot before)))
    (samePprev : ∀ other, other ≠ node → after.head? ≠ some other →
      memory'.pprev other = memory.pprev other) :
    memory'.Chain slot (before ++ after) := by
  induction before generalizing slot with
  | nil =>
      rw [List.nil_append] at chain distinct outside ⊢
      rcases List.nodup_cons.mp distinct with ⟨notAfter, afterOnce⟩
      cases after with
      | nil => exact leads
      | cons other rest =>
          have notSame : ∀ place ∈ other :: rest, place ≠ node :=
            fun place isMem same => notAfter (same ▸ isMem)
          have sameNext : ∀ place ∈ other :: rest, memory'.next place = memory.next place := by
            intro place isMem
            apply sameLoad (.next place)
            · intro isSlot
              exact outside place isSlot.symm (List.mem_cons_of_mem _ isMem)
            · intro isNode
              cases isNode
              exact notAfter isMem
          refine ⟨leads, leadsBack other rfl, chain.2.2.2.2.frame ?_ ?_⟩
          · exact sameNext other List.mem_cons_self
          · intro place isMem
            refine ⟨sameNext place (List.mem_cons_of_mem _ isMem), samePprev place ?_ ?_⟩
            · exact notSame place (List.mem_cons_of_mem _ isMem)
            · rw [List.head?_cons, ne_eq, Option.some.injEq]
              rintro rfl
              exact (List.nodup_cons.mp afterOnce).1 isMem
  | cons first rest ih =>
      rcases chain with ⟨isFirst, isSlot, others⟩
      rw [List.cons_append, List.nodup_cons] at distinct
      have notNode : first ≠ node := by
        rintro rfl
        exact distinct.1 (List.mem_append_right _ List.mem_cons_self)
      have notHead : after.head? ≠ some first := by
        intro isHead
        exact distinct.1 (List.mem_append_right _
          (List.mem_cons_of_mem _ (List.mem_of_head? isHead)))
      rcases @endSlot_cons B N slot first rest with ⟨last, isLast, atEnd⟩
      refine ⟨?_, (samePprev first notNode notHead).trans isSlot, ih others distinct.2 ?_ leads
        sameLoad leadsBack⟩
      · rw [sameLoad slot, isFirst]
        · rw [atEnd]
          rintro rfl
          apply outside last rfl
          rcases List.mem_cons.mp isLast with rfl | isRest
          · exact List.mem_cons_self
          · exact List.mem_cons_of_mem _ (List.mem_append_left _ isRest)
        · rintro rfl
          exact outside node rfl
            (List.mem_cons_of_mem _ (List.mem_append_right _ List.mem_cons_self))
      · intro other isOther
        cases isOther
        exact distinct.1

/-! ## Walks -/

/-- `hlist_for_each_entry` up to the first match; `entries` are the entries around the nodes.
The walk has no result when it meets a node that is gone, or when `fuel` steps are not
enough. -/
def walk (entries : N → Option α) (matching : α → Bool) (memory : ChainMemory B N) :
    Nat → Option N → Option (Option N)
  | _, none => some none
  | 0, some _ => none
  | fuel + 1, some node => do
      let entry ← entries node
      if matching entry then pure (some node)
      else do
        let next ← memory.next node
        walk entries matching memory fuel next

/-- `hash_for_each_possible` with a `break` at the first match. -/
def find (entries : N → Option α) (matching : α → Bool) (fuel : Nat) (bucket : B)
    (memory : ChainMemory B N) : Option (Option N) := do
  let first ← memory.first bucket
  memory.walk entries matching fuel first

/-- A walk finds the first node of the chain whose entry matches. -/
theorem Chain.walk {entries : N → Option α} {addr : α → N} {list : List α} {matching : α → Bool}
    {fuel : Nat} (chain : memory.Chain slot (list.map addr))
    (areEntries : ∀ entry ∈ list, entries (addr entry) = some entry)
    (enough : list.length ≤ fuel) :
    memory.walk entries matching fuel (list.map addr).head? =
      some ((list.find? matching).map addr) := by
  induction list generalizing slot fuel with
  | nil =>
      cases fuel <;> rfl
  | cons entry rest ih =>
      cases fuel with
      | zero => simp at enough
      | succ fuel =>
          have isEntry := areEntries entry List.mem_cons_self
          have isNext : memory.next (addr entry) = some (rest.map addr).head? := chain.2.2.load_eq
          rw [List.map_cons, List.head?_cons, ChainMemory.walk, isEntry, Option.bind_eq_bind,
            Option.bind_some]
          cases isMatch : matching entry with
          | true =>
              rw [if_pos rfl, List.find?_cons_of_pos isMatch]
              rfl
          | false =>
              rw [if_neg Bool.false_ne_true, isNext, Option.bind_eq_bind, Option.bind_some,
                List.find?_cons_of_neg (by simp [isMatch])]
              exact ih chain.2.2
                (fun other isMem => areEntries other (List.mem_cons_of_mem _ isMem))
                (Nat.le_of_succ_le_succ enough)

theorem Holds.find {entries : N → Option α} {addr : α → N} {list : List α} {matching : α → Bool}
    {fuel : Nat} (holds : memory.Holds inside chains) (isInside : inside bucket)
    (isChain : chains bucket = list.map addr)
    (areEntries : ∀ entry ∈ list, entries (addr entry) = some entry)
    (enough : list.length ≤ fuel) :
    memory.find entries matching fuel bucket = some ((list.find? matching).map addr) := by
  have chain := holds.chain bucket isInside
  rw [isChain] at chain
  have isFirst : memory.first bucket = some (list.map addr).head? := chain.load_eq
  rw [ChainMemory.find, isFirst, Option.bind_eq_bind, Option.bind_some]
  exact chain.walk areEntries enough

/-! ## Operations -/

section Operations

variable [DecidableEq N]

def store [DecidableEq B] (slot : ChainSlot B N) (value : Option N) (memory : ChainMemory B N) :
    Option (ChainMemory B N) :=
  match slot with
  | .first bucket => (memory.first bucket).map fun _ =>
      { memory with first := Function.update memory.first bucket (some value) }
  | .next node => (memory.next node).map fun _ =>
      { memory with next := Function.update memory.next node (some value) }

def setPprev (node : N) (value : Option (ChainSlot B N)) (memory : ChainMemory B N) :
    Option (ChainMemory B N) :=
  (memory.pprev node).map fun _ =>
    { memory with pprev := Function.update memory.pprev node (some value) }

/-- The node that a pointer leads to, if there is one, is told where the pointer is. -/
def setPprevOf (target : Option N) (slot : ChainSlot B N) (memory : ChainMemory B N) :
    Option (ChainMemory B N) :=
  match target with
  | none => some memory
  | some other => memory.setPprev other (some slot)

/-- A node is taken into use; what its fields hold is arbitrary. -/
def alloc (node : N) (next : Option N) (pprev : Option (ChainSlot B N))
    (memory : ChainMemory B N) : ChainMemory B N :=
  { memory with
    next := Function.update memory.next node (some next)
    pprev := Function.update memory.pprev node (some pprev) }

def free (node : N) (memory : ChainMemory B N) : ChainMemory B N :=
  { memory with
    next := Function.update memory.next node none
    pprev := Function.update memory.pprev node none }

/-- `hlist_add_head`. -/
def hlistAddHead [DecidableEq B] (node : N) (bucket : B) (memory : ChainMemory B N) :
    Option (ChainMemory B N) := do
  let first ← memory.first bucket
  let memory ← memory.store (.next node) first
  let memory ← memory.setPprevOf first (.next node)
  let memory ← memory.store (.first bucket) (some node)
  memory.setPprev node (some (.first bucket))

/-- `hlist_del_init`: a node in no chain is left alone. -/
def hlistDelInit [DecidableEq B] (node : N) (memory : ChainMemory B N) :
    Option (ChainMemory B N) := do
  match ← memory.pprev node with
  | none => pure memory
  | some pprev =>
      let next ← memory.next node
      let memory ← memory.store pprev next
      let memory ← memory.setPprevOf next pprev
      let memory ← memory.store (.next node) none
      memory.setPprev node none

theorem isSome_update {κ β : Type} [DecidableEq κ] {field : κ → Option β} {place other : κ}
    {value : β} (isSome : (field other).isSome = true) :
    (Function.update field place (some value) other).isSome = true := by
  rw [Function.update_apply]
  split
  · rfl
  · exact isSome

theorem store_next [DecidableEq B] {value : Option N} (isSome : (memory.next node).isSome = true) :
    memory.store (.next node) value =
      some { memory with next := Function.update memory.next node (some value) } := by
  rcases Option.isSome_iff_exists.mp isSome with ⟨old, isOld⟩
  simp only [store, isOld, Option.map_some]

theorem store_first [DecidableEq B] {value : Option N}
    (isSome : (memory.first bucket).isSome = true) :
    memory.store (.first bucket) value =
      some { memory with first := Function.update memory.first bucket (some value) } := by
  rcases Option.isSome_iff_exists.mp isSome with ⟨old, isOld⟩
  simp only [store, isOld, Option.map_some]

theorem setPprev_of_isSome {value : Option (ChainSlot B N)}
    (isSome : (memory.pprev node).isSome = true) :
    memory.setPprev node value =
      some { memory with pprev := Function.update memory.pprev node (some value) } := by
  rcases Option.isSome_iff_exists.mp isSome with ⟨old, isOld⟩
  rw [setPprev, isOld, Option.map_some]

/-- What `setPprevOf` leaves. -/
def redirect (target : Option N) (slot : ChainSlot B N) (memory : ChainMemory B N) :
    ChainMemory B N :=
  match target with
  | none => memory
  | some other => { memory with pprev := Function.update memory.pprev other (some (some slot)) }

theorem setPprevOf_eq {target : Option N}
    (isSome : ∀ other, target = some other → (memory.pprev other).isSome = true) :
    memory.setPprevOf target slot = some (memory.redirect target slot) := by
  cases target with
  | none => rfl
  | some other => exact setPprev_of_isSome (isSome other rfl)

@[simp]
theorem redirect_first {target : Option N} :
    (memory.redirect target slot).first = memory.first := by
  cases target <;> rfl

@[simp]
theorem redirect_next {target : Option N} : (memory.redirect target slot).next = memory.next := by
  cases target <;> rfl

theorem redirect_pprev_other {target : Option N} (isOther : target ≠ some node) :
    (memory.redirect target slot).pprev node = memory.pprev node := by
  cases target with
  | none => rfl
  | some other =>
      apply Function.update_of_ne
      rintro rfl
      exact isOther rfl

theorem redirect_isSome {target : Option N} (isSome : (memory.pprev node).isSome = true) :
    ((memory.redirect target slot).pprev node).isSome = true := by
  cases target with
  | none => exact isSome
  | some other => exact isSome_update isSome

/-- A node put in front of a chain. -/
def push [DecidableEq B] (node : N) (bucket : B) (first : Option N) (memory : ChainMemory B N) :
    ChainMemory B N :=
  let pointing := memory.redirect first (.next node)
  { first := Function.update memory.first bucket (some (some node))
    next := Function.update memory.next node (some first)
    pprev := Function.update pointing.pprev node (some (some (.first bucket))) }

theorem hlistAddHead_eq [DecidableEq B] {first : Option N}
    (isFirst : memory.first bucket = some first) (newAlloc : memory.Allocated node)
    (firstAlloc : ∀ other, first = some other → (memory.pprev other).isSome = true) :
    memory.hlistAddHead node bucket = some (memory.push node bucket first) := by
  have bucketSome : (memory.first bucket).isSome = true := by rw [isFirst, Option.isSome_some]
  simp only [hlistAddHead, isFirst, Option.bind_eq_bind, Option.bind_some]
  rw [store_next newAlloc.1, Option.bind_some, setPprevOf_eq (by exact firstAlloc),
    Option.bind_some, store_first (by rw [redirect_first]; exact bucketSome), Option.bind_some,
    setPprev_of_isSome (by exact redirect_isSome newAlloc.2), redirect_first, redirect_next]
  cases first <;> rfl

variable [DecidableEq B]

theorem next_push {first : Option N} {other : N} (isOther : other ≠ node) :
    (memory.push node bucket first).next other = memory.next other :=
  Function.update_of_ne isOther _ _

theorem pprev_push {first : Option N} {other : N} (isOther : other ≠ node)
    (notFirst : first ≠ some other) :
    (memory.push node bucket first).pprev other = memory.pprev other := by
  rw [push]
  exact (Function.update_of_ne isOther _ _).trans (redirect_pprev_other notFirst)

/-- Behind a node that was put in front the chain goes on as before. -/
theorem Chain.push (chain : memory.Chain (.first bucket) nodes) (distinct : nodes.Nodup)
    (isNew : node ∉ nodes) :
    (memory.push node bucket nodes.head?).Chain (.next node) nodes := by
  cases nodes with
  | nil => exact Function.update_self _ _ _
  | cons other rest =>
      have otherNe : other ≠ node := fun same => isNew (same ▸ List.mem_cons_self)
      refine ⟨Function.update_self _ _ _, ?_, chain.2.2.frame (next_push otherNe) ?_⟩
      · rw [ChainMemory.push]
        exact (Function.update_of_ne otherNe _ _).trans (Function.update_self _ _ _)
      · intro place isMem
        have placeNe : place ≠ node := fun same => isNew (same ▸ List.mem_cons_of_mem _ isMem)
        refine ⟨next_push placeNe, pprev_push placeNe ?_⟩
        rw [List.head?_cons, ne_eq, Option.some.injEq]
        rintro rfl
        exact (List.nodup_cons.mp distinct).1 isMem

/-- `hlist_add_head` puts a new node in front of the chain of its bucket. -/
theorem Holds.hlistAddHead (holds : memory.Holds inside chains) (isInside : inside bucket)
    (newAlloc : memory.Allocated node)
    (isNew : ∀ other, inside other → node ∉ chains other) :
    ∃ memory', memory.hlistAddHead node bucket = some memory' ∧
      memory'.Holds inside (Function.update chains bucket (node :: chains bucket)) := by
  have isFirst : memory.first bucket = some (chains bucket).head? :=
    (holds.chain bucket isInside).load_eq
  have firstMem : ∀ {other}, (chains bucket).head? = some other → other ∈ chains bucket :=
    List.mem_of_head?
  refine ⟨memory.push node bucket (chains bucket).head?, ?_, ⟨?_, ?_, ?_⟩⟩
  · apply hlistAddHead_eq isFirst newAlloc
    intro other isHead
    exact ((holds.chain bucket isInside).allocated (firstMem isHead)).2
  · intro other isOther
    have chain := holds.chain other isOther
    rcases eq_or_ne other bucket with rfl | different
    · rw [Function.update_self]
      exact ⟨Function.update_self _ _ _, Function.update_self _ _ _,
        chain.push (holds.distinct other isOther) (isNew other isOther)⟩
    · rw [Function.update_of_ne different]
      apply chain.frame
      · exact Function.update_of_ne different _ _
      · intro place isMem
        have notNode : place ≠ node := fun same => isNew other isOther (same ▸ isMem)
        refine ⟨next_push notNode, pprev_push notNode ?_⟩
        intro isHead
        exact different (holds.disjoint other bucket place isOther isInside isMem (firstMem isHead))
  · intro other isOther
    rcases eq_or_ne other bucket with rfl | different
    · rw [Function.update_self]
      exact List.nodup_cons.mpr ⟨isNew other isOther, holds.distinct other isOther⟩
    · rw [Function.update_of_ne different]
      exact holds.distinct other isOther
  · have origin : ∀ {other place},
        place ∈ Function.update chains bucket (node :: chains bucket) other →
        place ∈ chains other ∨ (place = node ∧ other = bucket) := by
      intro other place isMem
      rcases eq_or_ne other bucket with rfl | different
      · rw [Function.update_self] at isMem
        exact (List.mem_cons.mp isMem).symm.imp id fun same => ⟨same, rfl⟩
      · rw [Function.update_of_ne different] at isMem
        exact .inl isMem
    intro one other place oneInside otherInside inOne inOther
    rcases origin inOne with oldOne | ⟨rfl, rfl⟩
    · rcases origin inOther with oldOther | ⟨rfl, rfl⟩
      · exact holds.disjoint one other place oneInside otherInside oldOne oldOther
      · exact absurd oldOne (isNew one oneInside)
    · rcases origin inOther with oldOther | ⟨-, rfl⟩
      · exact absurd oldOther (isNew other otherInside)
      · rfl

/-- A node taken out of its chain. -/
def bypass (node : N) (slot : ChainSlot B N) (next : Option N) (memory : ChainMemory B N) :
    ChainMemory B N :=
  let pointing := memory.redirect next slot
  { first := match slot with
      | .first bucket => Function.update memory.first bucket (some next)
      | .next _ => memory.first
    next := Function.update (match slot with
      | .first _ => memory.next
      | .next before => Function.update memory.next before (some next)) node (some none)
    pprev := Function.update pointing.pprev node (some none) }

theorem hlistDelInit_eq {slot : ChainSlot B N} {next : Option N}
    (isSlot : memory.pprev node = some (some slot)) (isNext : memory.next node = some next)
    (slotSome : (memory.load slot).isSome = true)
    (nextAlloc : ∀ other, next = some other → (memory.pprev other).isSome = true) :
    memory.hlistDelInit node = some (memory.bypass node slot next) := by
  have nodePprev : (memory.pprev node).isSome = true := by rw [isSlot, Option.isSome_some]
  have nodeNext : (memory.next node).isSome = true := by rw [isNext, Option.isSome_some]
  simp only [hlistDelInit, isSlot, isNext, Option.bind_eq_bind, Option.bind_some]
  cases slot with
  | first bucket =>
      rw [store_first slotSome, Option.bind_some, setPprevOf_eq (by exact nextAlloc),
        Option.bind_some, store_next (by rw [redirect_next]; exact nodeNext), Option.bind_some,
        setPprev_of_isSome (by exact redirect_isSome nodePprev), redirect_first, redirect_next]
      cases next <;> rfl
  | next before =>
      rw [store_next slotSome, Option.bind_some, setPprevOf_eq (by exact nextAlloc),
        Option.bind_some, store_next (by rw [redirect_next]; exact isSome_update nodeNext),
        Option.bind_some, setPprev_of_isSome (by exact redirect_isSome nodePprev),
        redirect_first, redirect_next]
      cases next <;> rfl

theorem load_bypass {slot place : ChainSlot B N} {next : Option N} (notSlot : place ≠ slot)
    (notNode : place ≠ .next node) :
    (memory.bypass node slot next).load place = memory.load place := by
  cases place with
  | first bucket =>
      cases slot with
      | first other =>
          have isOther : bucket ≠ other := fun same => notSlot (congrArg _ same)
          exact Function.update_of_ne isOther _ _
      | next before => rfl
  | next place =>
      have isOther : place ≠ node := fun same => notNode (congrArg _ same)
      cases slot with
      | first bucket => exact Function.update_of_ne isOther _ _
      | next before =>
          have notBefore : place ≠ before := fun same => notSlot (congrArg _ same)
          exact (Function.update_of_ne isOther _ _).trans (Function.update_of_ne notBefore _ _)

theorem load_bypass_slot {slot : ChainSlot B N} {next : Option N} (notNode : slot ≠ .next node) :
    (memory.bypass node slot next).load slot = some next := by
  cases slot with
  | first bucket => exact Function.update_self _ _ _
  | next before =>
      have isOther : before ≠ node := fun same => notNode (congrArg _ same)
      exact (Function.update_of_ne isOther _ _).trans (Function.update_self _ _ _)

theorem pprev_bypass {slot : ChainSlot B N} {next : Option N} {other : N} (isOther : other ≠ node)
    (notNext : next ≠ some other) :
    (memory.bypass node slot next).pprev other = memory.pprev other :=
  (Function.update_of_ne isOther _ _).trans (redirect_pprev_other notNext)

theorem pprev_bypass_next {slot : ChainSlot B N} {next : Option N} {other : N}
    (isOther : other ≠ node) (isNext : next = some other) :
    (memory.bypass node slot next).pprev other = some (some slot) := by
  subst isNext
  exact (Function.update_of_ne isOther _ _).trans (Function.update_self _ _ _)

/-- `hlist_del_init` takes a node out of its chain. -/
theorem Holds.hlistDelInit (holds : memory.Holds inside chains) (isInside : inside bucket)
    (isMem : node ∈ chains bucket) :
    ∃ memory', memory.hlistDelInit node = some memory' ∧
      memory'.Holds inside (fun other => (chains other).erase node) := by
  rcases List.append_of_mem isMem with ⟨before, after, isChain⟩
  have chain := holds.chain bucket isInside
  have distinct := holds.distinct bucket isInside
  rw [isChain] at chain distinct
  have atNode := chain.at_end
  have isNext : memory.next node = some after.head? := atNode.2.2.load_eq
  have notBefore : node ∉ before := by
    intro isBefore
    exact List.disjoint_of_nodup_append distinct isBefore List.mem_cons_self
  have notAfter : node ∉ after := (List.nodup_cons.mp distinct.of_append_right).1
  have slotNe : endSlot (.first bucket) before ≠ .next node := (next_ne_endSlot notBefore).symm
  have nextMem : ∀ {other}, after.head? = some other → other ∈ chains bucket := by
    intro other isHead
    rw [isChain]
    exact List.mem_append_right _ (List.mem_cons_of_mem _ (List.mem_of_head? isHead))
  have nextNe : ∀ {other}, after.head? = some other → other ≠ node := by
    rintro other isHead rfl
    exact notAfter (List.mem_of_head? isHead)
  refine ⟨memory.bypass node (endSlot (.first bucket) before) after.head?, ?_, ?_, ?_, ?_⟩
  · apply hlistDelInit_eq atNode.2.1 isNext
    · rw [atNode.1, Option.isSome_some]
    · intro other isHead
      exact ((holds.chain bucket isInside).allocated (nextMem isHead)).2
  · intro other isOther
    rcases eq_or_ne other bucket with rfl | different
    · rw [isChain, List.erase_append_right _ notBefore, List.erase_cons_head]
      apply chain.bypass distinct
      · rintro place ⟨⟩
      · exact load_bypass_slot slotNe
      · exact fun place => load_bypass
      · exact fun place isHead => pprev_bypass_next (nextNe isHead) isHead
      · exact fun place => pprev_bypass
    · have apart : ∀ {place}, place ∈ chains other → place ∉ chains bucket :=
        fun inOther inBucket =>
        different (holds.disjoint other bucket _ isOther isInside inOther inBucket)
      have notNode : node ∉ chains other := fun inOther => apart inOther isMem
      rw [List.erase_of_not_mem notNode]
      apply (holds.chain other isOther).frame
      · apply load_bypass (endSlot_first_ne different before)
        rintro ⟨⟩
      · intro place inOther
        have isOtherNode : place ≠ node := fun same => notNode (same ▸ inOther)
        have notBefore : place ∉ before := by
          intro isBefore
          apply apart inOther
          rw [isChain]
          exact List.mem_append_left _ isBefore
        have notNext : (ChainSlot.next place : ChainSlot B N) ≠ .next node := by
          rintro ⟨⟩
          exact notNode inOther
        constructor
        · exact load_bypass (next_ne_endSlot notBefore) notNext
        · exact pprev_bypass isOtherNode fun isHead => apart inOther (nextMem isHead)
  · intro other isOther
    exact (holds.distinct other isOther).erase node
  · intro one other place oneInside otherInside inOne inOther
    exact holds.disjoint one other place oneInside otherInside (List.mem_of_mem_erase inOne)
      (List.mem_of_mem_erase inOther)

end Operations

/-! ## Nodes in no chain -/

section Unused

variable [DecidableEq N]

theorem Holds.alloc {next : Option N} {pprev : Option (ChainSlot B N)}
    (holds : memory.Holds inside chains)
    (isNew : ∀ bucket, inside bucket → new ∉ chains bucket) :
    (memory.alloc new next pprev).Holds inside chains := by
  apply holds.frame (by rfl)
  intro bucket isInside node isMem
  have notNew : node ≠ new := fun same => isNew bucket isInside (same ▸ isMem)
  exact ⟨Function.update_of_ne notNew _ _, Function.update_of_ne notNew _ _⟩

theorem Holds.free (holds : memory.Holds inside chains)
    (isGone : ∀ bucket, inside bucket → new ∉ chains bucket) :
    (memory.free new).Holds inside chains := by
  apply holds.frame (by rfl)
  intro bucket isInside node isMem
  have notGone : node ≠ new := fun same => isGone bucket isInside (same ▸ isMem)
  exact ⟨Function.update_of_ne notGone _ _, Function.update_of_ne notGone _ _⟩

theorem allocated_alloc {next : Option N} {pprev : Option (ChainSlot B N)} :
    (memory.alloc new next pprev).Allocated new := by
  simp [Allocated, ChainMemory.alloc]

end Unused

end ChainMemory
