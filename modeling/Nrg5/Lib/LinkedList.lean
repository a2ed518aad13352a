import Mathlib.Data.List.Chain
import Mathlib.Data.List.Nodup
import Mathlib.Logic.Function.Basic
import Mathlib.Tactic

/-!
# Doubly linked lists inside their entries

A list is a ring of places, one of which is its head; each place holds the pointers to the
places before and behind it.  The two fields of all places are two partial functions, and a
place that is not allocated has no fields: reading or writing them has no meaning.

`Ring` says that the memory holds a list.  The operations are the usual ones on raw pointers,
and each of them is one lemma: it finds the fields it needs, and the ring it leaves is the
ring of the changed list.
-/

/-- The fields of the places. -/
structure LinkMemory (P : Type) where
  next : P → Option P
  prev : P → Option P

namespace LinkMemory

variable {P : Type}

/-! ## Rings -/

/-- The two pointers between neighbours. -/
def Linked (memory : LinkMemory P) (place next : P) : Prop :=
  memory.next place = some next ∧ memory.prev next = some place

/-- The memory holds a list. -/
structure Ring (memory : LinkMemory P) (head : P) (entries : List P) : Prop where
  distinct : (head :: entries).Nodup
  chain : (head :: entries ++ [head]).IsChain memory.Linked

/-- Both fields of a place are there. -/
def Allocated (memory : LinkMemory P) (place : P) : Prop :=
  (memory.next place).isSome = true ∧ (memory.prev place).isSome = true

variable {memory memory' : LinkMemory P} {head entry new prev next : P}
  {entries before after places : List P}

/-- A chain reads the forward pointers of its places and the backward pointers of those behind
the first one. -/
theorem chain_frame (chain : places.IsChain memory.Linked)
    (sameNext : ∀ place ∈ places.dropLast, memory'.next place = memory.next place)
    (samePrev : ∀ place ∈ places.tail, memory'.prev place = memory.prev place) :
    places.IsChain memory'.Linked := by
  induction chain with
  | nil => exact .nil
  | singleton place => exact .singleton place
  | cons_cons linked rest ih =>
      rename_i first second others
      refine .cons_cons ⟨?_, ?_⟩ (ih ?_ ?_)
      · rw [sameNext first (by simp)]
        exact linked.1
      · rw [samePrev second (by simp)]
        exact linked.2
      · intro place isMem
        exact sameNext place (by simp [isMem])
      · intro place isMem
        exact samePrev place (by simpa using .inr isMem)

theorem ring_nil : Ring memory head [] ↔ memory.Linked head head := by
  constructor
  · intro ring
    simpa using ring.chain
  · intro linked
    exact ⟨by simp, by simpa using linked⟩

/-- A ring is cut before and behind an entry. -/
theorem Ring.cut (ring : Ring memory head (before ++ after))
    (isPrev : (head :: before).getLast? = some prev)
    (isNext : (after ++ [head]).head? = some next) :
    (head :: before).IsChain memory.Linked ∧ (after ++ [head]).IsChain memory.Linked ∧
      memory.Linked prev next := by
  have chain := ring.chain
  rw [List.cons_append, List.append_assoc, ← List.cons_append, List.isChain_append] at chain
  exact ⟨chain.1, chain.2.1, chain.2.2 prev isPrev next isNext⟩

theorem Ring.frame (ring : Ring memory head entries)
    (same : ∀ place ∈ head :: entries,
      memory'.next place = memory.next place ∧ memory'.prev place = memory.prev place) :
    Ring memory' head entries := by
  refine ⟨ring.distinct, chain_frame ring.chain ?_ ?_⟩
  · intro place isMem
    rw [List.dropLast_concat] at isMem
    exact (same place isMem).1
  · intro place isMem
    rw [List.cons_append, List.tail_cons] at isMem
    rcases List.mem_append.mp isMem with isEntry | isHead
    · exact (same place (List.mem_cons_of_mem _ isEntry)).2
    · rw [List.mem_singleton.mp isHead]
      exact (same head List.mem_cons_self).2

theorem exists_next (head : P) (after : List P) : ∃ next, (after ++ [head]).head? = some next := by
  cases after with
  | nil => exact ⟨head, rfl⟩
  | cons first rest => exact ⟨first, rfl⟩

theorem exists_prev (head : P) (before : List P) : ∃ prev, (head :: before).getLast? = some prev :=
  ⟨_, List.getLast?_eq_some_getLast (List.cons_ne_nil head before)⟩

/-- What an entry points to is the entry behind it, or the head. -/
theorem Ring.next_entry (ring : Ring memory head (before ++ entry :: after)) :
    memory.next entry = (after ++ [head]).head? := by
  rcases exists_next head after with ⟨next, isNext⟩
  have isEntry : (head :: (before ++ [entry])).getLast? = some entry := by
    rw [← List.cons_append, List.getLast?_append_cons, List.getLast?_singleton]
  rw [List.append_cons] at ring
  rw [isNext]
  exact (ring.cut isEntry isNext).2.2.1

theorem Ring.next_head (ring : Ring memory head entries) :
    memory.next head = (entries ++ [head]).head? := by
  rcases exists_next head entries with ⟨next, isNext⟩
  rw [isNext]
  exact (@Ring.cut P memory head head next [] entries ring rfl isNext).2.2.1

theorem Ring.prev_head (ring : Ring memory head entries) :
    memory.prev head = (head :: entries).getLast? := by
  rcases exists_prev head entries with ⟨prev, isPrev⟩
  rw [isPrev]
  rw [← List.append_nil entries] at ring
  exact (ring.cut isPrev rfl).2.2.2

theorem Ring.prev_entry (ring : Ring memory head (before ++ entry :: after)) :
    memory.prev entry = (head :: before).getLast? := by
  rcases exists_prev head before with ⟨prev, isPrev⟩
  rw [isPrev]
  exact (ring.cut isPrev rfl).2.2.2

theorem Ring.allocated (ring : Ring memory head entries) {place : P}
    (isMem : place ∈ head :: entries) : memory.Allocated place := by
  rcases List.mem_cons.mp isMem with rfl | isEntry
  · rcases exists_next place entries with ⟨next, isNext⟩
    rcases exists_prev place entries with ⟨prev, isPrev⟩
    exact ⟨by simp only [ring.next_head, isNext, Option.isSome_some],
      by simp only [ring.prev_head, isPrev, Option.isSome_some]⟩
  · rcases List.append_of_mem isEntry with ⟨before, after, rfl⟩
    rcases exists_next head after with ⟨next, isNext⟩
    rcases exists_prev head before with ⟨prev, isPrev⟩
    exact ⟨by simp only [ring.next_entry, isNext, Option.isSome_some],
      by simp only [ring.prev_entry, isPrev, Option.isSome_some]⟩

/-- The two sides of a cut, in another memory that differs only where they met. -/
theorem chains_frame (distinct : (head :: (before ++ after)).Nodup)
    (left : (head :: before).IsChain memory.Linked)
    (right : (after ++ [head]).IsChain memory.Linked)
    (isPrev : (head :: before).getLast? = some prev) (isNext : (after ++ [head]).head? = some next)
    (sameNext : ∀ place ∈ head :: (before ++ after), place ≠ prev →
      memory'.next place = memory.next place)
    (samePrev : ∀ place ∈ head :: (before ++ after), place ≠ next →
      memory'.prev place = memory.prev place) :
    (head :: before).IsChain memory'.Linked ∧ (after ++ [head]).IsChain memory'.Linked := by
  rcases List.getLast?_eq_some_iff.mp isPrev with ⟨first, isFirst⟩
  rcases List.head?_eq_some_iff.mp isNext with ⟨last, isLast⟩
  have leftOnce : (head :: before).Nodup := by
    rw [← List.cons_append] at distinct
    exact distinct.of_append_left
  have rightOnce : (after ++ [head]).Nodup := by
    rw [List.nodup_cons, List.mem_append, not_or] at distinct
    rw [List.nodup_append_comm, List.singleton_append, List.nodup_cons]
    exact ⟨distinct.1.2, distinct.2.of_append_right⟩
  have inLeft : ∀ place ∈ head :: before, place ∈ head :: (before ++ after) := by
    intro place isMem
    rw [← List.cons_append]
    exact List.mem_append_left _ isMem
  have inRight : ∀ place ∈ after ++ [head], place ∈ head :: (before ++ after) := by
    intro place isMem
    rcases List.mem_append.mp isMem with isAfter | isHead
    · exact List.mem_cons_of_mem _ (List.mem_append_right _ isAfter)
    · rw [List.mem_singleton.mp isHead]
      exact List.mem_cons_self
  have prevMem : prev ∈ head :: before := List.mem_of_getLast? isPrev
  have nextMem : next ∈ after ++ [head] := List.mem_of_head? isNext
  have apart : ∀ place ∈ head :: before, place ∉ after := by
    rw [← List.cons_append] at distinct
    exact fun place isLeft isRight => List.disjoint_of_nodup_append distinct isLeft isRight
  constructor
  · apply chain_frame left
    · intro place isMem
      have isLeft : place ∈ head :: before := List.mem_of_mem_dropLast isMem
      apply sameNext place (inLeft place isLeft)
      rintro rfl
      rw [isFirst, List.dropLast_concat] at isMem
      rw [isFirst] at leftOnce
      exact List.disjoint_of_nodup_append leftOnce isMem (List.mem_singleton_self _)
    · intro place isMem
      have isLeft : place ∈ head :: before := List.mem_cons_of_mem _ isMem
      apply samePrev place (inLeft place isLeft)
      rintro rfl
      rcases List.mem_append.mp nextMem with isAfter | isHead
      · exact apart place isLeft isAfter
      · rw [List.mem_singleton.mp isHead] at isMem
        exact (List.nodup_cons.mp leftOnce).1 isMem
  · apply chain_frame right
    · intro place isMem
      rw [List.dropLast_concat] at isMem
      apply sameNext place (inRight place (List.mem_append_left _ isMem))
      rintro rfl
      exact apart place prevMem isMem
    · intro place isMem
      have isRight : place ∈ after ++ [head] := List.mem_of_mem_tail isMem
      apply samePrev place (inRight place isRight)
      rintro rfl
      rw [isLast, List.tail_cons] at isMem
      rw [isLast] at rightOnce
      exact (List.nodup_cons.mp rightOnce).1 isMem

/-! ## Operations -/

section Operations

variable [DecidableEq P]

def setNext (place value : P) (memory : LinkMemory P) : Option (LinkMemory P) :=
  (memory.next place).map fun _ =>
    { memory with next := Function.update memory.next place (some value) }

def setPrev (place value : P) (memory : LinkMemory P) : Option (LinkMemory P) :=
  (memory.prev place).map fun _ =>
    { memory with prev := Function.update memory.prev place (some value) }

/-- A place is taken into use; what its fields hold is arbitrary. -/
def alloc (place next prev : P) (memory : LinkMemory P) : LinkMemory P :=
  { next := Function.update memory.next place (some next)
    prev := Function.update memory.prev place (some prev) }

def free (place : P) (memory : LinkMemory P) : LinkMemory P :=
  { next := Function.update memory.next place none
    prev := Function.update memory.prev place none }

/-- `__list_add`. -/
def listAddBetween (new prev next : P) (memory : LinkMemory P) : Option (LinkMemory P) := do
  let memory ← memory.setPrev next new
  let memory ← memory.setNext new next
  let memory ← memory.setPrev new prev
  memory.setNext prev new

/-- `list_add`. -/
def listAdd (new head : P) (memory : LinkMemory P) : Option (LinkMemory P) := do
  let next ← memory.next head
  memory.listAddBetween new head next

/-- `list_add_tail`. -/
def listAddTail (new head : P) (memory : LinkMemory P) : Option (LinkMemory P) := do
  let prev ← memory.prev head
  memory.listAddBetween new prev head

/-- `__list_del`. -/
def listDelBetween (prev next : P) (memory : LinkMemory P) : Option (LinkMemory P) := do
  let memory ← memory.setPrev next prev
  memory.setNext prev next

/-- `list_del`, with the two values that poison the fields of the entry. -/
def listDel (poison1 poison2 entry : P) (memory : LinkMemory P) : Option (LinkMemory P) := do
  let prev ← memory.prev entry
  let next ← memory.next entry
  let memory ← memory.listDelBetween prev next
  let memory ← memory.setNext entry poison1
  memory.setPrev entry poison2

theorem setNext_of_isSome {place value : P} (isSome : (memory.next place).isSome = true) :
    memory.setNext place value =
      some { memory with next := Function.update memory.next place (some value) } := by
  rcases Option.isSome_iff_exists.mp isSome with ⟨old, isOld⟩
  rw [setNext, isOld, Option.map_some]

theorem setPrev_of_isSome {place value : P} (isSome : (memory.prev place).isSome = true) :
    memory.setPrev place value =
      some { memory with prev := Function.update memory.prev place (some value) } := by
  rcases Option.isSome_iff_exists.mp isSome with ⟨old, isOld⟩
  rw [setPrev, isOld, Option.map_some]

/-- The memory with a place linked in between two others. -/
def link (new prev next : P) (memory : LinkMemory P) : LinkMemory P :=
  { next := Function.update (Function.update memory.next new (some next)) prev (some new)
    prev := Function.update (Function.update memory.prev next (some new)) new (some prev) }

theorem isSome_update {field : P → Option P} {place other value : P}
    (isSome : (field other).isSome = true) :
    (Function.update field place (some value) other).isSome = true := by
  rw [Function.update_apply]
  split
  · rfl
  · exact isSome

theorem listAddBetween_eq (newAlloc : memory.Allocated new)
    (prevNext : (memory.next prev).isSome = true) (nextPrev : (memory.prev next).isSome = true) :
    memory.listAddBetween new prev next = some (memory.link new prev next) := by
  rw [listAddBetween, Option.bind_eq_bind, setPrev_of_isSome nextPrev, Option.bind_some,
    setNext_of_isSome (by exact newAlloc.1), Option.bind_some,
    setPrev_of_isSome (by exact isSome_update newAlloc.2), Option.bind_some,
    setNext_of_isSome (by exact isSome_update prevNext)]
  rfl

theorem next_link {place : P} (notPrev : place ≠ prev) (notNew : place ≠ new) :
    (memory.link new prev next).next place = memory.next place := by
  simp only [link, Function.update_of_ne notPrev, Function.update_of_ne notNew]

theorem prev_link {place : P} (notNext : place ≠ next) (notNew : place ≠ new) :
    (memory.link new prev next).prev place = memory.prev place := by
  simp only [link, Function.update_of_ne notNext, Function.update_of_ne notNew]

/-- Linking in a new entry. -/
theorem Ring.link (ring : Ring memory head (before ++ after))
    (isPrev : (head :: before).getLast? = some prev) (isNext : (after ++ [head]).head? = some next)
    (isNew : new ∉ head :: (before ++ after)) :
    Ring (memory.link new prev next) head (before ++ new :: after) := by
  rcases ring.cut isPrev isNext with ⟨left, right, linked⟩
  have prevNe : prev ≠ new := by
    rintro rfl
    have isMem := List.mem_of_getLast? isPrev
    rw [← List.cons_append] at isNew
    exact isNew (List.mem_append_left _ isMem)
  have nextNe : next ≠ new := by
    rintro rfl
    have isMem := List.mem_of_head? isNext
    simp only [List.mem_append, List.mem_cons, not_or] at isMem isNew
    tauto
  have others : (head :: before).IsChain (memory.link new prev next).Linked ∧
      (after ++ [head]).IsChain (memory.link new prev next).Linked := by
    apply chains_frame ring.distinct left right isPrev isNext
    · intro place isMem notPrev
      have notNew : place ≠ new := fun same => isNew (same ▸ isMem)
      exact next_link notPrev notNew
    · intro place isMem notNext
      have notNew : place ≠ new := fun same => isNew (same ▸ isMem)
      exact prev_link notNext notNew
  refine ⟨?_, ?_⟩
  · have moved : (head :: (before ++ new :: after)).Perm (new :: head :: (before ++ after)) :=
      (List.perm_middle.cons head).trans (List.Perm.swap _ _ _)
    exact moved.nodup_iff.mpr (List.nodup_cons.mpr ⟨isNew, ring.distinct⟩)
  · have behind : ∀ place ∈ (after ++ [head]).head?,
        (memory.link new prev next).Linked new place := by
      intro place isPlace
      rw [isNext, Option.mem_some_iff] at isPlace
      subst isPlace
      exact ⟨by simp [LinkMemory.link, Function.update_of_ne prevNe.symm],
        by simp [LinkMemory.link, Function.update_of_ne nextNe]⟩
    have ahead : ∀ place ∈ (head :: before).getLast?,
        ∀ other ∈ (new :: (after ++ [head])).head?,
          (memory.link new prev next).Linked place other := by
      intro place isPlace other isOther
      rw [isPrev, Option.mem_some_iff] at isPlace
      rw [List.head?_cons, Option.mem_some_iff] at isOther
      subst isPlace isOther
      exact ⟨by simp [LinkMemory.link], by simp [LinkMemory.link]⟩
    rw [← List.cons_append, List.append_assoc, List.cons_append]
    exact List.isChain_append.mpr
      ⟨others.1, List.isChain_cons.mpr ⟨behind, others.2⟩, ahead⟩

/-- `list_add` puts a new entry in front. -/
theorem Ring.listAdd (ring : Ring memory head entries) (newAlloc : memory.Allocated new)
    (isNew : new ∉ head :: entries) :
    ∃ memory', memory.listAdd new head = some memory' ∧ Ring memory' head (new :: entries) := by
  rcases exists_next head entries with ⟨next, isNext⟩
  have nextMem : next ∈ head :: entries := by
    have isMem := List.mem_of_head? isNext
    rw [List.mem_append, List.mem_singleton, or_comm] at isMem
    exact List.mem_cons.mpr isMem
  refine ⟨memory.link new head next, ?_, ?_⟩
  · rw [LinkMemory.listAdd, ring.next_head, isNext]
    exact listAddBetween_eq newAlloc (ring.allocated List.mem_cons_self).1
      (ring.allocated nextMem).2
  · exact @Ring.link P memory head new head next [] entries _ ring rfl isNext isNew

/-- `list_add_tail` puts it behind the others. -/
theorem Ring.listAddTail (ring : Ring memory head entries) (newAlloc : memory.Allocated new)
    (isNew : new ∉ head :: entries) :
    ∃ memory', memory.listAddTail new head = some memory' ∧
      Ring memory' head (entries ++ [new]) := by
  rcases exists_prev head entries with ⟨prev, isPrev⟩
  refine ⟨memory.link new prev head, ?_, ?_⟩
  · rw [LinkMemory.listAddTail, ring.prev_head, isPrev]
    exact listAddBetween_eq newAlloc (ring.allocated (List.mem_of_getLast? isPrev)).1
      (ring.allocated List.mem_cons_self).2
  · rw [← List.append_nil entries] at ring isNew
    exact ring.link isPrev rfl isNew

/-- The memory with an entry taken out, and its fields poisoned. -/
def unlink (poison1 poison2 entry prev next : P) (memory : LinkMemory P) : LinkMemory P :=
  { next := Function.update (Function.update memory.next prev (some next)) entry (some poison1)
    prev := Function.update (Function.update memory.prev next (some prev)) entry (some poison2) }

theorem listDel_eq {poison1 poison2 : P} (isPrev : memory.prev entry = some prev)
    (isNext : memory.next entry = some next) (prevNext : (memory.next prev).isSome = true)
    (nextPrev : (memory.prev next).isSome = true) :
    memory.listDel poison1 poison2 entry =
      some (memory.unlink poison1 poison2 entry prev next) := by
  have entryNext : (memory.next entry).isSome = true := by rw [isNext, Option.isSome_some]
  have entryPrev : (memory.prev entry).isSome = true := by rw [isPrev, Option.isSome_some]
  rw [LinkMemory.listDel, isPrev, isNext, Option.bind_eq_bind, Option.bind_some,
    Option.bind_some, listDelBetween, Option.bind_eq_bind, setPrev_of_isSome nextPrev,
    Option.bind_some, setNext_of_isSome (by exact prevNext), Option.bind_some,
    setNext_of_isSome (by exact isSome_update entryNext), Option.bind_some,
    setPrev_of_isSome (by exact isSome_update entryPrev)]
  rfl

theorem next_unlink {poison1 poison2 place : P} (notPrev : place ≠ prev)
    (notEntry : place ≠ entry) :
    (memory.unlink poison1 poison2 entry prev next).next place = memory.next place := by
  simp only [unlink, Function.update_of_ne notPrev, Function.update_of_ne notEntry]

theorem prev_unlink {poison1 poison2 place : P} (notNext : place ≠ next)
    (notEntry : place ≠ entry) :
    (memory.unlink poison1 poison2 entry prev next).prev place = memory.prev place := by
  simp only [unlink, Function.update_of_ne notNext, Function.update_of_ne notEntry]

/-- `list_del` takes an entry out. -/
theorem Ring.listDel (poison1 poison2 : P) (ring : Ring memory head (before ++ entry :: after)) :
    ∃ memory', memory.listDel poison1 poison2 entry = some memory' ∧
      Ring memory' head (before ++ after) := by
  rcases exists_prev head before with ⟨prev, isPrev⟩
  rcases exists_next head after with ⟨next, isNext⟩
  have prevMem : prev ∈ head :: before := List.mem_of_getLast? isPrev
  have nextMem : next ∈ after ++ [head] := List.mem_of_head? isNext
  have moved : (head :: (before ++ entry :: after)).Perm (entry :: head :: (before ++ after)) :=
    (List.perm_middle.cons head).trans (List.Perm.swap _ _ _)
  have distinct := List.nodup_cons.mp (moved.nodup_iff.mp ring.distinct)
  have prevRest : prev ∈ head :: (before ++ after) := by
    rw [← List.cons_append]
    exact List.mem_append_left _ prevMem
  have nextRest : next ∈ head :: (before ++ after) := by
    simp only [List.mem_append, List.mem_cons, List.not_mem_nil, or_false] at nextMem ⊢
    tauto
  have prevNe : prev ≠ entry := fun same => distinct.1 (same ▸ prevRest)
  have nextNe : next ≠ entry := fun same => distinct.1 (same ▸ nextRest)
  have prevAlloc := ring.allocated (moved.mem_iff.mpr (List.mem_cons_of_mem _ prevRest))
  have nextAlloc := ring.allocated (moved.mem_iff.mpr (List.mem_cons_of_mem _ nextRest))
  refine ⟨memory.unlink poison1 poison2 entry prev next, ?_, ⟨distinct.2, ?_⟩⟩
  · apply listDel_eq _ _ prevAlloc.1 nextAlloc.2
    · rw [ring.prev_entry, isPrev]
    · rw [ring.next_entry, isNext]
  · rcases ring.cut isPrev rfl with ⟨left, right, -⟩
    have others := @chains_frame P memory (memory.unlink poison1 poison2 entry prev next) head
      prev next before after distinct.2 left (List.isChain_cons.mp right).2 isPrev isNext
      (fun place isMem notPrev => next_unlink notPrev fun same => distinct.1 (same ▸ isMem))
      (fun place isMem notNext => prev_unlink notNext fun same => distinct.1 (same ▸ isMem))
    have joined : ∀ place ∈ (head :: before).getLast?, ∀ other ∈ (after ++ [head]).head?,
        (memory.unlink poison1 poison2 entry prev next).Linked place other := by
      intro place isPlace other isOther
      rw [isPrev, Option.mem_some_iff] at isPlace
      rw [isNext, Option.mem_some_iff] at isOther
      subst isPlace isOther
      exact ⟨by simp [LinkMemory.unlink, Function.update_of_ne prevNe],
        by simp [LinkMemory.unlink, Function.update_of_ne nextNe]⟩
    rw [← List.cons_append, List.append_assoc]
    exact List.isChain_append.mpr ⟨others.1, others.2, joined⟩

/-- The same for an entry wherever it stands. -/
theorem Ring.listDel_erase (poison1 poison2 : P) (ring : Ring memory head entries)
    (isMem : entry ∈ entries) :
    ∃ memory', memory.listDel poison1 poison2 entry = some memory' ∧
      Ring memory' head (entries.erase entry) := by
  rcases List.append_of_mem isMem with ⟨before, after, rfl⟩
  have distinct := (List.nodup_cons.mp ring.distinct).2
  have notBefore : entry ∉ before := by
    intro isBefore
    exact List.disjoint_of_nodup_append distinct isBefore List.mem_cons_self
  rw [List.erase_append_right _ notBefore, List.erase_cons_head]
  exact ring.listDel poison1 poison2

/-! ## Places that no list holds -/

theorem Ring.alloc (ring : Ring memory head entries) (isNew : new ∉ head :: entries) :
    Ring (memory.alloc new next prev) head entries := by
  apply ring.frame
  intro place isMem
  have notNew : place ≠ new := fun same => isNew (same ▸ isMem)
  exact ⟨Function.update_of_ne notNew _ _, Function.update_of_ne notNew _ _⟩

theorem Ring.free (ring : Ring memory head entries) (isGone : entry ∉ head :: entries) :
    Ring (memory.free entry) head entries := by
  apply ring.frame
  intro place isMem
  have notGone : place ≠ entry := fun same => isGone (same ▸ isMem)
  exact ⟨Function.update_of_ne notGone _ _, Function.update_of_ne notGone _ _⟩

theorem allocated_alloc : (memory.alloc new next prev).Allocated new := by
  simp [Allocated, LinkMemory.alloc]

end Operations

end LinkMemory
