import Mathlib.Tactic

/-!
# Lists with one item for each key

An item is appended to a list unless the list has an item under its key.  A list of items
is added one item after the other: nothing more happens when it is added again, and two
lists without a common key may be added in either order, up to the order of the result.

The first item under a key stays, whatever is added later, so that adding is monotone and what
a list has under a key is decided by the first list that brings an item under it.  The order of
the items is not lost but irrelevant for most users, and the laws about it are stated up to a
permutation.
-/

namespace KeyedList

variable {α κ : Type} [DecidableEq κ] (key : α → κ)

/-- A list with an item that has no equal key in it yet. -/
def add (items : List α) (item : α) : List α :=
  if key item ∈ items.map key then items else items ++ [item]

/-- The items of a list, added one after the other. -/
def addAll (new items : List α) : List α := new.foldl (add key) items

variable {key}

theorem add_of_known {items : List α} {item : α} (known : key item ∈ items.map key) :
    add key items item = items := if_pos known

theorem add_of_new {items : List α} {item : α} (isNew : key item ∉ items.map key) :
    add key items item = items ++ [item] := if_neg isNew

/-- Nothing but the item is new. -/
theorem of_mem_add {items : List α} {item other : α} (isMem : other ∈ add key items item) :
    other ∈ items ∨ other = item := by
  rcases em (key item ∈ items.map key) with known | isNew
  · rw [add_of_known known] at isMem
    exact .inl isMem
  · rw [add_of_new isNew] at isMem
    exact (List.mem_append.mp isMem).imp_right List.mem_singleton.mp

theorem of_mem_addAll {new items : List α} {other : α} (isMem : other ∈ addAll key new items) :
    other ∈ items ∨ other ∈ new := by
  induction new generalizing items with
  | nil => exact .inl isMem
  | cons item rest ih =>
      rcases ih isMem with isOld | isLater
      · exact (of_mem_add isOld).imp_right fun same => by rw [same]; exact List.mem_cons_self
      · exact .inr (List.mem_cons_of_mem _ isLater)

/-! ## Keys -/

theorem mem_keys_add {items : List α} {item : α} {k : κ} :
    k ∈ (add key items item).map key ↔ k ∈ items.map key ∨ k = key item := by
  rcases em (key item ∈ items.map key) with known | isNew
  · rw [add_of_known known]
    constructor
    · exact Or.inl
    · rintro (isOld | rfl)
      · exact isOld
      · exact known
  · rw [add_of_new isNew, List.map_append, List.mem_append, List.map_singleton,
      List.mem_singleton]

/-- The keys are those of both lists, whether or not an item was added under them. -/
theorem mem_keys_addAll {new items : List α} {k : κ} :
    k ∈ (addAll key new items).map key ↔ k ∈ items.map key ∨ k ∈ new.map key := by
  induction new generalizing items with
  | nil => simp [addAll]
  | cons item rest ih =>
      rw [addAll, List.foldl_cons, ← addAll, ih, mem_keys_add, List.map_cons, List.mem_cons,
        or_assoc]

theorem nodup_add {items : List α} (nodup : (items.map key).Nodup) (item : α) :
    ((add key items item).map key).Nodup := by
  rcases em (key item ∈ items.map key) with known | isNew
  · rwa [add_of_known known]
  · rw [add_of_new isNew, List.map_append]
    apply List.Nodup.append nodup (List.nodup_singleton _)
    intro k isOld isItem
    rcases List.mem_singleton.mp isItem with rfl
    exact isNew isOld

/-- No key is ever there twice. -/
theorem nodup_addAll {items : List α} (nodup : (items.map key).Nodup) (new : List α) :
    ((addAll key new items).map key).Nodup := by
  induction new generalizing items with
  | nil => exact nodup
  | cons item rest ih => exact ih (nodup_add nodup item)

/-- The length counts the different keys. -/
theorem length_addAll {items : List α} (nodup : (items.map key).Nodup) (new : List α) :
    (addAll key new items).length =
      ((items.map key).toFinset ∪ (new.map key).toFinset).card := by
  have sameKeys : ((addAll key new items).map key).toFinset =
      (items.map key).toFinset ∪ (new.map key).toFinset := by
    ext k
    rw [List.mem_toFinset, mem_keys_addAll, Finset.mem_union, List.mem_toFinset,
      List.mem_toFinset]
  rw [← sameKeys, List.toFinset_card_of_nodup (nodup_addAll nodup new), List.length_map]

/-! ## Adding a list again -/

/-- Items under known keys change nothing. -/
theorem addAll_of_known {new items : List α} (known : ∀ item ∈ new, key item ∈ items.map key) :
    addAll key new items = items := by
  induction new with
  | nil => rfl
  | cons item rest ih =>
      rw [List.forall_mem_cons] at known
      rw [addAll, List.foldl_cons, add_of_known known.1]
      exact ih known.2

theorem addAll_idempotent (new items : List α) :
    addAll key new (addAll key new items) = addAll key new items := by
  apply addAll_of_known
  intro item isNew
  exact mem_keys_addAll.mpr (.inr (List.mem_map_of_mem isNew))

/-! ## Adding two lists in either order -/

theorem perm_add {items others : List α} (perm : items.Perm others) (item : α) :
    (add key items item).Perm (add key others item) := by
  have sameKeys := (perm.map key).mem_iff (a := key item)
  rcases em (key item ∈ items.map key) with known | isNew
  · rw [add_of_known known, add_of_known (sameKeys.mp known)]
    exact perm
  · rw [add_of_new isNew, add_of_new (fun known => isNew (sameKeys.mpr known))]
    exact perm.append_right [item]

/-- The order of a list does not matter to what is added to it. -/
theorem perm_addAll {items others : List α} (perm : items.Perm others) (new : List α) :
    (addAll key new items).Perm (addAll key new others) := by
  induction new generalizing items others with
  | nil => exact perm
  | cons item rest ih => exact ih (perm_add perm item)

/-- Two items under different keys may be added in either order. -/
theorem add_add_perm (items : List α) {first second : α} (distinct : key first ≠ key second) :
    (add key (add key items first) second).Perm (add key (add key items second) first) := by
  have firstKnown : key first ∈ (add key items second).map key ↔ key first ∈ items.map key :=
    mem_keys_add.trans (or_iff_left distinct)
  have secondKnown : key second ∈ (add key items first).map key ↔ key second ∈ items.map key :=
    mem_keys_add.trans (or_iff_left distinct.symm)
  rcases em (key first ∈ items.map key) with hasFirst | newFirst
  · rw [add_of_known hasFirst, add_of_known (firstKnown.mpr hasFirst)]
  · rcases em (key second ∈ items.map key) with hasSecond | newSecond
    · rw [add_of_known hasSecond, add_of_known (secondKnown.mpr hasSecond)]
    · rw [add_of_new (fun known => newFirst (firstKnown.mp known)),
        add_of_new (fun known => newSecond (secondKnown.mp known)), add_of_new newFirst,
        add_of_new newSecond, List.append_assoc, List.append_assoc]
      apply List.Perm.append_left
      exact .swap second first []

theorem addAll_add_perm (new items : List α) {item : α}
    (distinct : ∀ other ∈ new, key other ≠ key item) :
    (addAll key new (add key items item)).Perm (add key (addAll key new items) item) := by
  induction new generalizing items with
  | nil => exact .refl _
  | cons other rest ih =>
      rw [List.forall_mem_cons] at distinct
      have swapped := add_add_perm items distinct.1.symm
      exact (perm_addAll swapped rest).trans (ih (add key items other) distinct.2)

/-- Lists without a common key may be added in either order. -/
theorem addAll_comm {new more : List α} (items : List α)
    (distinct : ∀ item ∈ new, ∀ other ∈ more, key item ≠ key other) :
    (addAll key new (addAll key more items)).Perm (addAll key more (addAll key new items)) := by
  induction new generalizing items with
  | nil => exact .refl _
  | cons item rest ih =>
      rw [List.forall_mem_cons] at distinct
      have moved := addAll_add_perm more items fun other isOther =>
        (distinct.1 other isOther).symm
      exact (perm_addAll moved.symm rest).trans (ih (add key items item) distinct.2)

end KeyedList
