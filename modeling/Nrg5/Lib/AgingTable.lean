import Nrg5.Lib.HashedTable

/-!
# Tables whose entries age

An aging call removes the entries that carry a mark and marks the others; a refresh takes the
mark of an entry away.  It runs in two passes: the first one walks the list, records what is
marked and marks everything, the second one removes what was recorded, the last one first.

A history is the list of the calls that a table has seen.  When a call was the last of its
kind is its position in the history, and zero when there was none.
-/

/-- The calls on a table; an entry stands for a pointer to it. -/
inductive AgingCall (α : Type) : Type where
  | add (entry : α)
  | del (entry : α)
  | refresh (entry : α)
  | aging

/-- The entries of a table: where they belong, which object each one is, and its mark. -/
structure AgingKind (ι α : Type) where
  bucket : ι → α → Nat
  addr : α → Nat
  expired : α → Bool
  mark : α → α
  clear : α → α
  expired_mark : ∀ entry, expired (mark entry) = true
  expired_clear : ∀ entry, expired (clear entry) = false
  addr_mark : ∀ entry, addr (mark entry) = addr entry
  addr_clear : ∀ entry, addr (clear entry) = addr entry
  bucket_mark : ∀ index entry, bucket index (mark entry) = bucket index entry
  bucket_clear : ∀ index entry, bucket index (clear entry) = bucket index entry

/-! ## Histories -/

section Histories

variable {γ : Type} {happens : γ → Bool} {history : List γ} {call : γ}

/-- The position of the last call of a kind, counted from one; zero if there is none. -/
def lastTime (happens : γ → Bool) (history : List γ) : Nat :=
  history.length - history.reverse.findIdx happens

@[simp]
theorem lastTime_nil : lastTime happens [] = 0 := rfl

theorem lastTime_append : lastTime happens (history ++ [call]) =
    if happens call = true then history.length + 1 else lastTime happens history := by
  rw [lastTime, List.reverse_append, List.reverse_singleton, List.singleton_append,
    List.findIdx_cons, List.length_append, List.length_singleton]
  cases happens call with
  | true => rfl
  | false =>
      simp only [cond_false, Bool.false_eq_true, if_false, lastTime]
      omega

theorem lastTime_le : lastTime happens history ≤ history.length := Nat.sub_le _ _

end Histories

variable {ι α : Type}

/-- The table that a history leads to from the empty one. -/
def tableAfter (apply : AgingCall α → HashedTable ι α → HashedTable ι α)
    (history : List (AgingCall α)) : HashedTable ι α :=
  history.foldl (fun table call => apply call table) .empty

theorem tableAfter_append (apply : AgingCall α → HashedTable ι α → HashedTable ι α)
    (history : List (AgingCall α)) (call : AgingCall α) :
    tableAfter apply (history ++ [call]) = apply call (tableAfter apply history) := by
  rw [tableAfter, List.foldl_append]
  rfl

/-- Only an object that is not in the table is added, and only one that is there deleted. -/
def Fits (addr : α → Nat) (table : HashedTable ι α) : AgingCall α → Prop
  | .add entry => addr entry ∉ table.ll.map addr
  | .del entry => addr entry ∈ table.ll.map addr
  | .refresh _ => True
  | .aging => True

instance (addr : α → Nat) (table : HashedTable ι α) (call : AgingCall α) :
    Decidable (Fits addr table call) :=
  match call with
  | .add entry => inferInstanceAs (Decidable (addr entry ∉ table.ll.map addr))
  | .del entry => inferInstanceAs (Decidable (addr entry ∈ table.ll.map addr))
  | .refresh _ => inferInstanceAs (Decidable True)
  | .aging => inferInstanceAs (Decidable True)

/-- Every call of a history fits the table that it meets. -/
def Fitting (addr : α → Nat) (apply : AgingCall α → HashedTable ι α → HashedTable ι α)
    (table : HashedTable ι α) : List (AgingCall α) → Prop
  | [] => True
  | call :: rest => Fits addr table call ∧ Fitting addr apply (apply call table) rest

instance decidableFitting (addr : α → Nat)
    (apply : AgingCall α → HashedTable ι α → HashedTable ι α) (table : HashedTable ι α)
    (history : List (AgingCall α)) : Decidable (Fitting addr apply table history) :=
  match history with
  | [] => inferInstanceAs (Decidable True)
  | call :: rest =>
      have := decidableFitting addr apply (apply call table) rest
      inferInstanceAs (Decidable (Fits addr table call ∧ _))

theorem fitting_append {addr : α → Nat}
    {apply : AgingCall α → HashedTable ι α → HashedTable ι α} {table : HashedTable ι α}
    {history : List (AgingCall α)} {call : AgingCall α} :
    Fitting addr apply table (history ++ [call]) ↔ Fitting addr apply table history ∧
      Fits addr (history.foldl (fun table call => apply call table) table) call := by
  induction history generalizing table with
  | nil => simp only [List.nil_append, Fitting, List.foldl_nil, and_true, true_and]
  | cons first rest ih =>
      simp only [List.cons_append, Fitting, ih, List.foldl_cons, and_assoc]

namespace AgingKind

variable (kind : AgingKind ι α)

def isAdd (key : Nat) : AgingCall α → Bool
  | .add entry => kind.addr entry == key
  | _ => false

def isRefresh (key : Nat) : AgingCall α → Bool
  | .refresh entry => kind.addr entry == key
  | _ => false

end AgingKind

namespace AgingCall

def isAging : AgingCall α → Bool
  | .aging => true
  | _ => false

end AgingCall

namespace AgingKind

section Operations

variable (kind : AgingKind ι α)

/-- The entries that an aging call records. -/
def recorded (table : HashedTable ι α) : List α := table.ll.filter kind.expired

def del (entry : α) (table : HashedTable ι α) : HashedTable ι α :=
  table.unlink fun other => kind.addr other == kind.addr entry

def apply : AgingCall α → HashedTable ι α → HashedTable ι α
  | .add entry, table => table.addHead kind.bucket entry
  | .del entry, table => kind.del entry table
  | .refresh entry, table =>
      table.write (fun other => kind.addr other == kind.addr entry) kind.clear
  | .aging, table => (kind.recorded table).foldr kind.del (table.write (fun _ => true) kind.mark)

/-- When the object was added last. -/
def added (history : List (AgingCall α)) (key : Nat) : Nat := lastTime (kind.isAdd key) history

def refreshed (history : List (AgingCall α)) (key : Nat) : Nat :=
  lastTime (kind.isRefresh key) history

end Operations

/-- When the table was aged last. -/
def aged (history : List (AgingCall α)) : Nat := lastTime AgingCall.isAging history

/-- Since it was added an object has seen an aging call, and no refresh since the last one. -/
def Silent (kind : AgingKind ι α) (history : List (AgingCall α)) (key : Nat) : Prop :=
  kind.added history key < aged history ∧ kind.refreshed history key < aged history

instance (kind : AgingKind ι α) (history : List (AgingCall α)) (key : Nat) :
    Decidable (kind.Silent history key) :=
  inferInstanceAs (Decidable (_ ∧ _))

variable {kind : AgingKind ι α} {table : HashedTable ι α} {history : List (AgingCall α)}
  {entry : α} {key : Nat}

/-! ## One aging call -/

theorem aging_eq : kind.apply .aging table =
    (table.write (fun _ => true) kind.mark).unlinkAll kind.addr
      ((kind.recorded table).map kind.addr) := by
  rw [HashedTable.unlinkAll, List.foldr_map]
  rfl

theorem mem_recorded_iff (distinct : (table.ll.map kind.addr).Nodup) (isMem : entry ∈ table.ll) :
    kind.addr entry ∈ (kind.recorded table).map kind.addr ↔ kind.expired entry = true := by
  rw [List.mem_map]
  constructor
  · rintro ⟨other, isRecorded, sameAddr⟩
    rcases List.mem_filter.mp isRecorded with ⟨otherMem, isExpired⟩
    rwa [List.inj_on_of_nodup_map distinct otherMem isMem sameAddr] at isExpired
  · intro isExpired
    exact ⟨entry, List.mem_filter.mpr ⟨isMem, isExpired⟩, rfl⟩

theorem sound_aging (sound : table.Sound kind.bucket kind.addr) :
    (kind.apply .aging table).Sound kind.bucket kind.addr := by
  have isSublist : (kind.recorded table).Sublist table.ll := List.filter_sublist
  rw [aging_eq]
  refine HashedTable.Sound.unlinkAll (sound.write kind.bucket_mark kind.addr_mark) ?_ ?_
  · exact sound.distinct.sublist (isSublist.map _)
  · intro key isMem
    rw [HashedTable.map_ll_write kind.addr_mark]
    exact (isSublist.map _).subset isMem

/-- What is not marked stays, in its order and with a mark. -/
theorem ll_aging (distinct : (table.ll.map kind.addr).Nodup) :
    (kind.apply .aging table).ll =
      (table.ll.filter fun entry => !kind.expired entry).map kind.mark := by
  rw [aging_eq, HashedTable.unlinkAll_eq]
  simp only [HashedTable.write, if_true]
  rw [List.filter_map]
  congr 1
  apply List.filter_congr
  intro entry isMem
  have stays := not_congr (mem_recorded_iff distinct isMem)
  rw [Function.comp_apply, kind.addr_mark]
  simp only [stays, Bool.not_eq_true, Bool.decide_eq_false]

/-! ## Histories of calls -/

theorem added_append {call : AgingCall α} : kind.added (history ++ [call]) key =
    if kind.isAdd key call = true then history.length + 1 else kind.added history key :=
  lastTime_append

theorem refreshed_append {call : AgingCall α} : kind.refreshed (history ++ [call]) key =
    if kind.isRefresh key call = true then history.length + 1 else kind.refreshed history key :=
  lastTime_append

theorem aged_append {call : AgingCall α} : aged (history ++ [call]) =
    if call.isAging = true then history.length + 1 else aged history :=
  lastTime_append

theorem silent_append {call : AgingCall α} (notAdd : kind.isAdd key call = false)
    (notRefresh : kind.isRefresh key call = false) (notAging : call.isAging = false) :
    kind.Silent (history ++ [call]) key ↔ kind.Silent history key := by
  rw [Silent, Silent, added_append, refreshed_append, aged_append, notAdd, notRefresh, notAging]
  rfl

/-- The entries are linked as they should be, and the list has the newest one first. -/
structure Ordered (kind : AgingKind ι α) (history : List (AgingCall α))
    (table : HashedTable ι α) : Prop where
  sound : table.Sound kind.bucket kind.addr
  newestFirst : (table.ll.map kind.addr).Pairwise fun newer older =>
    kind.added history older < kind.added history newer

theorem Ordered.keep {call : AgingCall α} {after : HashedTable ι α}
    (ordered : kind.Ordered history table) (adds : ∀ key, kind.isAdd key call = false)
    (sound : after.Sound kind.bucket kind.addr)
    (stays : (after.ll.map kind.addr).Sublist (table.ll.map kind.addr)) :
    kind.Ordered (history ++ [call]) after := by
  refine ⟨sound, (ordered.newestFirst.sublist stays).imp fun isNewer => ?_⟩
  rw [added_append, added_append, adds, adds]
  exact isNewer

theorem Ordered.add (ordered : kind.Ordered history table)
    (isNew : kind.addr entry ∉ table.ll.map kind.addr) :
    kind.Ordered (history ++ [.add entry]) (kind.apply (.add entry) table) := by
  refine ⟨ordered.sound.addHead isNew, List.pairwise_cons.mpr ⟨?_, ?_⟩⟩
  · intro key isMem
    have isOther : (kind.addr entry == key) = false := by
      rw [beq_eq_false_iff_ne]
      exact fun same => isNew (same ▸ isMem)
    have early : kind.added history key ≤ history.length := lastTime_le
    rw [added_append, added_append, isAdd, isAdd, isOther, beq_self_eq_true, if_pos rfl,
      if_neg Bool.false_ne_true]
    exact Nat.lt_succ_of_le early
  · apply ordered.newestFirst.imp_of_mem
    intro newer older newerMem olderMem isNewer
    have isOther : ∀ key ∈ table.ll.map kind.addr, kind.added (history ++ [.add entry]) key =
        kind.added history key := by
      intro key isMem
      rw [added_append, isAdd, if_neg]
      exact fun same => isNew (beq_iff_eq.mp same ▸ isMem)
    rwa [isOther newer newerMem, isOther older olderMem]

theorem Ordered.step {call : AgingCall α} (ordered : kind.Ordered history table)
    (fits : Fits kind.addr table call) :
    kind.Ordered (history ++ [call]) (kind.apply call table) := by
  cases call with
  | add entry => exact ordered.add fits
  | del entry =>
      exact ordered.keep (fun _ => rfl) (ordered.sound.unlink_addr fits)
        (List.filter_sublist.map _)
  | refresh entry =>
      refine ordered.keep (fun _ => rfl)
        (ordered.sound.write kind.bucket_clear kind.addr_clear) ?_
      rw [apply, HashedTable.map_ll_write kind.addr_clear]
  | aging =>
      refine ordered.keep (fun _ => rfl) (sound_aging ordered.sound) ?_
      rw [ll_aging ordered.sound.distinct, List.map_map]
      have sameAddr : kind.addr ∘ kind.mark = kind.addr := funext kind.addr_mark
      rw [sameAddr]
      exact List.filter_sublist.map _

theorem ordered_after (fitting : Fitting kind.addr kind.apply .empty history) :
    kind.Ordered history (tableAfter kind.apply history) := by
  induction history using List.reverseRecOn with
  | nil => exact ⟨HashedTable.sound_empty, List.Pairwise.nil⟩
  | append_singleton history call ih =>
      rw [fitting_append] at fitting
      rw [tableAfter_append]
      exact (ih fitting.1).step fitting.2

/-- The answer is the matching entry that was added last, or nothing if none matches. -/
def NewestOf (kind : AgingKind ι α) (history : List (AgingCall α)) (entries : List α)
    (matching : α → Bool) : Option α → Prop
  | none => ∀ entry ∈ entries, matching entry = false
  | some entry => entry ∈ entries ∧ matching entry = true ∧
      ∀ other ∈ entries, matching other = true →
        kind.added history (kind.addr other) ≤ kind.added history (kind.addr entry)

/-- A lookup by a key that decides the bucket finds the newest entry with it. -/
theorem Ordered.find_newest {index : ι} {slot : Nat} {matching : α → Bool}
    (ordered : kind.Ordered history table)
    (decides : ∀ entry, matching entry = true → kind.bucket index entry = slot) :
    kind.NewestOf history table.ll matching (table.find index slot matching) := by
  rw [ordered.sound.find decides]
  cases found : table.ll.find? matching with
  | none =>
      intro entry isMem
      exact Bool.eq_false_iff.mpr (List.find?_eq_none.mp found entry isMem)
  | some entry =>
      rcases List.find?_eq_some_iff_append.mp found with ⟨isMatch, newer, older, parts, noMatch⟩
      refine ⟨List.mem_of_find?_eq_some found, isMatch, ?_⟩
      intro other isMem otherMatch
      have newest := ordered.newestFirst
      rw [parts, List.map_append, List.map_cons] at newest
      rw [parts] at isMem
      rcases List.mem_append.mp isMem with isNewer | isRest
      · have isOther := noMatch other isNewer
        rw [otherMatch] at isOther
        cases isOther
      · rcases List.mem_cons.mp isRest with rfl | isOlder
        · exact le_refl _
        · exact (List.rel_of_pairwise_cons (List.pairwise_append.mp newest).2.1
            (List.mem_map_of_mem isOlder)).le

/-! ## What a table holds, by its history -/

/-- What a call does to the mark of an object. -/
def marking (kind : AgingKind ι α) (key : Nat) : AgingCall α → Option Bool
  | .add entry => if kind.addr entry = key then some (kind.expired entry) else none
  | .refresh entry => if kind.addr entry = key then some false else none
  | .aging => some true
  | .del _ => none

/-- The last call of a history on the mark of an object has left one. -/
def Marked (kind : AgingKind ι α) (history : List (AgingCall α)) (key : Nat) : Prop :=
  history.reverse.findSome? (kind.marking key) = some true

/-- A call behind a history takes an object away: it deletes it, or ages it out. -/
def Removes (kind : AgingKind ι α) (history : List (AgingCall α)) (key : Nat) :
    AgingCall α → Prop
  | .del entry => kind.addr entry = key
  | .aging => kind.Marked history key
  | _ => False

/-- An entry has been added, and since then it has neither been deleted nor aged out. -/
def Lives (kind : AgingKind ι α) (history : List (AgingCall α)) (entry : α) : Prop :=
  ∃ before since, history = before ++ .add entry :: since ∧
    ∀ first call rest, since = first ++ call :: rest →
      ¬ kind.Removes (before ++ .add entry :: first) (kind.addr entry) call

theorem marked_append {call : AgingCall α} : kind.Marked (history ++ [call]) key ↔
    kind.marking key call = some true ∨
      kind.marking key call = none ∧ kind.Marked history key := by
  rw [Marked, List.reverse_append, List.reverse_singleton, List.singleton_append,
    List.findSome?_cons]
  cases kind.marking key call with
  | none => simp [Marked]
  | some mark => simp

theorem not_lives_nil : ¬ kind.Lives [] entry := by
  rintro ⟨before, since, isHistory, _⟩
  exact List.cons_ne_nil _ _ (List.append_eq_nil_iff.mp isHistory.symm).2

/-- An entry lives on behind one more call, or it is new. -/
theorem lives_append {call : AgingCall α} : kind.Lives (history ++ [call]) entry ↔
    call = .add entry ∨
      kind.Lives history entry ∧ ¬ kind.Removes history (kind.addr entry) call := by
  constructor
  · rintro ⟨before, since, isHistory, stays⟩
    rcases List.eq_nil_or_concat' since with rfl | ⟨first, last, rfl⟩
    · rcases List.append_inj' isHistory rfl with ⟨_, same⟩
      exact .inl (List.cons.inj same).1
    · rw [← List.cons_append, ← List.append_assoc] at isHistory
      rcases List.append_inj' isHistory rfl with ⟨rfl, same⟩
      rcases (List.cons.inj same).1 with rfl
      refine .inr ⟨⟨before, first, rfl, ?_⟩, stays first call [] rfl⟩
      rintro early other rest rfl
      apply stays early other (rest ++ [call])
      rw [List.append_assoc, List.cons_append]
  · rintro (rfl | ⟨⟨before, since, rfl, stays⟩, remains⟩)
    · refine ⟨history, [], rfl, ?_⟩
      intro first other rest isNil
      exact absurd (List.append_eq_nil_iff.mp isNil.symm).2 (List.cons_ne_nil _ _)
    · refine ⟨before, since ++ [call], by rw [List.append_assoc, List.cons_append], ?_⟩
      intro first other rest isSince
      rcases List.eq_nil_or_concat' rest with rfl | ⟨between, last, rfl⟩
      · rcases List.append_inj' isSince rfl with ⟨rfl, same⟩
        rcases (List.cons.inj same).1 with rfl
        exact remains
      · rw [← List.cons_append, ← List.append_assoc] at isSince
        exact stays first other between (List.append_inj' isSince rfl).1

/-- A table holds the entries that live by its history, and the marks that the history leaves. A
view is what neither a mark nor a refresh changes of an entry. -/
structure Reflects {β : Type} (kind : AgingKind ι α) (view : α → β)
    (history : List (AgingCall α)) (table : HashedTable ι α) : Prop where
  holds : ∀ shown,
    shown ∈ table.ll.map view ↔ ∃ entry, kind.Lives history entry ∧ view entry = shown
  marks : ∀ entry ∈ table.ll, kind.expired entry = true ↔ kind.Marked history (kind.addr entry)

section Views

variable {β : Type} {view : α → β}

theorem Reflects.add (reflects : kind.Reflects view history table)
    (isNew : kind.addr entry ∉ table.ll.map kind.addr) :
    kind.Reflects view (history ++ [.add entry]) (kind.apply (.add entry) table) := by
  constructor
  · intro shown
    have holds := reflects.holds shown
    simp only [lives_append, Removes, not_false_iff, and_true, AgingCall.add.injEq, or_and_right,
      exists_or, exists_eq_left', ← holds]
    exact List.mem_cons.trans (or_congr_left eq_comm)
  · intro other isMem
    rw [marked_append, marking]
    rcases List.mem_cons.mp isMem with rfl | isOld
    · simp
    · have isOther : ¬ kind.addr entry = kind.addr other :=
        fun same => isNew (List.mem_map.mpr ⟨other, isOld, same.symm⟩)
      simp [isOther, reflects.marks other isOld]

theorem Reflects.del (reflects : kind.Reflects view history table)
    (sameAddr : ∀ first second, view first = view second → kind.addr first = kind.addr second) :
    kind.Reflects view (history ++ [.del entry]) (kind.apply (.del entry) table) := by
  constructor
  · intro shown
    simp only [lives_append, Removes, reduceCtorEq, false_or]
    constructor
    · intro isShown
      rcases List.mem_map.mp isShown with ⟨other, isMem, rfl⟩
      rcases List.mem_filter.mp isMem with ⟨wasMem, isOther⟩
      rw [Bool.not_eq_true', beq_eq_false_iff_ne] at isOther
      rcases (reflects.holds _).mp (List.mem_map_of_mem wasMem) with ⟨lives, isLiving, same⟩
      refine ⟨lives, ⟨isLiving, fun isSame => isOther ?_⟩, same⟩
      rw [isSame, sameAddr _ _ same]
    · rintro ⟨lives, ⟨isLiving, isOther⟩, rfl⟩
      rcases List.mem_map.mp ((reflects.holds _).mpr ⟨lives, isLiving, rfl⟩) with
        ⟨other, wasMem, same⟩
      refine List.mem_map.mpr ⟨other, List.mem_filter.mpr ⟨wasMem, ?_⟩, same⟩
      rw [Bool.not_eq_true', beq_eq_false_iff_ne, sameAddr _ _ same]
      exact fun isSame => isOther isSame.symm
  · intro other isMem
    rw [marked_append, marking]
    simp [reflects.marks other (List.mem_of_mem_filter isMem)]

theorem Reflects.refresh (reflects : kind.Reflects view history table)
    (sameView : ∀ entry, view (kind.clear entry) = view entry) :
    kind.Reflects view (history ++ [.refresh entry]) (kind.apply (.refresh entry) table) := by
  constructor
  · intro shown
    simp only [lives_append, Removes, reduceCtorEq, false_or, not_false_iff, and_true,
      ← reflects.holds shown]
    rw [apply, HashedTable.map_ll_write sameView]
  · intro other isMem
    rcases HashedTable.mem_ll_write.mp isMem with ⟨old, isOld, rfl⟩
    rw [marked_append, marking]
    by_cases isSame : (kind.addr old == kind.addr entry) = true
    · have sameAddr := (beq_iff_eq.mp isSame).symm
      simp [kind.expired_clear, kind.addr_clear, sameAddr]
    · have isOther : ¬ kind.addr entry = kind.addr old :=
        fun same => isSame (beq_iff_eq.mpr same.symm)
      simp [isSame, isOther, reflects.marks old isOld]

theorem Reflects.aging (reflects : kind.Reflects view history table)
    (distinct : (table.ll.map kind.addr).Nodup)
    (sameAddr : ∀ first second, view first = view second → kind.addr first = kind.addr second)
    (sameView : ∀ entry, view (kind.mark entry) = view entry) :
    kind.Reflects view (history ++ [.aging]) (kind.apply .aging table) := by
  constructor
  · intro shown
    simp only [lives_append, Removes, reduceCtorEq, false_or]
    rw [ll_aging distinct, List.map_map, List.mem_map]
    constructor
    · rintro ⟨other, isMem, rfl⟩
      rcases List.mem_filter.mp isMem with ⟨wasMem, unmarked⟩
      rw [Bool.not_eq_true'] at unmarked
      rcases (reflects.holds _).mp (List.mem_map_of_mem wasMem) with ⟨lives, isLiving, same⟩
      refine ⟨lives, ⟨isLiving, fun isMarked => ?_⟩, same.trans (sameView other).symm⟩
      rw [sameAddr _ _ same, ← reflects.marks other wasMem, unmarked] at isMarked
      cases isMarked
    · rintro ⟨lives, ⟨isLiving, unmarked⟩, rfl⟩
      rcases List.mem_map.mp ((reflects.holds _).mpr ⟨lives, isLiving, rfl⟩) with
        ⟨other, wasMem, same⟩
      refine ⟨other, List.mem_filter.mpr ⟨wasMem, ?_⟩, (sameView other).trans same⟩
      rw [← sameAddr _ _ same, ← reflects.marks other wasMem] at unmarked
      rw [Bool.not_eq_true', Bool.eq_false_iff]
      exact unmarked
  · intro other isMem
    rw [ll_aging distinct] at isMem
    rcases List.mem_map.mp isMem with ⟨old, -, rfl⟩
    rw [marked_append]
    exact ⟨fun _ => .inl rfl, fun _ => kind.expired_mark old⟩

/-- After every history of calls on new and present objects the table holds what lives by it. -/
theorem reflects_after (fitting : Fitting kind.addr kind.apply .empty history)
    (sameAddr : ∀ first second, view first = view second → kind.addr first = kind.addr second)
    (markView : ∀ entry, view (kind.mark entry) = view entry)
    (clearView : ∀ entry, view (kind.clear entry) = view entry) :
    kind.Reflects view history (tableAfter kind.apply history) := by
  induction history using List.reverseRecOn with
  | nil =>
      refine ⟨fun shown => ?_, fun entry isMem => absurd isMem List.not_mem_nil⟩
      simp [tableAfter, HashedTable.empty, not_lives_nil]
  | append_singleton history call ih =>
      rw [fitting_append] at fitting
      rw [tableAfter_append]
      have before := ih fitting.1
      cases call with
      | add entry => exact before.add fitting.2
      | del entry => exact before.del sameAddr
      | refresh entry => exact before.refresh clearView
      | aging => exact before.aging (ordered_after fitting.1).sound.distinct sameAddr markView

end Views

/-- The entries that a history adds are not marked. -/
def AddsFresh (kind : AgingKind ι α) (history : List (AgingCall α)) : Prop :=
  ∀ entry, .add entry ∈ history → kind.expired entry = false

/-- The marked entries are the silent ones. -/
def MarksSilent (kind : AgingKind ι α) (history : List (AgingCall α))
    (table : HashedTable ι α) : Prop :=
  ∀ entry ∈ table.ll, kind.expired entry = true ↔ kind.Silent history (kind.addr entry)

theorem MarksSilent.add (marks : kind.MarksSilent history table)
    (isNew : kind.addr entry ∉ table.ll.map kind.addr) (isFresh : kind.expired entry = false) :
    kind.MarksSilent (history ++ [.add entry]) (kind.apply (.add entry) table) := by
  intro other isMem
  rcases List.mem_cons.mp isMem with rfl | isOld
  · have early : aged history ≤ history.length := lastTime_le
    have notAging : (AgingCall.add other).isAging = false := rfl
    rw [isFresh, Silent, added_append, aged_append, isAdd, beq_self_eq_true, if_pos rfl,
      notAging, if_neg Bool.false_ne_true]
    constructor
    · exact fun isTrue => absurd isTrue Bool.false_ne_true
    · rintro ⟨isEarlier, -⟩
      omega
  · have isOther : kind.isAdd (kind.addr other) (.add entry) = false := by
      rw [isAdd, beq_eq_false_iff_ne]
      exact fun same => isNew (List.mem_map.mpr ⟨other, isOld, same.symm⟩)
    rw [silent_append isOther rfl rfl]
    exact marks other isOld

theorem MarksSilent.refresh (marks : kind.MarksSilent history table) :
    kind.MarksSilent (history ++ [.refresh entry]) (kind.apply (.refresh entry) table) := by
  intro other isMem
  rcases HashedTable.mem_ll_write.mp isMem with ⟨old, isOld, rfl⟩
  by_cases isSame : (kind.addr old == kind.addr entry) = true
  · have early : aged history ≤ history.length := lastTime_le
    have sameAddr : kind.addr entry = kind.addr old := (beq_iff_eq.mp isSame).symm
    have notAging : (AgingCall.refresh entry).isAging = false := rfl
    rw [if_pos isSame, kind.expired_clear, kind.addr_clear, Silent, refreshed_append, aged_append,
      isRefresh, beq_iff_eq.mpr sameAddr, if_pos rfl, notAging, if_neg Bool.false_ne_true]
    constructor
    · exact fun isTrue => absurd isTrue Bool.false_ne_true
    · rintro ⟨-, isEarlier⟩
      omega
  · have isOther : kind.isRefresh (kind.addr old) (.refresh entry) = false := by
      rw [isRefresh, beq_eq_false_iff_ne]
      exact fun same => isSame (beq_iff_eq.mpr same.symm)
    rw [if_neg isSame, silent_append rfl isOther rfl]
    exact marks old isOld

theorem MarksSilent.aging (distinct : (table.ll.map kind.addr).Nodup) :
    kind.MarksSilent (history ++ [.aging]) (kind.apply .aging table) := by
  intro entry isMem
  rw [ll_aging distinct] at isMem
  rcases List.mem_map.mp isMem with ⟨old, -, rfl⟩
  have addedEarly : kind.added history (kind.addr old) ≤ history.length := lastTime_le
  have refreshedEarly : kind.refreshed history (kind.addr old) ≤ history.length := lastTime_le
  have notAdd : kind.isAdd (kind.addr old) .aging = false := rfl
  have notRefresh : kind.isRefresh (kind.addr old) .aging = false := rfl
  rw [kind.expired_mark, kind.addr_mark, Silent, added_append, refreshed_append, aged_append,
    notAdd, notRefresh, AgingCall.isAging, if_pos rfl, if_neg Bool.false_ne_true,
    if_neg Bool.false_ne_true]
  exact ⟨fun _ => ⟨Nat.lt_succ_of_le addedEarly, Nat.lt_succ_of_le refreshedEarly⟩, fun _ => rfl⟩

theorem MarksSilent.step {call : AgingCall α} (marks : kind.MarksSilent history table)
    (ordered : kind.Ordered history table) (fits : Fits kind.addr table call)
    (fresh : ∀ entry, call = .add entry → kind.expired entry = false) :
    kind.MarksSilent (history ++ [call]) (kind.apply call table) := by
  cases call with
  | add entry => exact marks.add fits (fresh entry rfl)
  | del entry =>
      intro other isMem
      rw [silent_append rfl rfl rfl]
      exact marks other (List.mem_of_mem_filter isMem)
  | refresh entry => exact marks.refresh
  | aging => exact .aging ordered.sound.distinct

theorem marksSilent_after (fitting : Fitting kind.addr kind.apply .empty history)
    (fresh : kind.AddsFresh history) :
    kind.MarksSilent history (tableAfter kind.apply history) := by
  induction history using List.reverseRecOn with
  | nil => exact fun entry isMem => nomatch isMem
  | append_singleton history call ih =>
      rw [fitting_append] at fitting
      rw [tableAfter_append]
      refine (ih fitting.1 fun entry isMem => fresh entry (List.mem_append_left _ isMem)).step
        (ordered_after fitting.1) fitting.2 ?_
      rintro entry rfl
      exact fresh entry (List.mem_append_right _ (List.mem_singleton_self _))

/-! ## The law of aging -/

/-- What an aging call does to the table that a history led to: it removes the silent entries
and marks the others, which keep their order, and what it records fits the size before. -/
structure Aged (kind : AgingKind ι α) (history : List (AgingCall α))
    (before after : HashedTable ι α) : Prop where
  removed : ∀ entry ∈ before.ll,
    kind.addr entry ∉ after.ll.map kind.addr ↔ kind.Silent history (kind.addr entry)
  survivors : after.ll =
    (before.ll.filter fun entry => decide (¬ kind.Silent history (kind.addr entry))).map kind.mark
  marked : ∀ entry ∈ after.ll, kind.expired entry = true
  size : after.size = after.ll.length
  recorded : ((kind.recorded before).length : Int) ≤ before.size

theorem aged_after (fitting : Fitting kind.addr kind.apply .empty history)
    (fresh : kind.AddsFresh history) :
    kind.Aged history (tableAfter kind.apply history)
      (kind.apply .aging (tableAfter kind.apply history)) := by
  have ordered := ordered_after fitting
  have marks := marksSilent_after fitting fresh
  have distinct := ordered.sound.distinct
  have survivors : (kind.apply .aging (tableAfter kind.apply history)).ll =
      ((tableAfter kind.apply history).ll.filter fun entry =>
        decide (¬ kind.Silent history (kind.addr entry))).map kind.mark := by
    rw [ll_aging distinct]
    congr 1
    apply List.filter_congr
    intro entry isMem
    simp only [← marks entry isMem, Bool.not_eq_true, Bool.decide_eq_false]
  refine ⟨?_, survivors, ?_, (sound_aging ordered.sound).size, ?_⟩
  · intro entry isMem
    have sameAddr : kind.addr ∘ kind.mark = kind.addr := funext kind.addr_mark
    rw [survivors, List.map_map, sameAddr, List.mem_map, not_exists]
    constructor
    · intro isGone
      by_contra notSilent
      exact isGone entry ⟨List.mem_filter.mpr ⟨isMem, decide_eq_true notSilent⟩, rfl⟩
    · rintro isSilent other ⟨isOther, sameAddr⟩
      rcases List.mem_filter.mp isOther with ⟨-, notSilent⟩
      rw [decide_eq_true_iff, sameAddr] at notSilent
      exact notSilent isSilent
  · intro entry isMem
    rw [survivors] at isMem
    rcases List.mem_map.mp isMem with ⟨old, -, rfl⟩
    exact kind.expired_mark old
  · rw [ordered.sound.size]
    exact_mod_cast List.length_filter_le _ _

/-! ## Lookups across an aging call -/

section Lookups

variable {κ : Type} [BEq κ] [LawfulBEq κ] {key : α → κ} {lookup : κ → HashedTable ι α → Option α}

/-- A lookup answers with the newest survivor, and it finds what it found before if that
survives. -/
structure Findable (kind : AgingKind ι α) (history : List (AgingCall α)) (key : α → κ)
    (lookup : κ → HashedTable ι α → Option α) (before after : HashedTable ι α) : Prop where
  newest : ∀ wanted, kind.NewestOf (history ++ [.aging]) after.ll
    (fun entry => key entry == wanted) (lookup wanted after)
  stays : ∀ entry, lookup (key entry) before = some entry →
    ¬ kind.Silent history (kind.addr entry) → lookup (key entry) after = some (kind.mark entry)

theorem findable_after (index : ι) (slot : κ → Nat)
    (fitting : Fitting kind.addr kind.apply .empty history)
    (fresh : kind.AddsFresh history)
    (isLookup : ∀ wanted table,
      lookup wanted table = table.find index (slot wanted) fun entry => key entry == wanted)
    (decides : ∀ entry, kind.bucket index entry = slot (key entry))
    (keepsKey : ∀ entry, key (kind.mark entry) = key entry) :
    kind.Findable history key lookup (tableAfter kind.apply history)
      (tableAfter kind.apply (history ++ [.aging])) := by
  have inSlot : ∀ wanted entry, (key entry == wanted) = true →
      kind.bucket index entry = slot wanted := by
    intro wanted entry isMatch
    rw [decides, beq_iff_eq.mp isMatch]
  have before := ordered_after fitting
  have after := ordered_after (fitting_append.mpr ⟨fitting, trivial⟩ :
    Fitting kind.addr kind.apply .empty (history ++ [.aging]))
  refine ⟨fun wanted => ?_, fun entry found notSilent => ?_⟩
  · rw [isLookup]
    exact after.find_newest (inSlot wanted)
  · rw [isLookup, before.sound.find (inSlot _)] at found
    rcases List.find?_eq_some_iff_append.mp found with ⟨isMatch, newer, older, parts, noMatch⟩
    rw [isLookup, after.sound.find (inSlot _), tableAfter_append,
      (aged_after fitting fresh).survivors, List.find?_map, List.find?_filter]
    refine congrArg (Option.map kind.mark) (List.find?_eq_some_iff_append.mpr
      ⟨?_, newer, older, parts, ?_⟩) |>.trans (Option.map_some ..)
    · simp [notSilent, keepsKey]
    · intro other isNewer
      have isOther := noMatch other isNewer
      simp only [Bool.not_eq_true', beq_eq_false_iff_ne, ne_eq] at isOther
      simp [keepsKey, isOther]

end Lookups

/-! ## Lists that grow at the tail -/

section Tail

variable {call : AgingCall α}

/-- The calls on a table whose list takes a new entry at its tail. -/
def applyTail (kind : AgingKind ι α) : AgingCall α → HashedTable ι α → HashedTable ι α
  | .add entry, table => table.addTail kind.bucket entry
  | .del entry, table => kind.apply (.del entry) table
  | .refresh entry, table => kind.apply (.refresh entry) table
  | .aging, table => kind.apply .aging table

theorem mirror_applyTail :
    (kind.applyTail call table).mirror = kind.apply call table.mirror := by
  cases call with
  | add entry => exact HashedTable.mirror_addTail
  | del entry => exact HashedTable.mirror_unlink
  | refresh entry => exact HashedTable.mirror_write
  | aging =>
      rw [applyTail, aging_eq, aging_eq, HashedTable.unlinkAll_eq, HashedTable.unlinkAll_eq]
      simp only [HashedTable.mirror, HashedTable.write, recorded, List.filter_reverse,
        List.map_reverse, List.length_reverse, List.mem_reverse]
      congr!

theorem mirror_tableAfter :
    (tableAfter kind.applyTail history).mirror = tableAfter kind.apply history := by
  induction history using List.reverseRecOn with
  | nil => rfl
  | append_singleton history call ih =>
      rw [tableAfter_append, tableAfter_append, mirror_applyTail, ih]

theorem fits_mirror : Fits kind.addr table.mirror call ↔ Fits kind.addr table call := by
  cases call with
  | add entry => simp only [Fits, HashedTable.mirror, List.map_reverse, List.mem_reverse]
  | del entry => simp only [Fits, HashedTable.mirror, List.map_reverse, List.mem_reverse]
  | refresh entry => exact Iff.rfl
  | aging => exact Iff.rfl

theorem fitting_mirror (fitting : Fitting kind.addr kind.applyTail table history) :
    Fitting kind.addr kind.apply table.mirror history := by
  induction history generalizing table with
  | nil => trivial
  | cons call rest ih =>
      refine ⟨fits_mirror.mpr fitting.1, ?_⟩
      rw [← mirror_applyTail]
      exact ih fitting.2

/-- The law of aging does not depend on the direction of the list. -/
theorem Aged.unmirror {before after : HashedTable ι α}
    (isAged : kind.Aged history before.mirror after.mirror) : kind.Aged history before after := by
  have survivors := isAged.survivors
  have recorded := isAged.recorded
  have size := isAged.size
  simp only [HashedTable.mirror, List.filter_reverse, List.map_reverse, List.reverse_inj,
    AgingKind.recorded, List.length_reverse] at survivors recorded size
  refine ⟨?_, survivors, ?_, size, recorded⟩
  · intro entry isMem
    have removed := isAged.removed entry (HashedTable.mem_ll_mirror.mpr isMem)
    simpa only [HashedTable.mirror, List.map_reverse, List.mem_reverse] using removed
  · exact fun entry isMem => isAged.marked entry (HashedTable.mem_ll_mirror.mpr isMem)

theorem aged_after_tail (fitting : Fitting kind.addr kind.applyTail .empty history)
    (fresh : kind.AddsFresh history) :
    kind.Aged history (tableAfter kind.applyTail history)
      (tableAfter kind.applyTail (history ++ [.aging])) := by
  apply Aged.unmirror
  rw [mirror_tableAfter, mirror_tableAfter, tableAfter_append]
  exact aged_after (fitting_mirror fitting) fresh

theorem newestOf_mirror {matching : α → Bool} {answer : Option α}
    (newest : kind.NewestOf history table.mirror.ll matching answer) :
    kind.NewestOf history table.ll matching answer := by
  cases answer with
  | none => exact fun entry isMem => newest entry (HashedTable.mem_ll_mirror.mpr isMem)
  | some entry =>
      exact ⟨HashedTable.mem_ll_mirror.mp newest.1, newest.2.1,
        fun other isMem => newest.2.2 other (HashedTable.mem_ll_mirror.mpr isMem)⟩

theorem findable_after_tail {κ : Type} [BEq κ] [LawfulBEq κ] {key : α → κ}
    {lookup : κ → HashedTable ι α → Option α} (index : ι) (slot : κ → Nat)
    (fitting : Fitting kind.addr kind.applyTail .empty history) (fresh : kind.AddsFresh history)
    (isLookup : ∀ wanted table,
      lookup wanted table = table.find index (slot wanted) fun entry => key entry == wanted)
    (decides : ∀ entry, kind.bucket index entry = slot (key entry))
    (keepsKey : ∀ entry, key (kind.mark entry) = key entry) :
    kind.Findable history key lookup (tableAfter kind.applyTail history)
      (tableAfter kind.applyTail (history ++ [.aging])) := by
  have sameLookup : ∀ wanted (table : HashedTable ι α),
      lookup wanted table = lookup wanted table.mirror := by
    intro wanted table
    rw [isLookup, isLookup, HashedTable.find_mirror]
  have mirrored :=
    findable_after index slot (fitting_mirror fitting) fresh isLookup decides keepsKey
  rw [← mirror_tableAfter, ← mirror_tableAfter] at mirrored
  refine ⟨fun wanted => ?_, fun entry found notSilent => ?_⟩
  · rw [sameLookup]
    exact newestOf_mirror (mirrored.newest wanted)
  · rw [sameLookup] at found ⊢
    exact mirrored.stays entry found notSilent

end Tail

end AgingKind
