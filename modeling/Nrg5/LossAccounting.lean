import Nrg5.PowerMeter

/-!
# The losses of a power meter

The receiver counts what it receives, what is missing and what comes late, and keeps the
missing numbers in a list.  As long as no number comes twice its counters stand for the
numbers that have arrived.
-/

namespace Nrg5

namespace PowerMeter

/-- A report as a device sends it; the usage is given by the bits of the `double`. -/
structure Sent where
  devId : DeviceId
  usage : UInt64
  seq : UInt16

def Sent.data (sent : Sent) : List UInt8 := fillDataBuf sent.devId sent.usage sent.seq

/-- The numbers of some reports, in the order of their arrival. -/
def numbersOf (reports : List Sent) : List Nat := reports.map fun sent => sent.seq.toNat

/-- The receiver of a connection after some reports. -/
def receive (reports : List Sent) : Except Raised Receiver :=
  reports.foldlM (fun self sent => (self.prepareReport sent.data).map Prod.snd) .start

/-- How many numbers have come after a larger one. -/
def overtaken (numbers : List Nat) : Nat :=
  (List.range numbers.length).countP fun i =>
    (numbers.take i).any fun earlier => numbers.getD i 0 < earlier

/-- What the counters and the list of a receiver are after some numbers. -/
structure Accounts (numbers : List Nat) (state : Receiver) : Prop where
  seq : ∃ largest ∈ numbers, (∀ n ∈ numbers, n ≤ largest) ∧ state.seq = largest + 1
  increasing : state.losses.Pairwise (· < ·)
  losses : ∀ n, n ∈ state.losses ↔ n < state.seq ∧ n ∉ numbers
  lost : state.lost = state.losses.length
  total : state.received + state.lost = state.seq
  disordered : state.disordered = overtaken numbers

/-! ## One number -/

variable {self after : Receiver} {numbers : List Nat} {n : Nat}

/-- The three cases of a report that raises nothing. -/
theorem order_cases (isOrdered : self.order n = .ok after) :
    (self.seq < n ∧ after = { self with
        losses := self.losses ++ List.range' self.seq (n - self.seq)
        lost := (self.losses ++ List.range' self.seq (n - self.seq)).length
        seq := n + 1 }) ∨
      (n = self.seq ∧ after = { self with seq := n + 1 }) ∨
      (n < self.seq ∧ n ∈ self.losses ∧ after = { self with
        disordered := self.disordered + 1
        losses := self.losses.erase n
        lost := self.lost - 1 }) := by
  rw [Receiver.order] at isOrdered
  split at isOrdered
  · rename_i isEarly
    exact .inl ⟨isEarly, (Except.ok.inj isOrdered).symm⟩
  · split at isOrdered
    · rename_i isLate
      split at isOrdered
      · rename_i isLost
        exact .inr (.inr ⟨isLate, isLost, (Except.ok.inj isOrdered).symm⟩)
      · cases isOrdered
    · exact .inr (.inl ⟨by omega, (Except.ok.inj isOrdered).symm⟩)

theorem overtaken_append (numbers : List Nat) (n : Nat) :
    overtaken (numbers ++ [n]) =
      overtaken numbers + if ∃ earlier ∈ numbers, n < earlier then 1 else 0 := by
  have before : ∀ i ∈ List.range numbers.length,
      (((numbers ++ [n]).take i).any fun earlier => (numbers ++ [n]).getD i 0 < earlier) =
        (numbers.take i).any fun earlier => numbers.getD i 0 < earlier := by
    intro i inside
    have isIndex := List.mem_range.mp inside
    rw [List.take_append_of_le_length (by omega), List.getD_append _ _ _ _ isIndex]
  have last : (((numbers ++ [n]).take numbers.length).any fun earlier =>
      (numbers ++ [n]).getD numbers.length 0 < earlier) =
        decide (∃ earlier ∈ numbers, n < earlier) := by
    rw [List.take_left, List.getD_append_right _ _ _ _ le_rfl, Nat.sub_self, Bool.eq_iff_iff]
    simp
  rw [overtaken, List.length_append, List.length_singleton, List.range_succ, List.countP_append,
    List.countP_congr (fun i inside => by rw [before i inside]), List.countP_singleton, last]
  simp only [decide_eq_true_eq]
  rfl

/-- What a receiver has counted of the numbers that have arrived. -/
structure Counted (numbers : List Nat) (state : Receiver) : Prop where
  increasing : state.losses.Pairwise (· < ·)
  total : state.received + state.lost = state.seq
  disordered : state.disordered = overtaken numbers

theorem counted_start : Counted [] .start := ⟨.nil, rfl, rfl⟩

/-- A new number has been overtaken exactly when the receiver takes it for a late one. -/
theorem overtaken_iff (follows : Follows numbers self) (isNew : n ∉ numbers) :
    (∃ earlier ∈ numbers, n < earlier) ↔ n < self.seq := by
  rw [follows.seq]
  constructor
  · rintro ⟨earlier, isMem, isLarger⟩
    exact isLarger.trans (lt_nextOf isMem)
  · intro isLate
    rcases nextOf_cases numbers with isZero | ⟨largest, isMem, isNext⟩
    · omega
    · refine ⟨largest, isMem, ?_⟩
      have isOther : n ≠ largest := fun same => isNew (same ▸ isMem)
      omega

theorem counted_order (follows : Follows numbers self) (counted : Counted numbers self)
    (isNew : n ∉ numbers)
    (isOrdered : { self with received := self.received + 1 }.order n = .ok after) :
    Counted (numbers ++ [n]) after := by
  have total := counted.total
  have late := overtaken_iff follows isNew
  rcases order_cases isOrdered with ⟨isEarly, rfl⟩ | ⟨isNext, rfl⟩ | ⟨isLate, isLost, rfl⟩
  · dsimp only at isEarly
    constructor
    · refine List.pairwise_append.mpr ⟨counted.increasing, List.pairwise_lt_range', ?_⟩
      intro m isLost k isBetween
      have isBelow := ((follows.losses m).mp isLost).1
      have isAbove : self.seq ≤ k := (List.mem_range'_1.mp isBetween).1
      rw [← follows.seq] at isBelow
      omega
    · have lost := follows.lost
      dsimp only
      rw [List.length_append, List.length_range']
      omega
    · rw [overtaken_append, if_neg (fun isOvertaken => absurd (late.mp isOvertaken) (by omega))]
      exact counted.disordered
  · dsimp only at isNext
    constructor
    · exact counted.increasing
    · dsimp only
      omega
    · rw [overtaken_append, if_neg (fun isOvertaken => absurd (late.mp isOvertaken) (by omega))]
      exact counted.disordered
  · dsimp only at isLate
    constructor
    · exact counted.increasing.sublist List.erase_sublist
    · dsimp only
      omega
    · rw [overtaken_append, if_pos (late.mpr isLate), ← counted.disordered]

/-! ## Reports in any order -/

variable {reports : List Sent} {sent : Sent}

theorem receive_append : receive (reports ++ [sent]) = (do
    let self ← receive reports
    (self.prepareReport sent.data).map Prod.snd) := by
  rw [receive, List.foldlM_append]
  simp only [List.foldlM_cons, List.foldlM_nil, bind_pure]
  rfl

theorem numbersOf_append : numbersOf (reports ++ [sent]) = numbersOf reports ++ [sent.seq.toNat] :=
  List.map_append

/-- Every sequence of reports with different numbers goes through. -/
theorem receive_counts (distinct : (numbersOf reports).Nodup) :
    ∃ self, receive reports = .ok self ∧ Follows (numbersOf reports) self ∧
      Counted (numbersOf reports) self := by
  induction reports using List.reverseRecOn with
  | nil => exact ⟨.start, rfl, follows_start, counted_start⟩
  | append_singleton before sent ih =>
      rw [numbersOf_append] at distinct ⊢
      rcases ih distinct.of_append_left with ⟨self, isSelf, follows, counted⟩
      have isNew := List.disjoint_singleton.mp (List.disjoint_of_nodup_append distinct)
      rcases prepareReport_of_new (unpack_fillDataBuf sent.devId sent.usage sent.seq) follows
        isNew with ⟨after, isAfter, isOrdered, next, -⟩
      refine ⟨after, ?_, next, counted_order follows counted isNew isOrdered⟩
      rw [receive_append, isSelf, ok_bind]
      exact isAfter

theorem accounts_of_counted (follows : Follows numbers self) (counted : Counted numbers self)
    (notEmpty : numbers ≠ []) : Accounts numbers self := by
  refine ⟨?_, counted.increasing, ?_, follows.lost, counted.total, counted.disordered⟩
  · rw [follows.seq]
    rcases List.exists_mem_of_ne_nil numbers notEmpty with ⟨n, isMem⟩
    have positive := lt_nextOf isMem
    rcases nextOf_cases numbers with isZero | ⟨largest, isLargest, isNext⟩
    · omega
    · refine ⟨largest, isLargest, ?_, isNext⟩
      intro m other
      have isBelow := lt_nextOf other
      omega
  · rw [follows.seq]
    exact follows.losses

/-- Reports with different numbers, in any order and with any gaps, raise nothing, and after
each of them the counters and the list of losses account for the numbers that have arrived. -/
theorem losses_accounted (reports : List Sent) (distinct : (reports.map Sent.seq).Nodup) :
    ∀ before sent behind, reports = before ++ sent :: behind →
      ∃ self, receive (before ++ [sent]) = .ok self ∧
        Accounts (numbersOf (before ++ [sent])) self := by
  rintro before sent behind rfl
  rw [List.append_cons, List.map_append] at distinct
  have numbers : (numbersOf (before ++ [sent])).Nodup := by
    have mapped := distinct.of_append_left.map (fun _ _ => UInt16.toNat_inj.mp)
    rwa [List.map_map] at mapped
  rcases receive_counts numbers with ⟨self, isSelf, follows, counted⟩
  refine ⟨self, isSelf, accounts_of_counted follows counted ?_⟩
  rw [numbersOf_append]
  exact List.append_ne_nil_of_right_ne_nil _ (List.cons_ne_nil _ _)

/-- Number 2 comes first, then 0, and 1 stays lost. -/
theorem losses_accounted_overtaken :
    ([⟨1, 0, 2⟩, ⟨1, 0, 0⟩].map Sent.seq).Nodup ∧
      ∃ self, receive ([⟨1, 0, 2⟩] ++ [⟨1, 0, 0⟩]) = .ok self ∧
        Accounts (numbersOf ([⟨1, 0, 2⟩] ++ [⟨1, 0, 0⟩])) self :=
  ⟨by decide, losses_accounted [⟨1, 0, 2⟩, ⟨1, 0, 0⟩] (by decide) [⟨1, 0, 2⟩] ⟨1, 0, 0⟩ [] rfl⟩

end PowerMeter

end Nrg5
