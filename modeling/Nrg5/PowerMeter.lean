import Nrg5.Common

/-!
# The reports of a power meter

The meter numbers its reports with sixteen bits.  The receiver keeps the next number that
it expects, a number without a bound, and the list of those that it has not seen.  A number
below the expected one is taken for a late report and removed from the list.

The two rates that the receiver computes are floating-point numbers and left out; what
they divide by is checked.
-/

namespace Nrg5

namespace PowerMeter

open ByteMemory

/-- `fill_data_buf`; the usage is given by the bits of the `double`. -/
def fillDataBuf (devId : DeviceId) (usage : UInt64) (seq : UInt16) : List UInt8 :=
  deviceIdBytes devId ++ leBytes 8 usage.toNat ++ leBytes 2 seq.toNat

/-- The report that `__app_tx` sends in a round of its loop: `seq` wraps. -/
def report (devId : DeviceId) (usage : Nat → UInt64) (round : Nat) : List UInt8 :=
  fillDataBuf devId (usage round) (UInt16.ofNat round)

/-- `APP_DATA_LEN`. -/
def appDataLen : Nat := 18

/-- The exceptions of `__prepare_report`. -/
inductive Raised : Type where
  | structError
  | valueError
  | zeroDivision
deriving DecidableEq

structure Report where
  devId : Nat
  usage : Nat
  newSeq : Nat
deriving DecidableEq

/-- `struct.unpack("=QdH", data)`, on a little-endian host. -/
def unpack (data : List UInt8) : Except Raised Report :=
  if data.length = appDataLen then
    .ok { devId := leNat (data.take 8), usage := leNat ((data.drop 8).take 8),
          newSeq := leNat (data.drop 16) }
  else .error .structError

/-- What `handle` keeps for a connection. -/
structure Receiver where
  seq : Nat
  lost : Int
  received : Nat
  disordered : Nat
  losses : List Nat
deriving DecidableEq

namespace Receiver

def start : Receiver := { seq := 0, lost := 0, received := 0, disordered := 0, losses := [] }

/-- The cases of `__prepare_report`: numbers are missing, a report is late, or it is the next. -/
def order (newSeq : Nat) (self : Receiver) : Except Raised Receiver :=
  if self.seq < newSeq then
    let losses := self.losses ++ List.range' self.seq (newSeq - self.seq)
    .ok { self with losses := losses, lost := losses.length, seq := newSeq + 1 }
  else if newSeq < self.seq then
    -- `list.remove` raises for a number that is not in the list
    if newSeq ∈ self.losses then
      .ok { self with
        disordered := self.disordered + 1
        losses := self.losses.erase newSeq
        lost := self.lost - 1 }
    else .error .valueError
  else .ok { self with seq := newSeq + 1 }

/-- `__prepare_report`. -/
def prepareReport (data : List UInt8) (self : Receiver) : Except Raised (Report × Receiver) := do
  let report ← unpack data
  let ordered ← order report.newSeq { self with received := self.received + 1 }
  if ordered.seq = 0 then .error .zeroDivision
  else pure (report, ordered)

end Receiver

/-- The receiver after some reports of a meter, given by their rounds in the order of their
arrival. -/
def run (devId : DeviceId) (usage : Nat → UInt64) (rounds : List Nat) : Except Raised Receiver :=
  rounds.foldlM
    (fun self round => (self.prepareReport (report devId usage round)).map Prod.snd) .start

/-! ## The next number -/

/-- The number behind the highest one. -/
def nextOf (numbers : List Nat) : Nat := numbers.foldl (fun next n => max next (n + 1)) 0

theorem nextOf_append (numbers : List Nat) (n : Nat) :
    nextOf (numbers ++ [n]) = max (nextOf numbers) (n + 1) := by
  rw [nextOf, List.foldl_append]
  rfl

theorem lt_nextOf {numbers : List Nat} {n : Nat} (isMem : n ∈ numbers) : n < nextOf numbers := by
  induction numbers using List.reverseRecOn with
  | nil => exact nomatch isMem
  | append_singleton rest last ih =>
      rw [nextOf_append]
      rcases List.mem_append.mp isMem with isEarlier | isLast
      · have below := ih isEarlier
        omega
      · rcases List.mem_singleton.mp isLast with rfl
        omega

theorem nextOf_cases (numbers : List Nat) :
    nextOf numbers = 0 ∨ ∃ n ∈ numbers, nextOf numbers = n + 1 := by
  induction numbers using List.reverseRecOn with
  | nil => exact .inl rfl
  | append_singleton rest last ih =>
      right
      rw [nextOf_append]
      rcases le_total (nextOf rest) (last + 1) with isHigher | isLower
      · exact ⟨last, List.mem_append_right _ (List.mem_singleton_self _), max_eq_right isHigher⟩
      · rw [max_eq_left isLower]
        rcases ih with isZero | ⟨n, isMem, isNext⟩
        · omega
        · exact ⟨n, List.mem_append_left _ isMem, isNext⟩

theorem nextOf_eq {numbers : List Nat} {n : Nat} (isMem : n ∈ numbers)
    (isHighest : ∀ m ∈ numbers, m ≤ n) : nextOf numbers = n + 1 := by
  have isBelow := lt_nextOf isMem
  rcases nextOf_cases numbers with isZero | ⟨m, other, isNext⟩
  · omega
  · have notAbove := isHighest m other
    omega

/-- The number that a report carries. -/
def number (round : Nat) : Nat := round % 65536

theorem number_lt (round : Nat) : number round < 65536 := Nat.mod_lt _ (by decide)

/-! ## One report -/

variable {devId : DeviceId} {usage : Nat → UInt64} {self after : Receiver}
  {numbers rounds : List Nat}
  {n round : Nat}

theorem unpack_fillDataBuf (devId : DeviceId) (usage : UInt64) (seq : UInt16) :
    unpack (fillDataBuf devId usage seq) =
      .ok { devId := devId.toNat, usage := usage.toNat, newSeq := seq.toNat } := by
  have eight := length_deviceIdBytes devId
  have usageBytes := length_leBytes 8 usage.toNat
  have behind : (deviceIdBytes devId ++ leBytes 8 usage.toNat).length = 16 := by
    rw [List.length_append, eight, usageBytes]
  have whole : (fillDataBuf devId usage seq).length = appDataLen := by
    rw [fillDataBuf, List.length_append, behind, length_leBytes]
    rfl
  have idSmall : devId.toNat < 256 ^ 8 := devId.toNat_lt
  have usageSmall : usage.toNat < 256 ^ 8 := usage.toNat_lt
  have seqSmall : seq.toNat < 256 ^ 2 := seq.toNat_lt
  rw [unpack, if_pos whole]
  simp only [fillDataBuf, List.drop_left' behind]
  rw [List.append_assoc, List.take_left' eight, List.drop_left' eight, List.take_left' usageBytes]
  simp only [deviceIdBytes, devIdWidth, leNat_leBytes]
  rw [Nat.mod_eq_of_lt idSmall, Nat.mod_eq_of_lt usageSmall, Nat.mod_eq_of_lt seqSmall]

theorem unpack_report : unpack (report devId usage round) =
    .ok { devId := devId.toNat, usage := (usage round).toNat, newSeq := number round } := by
  rw [report, unpack_fillDataBuf, UInt16.toNat_ofNat', number]

/-- The receiver after the numbers of some reports, which are all different. -/
structure Follows (numbers : List Nat) (state : Receiver) : Prop where
  seq : state.seq = nextOf numbers
  losses : ∀ n, n ∈ state.losses ↔ n < nextOf numbers ∧ n ∉ numbers
  distinct : state.losses.Nodup
  lost : state.lost = state.losses.length

theorem follows_start : Follows [] .start :=
  ⟨rfl, fun n => ⟨nofun, fun isLost => absurd isLost.1 (Nat.not_lt_zero n)⟩, List.nodup_nil, rfl⟩

theorem not_mem_with {m : Nat} : m ∉ numbers ++ [n] ↔ m ∉ numbers ∧ m ≠ n := by
  rw [List.mem_append, not_or, List.mem_singleton]

/-- The numbers below a report that came too early are put into the list of losses. -/
theorem order_early (follows : Follows numbers self) (isEarly : self.seq < n) :
    ∃ after, self.order n = .ok after ∧ Follows (numbers ++ [n]) after ∧ after.seq ≠ 0 ∧
      after.disordered = self.disordered := by
  rw [Receiver.order, if_pos isEarly]
  refine ⟨_, rfl, ⟨?_, ?_, ?_, rfl⟩, Nat.succ_ne_zero n, rfl⟩
  · rw [nextOf_append, ← follows.seq]
    dsimp only
    omega
  · intro m
    rw [List.mem_append, follows.losses, List.mem_range'_1, nextOf_append, not_mem_with,
      ← follows.seq]
    have below : m ∈ numbers → m < self.seq := fun isMem => follows.seq ▸ lt_nextOf isMem
    constructor
    · rintro (⟨isBelow, notMem⟩ | between)
      · exact ⟨by omega, notMem, by omega⟩
      · exact ⟨by omega, fun isMem => absurd (below isMem) (by omega), by omega⟩
    · rintro ⟨isBelow, notMem, isOther⟩
      rcases Nat.lt_or_ge m self.seq with isOld | isBetween
      · exact .inl ⟨isOld, notMem⟩
      · exact .inr ⟨isBetween, by omega⟩
  · refine List.nodup_append.mpr ⟨follows.distinct, List.nodup_range', ?_⟩
    rintro m isLost k isBetween rfl
    have isBelow := ((follows.losses m).mp isLost).1
    rw [← follows.seq] at isBelow
    have isAbove := (List.mem_range'_1.mp isBetween).1
    omega

/-- The report that is next in order changes nothing in the list. -/
theorem order_next (follows : Follows numbers self) (isNext : self.seq = n) :
    ∃ after, self.order n = .ok after ∧ Follows (numbers ++ [n]) after ∧ after.seq ≠ 0 ∧
      after.disordered = self.disordered := by
  rw [Receiver.order, if_neg (by omega), if_neg (by omega)]
  refine ⟨_, rfl, ⟨?_, ?_, follows.distinct, follows.lost⟩, Nat.succ_ne_zero n, rfl⟩
  · rw [nextOf_append, ← follows.seq]
    dsimp only
    omega
  · intro m
    rw [follows.losses, nextOf_append, not_mem_with, ← follows.seq]
    constructor
    · rintro ⟨isBelow, notMem⟩
      exact ⟨by omega, notMem, by omega⟩
    · rintro ⟨isBelow, notMem, isOther⟩
      exact ⟨by omega, notMem⟩

/-- A lost report that comes late is taken out of the list. -/
theorem order_late (follows : Follows numbers self) (isNew : n ∉ numbers) (isLate : n < self.seq) :
    ∃ after, self.order n = .ok after ∧ Follows (numbers ++ [n]) after ∧ after.seq ≠ 0 := by
  have isLost : n ∈ self.losses := (follows.losses n).mpr ⟨follows.seq ▸ isLate, isNew⟩
  have notEmpty := List.length_pos_of_mem isLost
  rw [Receiver.order, if_neg (by omega), if_pos isLate, if_pos isLost]
  refine ⟨_, rfl, ⟨?_, ?_, follows.distinct.erase n, ?_⟩, ?_⟩
  · rw [nextOf_append, ← follows.seq]
    dsimp only
    omega
  · intro m
    rw [follows.distinct.mem_erase_iff, follows.losses, nextOf_append, not_mem_with, ← follows.seq]
    constructor
    · rintro ⟨isOther, isBelow, notMem⟩
      exact ⟨by omega, notMem, isOther⟩
    · rintro ⟨isBelow, notMem, isOther⟩
      exact ⟨isOther, by omega, notMem⟩
  · have length := List.length_erase_of_mem isLost
    have lost := follows.lost
    dsimp only
    omega
  · dsimp only
    omega

/-- A new number is stored, and it is late only if it is below the next one. -/
theorem order_new (follows : Follows numbers self) (isNew : n ∉ numbers) :
    ∃ after, self.order n = .ok after ∧ Follows (numbers ++ [n]) after ∧ after.seq ≠ 0 ∧
      (self.seq ≤ n → after.disordered = self.disordered) := by
  rcases lt_trichotomy self.seq n with isEarly | isNext | isLate
  · rcases order_early follows isEarly with ⟨after, isOk, stored, notZero, same⟩
    exact ⟨after, isOk, stored, notZero, fun _ => same⟩
  · rcases order_next follows isNext with ⟨after, isOk, stored, notZero, same⟩
    exact ⟨after, isOk, stored, notZero, fun _ => same⟩
  · rcases order_late follows isNew isLate with ⟨after, isOk, stored, notZero⟩
    exact ⟨after, isOk, stored, notZero, fun isNext => absurd isNext (by omega)⟩

/-- A number that has been seen is below the next one and not in the list. -/
theorem order_again (follows : Follows numbers self) (isMem : n ∈ numbers) :
    self.order n = .error .valueError := by
  have isLate : n < self.seq := follows.seq ▸ lt_nextOf isMem
  rw [Receiver.order, if_neg (by omega), if_pos isLate,
    if_neg fun isLost => ((follows.losses n).mp isLost).2 isMem]

theorem follows_received (follows : Follows numbers self) :
    Follows numbers { self with received := self.received + 1 } :=
  ⟨follows.seq, follows.losses, follows.distinct, follows.lost⟩

/-! ## A stream of reports -/

theorem ok_bind {ε α β : Type} (x : α) (f : α → Except ε β) : (Except.ok x >>= f) = f x := rfl

theorem run_append : run devId usage (rounds ++ [round]) = (do
    let self ← run devId usage rounds
    (self.prepareReport (report devId usage round)).map Prod.snd) := by
  rw [run, List.foldlM_append]
  simp only [List.foldlM_cons, List.foldlM_nil, bind_pure]
  rfl

/-- A report with a number that has not been seen raises nothing. -/
theorem prepareReport_of_new {data : List UInt8} {sent : Report} (unpacks : unpack data = .ok sent)
    (follows : Follows numbers self) (isNew : sent.newSeq ∉ numbers) :
    ∃ after, (self.prepareReport data).map Prod.snd = .ok after ∧
      { self with received := self.received + 1 }.order sent.newSeq = .ok after ∧
      Follows (numbers ++ [sent.newSeq]) after ∧
      (self.seq ≤ sent.newSeq → after.disordered = self.disordered) := by
  rcases order_new (follows_received follows) isNew with ⟨after, isOrdered, next, notZero, kept⟩
  refine ⟨after, ?_, isOrdered, next, kept⟩
  rw [Receiver.prepareReport, unpacks]
  simp only [ok_bind, isOrdered, if_neg notZero]
  rfl

theorem prepareReport_new (devId : DeviceId) (usage : Nat → UInt64)
    (follows : Follows numbers self) (isNew : number round ∉ numbers) :
    ∃ after, (self.prepareReport (report devId usage round)).map Prod.snd = .ok after ∧
      Follows (numbers ++ [number round]) after ∧
      (self.seq ≤ number round → after.disordered = self.disordered) := by
  rcases prepareReport_of_new (@unpack_report devId usage round) follows isNew with
    ⟨after, isAfter, -, next, kept⟩
  exact ⟨after, isAfter, next, kept⟩

theorem prepareReport_again (follows : Follows numbers self) (isMem : number round ∈ numbers) :
    (self.prepareReport (report devId usage round)).map Prod.snd = .error .valueError := by
  rw [Receiver.prepareReport, unpack_report]
  simp only [ok_bind, order_again (follows_received follows) isMem]
  rfl

theorem run_follows (isRun : run devId usage rounds = .ok self) :
    Follows (rounds.map number) self ∧ (rounds.map number).Nodup := by
  induction rounds using List.reverseRecOn generalizing self with
  | nil =>
      cases isRun
      exact ⟨follows_start, List.nodup_nil⟩
  | append_singleton rest last ih =>
      rw [run_append] at isRun
      rcases outcome : run devId usage rest with raised | before
      · rw [outcome] at isRun
        cases isRun
      · rw [outcome] at isRun
        have earlier := ih outcome
        rw [List.map_append, List.map_singleton]
        by_cases isMem : number last ∈ rest.map number
        · rw [ok_bind, prepareReport_again earlier.1 isMem] at isRun
          cases isRun
        · rcases prepareReport_new devId usage earlier.1 isMem with
            ⟨after, isAfter, next, -⟩
          rw [ok_bind, isAfter] at isRun
          cases isRun
          exact ⟨next, earlier.2.append (List.nodup_singleton _)
            (List.disjoint_singleton.mpr isMem)⟩

/-- The receiver raises nothing if and only if all numbers are different. -/
theorem run_ok_iff : (∃ self, run devId usage rounds = .ok self) ↔ (rounds.map number).Nodup := by
  refine ⟨fun ⟨self, isRun⟩ => (run_follows isRun).2, fun distinct => ?_⟩
  induction rounds using List.reverseRecOn with
  | nil => exact ⟨_, rfl⟩
  | append_singleton rest last ih =>
      rw [List.map_append, List.map_singleton] at distinct
      rcases ih (List.Nodup.of_append_left distinct) with ⟨before, isRun⟩
      have isNew := List.disjoint_singleton.mp (List.disjoint_of_nodup_append distinct)
      rcases prepareReport_new devId usage (run_follows isRun).1 isNew with
        ⟨after, isAfter, -⟩
      exact ⟨after, by rw [run_append, isRun, ok_bind, isAfter]⟩

/-- After every report the receiver has raised nothing, its count is that of its list, it
expects the number behind the newest report, and it does not take the next report for a late
one. -/
def Survives (devId : DeviceId) (usage : Nat → UInt64) (rounds : List Nat) : Prop :=
  ∀ before after, rounds = before ++ after → ∃ self, run devId usage before = .ok self ∧
    0 ≤ self.lost ∧ self.lost = self.losses.length ∧
    self.seq % 65536 = nextOf before % 65536 ∧
    ∀ round, after.head? = some round → round = nextOf before →
      ∃ next, run devId usage (before ++ [round]) = .ok next ∧ next.disordered = self.disordered

/-- At no time another report has a higher number than the newest. -/
def NewestHighest (rounds : List Nat) : Prop :=
  ∀ before, before <+: rounds → ∀ newest ∈ before, (∀ k ∈ before, k ≤ newest) →
    ∀ k ∈ before, number k ≤ number newest

theorem nextOf_number_iff : nextOf (rounds.map number) % 65536 = nextOf rounds % 65536 ↔
    ∀ newest ∈ rounds, (∀ k ∈ rounds, k ≤ newest) → ∀ k ∈ rounds, number k ≤ number newest := by
  constructor
  · intro same newest isMem isNewest k other
    have isBelow := lt_nextOf (List.mem_map_of_mem (f := number) other)
    rw [nextOf_eq isMem isNewest] at same
    rcases nextOf_cases (rounds.map number) with isZero | ⟨n, isNumber, isNext⟩
    · omega
    · rcases List.mem_map.mp isNumber with ⟨j, -, rfl⟩
      have small := number_lt j
      simp only [number] at same isNext isBelow ⊢
      omega
  · intro isHighest
    rcases nextOf_cases rounds with isZero | ⟨newest, isMem, isNext⟩
    · rcases rounds with - | ⟨round, rest⟩
      · rfl
      · have isBelow := lt_nextOf (List.mem_cons_self (a := round) (l := rest))
        omega
    · have isNewest : ∀ k ∈ rounds, k ≤ newest := by
        intro k other
        have isBelow := lt_nextOf other
        omega
      have highest : ∀ n ∈ rounds.map number, n ≤ number newest := by
        intro n isNumber
        rcases List.mem_map.mp isNumber with ⟨k, other, rfl⟩
        exact isHighest newest isMem isNewest k other
      rw [nextOf_eq (List.mem_map_of_mem isMem) highest, isNext, number]
      omega

/-- The next report has a number that the receiver does not take for a late one. -/
theorem nextOf_le_number (distinct : ((rounds ++ [round]).map number).Nodup)
    (isHighest : ∀ k ∈ rounds ++ [round], number k ≤ number round) :
    nextOf (rounds.map number) ≤ number round := by
  rcases nextOf_cases (rounds.map number) with isZero | ⟨n, isNumber, isLast⟩
  · omega
  · rcases List.mem_map.mp isNumber with ⟨k, isMem, rfl⟩
    have notAbove := isHighest k (List.mem_append_left _ isMem)
    rw [List.map_append, List.map_singleton] at distinct
    have isNew := List.disjoint_singleton.mp (List.disjoint_of_nodup_append distinct)
    have isOther : number k ≠ number round := fun same => isNew (same ▸ isNumber)
    omega

theorem survives_iff :
    Survives devId usage rounds ↔ (rounds.map number).Nodup ∧ NewestHighest rounds := by
  constructor
  · intro survives
    constructor
    · rcases survives rounds [] (List.append_nil _).symm with ⟨self, isRun, -⟩
      exact run_ok_iff.mp ⟨self, isRun⟩
    · rintro before ⟨after, rfl⟩
      rcases survives before after rfl with ⟨self, isRun, -, -, isNext, -⟩
      rw [(run_follows isRun).1.seq] at isNext
      exact nextOf_number_iff.mp isNext
  · rintro ⟨distinct, isHighest⟩ before after rfl
    have earlier : (before.map number).Nodup := by
      rw [List.map_append] at distinct
      exact distinct.of_append_left
    rcases run_ok_iff.mpr earlier with ⟨self, isRun⟩
    have follows := (run_follows isRun).1
    refine ⟨self, isRun, ?_, follows.lost, ?_, ?_⟩
    · rw [follows.lost]
      exact Int.natCast_nonneg _
    · rw [follows.seq]
      exact nextOf_number_iff.mpr (isHighest before (List.prefix_append _ _))
    · intro round isHead isNext
      rcases after with - | ⟨first, rest⟩
      · cases isHead
      cases isHead
      rw [List.append_cons, List.map_append] at distinct
      have withRound := distinct.of_append_left
      have isNewest : ∀ k ∈ before ++ [round], k ≤ round := by
        intro k isMem
        rcases List.mem_append.mp isMem with isEarlier | isLast
        · exact isNext ▸ (lt_nextOf isEarlier).le
        · exact (List.mem_singleton.mp isLast).le
      have highest := isHighest (before ++ [round]) ⟨rest, by rw [List.append_assoc]; rfl⟩ round
        (List.mem_append_right _ (List.mem_singleton_self _)) isNewest
      have isNew : number round ∉ before.map number := by
        rw [List.map_append, List.map_singleton] at withRound
        exact List.disjoint_singleton.mp (List.disjoint_of_nodup_append withRound)
      rcases prepareReport_new devId usage follows isNew with
        ⟨next, isAccepted, -, kept⟩
      refine ⟨next, by rw [run_append, isRun, ok_bind, isAccepted], kept ?_⟩
      rw [follows.seq]
      exact nextOf_le_number withRound highest

/-- The receiver survives a stream if and only if no number comes twice and the newest report
always has the highest number. -/
theorem reports_survive_iff (devId : DeviceId) (usage : Nat → UInt64) (rounds : List Nat) :
    Survives devId usage rounds ↔ (rounds.map number).Nodup ∧ NewestHighest rounds :=
  survives_iff

/-- A report that comes twice, a stream without a loss that reaches the wrap, and a report
behind the wrap that is next in order. -/
theorem wrapped_raises :
    ¬ Survives 1 (fun _ => 0) [0, 0] ∧ ¬ Survives 1 (fun _ => 0) (List.range 65537) ∧
      ¬ Survives 1 (fun _ => 0) [65535, 65536] := by
  refine ⟨?_, ?_, ?_⟩
  · intro survives
    exact absurd (survives_iff.mp survives).1 (by decide)
  · intro survives
    have same : (0 : Nat) = 65536 := List.inj_on_of_nodup_map (survives_iff.mp survives).1
      (List.mem_range.mpr (by omega)) (List.mem_range.mpr (by omega)) rfl
    cases same
  · intro survives
    have notAbove := (survives_iff.mp survives).2 _ (List.prefix_refl _) 65536
      (List.mem_cons_of_mem _ (List.mem_singleton_self _)) (by decide) 65535 List.mem_cons_self
    exact absurd notAbove (by decide)

end PowerMeter

end Nrg5
