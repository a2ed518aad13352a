import Nrg5.CallParts
import Nrg5.HandlerRules

/-!
# Mutexes that no call leaves behind

Every call of a node, run from a state in which the mutexes of the forwarding
tables, of the neighbour table and of the packet queue are free, leaves them free,
also when it blocks.  Only the state mutex and the ARP mutex can stay behind.

A section of a table is not made of calls of this kind: between its two ends the mutex
is held.  So the parts that contain one are run as a whole, by their rules, and the
calls follow from their parts.
-/

namespace Nrg5

open LockProg

variable {α β : Type} {held : Lock → Bool}

/-- Taking or releasing one of the other two mutexes leaves the table mutexes free. -/
theorem TablesFree.update (free : TablesFree held) {lock : Lock}
    (outside : lock = .state ∨ lock = .arpt) (value : Bool) :
    TablesFree (Function.update held lock value) := by
  rcases outside with rfl | rfl
  · exact ⟨by simp [free.sonFwdt], by simp [free.localFwdt], by simp [free.nbrt],
      by simp [free.data]⟩
  · exact ⟨by simp [free.sonFwdt], by simp [free.localFwdt], by simp [free.nbrt],
      by simp [free.data]⟩

/-- A call that keeps the table mutexes free wherever it returns or blocks. -/
structure KeepsTables {α : Type} (prog : Prog α) : Prop where
  keeps : ∀ held node, TablesFree held →
    prog.wp (fun _ _ => True)
      { post := fun _ held _ => TablesFree held
        halt := fun _ _ _ => True
        block := fun _ held _ => TablesFree held } held node

/-- A call that blocks in its first part has left the table mutexes free there. -/
theorem keepsTables_bind {first : Prog α} {next : α → Prog β} (keeps : KeepsTables first)
    (keepsNext : ∀ value, KeepsTables (next value)) : KeepsTables (first >>= next) := by
  refine ⟨fun held node free => ?_⟩
  rw [wp_bind]
  apply wp_mono _ _ _ (keeps.keeps held node free)
  · exact fun value held node free => (keepsNext value).keeps held node free
  · exact fun _ _ _ _ => trivial
  · exact fun _ _ _ free => free

theorem keepsTables_pure (value : α) : KeepsTables (pure value : Prog α) :=
  ⟨fun _ _ free => free⟩

theorem keepsTables_halt (reason : Halt) : KeepsTables (.halt reason : Prog α) :=
  ⟨fun _ _ _ => trivial⟩

theorem keepsTables_perform (event : Op) (update : Node → Node) (answer : Node → α) :
    KeepsTables (perform event update answer : Prog α) :=
  ⟨fun _ _ free => ⟨trivial, free⟩⟩

theorem keepsTables_query (event : Op) (answer : Node → α) :
    KeepsTables (query event answer : Prog α) :=
  keepsTables_perform event id answer

theorem keepsTables_modify (event : Op) (update : Node → Node) :
    KeepsTables (modify event update : Prog Unit) :=
  keepsTables_perform event update fun _ => ()

/-- The state mutex and the ARP mutex are no table mutexes. -/
theorem keepsTables_acquire {lock : Lock} (outside : lock = .state ∨ lock = .arpt) :
    KeepsTables (acquire lock : Prog Unit) := by
  refine ⟨fun held node free => ?_⟩
  rw [wp_acquire]
  split
  · exact free
  · exact free.update outside true

theorem keepsTables_release {lock : Lock} (outside : lock = .state ∨ lock = .arpt) :
    KeepsTables (release lock : Prog Unit) :=
  ⟨fun _ _ free => free.update outside false⟩

/-! ## The parts of the calls -/

theorem keepsTables_checkConnected : KeepsTables checkConnected := by
  apply keepsTables_bind (keepsTables_acquire (.inl rfl))
  intro _
  apply keepsTables_bind (keepsTables_query _ _)
  intro state
  exact keepsTables_bind (keepsTables_release (.inl rfl)) fun _ => keepsTables_pure _

theorem keepsTables_waitConnected : KeepsTables waitConnected := by
  apply keepsTables_bind (keepsTables_acquire (.inl rfl))
  intro _
  apply keepsTables_bind (keepsTables_query _ _)
  intro state
  apply keepsTables_bind (keepsTables_release (.inl rfl))
  exact fun _ => Parts.ofIte _ (keepsTables_pure _) (keepsTables_halt _)

theorem keepsTables_wifiSend (iface : NsoIf) (pkt : Packet) (dst : L2addr) :
    KeepsTables (wifiSend iface pkt dst) := by
  apply Parts.ofIte
  · exact keepsTables_pure _
  · exact keepsTables_bind (keepsTables_perform _ _ _) fun _ => keepsTables_pure _

/-- The jump for a missing ARP entry leaves the ARP mutex behind, and no other. -/
theorem keepsTables_nsoLayerFwd (pkt : Packet) : KeepsTables (nsoLayerFwd pkt) := by
  refine ⟨fun held node free => ?_⟩
  rw [wp_nsoLayerFwd tolerant_true free.sonFwdt free.localFwdt]
  cases node.nsol.route pkt.dstDevid with
  | none => cases node.env.stackAddr with
    | null => exact free
    | wild => trivial
  | some found =>
      dsimp only
      split
      · exact free
      · cases ArpTable.lookupFromDevId found.1 node.nsol.arpt with
        | none => cases node.env.stackAddr with
          | null => exact free.update (.inr rfl) true
          | wild => trivial
        | some entry => exact free

/-- Where the ARP mutex has stayed behind the call waits, and it holds nothing then. -/
theorem keepsTables_learnArp (devId : DeviceId) (src : Option L2addr) :
    KeepsTables (learnArp devId src) := by
  refine ⟨fun held node free => ?_⟩
  rw [wp_learnArp tolerant_true]
  split
  · exact free
  · split
    · trivial
    · exact free

theorem keepsTables_learnRoute (dest nxthop : DeviceId) (iface : Option NsoIf) :
    KeepsTables (learnRoute dest nxthop iface) := by
  refine ⟨fun held node free => ?_⟩
  rw [wp_learnRoute tolerant_true free.localFwdt]
  split
  · exact free
  · trivial
  · exact free

theorem keepsTables_learnNbr (devId : DeviceId) (iface : Option NsoIf) :
    KeepsTables (learnNbr devId iface) := by
  refine ⟨fun held node free => ?_⟩
  rw [wp_learnNbr tolerant_true free.nbrt]
  exact free

theorem keepsTables_downstreamDevId (src : Option L2addr) :
    KeepsTables (downstreamDevId src) := by
  refine ⟨fun held node free => ?_⟩
  rw [wp_downstreamDevId tolerant_true]
  split
  · exact free
  · cases src with
    | none => trivial
    | some mac =>
        dsimp only
        cases ArpTable.lookupFromL2addr mac node.nsol.arpt with
        | none => trivial
        | some entry => exact free

/-- A neighbour without interface halts inside the section, which ends the process. -/
theorem keepsTables_getTopoReportPkt : KeepsTables getTopoReportPkt := by
  refine ⟨fun held node free => ?_⟩
  simp only [getTopoReportPkt, wp_bind, wp_query, wp_acquire, free.nbrt, Bool.false_eq_true,
    if_false, true_and, wp_orHalt, wp_release]
  cases topoData node.nsol with
  | none => trivial
  | some body =>
      simp only [update_release _ free.nbrt, putBody, wp_ite]
      split
      · exact free
      · trivial

/-! ## The calls -/

/-- So the calls keep the table mutexes free that are put together from these parts. -/
theorem parts_keepsTables : Parts @KeepsTables where
  ofPure := keepsTables_pure
  ofHalt := fun _ => keepsTables_halt _
  ofQuery := fun event answer _ => keepsTables_query event answer
  ofBind := keepsTables_bind
  ofCheckConnected := keepsTables_checkConnected
  ofMalloc := keepsTables_perform _ _ _
  ofWifiSend := keepsTables_wifiSend
  ofNsoLayerFwd := keepsTables_nsoLayerFwd
  ofSendPktToVnf := fun _ _ => keepsTables_perform _ _ _
  ofLearnArp := keepsTables_learnArp
  ofLearnRoute := keepsTables_learnRoute
  ofDownstreamDevId := keepsTables_downstreamDevId
  updatesSonFwdt := fun _ => keepsTables_modify _ _
  storesCredentials := fun _ _ => keepsTables_modify _ _
  turnsIface := fun _ => keepsTables_modify _ _
  ofTopoReportPkt := keepsTables_getTopoReportPkt

theorem stateSection_keepsTables : StateSection @KeepsTables where
  acquires := keepsTables_acquire (.inl rfl)
  releases := keepsTables_release (.inl rfl)
  addsRoute := fun _ => keepsTables_modify _ _
  setsGateway := fun _ => keepsTables_modify _ _
  connects := keepsTables_modify _ _
  promotes := keepsTables_modify _ _
  wakes := keepsTables_modify _ _

/-- What the receive threads of a device do with a control message. -/
theorem keepsTables_deviceTsd (pkt : Packet) (src : Option L2addr) (iface : Option NsoIf) :
    KeepsTables (Device.tsdProcessRx pkt src iface) :=
  parts_keepsTables.ofDeviceTsd (parts_keepsTables.ofProcessRegReply stateSection_keepsTables) _ _ _

theorem keepsTables_deviceSon (pkt : Packet) (src : Option L2addr) (iface : Option NsoIf) :
    KeepsTables (Device.sonProcessRx pkt src iface) :=
  parts_keepsTables.ofDeviceSon (parts_keepsTables.ofDeviceAdmits stateSection_keepsTables)
    keepsTables_learnNbr _ _ _

/-- What the threads of a base station do with a control message. -/
theorem keepsTables_bsTsd (pkt : Packet) (src : Option L2addr) (iface : Option NsoIf) :
    KeepsTables (Bs.tsdProcessRx pkt src iface) :=
  parts_keepsTables.ofBsTsd (parts_keepsTables.ofProcessBsRegReply stateSection_keepsTables) _ _ _

theorem keepsTables_bsSon (pkt : Packet) (src : Option L2addr) (iface : Option NsoIf) :
    KeepsTables (Bs.sonProcessRx pkt src iface) :=
  parts_keepsTables.ofBsSon (parts_keepsTables.ofBsAdmits stateSection_keepsTables)
    keepsTables_learnNbr _ _ _

/-- A packet for the device is enqueued under the mutex of the queue, any other one forwarded. -/
theorem keepsTables_dataProcessRx (pkt : Packet) : KeepsTables (Device.dataProcessRx pkt) := by
  refine ⟨fun held node free => ?_⟩
  have forwards := (parts_keepsTables.ofDeliverFwd pkt).keeps held node free
  rw [wp_dataProcessRx tolerant_true free]
  simp only [eq_true free, eq_true forwards, ite_self]

/-- The wait for a packet releases the mutex of the queue first. -/
theorem keepsTables_nsoLayerRecv (size : Nat) : KeepsTables (nsoLayerRecv size) := by
  apply keepsTables_bind keepsTables_waitConnected
  intro _
  refine ⟨fun held node free => ?_⟩
  simp only [wp_bind, wp_acquire, free.data, Bool.false_eq_true, if_false, wp_query, true_and]
  cases node.nsol.dataPq with
  | nil => trivial
  | cons pkt rest =>
      simp only [wp_bind, wp_modify, wp_release, true_and, update_release _ free.data]
      exact (parts_keepsTables.ofOrHalt Halt.noConfusion _).keeps held _ free

end Nrg5
