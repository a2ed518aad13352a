import Nrg5.Network.Effects

/-!
# Who touches the neighbours and the data queue

The neighbour table is changed by the handler of advertisements.  The queue between the receive
threads and the application is changed at two places: the data handler of a device puts a packet
behind it, and `nso_layer_recv` takes the first one away.  A base station never puts a packet
there.

`Settled` is the part of a layer that is left when the tables of addresses and routes, the
registration and the credentials are taken away, so almost every call keeps it.  What the others
do to it is said by `Learns`, for a message of vSON, and by `Absorbs`, for any message.
-/

namespace Nrg5

open LockProg

variable {α : Type} {held : Lock → Bool} {node : Node}

/-- The configuration, the neighbours and the data queue of a layer. -/
structure Settled where
  devId : DeviceId
  ifaces : List NsoIf
  mtu : Nat
  nbrt : NbrTable
  dataPq : List Packet

def NsoLayer.settled (layer : NsoLayer) : Settled :=
  ⟨layer.devId, layer.ifaces, layer.mtu, layer.nbrt, layer.dataPq⟩

def Node.settled (node : Node) : Settled := node.nsol.settled

/-- A call that leaves the configuration, the neighbours and the queue alone. -/
abbrev KeepsSettled {α : Type} (prog : Prog α) : Prop :=
  KeepsView (fun _ => True) (fun _ => True) Node.settled prog

theorem settled_aside : Aside (fun _ => True) (fun _ => True) Node.settled where
  silent := fun _ _ => trivial
  ends := fun _ _ => trivial
  heap := fun _ _ => rfl
  air := fun _ _ => rfl
  vnfTx := fun _ _ => rfl
  arpt := fun _ _ => rfl
  sonFwdt := fun _ _ => rfl
  localFwdt := fun _ _ => rfl
  credentials := fun _ _ _ => rfl
  tsdIfIndex := fun _ _ => rfl

theorem parts_keepsSettled : Parts @KeepsSettled := settled_aside.parts

theorem keepsSettled_modify (event : Op) {update : Node → Node}
    (same : ∀ node, (update node).settled = node.settled := by exact fun _ => rfl) :
    KeepsSettled (modify event update : Prog Unit) :=
  keeps_modify trivial same

/-- The registration and the temporary routes are not settled. -/
theorem stateSection_keepsSettled : StateSection @KeepsSettled where
  acquires := keeps_acquire _
  releases := keeps_release _
  addsRoute := fun _ => keepsSettled_modify _
  setsGateway := fun _ => keepsSettled_modify _
  connects := keepsSettled_modify _
  promotes := keepsSettled_modify _
  wakes := keepsSettled_modify _

theorem keepsSettled_deviceTsd (pkt : Packet) (src : Option L2addr) (iface : Option NsoIf) :
    KeepsSettled (Device.tsdProcessRx pkt src iface) :=
  parts_keepsSettled.ofDeviceTsd (parts_keepsSettled.ofProcessRegReply stateSection_keepsSettled)
    _ _ _

theorem keepsSettled_bsTsd (pkt : Packet) (src : Option L2addr) (iface : Option NsoIf) :
    KeepsSettled (Bs.tsdProcessRx pkt src iface) :=
  parts_keepsSettled.ofBsTsd (parts_keepsSettled.ofProcessBsRegReply stateSection_keepsSettled)
    _ _ _

/-- The wait for the registration only reads. -/
theorem keepsSettled_send (buf : List UInt8) (dst : Option DeviceId) (proto : UInt16) :
    KeepsSettled (nsoLayerSend buf dst proto) :=
  parts_keepsSettled.ofNsoLayerSend (keepsView_waitConnected trivial trivial) buf dst proto

theorem keepsSettled_discard {prog : Prog α} (keeps : KeepsSettled prog) :
    KeepsSettled (do let _ ← prog : Prog Unit) :=
  keeps_bind keeps fun _ => keeps_pure _

/-- A call that keeps the settled part keeps it wherever it ends. -/
theorem KeepsSettled.always {prog : Prog α} (keeps : KeepsSettled prog) {inv : Node → Prop}
    (implies : ∀ after, after.settled = node.settled → inv after) :
    prog.wp (fun _ _ => True) (.always inv) held node :=
  wp_always_mono implies (Keeps.always keeps held node)

/-! ## Learning of a neighbour -/

/-- The table after an advertisement of a device. -/
def NbrTable.learned (addr : Nat) (devId : DeviceId) (iface : Option NsoIf) (table : NbrTable) :
    NbrTable :=
  match NbrTable.lookup devId table with
  | some entry => table.refresh entry
  | none => table.add ⟨addr, devId, 1, iface, .active⟩

/-- What the neighbours learn is the sender; of the entries before, only a status may change. -/
theorem NbrTable.mem_learned {addr : Nat} {devId : DeviceId} {iface : Option NsoIf}
    {table : NbrTable} {entry : NbrEntry}
    (isMem : entry ∈ (NbrTable.learned addr devId iface table).ll) :
    entry = ⟨addr, devId, 1, iface, .active⟩ ∨
      ∃ status, { entry with status := status } ∈ table.ll := by
  unfold NbrTable.learned at isMem
  cases found : NbrTable.lookup devId table with
  | some old =>
      rw [found] at isMem
      rcases HashedTable.mem_ll_write.mp isMem with ⟨before, wasMem, rfl⟩
      refine .inr ⟨before.status, ?_⟩
      split
      · exact wasMem
      · exact wasMem
  | none =>
      rw [found] at isMem
      rcases HashedTable.mem_ll_addHead.mp isMem with isNew | wasMem
      · exact .inl isNew
      · exact .inr ⟨entry.status, wasMem⟩

theorem NbrTable.counted_learned {addr : Nat} {devId : DeviceId} {iface : Option NsoIf}
    {table : NbrTable} (counted : table.size = table.ll.length) :
    (NbrTable.learned addr devId iface table).size =
      (NbrTable.learned addr devId iface table).ll.length := by
  unfold NbrTable.learned
  cases NbrTable.lookup devId table with
  | some old =>
      dsimp only [NbrTable.refresh, HashedTable.write]
      rw [List.length_map, counted]
  | none =>
      dsimp only [NbrTable.add, HashedTable.addHead]
      rw [List.length_cons, counted, Nat.cast_add_one]

/-- The neighbours have learned of the sender of an advertisement, or nothing has changed. -/
inductive Learns (pkt : Packet) (iface : Option NsoIf) (node after : Node) : Prop where
  | same (unchanged : after.settled = node.settled)
  | learned (addr : Nat) (isNbr : pkt.msgType = sonMsgNbr) (learns : after.settled =
      { node.settled with nbrt := NbrTable.learned addr pkt.srcDevid iface node.nsol.nbrt })

theorem settled_learnedNbr (devId : DeviceId) (iface : Option NsoIf) :
    (node.learnedNbr devId iface).settled =
      { node.settled with nbrt := NbrTable.learned node.heap devId iface node.nsol.nbrt } := by
  unfold Node.learnedNbr NbrTable.learned
  cases NbrTable.lookup devId node.nsol.nbrt with
  | some entry => rfl
  | none => rfl

theorem learnNbr_learns {pkt : Packet} (isNbr : pkt.msgType = sonMsgNbr) (iface : Option NsoIf) :
    (learnNbr pkt.srcDevid iface).wp (fun _ _ => True) (.always (Learns pkt iface node)) held
      node := by
  cases isHeld : held .nbrt with
  | true =>
      rw [learnNbr, wp_bind, wp_acquire, isHeld]
      exact .same rfl
  | false =>
      rw [wp_learnNbr tolerant_true isHeld]
      exact .learned node.heap isNbr (settled_learnedNbr pkt.srcDevid iface)

/-- `__neighbor_maintain` learns the address first, which does not show. -/
theorem neighborMaintain_learns {pkt : Packet} (isNbr : pkt.msgType = sonMsgNbr)
    (src : Option L2addr) (iface : Option NsoIf) :
    (neighborMaintain pkt src iface).wp (fun _ _ => True) (.always (Learns pkt iface node))
      held node := by
  unfold neighborMaintain
  rw [wp_bind]
  apply wp_mono _ _ _ (Keeps.always (parts_keepsSettled.ofLearnArp pkt.srcDevid src) held node)
  · intro _ atEnd mid same
    have nbrt : mid.nsol.nbrt = node.nsol.nbrt := congrArg Settled.nbrt same
    dsimp only
    rw [wp_bind]
    apply wp_always_mono _ (learnNbr_learns isNbr iface)
    intro after learns
    cases learns with
    | same unchanged => exact .same (unchanged.trans same)
    | learned addr isNbr learns => exact .learned addr isNbr (by rw [learns, same, nbrt])
  · exact fun _ _ _ same => .same same
  · exact fun _ _ _ same => .same same

/-- What the handler of a message leaves: the neighbours have learned of its sender, it is in the
queue, or nothing has changed. -/
inductive Absorbs (pkt : Packet) (iface : Option NsoIf) (node after : Node) : Prop where
  | same (unchanged : after.settled = node.settled)
  | learned (addr : Nat) (isSon : pkt.proto = protoCpVson) (isNbr : pkt.msgType = sonMsgNbr)
      (learns : after.settled =
        { node.settled with nbrt := NbrTable.learned addr pkt.srcDevid iface node.nsol.nbrt })
  | enqueued (junk : ByteMemory.Memory) (isData : dispatch pkt.proto = .data)
      (forMe : pkt.dstDevid = node.nsol.devId)
      (queue : after.settled =
        { node.settled with dataPq := node.nsol.dataPq ++ [pkt.clone junk] })

theorem absorbs_of_keeps {prog : Prog α} (keeps : KeepsSettled prog) (pkt : Packet)
    (iface : Option NsoIf) :
    prog.wp (fun _ _ => True) (.always (Absorbs pkt iface node)) held node :=
  KeepsSettled.always keeps fun _ same => .same same

theorem Learns.absorbs {pkt : Packet} {iface : Option NsoIf} {after : Node}
    (learns : Learns pkt iface node after) (isSon : pkt.proto = protoCpVson) :
    Absorbs pkt iface node after := by
  cases learns with
  | same unchanged => exact .same unchanged
  | learned addr isNbr learns => exact .learned addr isSon isNbr learns

theorem learns_of_keeps {prog : Prog α} (keeps : KeepsSettled prog) (pkt : Packet)
    (iface : Option NsoIf) :
    prog.wp (fun _ _ => True) (.always (Learns pkt iface node)) held node :=
  KeepsSettled.always keeps fun _ same => .same same

/-- An advertisement is the one message of vSON from which the neighbours learn. -/
theorem son_learns {pkt : Packet} {src : Option L2addr} {iface : Option NsoIf}
    {other : Prog (Int × Packet)} (keeps : ¬ pkt.msgType = sonMsgNbr → KeepsSettled other) :
    (if pkt.msgType = sonMsgNbr then do
        let sent ← neighborMaintain pkt src iface
        pure (0, sent)
      else other : Prog (Int × Packet)).wp (fun _ _ => True) (.always (Learns pkt iface node))
      held node := by
  rw [wp_ite]
  split
  · rename_i isNbr
    rw [wp_bind]
    exact neighborMaintain_learns isNbr src iface
  · rename_i notNbr
    exact learns_of_keeps (keeps notNbr) pkt iface

theorem deviceSon_learns (pkt : Packet) (src : Option L2addr) (iface : Option NsoIf) :
    (Device.sonProcessRx pkt src iface).wp (fun _ _ => True) (.always (Learns pkt iface node))
      held node := by
  have parts := parts_keepsSettled
  have admits := parts.ofDeviceAdmits stateSection_keepsSettled
  unfold Device.sonProcessRx
  rw [wp_ite]
  split
  · exact learns_of_keeps (keeps_bind (parts.ofRouteUpdateWith admits _) fun _ => keeps_pure _) _ _
  · apply son_learns
    intro _
    exact parts.ofHandled (parts.ofFwdTopoReportWith parts.ofDeliverFwd pkt) (keeps_pure _)

theorem bsSon_learns (pkt : Packet) (src : Option L2addr) (iface : Option NsoIf) :
    (Bs.sonProcessRx pkt src iface).wp (fun _ _ => True) (.always (Learns pkt iface node))
      held node := by
  have parts := parts_keepsSettled
  have admits := parts.ofBsAdmits stateSection_keepsSettled
  unfold Bs.sonProcessRx
  rw [wp_ite]
  split
  · exact learns_of_keeps (keeps_bind (parts.ofRouteUpdateWith admits _) fun _ => keeps_pure _) _ _
  · apply son_learns
    intro _
    exact parts.ofHandled (parts.ofFwdTopoReportWith parts.ofDeliverVson pkt) (keeps_pure _)

/-- The neighbours learn from messages of vSON alone. -/
theorem absorbs_of_learns {prog : Prog α} {pkt : Packet} {iface : Option NsoIf}
    (isSon : pkt.proto = protoCpVson)
    (learns : prog.wp (fun _ _ => True) (.always (Learns pkt iface node)) held node) :
    prog.wp (fun _ _ => True) (.always (Absorbs pkt iface node)) held node :=
  wp_always_mono (fun _ learns => learns.absorbs isSon) learns

/-! ## Events -/

/-- The data handler of a device changes the queue alone. -/
theorem dataProcessRx_queue (free : TablesFree held) (pkt : Packet) :
    (Device.dataProcessRx pkt).wp (fun _ _ => True)
      (.always fun after => after.settled = node.settled ∨
        pkt.dstDevid = node.nsol.devId ∧ ∃ junk, after.settled =
          { node.settled with dataPq := node.nsol.dataPq ++ [pkt.clone junk] }) held node := by
  rw [wp_dataProcessRx tolerant_true free]
  refine ite_connected (.inl rfl) fun connected => ?_
  rw [ite_prop_iff_and]
  refine ⟨fun forMe => .inr ⟨forMe, _, rfl⟩, fun notForMe => ?_⟩
  exact KeepsSettled.always (parts_keepsSettled.ofDeliverFwd pkt) fun _ same => .inl same

/-- What a receive thread of a device makes of a message. -/
theorem deviceRx_absorbs (free : TablesFree held) (pkt : Packet) (src : L2addr) (iface : NsoIf) :
    (Device.Rx.body ⟨dispatch pkt.proto, pkt, src, iface⟩).wp (fun _ _ => True)
      (.always (Absorbs pkt (some iface) node)) held node := by
  cases isHandler : dispatch pkt.proto with
  | tsd =>
      exact absorbs_of_keeps (keeps_bind (keepsSettled_deviceTsd _ _ _) fun _ => keeps_pure _) pkt _
  | son =>
      rw [Device.Rx.body, wp_bind]
      exact absorbs_of_learns (dispatch_son isHandler) (deviceSon_learns _ _ _)
  | data =>
      apply wp_always_mono _ (dataProcessRx_queue free pkt)
      rintro after (same | ⟨forMe, junk, queue⟩)
      · exact .same same
      · exact .enqueued junk isHandler forMe queue

/-- What a receive thread of a base station makes of a message; it never enqueues one. -/
theorem bsRx_absorbs (pkt : Packet) (origin : Bs.Origin) :
    (Bs.Rx.body ⟨dispatch pkt.proto, pkt, origin⟩).wp (fun _ _ => True)
      (.always (Absorbs pkt origin.iface node)) held node := by
  cases isHandler : dispatch pkt.proto with
  | tsd =>
      exact absorbs_of_keeps (keeps_bind (keepsSettled_bsTsd _ _ _) fun _ => keeps_pure _) pkt _
  | son =>
      rw [Bs.Rx.body, wp_bind]
      exact absorbs_of_learns (dispatch_son isHandler) (bsSon_learns _ _ _)
  | data => exact absorbs_of_keeps (parts_keepsSettled.ofBsData pkt) pkt _

/-- A message of a network function comes without an interface. -/
theorem processVnfRx_absorbs (pkt : Packet) :
    (Bs.processVnfRx pkt).wp (fun _ _ => True) (.always (Absorbs pkt none node)) held node := by
  rw [Bs.processVnfRx, wp_bind, wp_query]
  refine ⟨trivial, ?_⟩
  dsimp only
  rw [wp_ite, ite_prop_iff_and]
  refine ⟨fun forMe => ?_, fun notForMe => ?_⟩
  · cases isHandler : dispatch pkt.proto with
    | tsd =>
        exact absorbs_of_keeps (keeps_bind (keepsSettled_bsTsd _ _ _) fun _ => keeps_pure _) pkt _
    | son =>
        rw [wp_bind]
        exact absorbs_of_learns (dispatch_son isHandler) (bsSon_learns _ _ _)
    | data => exact absorbs_of_keeps (keeps_pure _) pkt _
  · exact absorbs_of_keeps (parts_keepsSettled.ofDeliverFwd pkt) pkt _

/-- `nso_layer_recv` takes the first packet, or nothing. -/
theorem nsoLayerRecv_queue (free : TablesFree held) (size : Nat) :
    ((nsoLayerRecv size).exec held node).state.settled = node.settled ∨
      ((nsoLayerRecv size).exec held node).state.settled =
        { node.settled with dataPq := node.nsol.dataPq.tail } := by
  have dequeued : (Node.dequeue node).settled =
      { node.settled with dataPq := node.nsol.dataPq.tail } := rfl
  rw [← wp_always_iff fun after : Node => after.settled = node.settled ∨
    after.settled = { node.settled with dataPq := node.nsol.dataPq.tail },
    wp_nsoLayerRecv tolerant_true free.data]
  split
  · exact .inl rfl
  · split
    · cases queue : node.nsol.dataPq with
      | nil => exact .inl rfl
      | cons queued rest =>
          dsimp only
          rw [queue] at dequeued
          cases readData queued size with
          | none => exact .inr dequeued
          | some delivered => exact .inr dequeued
    · exact .inl rfl

end Nrg5
