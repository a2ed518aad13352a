import Nrg5.Data

/-!
# Rules for the pieces of the handlers

One rule for each piece, in terms of the tables before it: what its run ends in,
where it blocks, and where it halts.  The rules hold for every judgement of the
operations that only looks at the accesses to `ifaces`; the forwarding path, which
accesses none, has its rules for every judgement in `Nrg5.LockBalance`.
-/

namespace Nrg5

open LockProg

/-- A judgement of operations that admits everything but accesses to `ifaces`. -/
def Tolerant (allowed : Op → Node → Prop) : Prop :=
  ∀ op node, (∀ index, op ≠ .ifaceAt index) → allowed op node

theorem tolerant_true : Tolerant fun _ _ => True := fun _ _ _ => trivial

/-- The judgement that every access to `ifaces` is to one of the `ifaces_nb`
interfaces. -/
def ifacesInRange (op : Op) (node : Node) : Prop :=
  match op with
  | .ifaceAt index => index < node.nsol.ifacesNb
  | _ => True

theorem tolerant_ifacesInRange : Tolerant ifacesInRange := by
  intro op node notIface
  cases op with
  | ifaceAt index => exact absurd rfl (notIface index)
  | _ => trivial

variable {α : Type} {allowed : Op → Node → Prop} {held : Lock → Bool} {node : Node}

@[simp]
theorem wp_orHalt (ending : Ending Node Lock Halt α) (reason : Halt) (pointer : Option α) :
    (orHalt reason pointer).wp allowed ending held node =
      match pointer with
      | some target => ending.post target held node
      | none => ending.halt reason held node := by
  cases pointer <;> rfl

@[simp]
theorem wp_freeIndet (ending : Ending Node Lock Halt Unit) (pointer : Indet) :
    (freeIndet pointer).wp allowed ending held node =
      match pointer with
      | .null => ending.post () held node
      | .wild => ending.halt .invalidFree held node := by
  cases pointer <;> rfl

theorem wp_malloc (tolerant : Tolerant allowed) (ending : Ending Node Lock Halt Nat) :
    malloc.wp allowed ending held node =
      ending.post node.heap held { node with heap := node.heap + 1 } := by
  simp [malloc, tolerant .malloc node (by simp)]

theorem wp_checkConnected (tolerant : Tolerant allowed) (ending : Ending Node Lock Halt Bool) :
    checkConnected.wp allowed ending held node =
      if held .state = true then ending.block .state held node
      else ending.post (node.nsol.devState == .connected) held node := by
  simp only [checkConnected, wp_bind, wp_acquire, wp_query, wp_release, wp_pure]
  split
  · rfl
  · rename_i free
    simp [tolerant .layer node (by simp), update_release _ (by simpa using free)]

theorem wp_findRoute (tolerant : Tolerant allowed) (lock : Lock) (table : NsoLayer → FwdTable)
    (dst : DeviceId) (ending : Ending Node Lock Halt (Option (DeviceId × NsoIf))) :
    (findRoute lock table dst).wp allowed ending held node =
      if held lock = true then ending.block lock held node
      else ending.post ((FwdTable.lookup dst (table node.nsol)).map fun entry =>
        (entry.nxthop, entry.iface)) held node := by
  simp only [findRoute, wp_bind, wp_acquire, wp_query, wp_release, wp_pure]
  split
  · rfl
  · rename_i free
    simp [tolerant .table node (by simp), update_release _ (by simpa using free)]

/-! ## Learning -/

/-- The node after `learnArp`. -/
def Node.learnedArp (devId : DeviceId) (mac : L2addr) (node : Node) : Node :=
  match ArpTable.lookupFromDevId devId node.nsol.arpt with
  | some entry => node.updateArpt (ArpTable.refresh entry)
  | none =>
      { node with heap := node.heap + 1 }.updateArpt
        (ArpTable.add ⟨node.heap, devId, mac, .active⟩)

/-- The node after `learnRoute`. -/
def Node.learnedRoute (dest nxthop : DeviceId) (iface : NsoIf) (node : Node) : Node :=
  match FwdTable.lookup dest node.nsol.localFwdt with
  | some entry => node.updateLocalFwdt (FwdTable.refresh entry)
  | none =>
      { node with heap := node.heap + 1 }.updateLocalFwdt
        (FwdTable.add ⟨node.heap, dest, nxthop, iface, .active⟩)

/-- The node after `learnNbr`. -/
def Node.learnedNbr (devId : DeviceId) (iface : Option NsoIf) (node : Node) : Node :=
  match NbrTable.lookup devId node.nsol.nbrt with
  | some entry => node.updateNbrt (NbrTable.refresh entry)
  | none =>
      { node with heap := node.heap + 1 }.updateNbrt
        (NbrTable.add ⟨node.heap, devId, 1, iface, .active⟩)

theorem wp_arpTableAdd (tolerant : Tolerant allowed) (free : held .arpt = false)
    (entry : ArpEntry) (ending : Ending Node Lock Halt Unit) :
    (arpTableAdd entry).wp allowed ending held node =
      ending.post () held (node.updateArpt (ArpTable.add entry)) := by
  simp [arpTableAdd, free, tolerant .table node (by simp), update_release _ free]

/-- Learning an ARP entry needs the mutex, and the source address when the device
is new. -/
theorem wp_learnArp (tolerant : Tolerant allowed) (devId : DeviceId) (src : Option L2addr)
    (ending : Ending Node Lock Halt Unit) :
    (learnArp devId src).wp allowed ending held node =
      if held .arpt = true then ending.block .arpt held node
      else match ArpTable.lookupFromDevId devId node.nsol.arpt, src with
        | none, none => ending.halt .nullDeref held node
        | _, _ => ending.post () held (node.learnedArp devId (src.getD [])) := by
  simp only [learnArp, wp_bind, wp_acquire, wp_query]
  split
  · rfl
  · rename_i notHeld
    have free : held .arpt = false := by simpa using notHeld
    simp only [tolerant .table node (by simp), true_and]
    cases known : ArpTable.lookupFromDevId devId node.nsol.arpt with
    | some entry =>
        simp [tolerant .table node (by simp), update_release _ free, Node.learnedArp, known]
    | none =>
        cases src with
        | none => simp [update_release _ free]
        | some mac =>
            simp [update_release _ free, wp_malloc tolerant, wp_arpTableAdd tolerant free,
              Node.learnedArp, known]

theorem wp_allocFwdEntry (tolerant : Tolerant allowed) (dest nxthop : DeviceId)
    (iface : Option NsoIf) (ending : Ending Node Lock Halt FwdEntry) :
    (allocFwdEntry dest nxthop iface).wp allowed ending held node =
      match iface with
      | none => ending.halt .assertion held node
      | some interface =>
          ending.post ⟨node.heap, dest, nxthop, interface, .active⟩ held
            { node with heap := node.heap + 1 } := by
  cases iface <;> simp [allocFwdEntry, wp_malloc tolerant]

/-- Learning a route needs the interface when the destination is new. -/
theorem wp_learnRoute (tolerant : Tolerant allowed) (free : held .localFwdt = false)
    (dest nxthop : DeviceId) (iface : Option NsoIf) (ending : Ending Node Lock Halt Unit) :
    (learnRoute dest nxthop iface).wp allowed ending held node =
      match FwdTable.lookup dest node.nsol.localFwdt, iface with
      | some entry, _ => ending.post () held (node.updateLocalFwdt (FwdTable.refresh entry))
      | none, none => ending.halt .assertion held node
      | none, some interface =>
          ending.post () held (node.learnedRoute dest nxthop interface) := by
  simp only [learnRoute, wp_bind, wp_acquire, wp_query, free, Bool.false_eq_true, if_false,
    tolerant .table node (by simp), true_and]
  cases known : FwdTable.lookup dest node.nsol.localFwdt with
  | some entry =>
      simp [tolerant .table node (by simp), update_release _ free]
  | none =>
      cases iface with
      | none => simp [update_release _ free, wp_allocFwdEntry tolerant]
      | some interface =>
          simp [update_release _ free, wp_allocFwdEntry tolerant, Node.learnedRoute, known,
            tolerant .table _ (by simp)]

theorem wp_learnNbr (tolerant : Tolerant allowed) (free : held .nbrt = false)
    (devId : DeviceId) (iface : Option NsoIf) (ending : Ending Node Lock Halt Unit) :
    (learnNbr devId iface).wp allowed ending held node =
      ending.post () held (node.learnedNbr devId iface) := by
  simp only [learnNbr, wp_bind, wp_acquire, wp_query, free, Bool.false_eq_true, if_false,
    tolerant .table node (by simp), true_and]
  cases known : NbrTable.lookup devId node.nsol.nbrt with
  | some entry =>
      simp [tolerant .table node (by simp), update_release _ free, Node.learnedNbr, known]
  | none =>
      simp [update_release _ free, update_free _ free, wp_malloc tolerant, Node.learnedNbr,
        known, tolerant .table _ (by simp)]

/-- Resolving a source address needs the mutex, the address and its entry; the two
failures end the process inside the critical section. -/
theorem wp_downstreamDevId (tolerant : Tolerant allowed) (src : Option L2addr)
    (ending : Ending Node Lock Halt DeviceId) :
    (downstreamDevId src).wp allowed ending held node =
      if held .arpt = true then ending.block .arpt held node
      else match src with
        | none => ending.halt .assertion (Function.update held .arpt true) node
        | some mac =>
            match ArpTable.lookupFromL2addr mac node.nsol.arpt with
            | none => ending.halt .exit (Function.update held .arpt true) node
            | some entry => ending.post entry.devId held node := by
  simp only [downstreamDevId, wp_bind, wp_acquire]
  split
  · rfl
  · rename_i notHeld
    have free : held .arpt = false := by simpa using notHeld
    cases src with
    | none => simp
    | some mac =>
        cases known : ArpTable.lookupFromL2addr mac node.nsol.arpt with
        | none => simp [tolerant .table node (by simp), known]
        | some entry =>
            simp [tolerant .table node (by simp), known, update_release _ free]

/-! ## Forwarding -/

/-- The route of a destination: the controller's table first. -/
def NsoLayer.route (dst : DeviceId) (layer : NsoLayer) : Option (DeviceId × NsoIf) :=
  match FwdTable.lookup dst layer.sonFwdt with
  | some entry => some (entry.nxthop, entry.iface)
  | none => (FwdTable.lookup dst layer.localFwdt).map fun entry => (entry.nxthop, entry.iface)

@[simp]
theorem route_updateArpt (update : ArpTable → ArpTable) (dst : DeviceId) :
    (node.updateArpt update).nsol.route dst = node.nsol.route dst := rfl

/-- The packet after `wifi_send`. -/
def Packet.sentOn (pkt : Packet) (iface : NsoIf) (dst : L2addr) : Packet :=
  if pkt.data < ethHlen then pkt else pkt.prependEth iface.ifMac dst

/-- The node after `wifi_send`. -/
def Node.sentOn (iface : NsoIf) (pkt : Packet) (dst : L2addr) (node : Node) : Node :=
  if pkt.data < ethHlen then node
  else node.sendFrame iface (pkt.prependEth iface.ifMac dst).bytes

theorem wp_wifiSend (tolerant : Tolerant allowed) (iface : NsoIf) (pkt : Packet)
    (dst : L2addr) (ending : Ending Node Lock Halt (Int × Packet)) :
    (wifiSend iface pkt dst).wp allowed ending held node =
      ending.post (if pkt.data < ethHlen ∨ node.env.sendtoFails = true then -1 else 0,
        pkt.sentOn iface dst) held (node.sentOn iface pkt dst) := by
  simp only [wifiSend, Packet.sentOn, Node.sentOn]
  split
  · rename_i short
    simp [short]
  · rename_i enough
    simp [enough, tolerant .sendto node (by simp)]

/-- `nso_layer_fwd` with the forwarding tables free: without a route and without an
ARP entry it frees an uninitialised pointer, and without an ARP entry it also keeps
the ARP mutex. -/
theorem wp_nsoLayerFwd (tolerant : Tolerant allowed) (sonFree : held .sonFwdt = false)
    (localFree : held .localFwdt = false) (pkt : Packet)
    (ending : Ending Node Lock Halt (Int × Packet)) :
    (nsoLayerFwd pkt).wp allowed ending held node =
      match node.nsol.route pkt.dstDevid with
      | none =>
          match node.env.stackAddr with
          | .null => ending.post (-1, pkt) held node
          | .wild => ending.halt .invalidFree held node
      | some (nxt, iface) =>
          if held .arpt = true then ending.block .arpt held node
          else match ArpTable.lookupFromDevId nxt node.nsol.arpt with
            | none =>
                match node.env.stackAddr with
                | .null => ending.post (-1, pkt) (Function.update held .arpt true) node
                | .wild => ending.halt .invalidFree (Function.update held .arpt true) node
            | some entry =>
                ending.post (0, pkt.sentOn iface entry.l2addr) held
                  (node.sentOn iface pkt entry.l2addr) := by
  have routeRule : ∀ ending : Ending Node Lock Halt (Option (DeviceId × NsoIf)),
      (nextHop pkt.dstDevid).wp allowed ending held node =
        ending.post (node.nsol.route pkt.dstDevid) held node := by
    intro ending
    simp only [nextHop, wp_bind, wp_findRoute tolerant, sonFree, Bool.false_eq_true, if_false,
      NsoLayer.route]
    cases FwdTable.lookup pkt.dstDevid node.nsol.sonFwdt with
    | some entry => simp
    | none => simp [wp_findRoute tolerant, localFree]
  simp only [nsoLayerFwd, wp_bind, routeRule]
  cases node.nsol.route pkt.dstDevid with
  | none => simp [fwdOut, tolerant .layer node (by simp)]
  | some found =>
      rcases found with ⟨nxt, iface⟩
      simp only [wp_bind, wp_acquire, wp_query]
      split
      · rfl
      · rename_i notHeld
        have free : held .arpt = false := by simpa using notHeld
        simp only [tolerant (.nextHopArp nxt) node (by simp), true_and]
        cases ArpTable.lookupFromDevId nxt node.nsol.arpt with
        | none => simp [fwdOut, tolerant .layer node (by simp)]
        | some entry =>
            simp [nsoIfSend, wp_wifiSend tolerant, update_release _ free]

/-! ## The calls of the application -/

theorem wp_waitConnected (tolerant : Tolerant allowed) (ending : Ending Node Lock Halt Unit) :
    waitConnected.wp allowed ending held node =
      if held .state = true then ending.block .state held node
      else if node.nsol.devState = .connected then ending.post () held node
      else ending.halt .condWait held node := by
  simp only [waitConnected, wp_bind, wp_acquire, wp_query, wp_release]
  split
  · rfl
  · rename_i free
    simp only [tolerant .layer node (by simp), true_and, wp_ite, wp_pure, wp_halt,
      update_release _ (by simpa using free)]

/-- Once the node is connected, `nso_layer_send` forwards the packet that it has built. -/
theorem wp_nsoLayerSend (tolerant : Tolerant allowed) (buf : List UInt8) (dst : Option DeviceId)
    (proto : UInt16) (ending : Ending Node Lock Halt Nat) :
    (nsoLayerSend buf dst proto).wp allowed ending held node =
      if held .state = true then ending.block .state held node
      else if node.nsol.devState = .connected then
        match makeDataPkt node.env.junk node.nsol buf (dst.getD node.nsol.gwId) proto with
        | none => ending.halt .outOfBounds held node
        | some pkt => (nsoLayerFwd pkt).wp allowed
            { ending with
              post := fun _ atEnd after =>
                ending.post (sendResult node.nsol buf.length) atEnd after } held node
      else ending.halt .condWait held node := by
  unfold nsoLayerSend
  rw [wp_bind, wp_waitConnected tolerant]
  refine if_congr Iff.rfl rfl (if_congr Iff.rfl ?_ rfl)
  -- One step at a time: the kernel must not compare runs that contain `makeDataPkt`.
  dsimp only
  rw [wp_bind, wp_query]
  dsimp only
  rw [wp_bind, wp_query]
  dsimp only
  rw [wp_bind, wp_orHalt, eq_true (tolerant .layer node (by simp)),
    eq_true (tolerant .malloc node (by simp)), true_and, true_and]
  cases makeDataPkt node.env.junk node.nsol buf (dst.getD node.nsol.gwId) proto with
  | none => rfl
  | some pkt =>
      dsimp only
      rw [wp_bind]
      rfl

/-- `nso_layer_recv` waits for the registration and for a packet, and takes the first one. -/
theorem wp_nsoLayerRecv (tolerant : Tolerant allowed) (dataFree : held .data = false) (size : Nat)
    (ending : Ending Node Lock Halt Delivered) :
    (nsoLayerRecv size).wp allowed ending held node =
      if held .state = true then ending.block .state held node
      else if node.nsol.devState = .connected then
        match node.nsol.dataPq with
        | [] => ending.halt .condWait held node
        | pkt :: _ =>
            match readData pkt size with
            | none => ending.halt .outOfBounds held node.dequeue
            | some delivered => ending.post delivered held node.dequeue
      else ending.halt .condWait held node := by
  unfold nsoLayerRecv
  rw [wp_bind, wp_waitConnected tolerant]
  refine if_congr Iff.rfl rfl (if_congr Iff.rfl ?_ rfl)
  simp only [wp_bind, wp_acquire, dataFree, Bool.false_eq_true, if_false, wp_query,
    tolerant .layer node (by simp), true_and]
  cases node.nsol.dataPq with
  | nil => simp [update_release _ dataFree]
  | cons pkt rest =>
      simp only [wp_bind, wp_modify, tolerant .layer node (by simp), true_and, wp_release,
        update_release _ dataFree, wp_orHalt]
      cases readData pkt size <;> rfl

end Nrg5
