import Nrg5.HandlerRules

/-!
# The controller's routes as a map

A route update is a list of rules.  The forwarding table that it changes is a list and a hash
table; what it is for is a map from destinations to next hops.
-/

namespace Nrg5

open LockProg

/-- A finite map from destinations to next hops and interfaces. -/
abbrev Routes := DeviceId → Option (DeviceId × NsoIf)

/-- A rule binds its destination, unbinds it, or does nothing. -/
def RtRule.onMap (ifaces : List NsoIf) (routes : Routes) (rule : RtRule) : Routes :=
  if rule.action = rtActionAdd then
    Function.update routes rule.dstId
      (ifaces[rule.ifIndex.toNat]?.map fun iface => (rule.nhId, iface))
  else if rule.action = rtActionDel then Function.update routes rule.dstId none
  else routes

/-- The map that `son_fwdt` stands for. -/
def Node.sonRoutes (node : Node) : Routes := fun dst =>
  (FwdTable.lookup dst node.nsol.sonFwdt).map fun entry => (entry.nxthop, entry.iface)

/-- `son_fwdt` is well linked and has one entry for a destination; no address of an entry is
free. -/
structure Node.RoutesSound (node : Node) : Prop where
  linked : node.nsol.sonFwdt.mirror.Sound FwdTable.bucket FwdEntry.addr
  oneEach : (node.nsol.sonFwdt.mirror.ll.map FwdEntry.dest).Nodup
  fresh : ∀ entry ∈ node.nsol.sonFwdt.mirror.ll, entry.addr < node.heap

variable {node : Node} {dst : DeviceId} {rule : RtRule} {pkt : Packet}

theorem lookup_eq_find? (sound : node.RoutesSound) (dst : DeviceId) :
    FwdTable.lookup dst node.nsol.sonFwdt =
      node.nsol.sonFwdt.mirror.ll.find? fun entry => entry.dest == dst := by
  apply sound.linked.find
  intro entry isMatch
  rw [FwdTable.bucket, beq_iff_eq.mp isMatch]

/-! ## One rule -/

theorem droppedRoute_refines (sound : node.RoutesSound) (dst : DeviceId) :
    (node.droppedRoute dst).RoutesSound ∧
      (node.droppedRoute dst).sonRoutes = Function.update node.sonRoutes dst none := by
  cases found : FwdTable.lookup dst node.nsol.sonFwdt with
  | none =>
      have same : node.droppedRoute dst = node := by simp only [Node.droppedRoute, found]
      rw [same]
      refine ⟨sound, (Function.update_eq_self_iff.mpr ?_).symm⟩
      simp only [Node.sonRoutes, found, Option.map_none]
  | some entry =>
      have here : entry ∈ node.nsol.sonFwdt.mirror.ll := by
        rw [lookup_eq_find? sound] at found
        exact List.mem_of_find?_eq_some found
      have isDest := FwdTable.dest_of_lookup found
      have changed : node.droppedRoute dst = node.updateSonFwdt (FwdTable.del entry) := by
        simp only [Node.droppedRoute, found]
      have mirrored : (FwdTable.del entry node.nsol.sonFwdt).mirror =
          node.nsol.sonFwdt.mirror.unlink fun other => other.addr == entry.addr :=
        HashedTable.mirror_unlink
      have after : (node.droppedRoute dst).RoutesSound := by
        rw [changed]
        refine ⟨?_, ?_, ?_⟩
        · dsimp only [Node.updateSonFwdt, Node.updateLayer]
          rw [mirrored]
          exact sound.linked.unlink here
        · dsimp only [Node.updateSonFwdt, Node.updateLayer]
          rw [mirrored]
          exact sound.oneEach.sublist (List.filter_sublist.map _)
        · dsimp only [Node.updateSonFwdt, Node.updateLayer]
          rw [mirrored]
          exact fun other isMem => sound.fresh other (List.mem_of_mem_filter isMem)
      refine ⟨after, ?_⟩
      funext other
      rw [Node.sonRoutes, lookup_eq_find? after, changed]
      dsimp only [Node.updateSonFwdt, Node.updateLayer]
      rw [mirrored]
      dsimp only [HashedTable.unlink]
      rw [HashedTable.find?_filter_addr sound.linked.distinct sound.oneEach here, isDest,
        ← lookup_eq_find? sound]
      rcases eq_or_ne other dst with rfl | different
      · rw [if_pos rfl, Function.update_self]
        rfl
      · rw [if_neg different.symm, Function.update_of_ne different]
        rfl

theorem addRoute_refines (sound : node.RoutesSound) (nxthop : DeviceId) (iface : NsoIf)
    (unbound : node.sonRoutes dst = none) {after : Node}
    (isAfter : after = { node with heap := node.heap + 1 }.updateSonFwdt
      (FwdTable.add ⟨node.heap, dst, nxthop, iface, .active⟩)) :
    after.RoutesSound ∧
      after.sonRoutes = Function.update node.sonRoutes dst (some (nxthop, iface)) := by
  have mirrored : after.nsol.sonFwdt.mirror =
      node.nsol.sonFwdt.mirror.addHead FwdTable.bucket
        ⟨node.heap, dst, nxthop, iface, .active⟩ := by
    rw [isAfter]
    exact HashedTable.mirror_addTail
  have isNew : dst ∉ node.nsol.sonFwdt.mirror.ll.map FwdEntry.dest := by
    intro isMem
    rcases List.mem_map.mp isMem with ⟨entry, here, isDest⟩
    rw [Node.sonRoutes, Option.map_eq_none_iff, lookup_eq_find? sound,
      List.find?_eq_none] at unbound
    exact unbound entry here (beq_iff_eq.mpr isDest)
  refine ⟨⟨?_, ?_, ?_⟩, ?_⟩
  · rw [mirrored]
    refine sound.linked.addHead fun isMem => ?_
    rcases List.mem_map.mp isMem with ⟨entry, here, sameAddr⟩
    exact absurd (sound.fresh entry here) (by rw [sameAddr]; exact lt_irrefl _)
  · rw [mirrored]
    exact List.nodup_cons.mpr ⟨isNew, sound.oneEach⟩
  · have heap : after.heap = node.heap + 1 := by rw [isAfter]; rfl
    rw [mirrored, heap]
    intro entry isMem
    rcases List.mem_cons.mp isMem with rfl | here
    · exact Nat.lt_succ_self _
    · exact Nat.lt_succ_of_lt (sound.fresh entry here)
  · funext other
    rw [Node.sonRoutes, isAfter]
    dsimp only [Node.updateSonFwdt, Node.updateLayer]
    rw [FwdTable.lookup_add]
    rcases eq_or_ne other dst with rfl | different
    · rw [if_pos rfl, Function.update_self]
      rfl
    · rw [if_neg different.symm, Function.update_of_ne different]
      rfl

/-- A rule on an interface that exists does to the table what it does to the map. -/
theorem appliedRule_refines (sound : node.RoutesSound)
    (inside : rule.ifIndex.toNat < node.nsol.ifacesNb) :
    (node.appliedRule rule).RoutesSound ∧
      (node.appliedRule rule).sonRoutes = rule.onMap node.nsol.ifaces node.sonRoutes := by
  have slot : node.nsol.ifaces[rule.ifIndex.toNat]? =
      some (node.nsol.ifaces.get ⟨rule.ifIndex.toNat, inside⟩) := List.getElem?_eq_getElem inside
  have dropped := droppedRoute_refines sound rule.dstId
  rw [RtRule.onMap]
  simp only [Node.appliedRule, slot, Option.map_some]
  by_cases isAdd : rule.action = rtActionAdd
  · rw [if_pos isAdd, if_pos isAdd]
    have unbound : (node.droppedRoute rule.dstId).sonRoutes rule.dstId = none := by
      rw [dropped.2, Function.update_self]
    have added := addRoute_refines dropped.1 rule.nhId
      (node.nsol.ifaces.get ⟨rule.ifIndex.toNat, inside⟩) unbound rfl
    refine ⟨added.1, added.2.trans ?_⟩
    rw [dropped.2, Function.update_idem]
  · rw [if_neg isAdd, if_neg isAdd]
    by_cases isDel : rule.action = rtActionDel
    · rw [if_pos isDel, if_pos isDel]
      exact dropped
    · rw [if_neg isDel, if_neg isDel]
      exact ⟨sound, rfl⟩

theorem appliedRules_refine {rules : List RtRule} (sound : node.RoutesSound)
    (inside : ∀ rule ∈ rules, rule.ifIndex.toNat < node.nsol.ifacesNb) :
    (rules.foldl Node.appliedRule node).RoutesSound ∧
      (rules.foldl Node.appliedRule node).sonRoutes =
        rules.foldl (RtRule.onMap node.nsol.ifaces) node.sonRoutes := by
  induction rules generalizing node with
  | nil => exact ⟨sound, rfl⟩
  | cons rule rules ih =>
      rw [List.forall_mem_cons] at inside
      have first := appliedRule_refines sound inside.1
      have rest := ih first.1 (by
        rw [NsoLayer.ifacesNb, ifaces_appliedRule]
        exact inside.2)
      rw [List.foldl_cons, List.foldl_cons, ← first.2]
      rw [ifaces_appliedRule] at rest
      exact rest

theorem station_droppedRoute (dst : DeviceId) :
    (node.droppedRoute dst).nsol.devId = node.nsol.devId ∧
      (node.droppedRoute dst).nsol.devState = node.nsol.devState := by
  unfold Node.droppedRoute
  cases FwdTable.lookup dst node.nsol.sonFwdt with
  | none => exact ⟨rfl, rfl⟩
  | some entry => exact ⟨rfl, rfl⟩

/-- A rule leaves the identifier and the registration state alone. -/
theorem station_appliedRule (node : Node) (rule : RtRule) :
    (node.appliedRule rule).nsol.devId = node.nsol.devId ∧
      (node.appliedRule rule).nsol.devState = node.nsol.devState := by
  unfold Node.appliedRule
  cases node.nsol.ifaces[rule.ifIndex.toNat]? with
  | none => exact ⟨rfl, rfl⟩
  | some iface =>
      dsimp only
      split
      · exact station_droppedRoute rule.dstId
      · split
        · exact station_droppedRoute rule.dstId
        · exact ⟨rfl, rfl⟩

/-- The node before and after some rules. -/
structure SameStation (before after : Node) : Prop where
  devId : after.nsol.devId = before.nsol.devId
  devState : after.nsol.devState = before.nsol.devState
  ifaces : after.nsol.ifaces = before.nsol.ifaces

theorem station_appliedRules (node : Node) (rules : List RtRule) :
    SameStation node (rules.foldl Node.appliedRule node) := by
  induction rules generalizing node with
  | nil => exact ⟨rfl, rfl, rfl⟩
  | cons rule rules ih =>
      have first := station_appliedRule node rule
      have rest := ih (node.appliedRule rule)
      exact ⟨rest.devId.trans first.1, rest.devState.trans first.2,
        rest.ifaces.trans (ifaces_appliedRule rule)⟩

/-! ## Messages -/

/-- A route update for the node: whole rules behind the type, on interfaces that exist. -/
structure Packet.UpdatesRoutesOf (pkt : Packet) (node : Node) : Prop where
  forMe : pkt.dstDevid = node.nsol.devId
  whole : ∃ k : Nat, pkt.byteLen = 21 + 18 * k
  inside : ∀ rule ∈ pkt.routeRules, rule.ifIndex.toNat < node.nsol.ifacesNb

theorem SameStation.updates {before after : Node} (same : SameStation before after)
    (updates : pkt.UpdatesRoutesOf before) : pkt.UpdatesRoutesOf after := by
  refine ⟨updates.forMe.trans same.devId.symm, updates.whole, ?_⟩
  rw [NsoLayer.ifacesNb, same.ifaces]
  exact updates.inside

/-- A route update that the node handles alone, with all mutexes free. -/
def Node.handleUpdate (node : Node) (pkt : Packet) : Outcome Node Lock Op Halt Packet :=
  (Device.routeUpdate pkt).exec (fun _ => false) node

/-- The node after a route update. -/
def Node.updatedBy (node : Node) (pkt : Packet) : Node := (node.handleUpdate pkt).state

theorem handleUpdate_runs (connected : node.nsol.devState = .connected)
    (updates : pkt.UpdatesRoutesOf node) :
    ((node.handleUpdate pkt).result = .done pkt ∧ (node.handleUpdate pkt).held = fun _ => false) ∧
      node.updatedBy pkt = pkt.routeRules.foldl Node.appliedRule node := by
  rcases updates.whole with ⟨k, isLen⟩
  have nothingLeft : pkt.rulesSize - rtRuleSize * ruleRounds pkt.rulesSize = 0 := by
    simp only [Packet.rulesSize, isLen, ruleRounds, rtRuleSize, nsohdrSize]
    omega
  have promoted : node.promoted = node := promoted_of_not_reg (by rw [connected]; decide)
  have returns : (Device.routeUpdate pkt).wp ifacesInRange
      { post := fun value held after => value = pkt ∧ held = (fun _ => false) ∧
          after = pkt.routeRules.foldl Node.appliedRule node } (fun _ => false) node := by
    rw [Device.routeUpdate, wp_routeUpdateWith tolerant_ifacesInRange
      (fun ending => wp_admitRouteUpdate tolerant_ifacesInRange ending), if_pos updates.forMe,
      if_neg Bool.false_ne_true, if_neg (by rw [connected]; decide), promoted, wp_updateRoutes]
    exact ⟨updates.inside, nothingLeft, rfl, rfl, rfl⟩
  rcases (wp_done_iff_exec _ _).mp returns with ⟨-, value, isDone, rfl, isHeld, isAfter⟩
  exact ⟨⟨isDone, isHeld⟩, isAfter⟩

/-- Messages one after another: the table stays sound and stands for the folded map. -/
theorem updatedBy_refines {pkts : List Packet} (connected : node.nsol.devState = .connected)
    (sound : node.RoutesSound) (updates : ∀ pkt ∈ pkts, pkt.UpdatesRoutesOf node) :
    (pkts.foldl Node.updatedBy node).RoutesSound ∧
      (pkts.foldl Node.updatedBy node).sonRoutes =
        (pkts.flatMap Packet.routeRules).foldl (RtRule.onMap node.nsol.ifaces) node.sonRoutes ∧
      SameStation node (pkts.foldl Node.updatedBy node) := by
  induction pkts generalizing node with
  | nil => exact ⟨sound, rfl, rfl, rfl, rfl⟩
  | cons pkt pkts ih =>
      rw [List.forall_mem_cons] at updates
      have runs := (handleUpdate_runs connected updates.1).2
      have first := appliedRules_refine sound updates.1.inside
      have same := station_appliedRules node pkt.routeRules
      rw [← runs] at first same
      have rest := ih (same.devState.trans connected) first.1
        fun other isMem => same.updates (updates.2 other isMem)
      rw [List.foldl_cons, List.flatMap_cons, List.foldl_append, ← first.2, ← same.ifaces]
      exact ⟨rest.1, rest.2.1, rest.2.2.devId.trans same.devId,
        rest.2.2.devState.trans same.devState, rest.2.2.ifaces.trans same.ifaces⟩

theorem routesSound_empty (isEmpty : node.nsol.sonFwdt = .empty) : node.RoutesSound := by
  refine ⟨?_, ?_, ?_⟩
  · rw [isEmpty]
    exact HashedTable.sound_empty
  · rw [isEmpty]
    exact List.nodup_nil
  · rw [isEmpty]
    exact fun entry isMem => nomatch isMem

/-- Every route update of a sequence is handled to its end, and then the forwarding table is
the map that the rules make of the one before, with one entry for each binding. -/
theorem route_updates_refine_map (node : Node) (pkts : List Packet)
    (connected : node.nsol.devState = .connected) (sound : node.RoutesSound)
    (updates : ∀ pkt ∈ pkts, pkt.UpdatesRoutesOf node) :
    (∀ before pkt rest, pkts = before ++ pkt :: rest →
      ((before.foldl Node.updatedBy node).handleUpdate pkt).result = .done pkt ∧
        ((before.foldl Node.updatedBy node).handleUpdate pkt).held = fun _ => false) ∧
    (pkts.foldl Node.updatedBy node).sonRoutes =
      (pkts.flatMap Packet.routeRules).foldl (RtRule.onMap node.nsol.ifaces) node.sonRoutes ∧
    ((pkts.foldl Node.updatedBy node).nsol.sonFwdt.ll.map FwdEntry.dest).Nodup ∧
    (pkts.foldl Node.updatedBy node).nsol.sonFwdt.size =
      Set.ncard {dst | (pkts.foldl Node.updatedBy node).sonRoutes dst ≠ none} := by
  have refines := updatedBy_refines connected sound updates
  refine ⟨?_, refines.2.1, ?_, ?_⟩
  · rintro before pkt rest rfl
    have soFar := updatedBy_refines connected sound
      fun other isMem => updates other (List.mem_append_left _ isMem)
    have isUpdate := updates pkt (List.mem_append_right _ List.mem_cons_self)
    exact (handleUpdate_runs (soFar.2.2.devState.trans connected) (soFar.2.2.updates isUpdate)).1
  · have mirrored := refines.1.oneEach
    simp only [HashedTable.mirror, List.map_reverse, List.nodup_reverse] at mirrored
    exact mirrored
  · have counted := HashedTable.ncard_keys refines.1.oneEach
    have size := refines.1.linked.size
    simp only [HashedTable.mirror] at size
    rw [size]
    simp only [Node.sonRoutes, ne_eq, Option.map_eq_none_iff, lookup_eq_find? refines.1]
    exact_mod_cast counted.symm

/-- A device that listens to the controller, without a route. -/
def listening : Node :=
  Node.start { NsoLayer.initial 1 9 1500 [wlan0] wlan0_fits with devState := .connected } .nominal

/-- The message that binds destination 5 to next hop 7. -/
def bindFive : Packet :=
  { ((allocPacket (fun _ => 0) 1500).setDstDevid 1).put (nsohdrSize + 1)
      ([rtActionAdd] ++ deviceIdBytes 5 ++ deviceIdBytes 7 ++ [0]) with byteLen := 39 }

theorem bindFive_updates : bindFive.UpdatesRoutesOf listening :=
  ⟨by decide, ⟨1, rfl⟩, by decide⟩

theorem bindFive_twice :
    ([bindFive, bindFive].foldl Node.updatedBy listening).nsol.sonFwdt.size =
      Set.ncard
        {dst | ([bindFive, bindFive].foldl Node.updatedBy listening).sonRoutes dst ≠ none} :=
  (route_updates_refine_map listening [bindFive, bindFive] rfl (routesSound_empty rfl) (by
    intro pkt isMem
    have isSame : pkt = bindFive := by simpa using isMem
    exact isSame ▸ bindFive_updates)).2.2.2

end Nrg5
