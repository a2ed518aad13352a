import Nrg5.Lib.Sequence
import Nrg5.TableLocks

/-!
# When a handler comes back

A handler comes back to its loop when it neither ends the process nor waits for a
mutex that is left behind, and when it reads only the interfaces that exist.  For
every handler this file has the exact condition, in terms of the packet and of the
node before the call: which mutexes are free, which lookups of the handler hit and
whether the rules of a route update are whole and name interfaces.

From single messages to runs the way is the same for a device and for a base station,
so it is taken here, for any kind of events among which there are messages.
-/

namespace Nrg5

open LockProg

variable {α : Type} {held : Lock → Bool} {node : Node} {pkt : Packet}

/-- The call returns and reads only interfaces that exist. -/
def Returns (prog : Prog α) (held : Lock → Bool) (node : Node) : Prop :=
  (∃ value, (prog.exec held node).result = .done value) ∧
    ∀ entry ∈ (prog.exec held node).events, ifacesInRange entry.1 entry.2

theorem returns_iff_wp (prog : Prog α) :
    Returns prog held node ↔
      prog.wp ifacesInRange { post := fun _ _ _ => True } held node := by
  rw [wp_done_iff_exec]
  simp only [Returns, and_true]
  exact and_comm

/-! ## Forwarding -/

/-- The next hop of a destination. -/
def NsoLayer.nextHop (dst : DeviceId) (layer : NsoLayer) : Option DeviceId :=
  ((FwdTable.lookup dst layer.sonFwdt).map FwdEntry.nxthop).or
    ((FwdTable.lookup dst layer.localFwdt).map FwdEntry.nxthop)

/-- The next hop of a destination once the temporary table has a route to `dest`. -/
def NsoLayer.nextHopAfter (dest nxthop dst : DeviceId) (layer : NsoLayer) :
    Option DeviceId :=
  (layer.nextHop dst).or (if dest = dst then some nxthop else none)

theorem nextHop_eq_route (dst : DeviceId) (layer : NsoLayer) :
    layer.nextHop dst = (layer.route dst).map Prod.fst := by
  simp only [NsoLayer.nextHop, NsoLayer.route]
  cases FwdTable.lookup dst layer.sonFwdt with
  | some entry => rfl
  | none => cases FwdTable.lookup dst layer.localFwdt <;> rfl

/-- There is an ARP entry for a device. -/
def NsoLayer.Knows (layer : NsoLayer) (devId : DeviceId) : Prop :=
  (ArpTable.lookupFromDevId devId layer.arpt).isSome = true

/-- The forwarding comes back: its next hop is known, or the pointer that the failed
lookup frees is NULL. -/
def FwdReturns (held : Lock → Bool) (node : Node) (hop : Option DeviceId)
    (known : DeviceId → Prop) : Prop :=
  (hop = none → node.env.stackAddr = .null) ∧
    ∀ nxt, hop = some nxt → held .arpt = false ∧ (known nxt ∨ node.env.stackAddr = .null)

theorem deliverFwd_returns (free : TablesFree held) :
    (deliverFwd pkt).wp ifacesInRange { post := fun _ _ _ => True } held node ↔
      FwdReturns held node (node.nsol.nextHop pkt.dstDevid) node.nsol.Knows := by
  rw [wp_deliverFwd, wp_nsoLayerFwd tolerant_ifacesInRange free.sonFwdt free.localFwdt]
  simp only [FwdReturns, nextHop_eq_route, NsoLayer.Knows]
  cases node.nsol.route pkt.dstDevid with
  | none => cases node.env.stackAddr <;> simp
  | some found =>
      rcases found with ⟨nxt, iface⟩
      cases isHeld : held .arpt with
      | true => simp
      | false =>
          cases known : ArpTable.lookupFromDevId nxt node.nsol.arpt with
          | some entry => simp [known]
          | none => cases node.env.stackAddr <;> simp [known]

theorem nxthop_refresh (entry : FwdEntry) (dst : DeviceId) (table : FwdTable) :
    (FwdTable.lookup dst (FwdTable.refresh entry table)).map FwdEntry.nxthop =
      (FwdTable.lookup dst table).map FwdEntry.nxthop := by
  rw [FwdTable.lookup_refresh, Option.map_map]
  congr 1
  funext other
  simp only [Function.comp_apply]
  split <;> rfl

theorem nextHop_learnedRoute (dest nxthop dst : DeviceId) (iface : NsoIf) :
    (node.learnedRoute dest nxthop iface).nsol.nextHop dst =
      node.nsol.nextHopAfter dest nxthop dst := by
  simp only [NsoLayer.nextHopAfter, NsoLayer.nextHop, Node.learnedRoute]
  cases known : FwdTable.lookup dest node.nsol.localFwdt with
  | some entry =>
      simp only [Node.updateLocalFwdt, Node.updateLayer, nxthop_refresh]
      split
      · rename_i same
        subst same
        simp [known]
      · rw [Option.or_none]
  | none =>
      simp only [Node.updateLocalFwdt, Node.updateLayer, FwdTable.lookup_add]
      split
      · rename_i same
        subst same
        simp [known]
      · rw [Option.or_none]

@[simp]
theorem env_learnedRoute (dest nxthop : DeviceId) (iface : NsoIf) :
    (node.learnedRoute dest nxthop iface).env = node.env := by
  unfold Node.learnedRoute
  cases FwdTable.lookup dest node.nsol.localFwdt <;> rfl

@[simp]
theorem arpt_learnedRoute (dest nxthop : DeviceId) (iface : NsoIf) :
    (node.learnedRoute dest nxthop iface).nsol.arpt = node.nsol.arpt := by
  unfold Node.learnedRoute
  cases FwdTable.lookup dest node.nsol.localFwdt <;> rfl

theorem knows_learnedRoute (dest nxthop other : DeviceId) (iface : NsoIf) :
    (node.learnedRoute dest nxthop iface).nsol.Knows other ↔ node.nsol.Knows other := by
  rw [NsoLayer.Knows, arpt_learnedRoute, NsoLayer.Knows]

@[simp]
theorem env_learnedArp (devId : DeviceId) (mac : L2addr) :
    (node.learnedArp devId mac).env = node.env := by
  unfold Node.learnedArp
  cases ArpTable.lookupFromDevId devId node.nsol.arpt <;> rfl

theorem nextHopAfter_learnedArp (devId : DeviceId) (mac : L2addr) (dest nxthop dst : DeviceId) :
    (node.learnedArp devId mac).nsol.nextHopAfter dest nxthop dst =
      node.nsol.nextHopAfter dest nxthop dst := by
  unfold Node.learnedArp
  cases ArpTable.lookupFromDevId devId node.nsol.arpt <;> rfl

theorem knows_learnedArp (devId other : DeviceId) (mac : L2addr) :
    (node.learnedArp devId mac).nsol.Knows other ↔ node.nsol.Knows other ∨ other = devId := by
  unfold Node.learnedArp NsoLayer.Knows
  cases known : ArpTable.lookupFromDevId devId node.nsol.arpt with
  | some entry =>
      simp only [Node.updateArpt, Node.updateLayer, ArpTable.lookupFromDevId_refresh,
        Option.isSome_map]
      constructor
      · exact Or.inl
      · rintro (isKnown | rfl)
        · exact isKnown
        · simp [known]
  | none =>
      simp only [Node.updateArpt, Node.updateLayer, ArpTable.lookupFromDevId_add]
      by_cases same : devId = other
      · simp [same]
      · simp [same, Ne.symm same]

/-! ## Route updates -/

/-- The rules fill the message: nothing is left of its size at the end. -/
def Packet.RulesWhole (pkt : Packet) : Prop :=
  0 ≤ pkt.rulesSize ∧ (rtRuleSize : Int) ∣ pkt.rulesSize

theorem rulesWhole_iff :
    pkt.rulesSize - rtRuleSize * ruleRounds pkt.rulesSize = 0 ↔ pkt.RulesWhole := by
  simp only [Packet.RulesWhole, ruleRounds, rtRuleSize]
  omega

theorem updateRoutes_returns :
    (updateRoutes pkt).wp ifacesInRange { post := fun _ _ _ => True } held node ↔
      (∀ rule ∈ pkt.routeRules, rule.ifIndex.toNat < node.nsol.ifacesNb) ∧ pkt.RulesWhole := by
  rw [wp_updateRoutes, rulesWhole_iff, and_true]

/-- The forwarding of a message, where the node is connected. -/
def SurvivesFwd (held : Lock → Bool) (node : Node) (pkt : Packet) : Prop :=
  held .state = false ∧
    (node.nsol.devState = .connected →
      FwdReturns held node (node.nsol.nextHop pkt.dstDevid) node.nsol.Knows)

/-- A route update for a registered node: its rules are whole and name interfaces. -/
def SurvivesRoutes (held : Lock → Bool) (node : Node) (pkt : Packet) : Prop :=
  (pkt.dstDevid = node.nsol.devId →
    held .state = false ∧
      (node.nsol.devState ≠ .unreg →
        (∀ rule ∈ pkt.routeRules, rule.ifIndex.toNat < node.nsol.ifacesNb) ∧
          pkt.RulesWhole)) ∧
  (pkt.dstDevid ≠ node.nsol.devId → SurvivesFwd held node pkt)

theorem whenConnected_returns (free : TablesFree held) :
    (if held .state = true then False
      else if node.nsol.devState ≠ .connected then True
      else (deliverFwd pkt).wp ifacesInRange { post := fun _ _ _ => True } held node) ↔
      SurvivesFwd held node pkt := by
  simp only [SurvivesFwd, deliverFwd_returns free]
  cases held .state with
  | true => simp
  | false => by_cases connected : node.nsol.devState = .connected <;> simp [connected]

theorem routeUpdateWith_returns (free : TablesFree held) {accept : Prog Bool}
    {promote : Node → Node} (sameIfaces : (promote node).nsol.ifaces = node.nsol.ifaces)
    (admits : ∀ ending : Ending Node Lock Halt Bool, accept.wp ifacesInRange ending held node =
      if held .state = true then ending.block .state held node
      else ending.post (decide (node.nsol.devState ≠ .unreg)) held (promote node)) :
    (routeUpdateWith accept pkt).wp ifacesInRange { post := fun _ _ _ => True } held node ↔
      SurvivesRoutes held node pkt := by
  rw [wp_routeUpdateWith tolerant_ifacesInRange admits]
  simp only [SurvivesRoutes, updateRoutes_returns]
  by_cases forMe : pkt.dstDevid = node.nsol.devId
  · rw [if_pos forMe]
    simp only [forMe, forall_const, ne_eq, not_true_eq_false, false_implies, and_true]
    cases held .state with
    | true => simp
    | false =>
      by_cases isUnreg : node.nsol.devState = .unreg
      · simp [isUnreg]
      · simp [isUnreg, NsoLayer.ifacesNb, sameIfaces]
  · rw [if_neg forMe, whenConnected_returns free]
    simp [forMe]

/-! ## Runs -/

section Runs

variable {κ ρ : Type} {body : κ → Prog Unit} {message : κ → Option ρ} {handles : ρ → Prog Packet}
  {survives : ρ → (Lock → Bool) → Node → Prop} {initial : Node → Prop}

/-- An event of a run in which every message meets its condition and nothing else ends
the process. -/
def EventSurvives (body : κ → Prog Unit) (message : κ → Option ρ)
    (survives : ρ → (Lock → Bool) → Node → Prop) (event : κ) (held : Lock → Bool)
    (node : Node) : Prop :=
  match message event with
  | some rx => survives rx held node
  | none => ∀ reason, ((body event).exec held node).result ≠ .halted reason

/-- The handler of a received message comes back. -/
def EventComesBack (message : κ → Option ρ) (handles : ρ → Prog Packet) (event : κ)
    (held : Lock → Bool) (node : Node) : Prop :=
  ∀ rx, message event = some rx → Returns (handles rx) held node

/-- Where single messages come back exactly under their condition, a run whose messages
all meet it brings them all back. -/
theorem eachCall_comesBack
    (bodies : ∀ event rx, message event = some rx → body event = do let _ ← handles rx)
    (single : ∀ held node, Sequence body initial held node →
      ∀ rx, Returns (handles rx) held node ↔ survives rx held node)
    (isInitial : initial node) {events : List κ}
    (meets : EachCall body (EventSurvives body message survives) events (fun _ => false) node) :
    EachCall body (EventComesBack message handles) events (fun _ => false) node := by
  refine EachCall.mono ?_ ?_ (.start isInitial) meets
  · intro event held node reachable survived
    unfold EventSurvives at survived
    cases isMessage : message event with
    | some rx =>
        rw [isMessage] at survived
        have returns := (returns_iff_wp _).mp ((single held node reachable rx).mpr survived)
        apply not_halted_of_wp fun _ _ _ => True
        rw [bodies event rx isMessage, wp_bind]
        exact returns
    | none =>
        rw [isMessage] at survived
        exact survived
  · intro event held node reachable survived rx isMessage
    rw [EventSurvives, isMessage] at survived
    exact (single held node reachable rx).mpr survived

end Runs

end Nrg5
