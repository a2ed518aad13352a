import Nrg5.Network.Model

/-!
# The calls that the threads make

A station makes some calls in a fixed order: its transmit thread registers first, and only a
connected station reports and advertises.  The runs here keep to this order, and a unicast
frame is received only by the station that it names.  They are runs of the network as it is
modelled, which leaves the order open.  A run is given by its turns, and it can be played.
-/

namespace Nrg5

open LockProg

/-- Where the transmit thread of a station stands: in the loop that registers it, at the head of
the loop behind, or between the report and the advertisement there. -/
inductive TxPhase : Type where
  | registering
  | reporting
  | advertising
  deriving DecidableEq

/-- `__tx_thread_main` of a device makes a call and is somewhere behind it.  The other threads
make their calls at any time. -/
def Device.txThreadMain (devState : DevState) : TxPhase → Device.Event → Option TxPhase
  | .registering, .beacon => if devState = .unreg then some .registering else none
  -- the first report, behind the loop that registers
  | .registering, .topoReport => if devState = .unreg then none else some .reporting
  | .reporting, .topoReport => if devState = .connected then some .advertising else none
  | .advertising, .advertise => some .reporting
  | _, .beacon => none
  | _, .topoReport => none
  | _, .advertise => none
  | phase, _ => some phase

/-- `__tx_thread_main` of the base station, which makes no report before its loop. -/
def Bs.txThreadMain (devState : DevState) : TxPhase → Bs.Event → Option TxPhase
  | .registering, .register => if devState = .unreg then some .registering else none
  | .advertising, .advertise => some .reporting
  | .advertising, .topoReport => none
  | _, .topoReport => if devState = .connected then some .advertising else none
  | _, .register => none
  | _, .advertise => none
  | phase, _ => some phase

/-- The packet that a call reads. -/
def Device.Event.read : Device.Event → Option Packet
  | .receive rx => some rx.pkt
  | _ => none

def Bs.Event.read : Bs.Event → Option Packet
  | .receive rx => some rx.pkt
  | .vnfMessage pkt => some pkt
  | _ => none

/-- A packet is an update of the routes. -/
def UpdatesRoutes (pkt : Packet) : Prop := pkt.proto = protoCpVson ∧ pkt.msgType = sonMsgRt

instance (pkt : Packet) : Decidable (UpdatesRoutes pkt) := inferInstanceAs (Decidable (_ ∧ _))

namespace Network

variable {ι : Type}

/-- A station hears a frame that is for all or for one of its own addresses. -/
def HearsOwn (net : Network ι) (state : NetState ι) (s : Option ι) (pkt : Packet) (src : L2addr) :
    Prop :=
  ∃ sender slot frame stale dest, (slot, frame) ∈ (state.node sender).air ∧
    stale.data = headroom ∧ stale.size = (net.station s).mtu ∧
      wifiReceive stale (.frame frame) = ⟨0, pkt, some (src, dest)⟩ ∧
        (dest = bcMac ∨ ∃ iface ∈ (net.station s).ifaces, dest = iface.ifMac)

theorem HearsOwn.hears {net : Network ι} {state : NetState ι} {s : Option ι} {pkt : Packet}
    {src : L2addr} (hears : net.HearsOwn state s pkt src) : net.Hears state s pkt src := by
  rcases hears with ⟨sender, slot, frame, stale, dest, isSent, room, size, receives, _⟩
  exact ⟨sender, slot, frame, stale, dest, isSent, room, size, receives⟩

/-- The station that makes the call takes no frame that is for another one. -/
def TakesOwn (net : Network ι) (state : NetState ι) : Option ι → Device.Event ⊕ Bs.Event → Prop
  | some i, .inl (.receive rx) => net.HearsOwn state (some i) rx.pkt rx.src
  | none, .inr (.receive rx) => net.HearsOwn state none rx.pkt (rx.origin.src.getD [])
  | _, _ => True

variable [DecidableEq ι] {net : Network ι} {state next : NetState ι}

/-- A step in which a unicast frame is received only by the station that it names. -/
inductive OwnStep (net : Network ι) (state : NetState ι) : NetState ι → Prop where
  | device (i : ι) (event : Device.Event) (alive : state.exited (some i) = false)
      (may : net.DeviceMay state i event) (goes : ¬ Waits state (some i) event.body)
      (own : net.TakesOwn state (some i) (.inl event)) :
      OwnStep net state (run state (some i) event.body)
  | baseStation (event : Bs.Event) (alive : state.exited none = false)
      (may : net.BsMay state event) (goes : ¬ Waits state none event.body)
      (own : net.TakesOwn state none (.inr event)) :
      OwnStep net state (run state none event.body)
  | vtsd (services : Vtsd.Services) {fd : Nat} {request reply : List UInt8}
      (written : (fd, request) ∈ (state.node none).vnfTx)
      (answers : Vtsd.listenToBs services request = some reply) :
      OwnStep net state { state with replies := state.replies ++ [reply] }

theorem OwnStep.step (own : net.OwnStep state next) : net.Step state next := by
  cases own with
  | device i event alive may goes own => exact .device i event alive may goes
  | baseStation event alive may goes own => exact .baseStation event alive may goes
  | vtsd services written answers => exact .vtsd services written answers

/-! ## Runs of the threads -/

/-- The stations, and where their transmit threads stand. -/
structure Scene (ι : Type) where
  phase : Option ι → TxPhase
  state : NetState ι

/-- A step in which the station makes a call that its threads make. -/
inductive ThreadStep (net : Network ι) (scene : Scene ι) : Scene ι → Prop where
  | device (i : ι) (event : Device.Event) {phase : TxPhase}
      (thread : Device.txThreadMain (scene.state.node (some i)).nsol.devState
        (scene.phase (some i)) event = some phase)
      (alive : scene.state.exited (some i) = false) (may : net.DeviceMay scene.state i event)
      (goes : ¬ Waits scene.state (some i) event.body)
      (own : net.TakesOwn scene.state (some i) (.inl event)) :
      ThreadStep net scene
        ⟨Function.update scene.phase (some i) phase, run scene.state (some i) event.body⟩
  | baseStation (event : Bs.Event) {phase : TxPhase}
      (thread : Bs.txThreadMain (scene.state.node none).nsol.devState (scene.phase none) event =
        some phase)
      (alive : scene.state.exited none = false) (may : net.BsMay scene.state event)
      (goes : ¬ Waits scene.state none event.body)
      (own : net.TakesOwn scene.state none (.inr event)) :
      ThreadStep net scene
        ⟨Function.update scene.phase none phase, run scene.state none event.body⟩
  | vtsd (services : Vtsd.Services) {fd : Nat} {request reply : List UInt8}
      (written : (fd, request) ∈ (scene.state.node none).vnfTx)
      (answers : Vtsd.listenToBs services request = some reply) :
      ThreadStep net scene
        ⟨scene.phase, { scene.state with replies := scene.state.replies ++ [reply] }⟩

theorem ThreadStep.own {scene after : Scene ι} (step : net.ThreadStep scene after) :
    net.OwnStep scene.state after.state := by
  cases step with
  | device i event thread alive may goes own => exact .device i event alive may goes own
  | baseStation event thread alive may goes own => exact .baseStation event alive may goes own
  | vtsd services written answers => exact .vtsd services written answers

/-- The runs in which every station makes its calls in the order of its threads. -/
inductive ThreadRun (net : Network ι) : Scene ι → Prop where
  | start {state : NetState ι} (initial : net.Initial state) :
      ThreadRun net ⟨fun _ => .registering, state⟩
  | step {scene after : Scene ι} (before : ThreadRun net scene)
      (step : net.ThreadStep scene after) : ThreadRun net after

theorem ThreadRun.reachable {scene : Scene ι} (run : net.ThreadRun scene) :
    net.Reachable scene.state := by
  induction run with
  | start initial => exact .start initial
  | step before step ih => exact ih.step step.own.step

/-! ## Playing a run -/

/-- A turn of a run: a station makes a call of its own, it receives on one of its interfaces a
frame that is in the air, the vTSD answers a message of the base station, or the base station
reads an answer.  Frames, interfaces, messages and answers are given by their places. -/
inductive Turn (ι : Type) : Type where
  | device (i : ι) (event : Device.Event)
  | baseStation (event : Bs.Event)
  | deviceHears (i : ι) (sender : Option ι) (frame iface : Nat)
  | bsHears (sender : Option ι) (frame iface : Nat)
  | vtsd (message : Nat)
  | bsReads (reply : Nat)

/-- The station runs, and the call need not wait. -/
def Goes (state : NetState ι) (s : Option ι) (body : Prog Unit) : Prop :=
  state.exited s = false ∧ ¬ Waits state s body

omit [DecidableEq ι] in
instance (state : NetState ι) (s : Option ι) (body : Prog Unit) : Decidable (Goes state s body) :=
  inferInstanceAs (Decidable (_ ∧ ¬ (_ = _)))

/-- What a station gets of a frame that is in the air, if it is for this station. -/
def heardFrame (net : Network ι) (state : NetState ι) (s sender : Option ι) (frame iface : Nat) :
    Option (Packet × L2addr × NsoIf) := do
  let sent ← (state.node sender).air[frame]?
  let nsoIf ← (net.station s).ifaces[iface]?
  let heard := wifiReceive (allocPacket (fun _ => 0) (net.station s).mtu) (.frame sent.2)
  let addrs ← heard.addrs
  if heard.ret = 0 ∧ (addrs.2 = bcMac ∨ ∃ own ∈ (net.station s).ifaces, addrs.2 = own.ifMac) ∧
      ¬ UpdatesRoutes heard.pkt then
    some (heard.pkt, addrs.1, nsoIf)
  else none

def deviceCall (scene : Scene ι) (i : ι) (event : Device.Event) : Option (Scene ι) := do
  let phase ← Device.txThreadMain (scene.state.node (some i)).nsol.devState (scene.phase (some i))
    event
  if Goes scene.state (some i) event.body then
    some ⟨Function.update scene.phase (some i) phase, run scene.state (some i) event.body⟩
  else none

def bsCall (scene : Scene ι) (event : Bs.Event) : Option (Scene ι) := do
  let phase ← Bs.txThreadMain (scene.state.node none).nsol.devState (scene.phase none) event
  if Goes scene.state none event.body then
    some ⟨Function.update scene.phase none phase, run scene.state none event.body⟩
  else none

/-- The scene behind a turn, if the turn can be taken. -/
def Turn.take (net : Network ι) (scene : Scene ι) : Turn ι → Option (Scene ι)
  | .device _ (.receive _) => none
  | .device i (.send buf dst proto) =>
      if dispatch proto = .data then deviceCall scene i (.send buf dst proto) else none
  | .device i event => deviceCall scene i event
  | .baseStation (.receive _) => none
  | .baseStation (.vnfMessage _) => none
  | .baseStation (.send buf dst proto) =>
      if dispatch proto = .data then bsCall scene (.send buf dst proto) else none
  | .baseStation event => bsCall scene event
  | .deviceHears i sender frame iface => do
      let heard ← heardFrame net scene.state (some i) sender frame iface
      deviceCall scene i (.receive ⟨dispatch heard.1.proto, heard.1, heard.2.1, heard.2.2⟩)
  | .bsHears sender frame iface => do
      let heard ← heardFrame net scene.state none sender frame iface
      bsCall scene (.receive ⟨dispatch heard.1.proto, heard.1, .air heard.2.1 heard.2.2⟩)
  | .vtsd message => do
      let written ← (scene.state.node none).vnfTx[message]?
      let reply ← Vtsd.listenToBs ⟨true, 200⟩ written.2
      some ⟨scene.phase, { scene.state with replies := scene.state.replies ++ [reply] }⟩
  | .bsReads reply => do
      let bytes ← scene.state.replies[reply]?
      let read ← Bs.readPktFromVnf (fun _ => 0) (net.station none).mtu ⟨[bytes], .waits⟩
      if UpdatesRoutes read.1 then none else bsCall scene (.vnfMessage read.1)

/-- The scene behind some turns, if they can be taken one behind the other. -/
def play (net : Network ι) : List (Turn ι) → Scene ι → Option (Scene ι)
  | [], scene => some scene
  | turn :: later, scene => (turn.take net scene).bind (play net later)

/-- The scene behind some turns of stations that have just been initialised. -/
def played (net : Network ι) (state : NetState ι) (turns : List (Turn ι)) : Scene ι :=
  (net.play turns ⟨fun _ => .registering, state⟩).getD ⟨fun _ => .registering, state⟩

/-- The turns can be taken. -/
def Plays (net : Network ι) (state : NetState ι) (turns : List (Turn ι)) : Prop :=
  (net.play turns ⟨fun _ => .registering, state⟩).isSome = true

instance (net : Network ι) (state : NetState ι) (turns : List (Turn ι)) :
    Decidable (net.Plays state turns) := inferInstanceAs (Decidable (_ = true))

variable {scene after : Scene ι} {turn : Turn ι} {turns : List (Turn ι)} {i : ι}

omit [DecidableEq ι] in
theorem hearsOwn_of_heardFrame {s sender : Option ι} {frame iface : Nat} {pkt : Packet}
    {src : L2addr} {nsoIf : NsoIf}
    (isHeard : net.heardFrame state s sender frame iface = some (pkt, src, nsoIf)) :
    net.HearsOwn state s pkt src ∧ nsoIf ∈ (net.station s).ifaces ∧ ¬ UpdatesRoutes pkt := by
  rcases Option.bind_eq_some_iff.mp isHeard with ⟨⟨slot, sent⟩, inAir, onIface⟩
  rcases Option.bind_eq_some_iff.mp onIface with ⟨own, isOwn, reads⟩
  rcases Option.bind_eq_some_iff.mp reads with ⟨⟨source, dest⟩, addrs, ends⟩
  rw [Option.ite_none_right_eq_some, Option.some.injEq, Prod.mk.injEq, Prod.mk.injEq] at ends
  rcases ends with ⟨⟨isOk, forMe, notRoutes⟩, rfl, rfl, rfl⟩
  refine ⟨⟨sender, slot, sent, allocPacket (fun _ => 0) (net.station s).mtu, dest,
    List.mem_of_getElem? inAir, rfl, rfl, ?_, forMe⟩, List.mem_of_getElem? isOwn, notRoutes⟩
  rw [← addrs, ← isOk]

theorem of_deviceCall {event : Device.Event} (calls : deviceCall scene i event = some after) :
    ∃ phase, Device.txThreadMain (scene.state.node (some i)).nsol.devState (scene.phase (some i))
        event = some phase ∧ Goes scene.state (some i) event.body ∧
      after = ⟨Function.update scene.phase (some i) phase,
        run scene.state (some i) event.body⟩ := by
  rcases Option.bind_eq_some_iff.mp calls with ⟨phase, thread, goesOn⟩
  rw [Option.ite_none_right_eq_some, Option.some.injEq] at goesOn
  exact ⟨phase, thread, goesOn.1, goesOn.2.symm⟩

theorem of_bsCall {event : Bs.Event} (calls : bsCall scene event = some after) :
    ∃ phase, Bs.txThreadMain (scene.state.node none).nsol.devState (scene.phase none) event =
        some phase ∧ Goes scene.state none event.body ∧
      after = ⟨Function.update scene.phase none phase, run scene.state none event.body⟩ := by
  rcases Option.bind_eq_some_iff.mp calls with ⟨phase, thread, goesOn⟩
  rw [Option.ite_none_right_eq_some, Option.some.injEq] at goesOn
  exact ⟨phase, thread, goesOn.1, goesOn.2.symm⟩

/-- What a turn does: a device or the base station makes a call that reads no update of the
routes, or the vTSD answers. -/
theorem take_cases (takes : turn.take net scene = some after) :
    (∃ i event, deviceCall scene i event = some after ∧ net.DeviceMay scene.state i event ∧
      net.TakesOwn scene.state (some i) (.inl event) ∧ ∀ pkt ∈ event.read, ¬ UpdatesRoutes pkt) ∨
    (∃ event, bsCall scene event = some after ∧ net.BsMay scene.state event ∧
      net.TakesOwn scene.state none (.inr event) ∧ ∀ pkt ∈ event.read, ¬ UpdatesRoutes pkt) ∨
    ∃ services fd request reply, (fd, request) ∈ (scene.state.node none).vnfTx ∧
      Vtsd.listenToBs services request = some reply ∧
      after = ⟨scene.phase, { scene.state with replies := scene.state.replies ++ [reply] }⟩ := by
  have nothing : ∀ pkt ∈ (none : Option Packet), ¬ UpdatesRoutes pkt :=
    fun pkt isRead => absurd isRead (Option.not_mem_none pkt)
  cases turn with
  | device i event =>
      left
      cases event with
      | receive rx => cases takes
      | send buf dst proto =>
          rw [Turn.take, Option.ite_none_right_eq_some] at takes
          exact ⟨i, _, takes.2, takes.1, trivial, nothing⟩
      | _ => exact ⟨i, _, takes, trivial, trivial, nothing⟩
  | baseStation event =>
      right
      left
      cases event with
      | receive rx => cases takes
      | vnfMessage pkt => cases takes
      | send buf dst proto =>
          rw [Turn.take, Option.ite_none_right_eq_some] at takes
          exact ⟨_, takes.2, takes.1, trivial, nothing⟩
      | _ => exact ⟨_, takes, trivial, trivial, nothing⟩
  | deviceHears i sender frame iface =>
      left
      rcases Option.bind_eq_some_iff.mp takes with ⟨⟨pkt, src, nsoIf⟩, isHeard, calls⟩
      rcases hearsOwn_of_heardFrame isHeard with ⟨hears, isOwn, notRoutes⟩
      refine ⟨i, _, calls, ⟨hears.hears, rfl, isOwn⟩, hears, ?_⟩
      rintro read isRead
      rcases Option.mem_some.mp isRead with rfl
      exact notRoutes
  | bsHears sender frame iface =>
      right
      left
      rcases Option.bind_eq_some_iff.mp takes with ⟨⟨pkt, src, nsoIf⟩, isHeard, calls⟩
      rcases hearsOwn_of_heardFrame isHeard with ⟨hears, isOwn, notRoutes⟩
      refine ⟨_, calls, ⟨src, nsoIf, isOwn, rfl, hears.hears, rfl⟩, hears, ?_⟩
      rintro read isRead
      rcases Option.mem_some.mp isRead with rfl
      exact notRoutes
  | vtsd message =>
      right
      right
      rcases Option.bind_eq_some_iff.mp takes with ⟨⟨fd, request⟩, isWritten, goesOn⟩
      rcases Option.bind_eq_some_iff.mp goesOn with ⟨reply, answers, ends⟩
      exact ⟨_, fd, request, reply, List.mem_of_getElem? isWritten, answers,
        (Option.some.inj ends).symm⟩
  | bsReads reply =>
      right
      left
      rcases Option.bind_eq_some_iff.mp takes with ⟨bytes, isReply, goesOn⟩
      rcases Option.bind_eq_some_iff.mp goesOn with ⟨⟨pkt, left⟩, reads, calls⟩
      rw [Option.ite_none_left_eq_some] at calls
      refine ⟨_, calls.2, ⟨bytes, [], ⟨[bytes], .waits⟩, left, _,
        .inl (List.mem_of_getElem? isReply), ?_, reads⟩, trivial, ?_⟩
      · rw [List.append_nil]
        exact List.append_nil _
      · rintro read isRead
        rcases Option.mem_some.mp isRead with rfl
        exact calls.1

theorem threadStep_take (takes : turn.take net scene = some after) :
    net.ThreadStep scene after := by
  rcases take_cases takes with ⟨i, event, calls, may, own, _⟩ | ⟨event, calls, may, own, _⟩ |
    ⟨services, fd, request, reply, written, answers, rfl⟩
  · rcases of_deviceCall calls with ⟨phase, thread, goes, rfl⟩
    exact .device i event thread goes.1 may goes.2 own
  · rcases of_bsCall calls with ⟨phase, thread, goes, rfl⟩
    exact .baseStation event thread goes.1 may goes.2 own
  · exact .vtsd services written answers

/-- What each turn keeps, a run that is played keeps. -/
theorem play_keeps {inv : Scene ι → Prop}
    (keeps : ∀ (turn : Turn ι) scene after, turn.take net scene = some after → inv scene →
      inv after)
    (plays : net.play turns scene = some after) (before : inv scene) : inv after := by
  induction turns generalizing scene with
  | nil => exact Option.some.inj plays ▸ before
  | cons turn later ih =>
      rcases Option.bind_eq_some_iff.mp plays with ⟨mid, takes, goesOn⟩
      exact ih goesOn (keeps turn scene mid takes before)

theorem played_keeps {inv : Scene ι → Prop}
    (keeps : ∀ (turn : Turn ι) scene after, turn.take net scene = some after → inv scene →
      inv after)
    (plays : net.Plays state turns) (atStart : inv ⟨fun _ => .registering, state⟩) :
    inv (net.played state turns) := by
  rcases Option.isSome_iff_exists.mp plays with ⟨after, isAfter⟩
  rw [played, isAfter]
  exact play_keeps keeps isAfter atStart

theorem threadRun_played (initial : net.Initial state) (plays : net.Plays state turns) :
    net.ThreadRun (net.played state turns) :=
  played_keeps (fun _ _ _ takes run => run.step (threadStep_take takes)) plays (.start initial)

end Network

end Nrg5
