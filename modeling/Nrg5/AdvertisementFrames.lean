import Nrg5.ControlSize
import Nrg5.Network.Advertisement

/-!
# Frames of an advertisement

Each turn of the loop in `son_nbr_advertise` puts an Ethernet header in front of the packet
and leaves it there.  So the second frame has two headers, and the fifth interface finds a
headroom that is used up.
-/

namespace Nrg5

open ByteMemory LockProg

/-- The node where `sendto` takes every frame; what it answers changes nothing in the loop. -/
def Node.accepting (node : Node) : Node :=
  { node with env := { node.env with sendtoFails := false } }

/-- `son_nbr_advertise` returns, and hands to each interface one frame: the Ethernet header of
the interface and the packet of `__get_nbr_adv_pkt`, whose length field is its size. -/
def AdvertisesAlike (held : Lock → Bool) (node : Node) : Prop :=
  ∃ pkt, (getNbrAdvPkt.exec held node).result = .done pkt ∧
    pkt.bytes.length = pkt.wireLength ∧
    (sonNbrAdvertise.exec held node.accepting).result = .done () ∧
    (sonNbrAdvertise.exec held node.accepting).state.air =
      node.air ++ node.nsol.ifaces.map fun iface =>
        (iface.ifIndex, ethHeader iface.ifMac bcMac ++ pkt.bytes)

/-! ## The frames of the loop -/

/-- The frames that the loop hands over, from a packet on. -/
def framesOn : List NsoIf → Packet → List (Nat × List UInt8)
  | [], _ => []
  | iface :: rest, pkt =>
      (if pkt.data < ethHlen then []
        else [(iface.ifIndex, (pkt.prependEth iface.ifMac bcMac).bytes)]) ++
        framesOn rest (pkt.sentOn iface bcMac)

variable {held : Lock → Bool} {node : Node} {pkt : Packet} {ifaces : List NsoIf}

theorem air_sentOn_accepting (accepts : node.env.sendtoFails = false) (iface : NsoIf)
    (dest : L2addr) :
    (node.sentOn iface pkt dest).air =
      node.air ++ if pkt.data < ethHlen then []
        else [(iface.ifIndex, (pkt.prependEth iface.ifMac dest).bytes)] := by
  rw [Node.sentOn]
  split
  · rw [List.append_nil]
  · rw [Node.sendFrame, accepts]
    rfl

theorem env_sentOn (iface : NsoIf) (dest : L2addr) :
    (node.sentOn iface pkt dest).env = node.env := by
  rw [Node.sentOn]
  split
  · rfl
  · rw [Node.sendFrame]
    split <;> rfl

theorem wp_advertiseOn (accepts : node.env.sendtoFails = false) :
    (advertiseOn ifaces pkt).wp (fun _ _ => True)
      { post := fun _ _ after => after.air = node.air ++ framesOn ifaces pkt } held node := by
  induction ifaces generalizing pkt node with
  | nil => exact (List.append_nil _).symm
  | cons iface rest ih =>
      rw [advertiseOn, nsoIfBroadcast, wifiBroadcast, wp_bind, wp_wifiSend tolerant_true]
      dsimp only
      have goesOn := @ih (node.sentOn iface pkt bcMac) (pkt.sentOn iface bcMac)
        (by rw [env_sentOn, accepts])
      rw [air_sentOn_accepting accepts, List.append_assoc] at goesOn
      exact goesOn

/-- The headroom is enough for one frame for every fourteen bytes of it. -/
theorem length_framesOn :
    (framesOn ifaces pkt).length = min ifaces.length (pkt.data / ethHlen) := by
  induction ifaces generalizing pkt with
  | nil => simp [framesOn]
  | cons iface rest ih =>
      rw [framesOn, List.length_append, ih, List.length_cons, Packet.sentOn]
      split
      · rename_i noRoom
        rw [Nat.div_eq_of_lt noRoom]
        simp
      · rename_i room
        have data : (pkt.prependEth iface.ifMac bcMac).data = pkt.data - ethHlen := rfl
        rw [data, List.length_singleton]
        simp only [ethHlen] at room ⊢
        omega

/-- The second frame starts with the header of the second interface and that of the first. -/
theorem second_framesOn (first second : NsoIf) (rest : List NsoIf) (sized : 0 ≤ pkt.byteLen)
    (room : 2 * ethHlen ≤ pkt.data) :
    (framesOn (first :: second :: rest) pkt)[1]? =
      some (second.ifIndex, ethHeader second.ifMac bcMac ++
        (ethHeader first.ifMac bcMac ++ pkt.bytes)) := by
  simp only [ethHlen] at room
  have firstRoom : ethHlen ≤ pkt.data := by
    simp only [ethHlen]
    omega
  rcases sentOn_bytes firstRoom sized first with ⟨bytes, byteLen, data⟩
  have secondRoom : ethHlen ≤ (pkt.sentOn first bcMac).data := by
    rw [data]
    simp only [ethHlen]
    omega
  have stillSized : 0 ≤ (pkt.sentOn first bcMac).byteLen := by
    rw [byteLen]
    simp only [ethHlen]
    omega
  rw [framesOn, framesOn, if_neg (Nat.not_lt.mpr firstRoom), if_neg (Nat.not_lt.mpr secondRoom),
    bytes_prependEth secondRoom stillSized second.macSize, bytes]
  rfl

/-! ## The advertisement -/

/-- The packet of `__get_nbr_adv_pkt`. -/
def nbrAdvPkt (node : Node) : Packet :=
  finishControl (beginControl node.env.junk node.nsol.mtu node.nsol.devId bcDeviceId protoCpVson
    sonMsgNbr) (nsohdrSize + 1)

theorem getNbrAdvPkt_exec : (getNbrAdvPkt.exec held node).result = .done (nbrAdvPkt node) := rfl

theorem nbrAdvPkt_sized :
    (nbrAdvPkt node).wireLength = nsohdrSize + 1 ∧
      (nbrAdvPkt node).byteLen = (nsohdrSize + 1 : Nat) ∧ (nbrAdvPkt node).data = headroom := by
  have empty : (beginControl node.env.junk node.nsol.mtu node.nsol.devId bcDeviceId protoCpVson
      sonMsgNbr).byteLen = 0 := rfl
  have wellSized := (@finishControl_wellSized_iff _ (nsohdrSize + 1) (nsohdrSize + 1) empty
    le_rfl).mpr ⟨le_rfl, by decide⟩
  exact ⟨wellSized.length, wellSized.byteLen, rfl⟩

theorem length_nbrAdvPkt : (nbrAdvPkt node).bytes.length = nsohdrSize + 1 := by
  rw [Packet.bytes, Memory.length_read, nbrAdvPkt_sized.2.1, Int.toNat_natCast]

/-- The call returns, with the frames of the loop in the air. -/
theorem sonNbrAdvertise_exec :
    (sonNbrAdvertise.exec held node.accepting).result = .done () ∧
      (sonNbrAdvertise.exec held node.accepting).state.air =
        node.air ++ framesOn node.nsol.ifaces (nbrAdvPkt node) := by
  have ends : sonNbrAdvertise.wp (fun _ _ => True)
      { post := fun _ _ after =>
          after.air = node.air ++ framesOn node.nsol.ifaces (nbrAdvPkt node) }
      held node.accepting := by
    rw [sonNbrAdvertise, wp_bind, getNbrAdvPkt]
    simp only [wp_bind, wp_query, wp_pure, true_and]
    exact @wp_advertiseOn held node.accepting (nbrAdvPkt node) node.nsol.ifaces rfl
  rcases (wp_done_iff_exec _ _).mp ends with ⟨_, value, isDone, air⟩
  exact ⟨isDone, air⟩

/-- A node hands the same advertisement to all of its interfaces exactly when it has one, and
it hands a frame to four of them at most. -/
theorem advertises_alike_iff (held : Lock → Bool) (node : Node) (hasIface : node.nsol.ifaces ≠ []) :
    (AdvertisesAlike held node ↔ node.nsol.ifacesNb = 1) ∧
      ∃ frames, (sonNbrAdvertise.exec held node.accepting).state.air = node.air ++ frames ∧
        frames.length = min node.nsol.ifacesNb 4 := by
  rcases @sonNbrAdvertise_exec held node with ⟨returns, air⟩
  rcases @nbrAdvPkt_sized node with ⟨wireLength, byteLen, data⟩
  have room : 2 * ethHlen ≤ (nbrAdvPkt node).data := by
    rw [data]
    decide
  have sized : 0 ≤ (nbrAdvPkt node).byteLen := by
    rw [byteLen]
    exact Int.natCast_nonneg _
  constructor
  · rw [NsoLayer.ifacesNb]
    constructor
    · rintro ⟨pkt, isBuilt, -, -, alike⟩
      rcases Result.done.inj (isBuilt.symm.trans getNbrAdvPkt_exec) with rfl
      have frames := List.append_cancel_left (air.symm.trans alike)
      generalize node.nsol.ifaces = ifaces at hasIface frames ⊢
      rcases ifaces with - | ⟨first, - | ⟨second, rest⟩⟩
      · exact absurd rfl hasIface
      · rfl
      · have secondFrame := second_framesOn first second rest sized room
        rw [frames] at secondFrame
        have sameBytes := congrArg Prod.snd (Option.some.inj secondFrame)
        have lengths := congrArg List.length sameBytes
        simp only [List.length_append, length_ethHeader, ethHlen] at lengths
        omega
    · intro one
      refine ⟨nbrAdvPkt node, getNbrAdvPkt_exec, length_nbrAdvPkt.trans wireLength.symm,
        returns, ?_⟩
      rw [air]
      generalize node.nsol.ifaces = ifaces at one ⊢
      rcases List.length_eq_one_iff.mp one with ⟨iface, rfl⟩
      have enough : ethHlen ≤ (nbrAdvPkt node).data := by
        simp only [ethHlen] at room ⊢
        omega
      rw [framesOn, if_neg (Nat.not_lt.mpr enough), bytes_prependEth enough sized iface.macSize]
      rfl
  · refine ⟨_, air, ?_⟩
    rw [length_framesOn, data]
    rfl

/-! ### Two interfaces -/

theorem wlan_mac : [(2 : UInt8), 0, 0, 0, 0, 9].length = ethAlen := rfl

def wlan9 : NsoIf := { ifIndex := 9, ifMac := [2, 0, 0, 0, 0, 9], macSize := wlan_mac }

theorem twoWlans_fit : [wlan0, wlan9].length ≤ nsoMaxSupportedIfaces := by decide

def oneWlan : Node := .start (.initial 1 2 1500 [wlan0] wlan0_fits) .nominal

def twoWlans : Node := .start (.initial 1 2 1500 [wlan0, wlan9] twoWlans_fit) .nominal

theorem twoWlans_unlike :
    1 ≤ twoWlans.nsol.ifacesNb ∧ twoWlans.nsol.ifacesNb ≤ nsoMaxSupportedIfaces ∧
      ¬ AdvertisesAlike (fun _ => false) twoWlans := by
  refine ⟨by decide, by decide, ?_⟩
  rintro ⟨pkt, isBuilt, -, -, alike⟩
  rcases Result.done.inj (isBuilt.symm.trans getNbrAdvPkt_exec) with rfl
  rw [sonNbrAdvertise_exec.2] at alike
  have frames := List.append_cancel_left alike
  have sized := congrArg (fun frames : List (Nat × List UInt8) =>
    frames.map fun frame => frame.2.length) frames
  exact absurd sized (by decide)

theorem oneWlan_alike :
    oneWlan.nsol.ifaces ≠ [] ∧ (AdvertisesAlike (fun _ => false) oneWlan ↔
      oneWlan.nsol.ifacesNb = 1) ∧
      ∃ frames, (sonNbrAdvertise.exec (fun _ => false) oneWlan.accepting).state.air =
        oneWlan.air ++ frames ∧ frames.length = min oneWlan.nsol.ifacesNb 4 :=
  ⟨List.cons_ne_nil _ _, advertises_alike_iff (fun _ => false) oneWlan (List.cons_ne_nil _ _)⟩

end Nrg5
