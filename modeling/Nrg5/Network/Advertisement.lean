import Nrg5.Network.Effects

/-!
# Advertisements on several interfaces

The packet that one interface has sent starts with the Ethernet header of that
interface, and the next interface sends it as it is.  So behind the Ethernet header of
a later frame a receiver takes the earlier Ethernet header, and what follows it, for
the NSO header.
-/

namespace Nrg5

open LockProg

variable {held : Lock → Bool} {node mid : Node} {pkt : Packet} {message : Message} {iface : NsoIf}

/-! ## A header behind a header -/

theorem length_ethHeader (iface : NsoIf) : (ethHeader iface.ifMac bcMac).length = ethHlen := by
  simp [ethHeader, iface.macSize, ethAlen, ethHlen, ethTypeNso]

/-- What the second interface sends, read as an NSO message. -/
def secondMessage (devId : DeviceId) : List NsoIf → Option Message
  | first :: _ :: _ => some (messageOf (ethHeader first.ifMac bcMac ++ deviceIdBytes devId))
  | _ => none

/-- What a receiver reads from the advertisements of a station. -/
inductive Advertised (devId : DeviceId) (ifaces : List NsoIf) : Message → Prop where
  | first : Advertised devId ifaces ⟨devId, bcDeviceId, protoCpVson, some sonMsgNbr⟩
  | second {message : Message} (isSecond : secondMessage devId ifaces = some message) :
      Advertised devId ifaces message
  | later {message : Message} (proto : message.proto = 0xffff)
      (typed : message.type.isSome = true) : Advertised devId ifaces message

theorem messageOf_behind_header (bytes : List UInt8) (eight : 8 ≤ bytes.length) :
    messageOf (ethHeader iface.ifMac bcMac ++ bytes) =
      messageOf (ethHeader iface.ifMac bcMac ++ bytes.take 8) := by
  have halves : ethHeader iface.ifMac bcMac ++ bytes =
      (ethHeader iface.ifMac bcMac ++ bytes.take 8) ++ bytes.drop 8 := by
    rw [List.append_assoc, List.take_append_drop]
  rw [halves]
  apply messageOf_append
  rw [List.length_append, length_ethHeader, List.length_take, Nat.min_eq_left eight]
  decide

/-- Behind two headers of broadcast frames there is no control message. -/
theorem messageOf_behind_headers (first second : NsoIf) (bytes : List UInt8) :
    (messageOf (ethHeader second.ifMac bcMac ++ (ethHeader first.ifMac bcMac ++ bytes))).proto =
        0xffff ∧
      (messageOf (ethHeader second.ifMac bcMac ++
        (ethHeader first.ifMac bcMac ++ bytes))).type.isSome = true := by
  have long := length_ethHeader second
  have inner : ethHeader first.ifMac bcMac ++ bytes =
      [0xff, 0xff] ++ ([0xff, 0xff] ++ (([0xff, 0xff] ++ first.ifMac ++ ethTypeNso) ++ bytes)) :=
    rfl
  constructor
  · have protoBytes : ((ethHeader second.ifMac bcMac ++
        (ethHeader first.ifMac bcMac ++ bytes)).drop 16).take 2 = [0xff, 0xff] := by
      rw [List.drop_append, long, List.drop_eq_nil_of_le (by rw [long]; decide), List.nil_append,
        inner]
      rfl
    rw [messageOf, protoBytes]
    rfl
  · rw [messageOf, nsohdrSize, List.getElem?_append_right (by rw [long]; decide), long]
    have inside : (20 : Nat) - ethHlen < (ethHeader first.ifMac bcMac ++ bytes).length := by
      rw [List.length_append, length_ethHeader]
      simp only [ethHlen]
      omega
    rw [List.getElem?_eq_getElem inside]
    rfl

/-! ## The loop -/

/-- A packet that two interfaces or more have sent. -/
structure Packet.SentTwice (pkt : Packet) : Prop where
  header : (nsohdrSize : Int) ≤ pkt.byteLen
  front : ∃ (first second : NsoIf) (bytes : List UInt8),
    pkt.bytes = ethHeader second.ifMac bcMac ++ (ethHeader first.ifMac bcMac ++ bytes)

theorem Packet.SentTwice.shows (twice : pkt.SentTwice) :
    ∃ message, pkt.Shows message ∧ message.proto = 0xffff ∧ message.type.isSome = true := by
  rcases twice.front with ⟨first, second, bytes, front⟩
  refine ⟨messageOf pkt.bytes, ⟨twice.header, rfl⟩, ?_⟩
  rw [front]
  exact messageOf_behind_headers first second bytes

theorem sentOn_bytes (room : ethHlen ≤ pkt.data) (sized : 0 ≤ pkt.byteLen) (iface : NsoIf) :
    (pkt.sentOn iface bcMac).bytes = ethHeader iface.ifMac bcMac ++ pkt.bytes ∧
      (pkt.sentOn iface bcMac).byteLen = pkt.byteLen + ethHlen ∧
      (pkt.sentOn iface bcMac).data = pkt.data - ethHlen := by
  rw [Packet.sentOn, if_neg (Nat.not_lt.mpr room)]
  exact ⟨bytes_prependEth room sized iface.macSize, rfl, rfl⟩

/-- A third header does not change what a receiver reads. -/
theorem Packet.SentTwice.again (twice : pkt.SentTwice) (iface : NsoIf) :
    (pkt.sentOn iface bcMac).SentTwice := by
  rcases Nat.lt_or_ge pkt.data ethHlen with noRoom | room
  · rw [Packet.sentOn, if_pos noRoom]
    exact twice
  · have header := twice.header
    simp only [nsohdrSize] at header
    rcases sentOn_bytes room (by omega) iface with ⟨bytes, byteLen, _⟩
    rcases twice.front with ⟨first, second, rest, front⟩
    refine ⟨?_, second, iface, ethHeader first.ifMac bcMac ++ rest, ?_⟩
    · rw [byteLen]
      simp only [nsohdrSize, ethHlen]
      omega
    · rw [bytes, front]

variable {all : List NsoIf} {own : Message → Prop}

theorem advertiseOn_turn {rest : List NsoIf} {inv : Node → Prop} (isOwn : iface ∈ all)
    (before : Originates all own node mid) (showing : pkt.Shows message) (isMessage : own message)
    (goesOn : ∀ after, Originates all own node after →
      (advertiseOn rest (pkt.sentOn iface bcMac)).wp (fun _ _ => True) (.always inv) held after) :
    (advertiseOn (iface :: rest) pkt).wp (fun _ _ => True) (.always inv) held mid := by
  rw [advertiseOn, nsoIfBroadcast, wifiBroadcast, wp_bind, wp_wifiSend tolerant_true]
  exact goesOn _ (.broadcast isOwn before showing isMessage (.refl _))

/-- From the second interface on, every advertisement reads alike. -/
theorem advertiseOn_sentTwice {ifaces : List NsoIf} (twice : pkt.SentTwice)
    (areOwn : ∀ iface ∈ ifaces, iface ∈ all) (before : Originates all own node mid)
    (later : ∀ message : Message,
      message.proto = 0xffff → message.type.isSome = true → own message) :
    (advertiseOn ifaces pkt).wp (fun _ _ => True) (.always (Originates all own node)) held mid := by
  induction ifaces generalizing pkt mid with
  | nil => exact before
  | cons iface rest ih =>
      rcases twice.shows with ⟨message, showing, proto, typed⟩
      apply advertiseOn_turn (areOwn iface List.mem_cons_self) before showing
        (later message proto typed)
      exact fun after originates =>
        ih (twice.again iface) (fun other isMem => areOwn other (List.mem_cons_of_mem _ isMem))
          originates

theorem take_bytes_of_shows (showing : pkt.Shows message) :
    pkt.bytes.take 8 = deviceIdBytes message.src := by
  have long := showing.header
  simp only [nsohdrSize] at long
  have eight : (pkt.bytes.take 8).length = 8 := by
    rw [List.length_take, Packet.bytes, ByteMemory.Memory.length_read]
    omega
  rw [← showing.message, messageOf, deviceIdBytes_deviceIdOfBytes eight]

/-- The first interface sends the advertisement, and the second one a frame that reads as
something else. -/
theorem advertiseOn_originates {devId : DeviceId} {ifaces : List NsoIf}
    (before : Originates ifaces (Advertised devId ifaces) node mid)
    (showing : pkt.Shows ⟨devId, bcDeviceId, protoCpVson, some sonMsgNbr⟩)
    (isNew : pkt.data = headroom) :
    (advertiseOn ifaces pkt).wp (fun _ _ => True)
      (.always (Originates ifaces (Advertised devId ifaces) node)) held mid := by
  have header := showing.header
  simp only [nsohdrSize] at header
  have room : ethHlen ≤ pkt.data := by
    rw [isNew]
    decide
  cases ifaces with
  | nil => exact before
  | cons first others =>
      apply advertiseOn_turn List.mem_cons_self before showing Advertised.first
      intro once broadcastOnce
      rcases sentOn_bytes room (by omega) first with ⟨bytes, byteLen, data⟩
      cases others with
      | nil => exact broadcastOnce
      | cons second rest =>
          have again : (pkt.sentOn first bcMac).Shows
              (messageOf (ethHeader first.ifMac bcMac ++ deviceIdBytes devId)) := by
            refine ⟨?_, ?_⟩
            · rw [byteLen]
              simp only [nsohdrSize, ethHlen]
              omega
            · rw [bytes, messageOf_behind_header _ ?_, take_bytes_of_shows showing]
              rw [Packet.bytes, ByteMemory.Memory.length_read]
              omega
          have isSecond : second ∈ first :: second :: rest :=
            List.mem_cons_of_mem _ List.mem_cons_self
          apply advertiseOn_turn isSecond broadcastOnce again (Advertised.second rfl)
          intro twice broadcastTwice
          have roomAgain : ethHlen ≤ (pkt.sentOn first bcMac).data := by
            rw [data, isNew]
            decide
          rcases sentOn_bytes roomAgain (by rw [byteLen]; simp only [ethHlen]; omega) second with
            ⟨bytesAgain, byteLenAgain, _⟩
          apply advertiseOn_sentTwice _ _ broadcastTwice fun message proto typed =>
            Advertised.later proto typed
          · refine ⟨?_, first, second, pkt.bytes, ?_⟩
            · rw [byteLenAgain, byteLen]
              simp only [nsohdrSize, ethHlen]
              omega
            · rw [bytesAgain, bytes]
          · exact fun iface isMem => List.mem_cons_of_mem _ (List.mem_cons_of_mem _ isMem)

theorem sonNbrAdvertise_originates :
    sonNbrAdvertise.wp (fun _ _ => True)
      (.always (Originates node.nsol.ifaces (Advertised node.nsol.devId node.nsol.ifaces) node))
      held node := by
  apply wp_of_builds getNbrAdvPkt_builds
  · exact fun after unseen => .quiet unseen
  · intro pkt mid unseen showing isNew
    rw [wp_bind, wp_query]
    refine ⟨trivial, ?_⟩
    rw [unseen.ifaces]
    exact advertiseOn_originates (.quiet unseen) showing isNew

end Nrg5
