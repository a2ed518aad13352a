import Nrg5.Control
import Nrg5.Data

/-!
# The device library

The handlers of a device and the body of its receive loop.  A device relays
beacons, replies, reports and foreign route updates with `nso_layer_fwd`, and it
becomes connected by the first successful reply addressed to it.
-/

namespace Nrg5

namespace Device

open LockProg

/-- `__fwd_beacon`. -/
def fwdBeacon (pkt : Packet) (src : Option L2addr) (iface : Option NsoIf) : Prog Packet :=
  fwdBeaconWith deliverFwd pkt src iface

/-- `__process_reg_reply`. -/
def processRegReply (pkt : Packet) (src : Option L2addr) (iface : Option NsoIf) :
    Prog Packet := do
  let devId ← query .layer fun node => node.nsol.devId
  if pkt.dstDevid = devId then do
    acquire .state
    let ans := pkt.byteAt (nsohdrSize + 1)
    let state ← query .layer fun node => node.nsol.devState
    if state = .unreg ∧ ans = nrg5RegSuccess then do
      let nxtId ← downstreamDevId src
      let entry ← allocFwdEntry pkt.srcDevid nxtId iface
      modify .table (Node.updateLocalFwdt (FwdTable.add entry))
      modify .layer (Node.updateLayer fun layer => { layer with gwId := pkt.srcDevid })
      modify .layer (Node.updateLayer fun layer => { layer with devState := .connected })
      modify (.broadcastSignal .state) id
      release .state
      pure pkt
    else do
      release .state
      pure pkt
  else do
    let connected ← checkConnected
    if connected = false then pure pkt else deliverFwd pkt

/-- `tsd_process_rx`. -/
def tsdProcessRx (pkt : Packet) (src : Option L2addr) (iface : Option NsoIf) :
    Prog (Int × Packet) :=
  if pkt.msgType = tsdMsgReg then do
    let sent ← fwdBeacon pkt src iface
    pure (0, sent)
  else if pkt.msgType = tsdMsgRegReply then do
    let sent ← processRegReply pkt src iface
    pure (0, sent)
  else
    pure (-1, pkt)

/-- The locked section at the head of `__route_update`. -/
def admitRouteUpdate : Prog Bool := do
  acquire .state
  modify .layer (Node.updateLayer fun layer =>
    { layer with devState := if layer.devState = .reg then .connected else layer.devState })
  let state ← query .layer fun node => node.nsol.devState
  release .state
  pure (state == .connected)

/-- `__route_update`. -/
def routeUpdate (pkt : Packet) : Prog Packet := routeUpdateWith admitRouteUpdate pkt

/-- `__fwd_topo_report`. -/
def fwdTopoReport (pkt : Packet) : Prog Packet := fwdTopoReportWith deliverFwd pkt

/-- `son_process_rx`. -/
def sonProcessRx (pkt : Packet) (src : Option L2addr) (iface : Option NsoIf) :
    Prog (Int × Packet) :=
  if pkt.msgType = sonMsgRt then do
    let sent ← routeUpdate pkt
    pure (0, sent)
  else if pkt.msgType = sonMsgNbr then do
    let sent ← neighborMaintain pkt src iface
    pure (0, sent)
  else if pkt.msgType = sonMsgTopo then do
    let sent ← fwdTopoReport pkt
    pure (0, sent)
  else
    pure (-1, pkt)

/-- `data_process_rx`: a packet for this device is cloned into the queue, and the
waiting threads are woken when the queue was empty. -/
def dataProcessRx (pkt : Packet) : Prog Packet := do
  let connected ← checkConnected
  if connected = false then
    pure pkt
  else do
    let layer ← query .layer fun node => node.nsol
    if pkt.dstDevid = layer.devId then do
      acquire .data
      let junk ← query .malloc fun node => node.env.junk
      let queue ← query .layer fun node => node.nsol.dataPq
      modify .layer (Node.enqueue (pkt.clone junk))
      if queue.isEmpty = true then do
        modify (.broadcastSignal .data) id
        release .data
        pure pkt
      else do
        release .data
        pure pkt
    else
      deliverFwd pkt

/-- The switch in the body of `__rx_thread_main`. -/
def processRx (pkt : Packet) (src : Option L2addr) (iface : Option NsoIf) : Prog Packet :=
  match dispatch pkt.proto with
  | .tsd => do
      let (_, sent) ← tsdProcessRx pkt src iface
      pure sent
  | .son => do
      let (_, sent) ← sonProcessRx pkt src iface
      pure sent
  | .data => dataProcessRx pkt

/-- `__get_nso_beacon`. -/
def getNsoBeacon : Prog Packet := getRegPkt bcDeviceId tsdMsgReg

/-- `tsd_broadcast_beacons`: the interface index goes round. -/
def tsdBroadcastBeacons : Prog Unit := do
  let pkt ← getNsoBeacon
  let layer ← query .layer fun node => node.nsol
  let slot ← ifaceAt layer.tsdIfIndex
  let iface ← orHalt .nullDeref slot
  let _ ← nsoIfBroadcast iface pkt
  modify .layer (Node.updateLayer fun layer =>
    { layer with tsdIfIndex := (layer.tsdIfIndex + 1) % layer.ifacesNb })

/-- `son_topo_report`. -/
def sonTopoReport : Prog Unit := do
  let pkt ← getTopoReportPkt
  let _ ← nsoLayerFwd pkt

end Device

end Nrg5
