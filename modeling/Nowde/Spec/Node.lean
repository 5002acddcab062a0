import Nowde.Spec.Midi
import Nowde.Spec.Relay

/-!
# The receive callback (`esp_now_handlers.cpp`)

`onDataRecv` sorts a radio frame by its first byte. A `0x03` and a `0x05` frame both go to the
receive path, under the origin's MAC, and to the relay.
-/

namespace Nowde

/-- `meshClock.handleReceive` takes a frame for its own: ten bytes under the header `MCK`. -/
def isMeshClockPacket (data : List UInt8) : Bool := data.length = 10 ∧ data.take 3 = [0x4D, 0x43, 0x4B]

/-- The receive path of a `0x03` or `0x05` frame: a node that drives the mesh does not follow it. -/
def receiveMedia (env : Env) (n : Node) (origin : Mac) (data : List UInt8) : Node × List Out :=
  if n.receiverModeEnabled ∧ ¬n.senderModeEnabled then
    let r := processMediaSyncPacket env n.receiver origin data
    ({ n with receiver := r.1 }, r.2.map .host)
  else (n, [])

/-- The `ESPNOW_MSG_MEDIA_SYNC` case. -/
def onMediaSync (env : Env) (n : Node) (src : Mac) (data : List UInt8) : Node × List Out :=
  let m := receiveMedia env n src data
  if data.length ≥ mediaSyncSize then
    ({ m.1 with relay := handleFloodCandidate env m.1.relay src (MediaSyncPacket.ofFrame data).seq 0 data false },
      m.2)
  else m

/-- The `ESPNOW_MSG_MESH_RELAY` case. -/
def onMeshRelay (env : Env) (n : Node) (data : List UInt8) : Node × List Out :=
  if data.length < meshRelayHeaderSize + mediaSyncMinLen then (n, [])
  else
    let header := MeshRelayHeader.ofFrame data
    let inner := data.drop meshRelayHeaderSize
    let m := receiveMedia env n header.origin inner
    ({ m.1 with relay := handleFloodCandidate env m.1.relay header.origin header.seq header.hop inner true }, m.2)

/-- `onDataRecv(info, data, len)`; `src` is `info->src_addr`. -/
def onDataRecv (lib : UpdateLib) (env : Env) (n : Node) (src : Mac) (data : List UInt8) : Node × List Out :=
  if data.length < 1 then (n, [])
  else if isMeshClockPacket data then (n, [])
  else
    let msgType := byteAt data 0
    if msgType = sysexStart then handleSysExMessage lib env n data (UInt8.ofNat data.length)
    else if msgType = espnowMsgSenderBeacon then
      let t := handleSenderBeacon env n.senderTable src
      ({ n with senderTable := t.1 }, t.2)
    else if msgType = espnowMsgReceiverInfo then
      if n.senderModeEnabled then
        let t := handleReceiverInfo env n.receiverTable src data
        ({ n with receiverTable := t.1 }, t.2)
      else (n, [])
    else if msgType = espnowMsgMediaSync then onMediaSync env n src data
    else if msgType = espnowMsgMeshRelay then onMeshRelay env n data
    else (n, [])

/-- The relay part of an `espnowTask` iteration. -/
def relayTick (env : Env) (n : Node) : Node × List Out :=
  let r := processPendingRelays env.millis n.relay
  ({ n with relay := r.1 }, r.2.map (.espNowSend Mac.broadcast))

end Nowde
