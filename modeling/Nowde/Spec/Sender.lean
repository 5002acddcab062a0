import Nowde.Spec.Receiver

/-!
# The node tables (`sender_mode.cpp`, `receiver_mode.cpp`)

Beacons fill `senderTable`, `ReceiverInfo` frames fill `receiverTable`, and the two cleanup
functions empty them again. The cleanup of one entry is a function of its own.
-/

namespace Nowde

/-! ## Sender table -/

/-- `handleSenderBeacon(info)`. -/
def handleSenderBeacon (env : Env) (t : Fin maxSenders → SenderEntry) (src : Mac) :
    (Fin maxSenders → SenderEntry) × List Out :=
  match Slots.find t fun e => e.active && e.mac == src with
  | some i => (Function.update t i { t i with lastSeen := env.millis }, [])
  | none =>
    match Slots.find t fun e => !e.active with
    | some i => (Function.update t i { mac := src, lastSeen := env.millis, active := true }, [.addPeer src])
    | none => (t, [])

/-- `now - lastSeen > SENDER_TIMEOUT_MS` for an active entry. -/
def SenderEntry.expired (now : UInt32) (e : SenderEntry) : Bool :=
  e.active && now - e.lastSeen > senderTimeoutMs

/-- The loop body of `cleanupSenderTable`. -/
def cleanupSenderEntry (now : UInt32) (e : SenderEntry) : SenderEntry :=
  if e.expired now then { e with active := false } else e

/-- `cleanupSenderTable()`. -/
def cleanupSenderTable (now : UInt32) (t : Fin maxSenders → SenderEntry) :
    (Fin maxSenders → SenderEntry) × List Out :=
  (fun i => cleanupSenderEntry now (t i),
    Slots.collect t fun e => if e.expired now then some (.delPeer e.mac) else none)

/-! ## Receiver table -/

/-- What `handleReceiverInfo` reads from a frame of any generation: absent trailers are
`NOWDE_SYNC_UNKNOWN` and 0. -/
def rxReceiverInfo (data : List UInt8) : ReceiverInfo :=
  let recvInfo := ReceiverInfo.ofFrame data
  { recvInfo with
    syncQuality := if data.length ≥ receiverInfoQualityLen then recvInfo.syncQuality else nowdeSyncUnknown
    syncGaps := if data.length ≥ receiverInfoSize then recvInfo.syncGaps else 0 }

/-- A known receiver reports again. -/
def refreshReceiver (now : UInt32) (info : ReceiverInfo) (e : ReceiverEntry) : ReceiverEntry :=
  { e with
    lastSeen := now
    mediaIndex := info.mediaIndex
    syncQuality := info.syncQuality
    syncGaps := info.syncGaps
    connected := true
    layer := if strncmpEq e.layer.bytes info.layer.bytes maxLayerLength then e.layer
      else (CharBuf.strncpy 16 info.layer.bytes).terminate }

/-- A new receiver takes a free slot. -/
def registerReceiver (now : UInt32) (src : Mac) (info : ReceiverInfo) : ReceiverEntry where
  mac := src
  layer := (CharBuf.strncpy 16 info.layer.bytes).terminate
  version := (CharBuf.strncpy 8 info.version.bytes).terminate
  lastSeen := now
  active := true
  connected := true
  mediaIndex := info.mediaIndex
  syncQuality := info.syncQuality
  syncGaps := info.syncGaps

/-- `handleReceiverInfo(info, data, len)`. -/
def handleReceiverInfo (env : Env) (t : Fin maxReceivers → ReceiverEntry) (src : Mac) (data : List UInt8) :
    (Fin maxReceivers → ReceiverEntry) × List Out :=
  if data.length < receiverInfoMinLen then (t, [])
  else
    let info := rxReceiverInfo data
    match Slots.find t fun e => e.active && e.mac == src with
    | some i => (Function.update t i (refreshReceiver env.millis info (t i)), [])
    | none =>
      match Slots.find t fun e => !e.active with
      | some i => (Function.update t i (registerReceiver env.millis src info), [.addPeer src])
      | none => (t, [])

/-- Silent for more than `RECEIVER_TIMEOUT_MS`. -/
def ReceiverEntry.missing (now : UInt32) (e : ReceiverEntry) : Bool :=
  e.active && now - e.lastSeen > receiverTimeoutMs

/-- Silent for more than 10000 ms. -/
def ReceiverEntry.expired (now : UInt32) (e : ReceiverEntry) : Bool :=
  e.active && now - e.lastSeen > receiverRemoveMs

/-- The loop body of `cleanupReceiverTable`. -/
def cleanupReceiverEntry (now : UInt32) (e : ReceiverEntry) : ReceiverEntry :=
  let e₁ : ReceiverEntry := if e.missing now then { e with connected := false } else e
  if e.expired now then { e₁ with active := false, connected := false } else e₁

/-- `cleanupReceiverTable()`. -/
def cleanupReceiverTable (now : UInt32) (t : Fin maxReceivers → ReceiverEntry) :
    (Fin maxReceivers → ReceiverEntry) × List Out :=
  (fun i => cleanupReceiverEntry now (t i),
    Slots.collect t fun e => if e.expired now then some (.delPeer e.mac) else none)

/-! ## What the node sends on its own -/

/-- The frame of `sendReceiverInfo()`. -/
def receiverInfoFrame (env : Env) (n : Node) : List UInt8 :=
  ReceiverInfo.toFrame
    { layer := (CharBuf.strncpy 16 n.receiver.subscribedLayer.bytes).terminate
      version := (CharBuf.strncpy 8 nowdeVersion).terminate
      mediaIndex := n.receiver.mediaSyncState.currentIndex
      syncQuality := nodeSyncQuality env n.nodeRole n.receiver.mediaSyncState
      syncGaps := n.receiver.mediaSyncState.syncGaps }

/-- `sendReceiverInfo()`: to every active sender, unless the layer is empty. -/
def sendReceiverInfo (env : Env) (n : Node) : List Out :=
  if ¬n.receiverModeEnabled ∨ cstr n.receiver.subscribedLayer.bytes = [] then []
  else Slots.collect n.senderTable fun e =>
    if e.active then some (.espNowSend e.mac (receiverInfoFrame env n)) else none

/-- `applyRole(resolvedRole)`. -/
def applyRole (n : Node) (resolvedRole : UInt8) : Node × List Out :=
  let n : Node := { n with nodeRole := resolvedRole, receiverModeEnabled := true }
  if resolvedRole = nowdeRoleMaster then ({ n with senderModeEnabled := true }, [])
  else if resolvedRole = nowdeRoleSlave then
    if n.senderModeEnabled then
      ({ n with receiverTable := fun _ => {}, senderModeEnabled := false },
        Slots.collect n.receiverTable fun e => if e.active then some (.delPeer e.mac) else none)
    else ({ n with senderModeEnabled := false }, [])
  else (n, [])

end Nowde
