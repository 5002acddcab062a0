import Nowde.Spec.Config
import Nowde.Lib.Slots

/-!
# The state of a node (`nowde_config.h`, `nowde_state.h`)

The globals of the firmware, grouped by the module that owns them. What a handler reads from
the outside at one call (`millis()`, the mesh clock, `random`, driver results) is an `Env`;
what it sends is a list of `Out`. Debug logging is left out.
-/

namespace Nowde

/-! ## Slave side -/

/-- `MediaSyncState`. -/
structure MediaSyncState where
  currentIndex : UInt8 := 0
  currentPositionMs : UInt32 := 0
  currentState : UInt8 := 0
  lastSyncTime : UInt32 := 0
  localClockStartTime : UInt32 := 0
  lastMTCUpdateTime : UInt32 := 0
  linkLost : Bool := false
  stopOnLinkLost : Bool
  lastSentIndex : UInt8 := 255
  lastCC100SendTime : UInt32 := 0
  currentVolume : UInt8 := 255
  lastSentVolume : UInt8 := 255
  lastCC7SendTime : UInt32 := 0
  coarse : Bool := false
  lastSeq : UInt16 := 0
  haveSeq : Bool := false
  syncGaps : UInt16 := 0
deriving DecidableEq

theorem OriginLock.unpinned_valid (valid : Bool) : false = true → valid = true := by simp

theorem OriginLock.held_valid (pinned : Bool) : pinned = true → true = true := fun _ => rfl

/-- `OriginLock`. A pinned lock is a held one: `SET_ORIGIN` sets both flags, a release clears both. -/
structure OriginLock where
  mac : Mac := Mac.zero
  valid : Bool := false
  pinned : Bool := false
  lastHeard : UInt32 := 0
  pinned_valid : pinned = true → valid = true := by
    first
    | exact OriginLock.unpinned_valid _
    | exact OriginLock.held_valid _
deriving DecidableEq

/-- What the receive path owns: the subscribed layer, the followed state and the lock. -/
structure Receiver where
  subscribedLayer : CharBuf 16
  mediaSyncState : MediaSyncState
  originLock : OriginLock
deriving DecidableEq

/-! ## Relaying -/

/-- `RelayOriginEntry`. -/
structure RelayOriginEntry where
  mac : Mac := Mac.zero
  lastSeq : UInt16 := 0
  valid : Bool := false
deriving DecidableEq

/-- `PendingRelay`. -/
structure PendingRelay where
  active : Bool := false
  sendTime : UInt32 := 0
  origin : Mac := Mac.zero
  seq : UInt16 := 0
  hop : UInt8 := 0
  payload : CharBuf 31 := CharBuf.zero 31
  payloadLen : UInt8 := 0
deriving DecidableEq

/-- What the relay owns, with this node's own station MAC. -/
structure Relay where
  myMacAddress : Mac
  relayOrigins : Fin maxRelayOrigins → RelayOriginEntry := fun _ => {}
  pendingRelays : Fin maxPendingRelays → PendingRelay := fun _ => {}

/-! ## Sender side -/

/-- `SenderEntry`. -/
structure SenderEntry where
  mac : Mac := Mac.zero
  lastSeen : UInt32 := 0
  active : Bool := false
deriving DecidableEq

/-- `ReceiverEntry`. -/
structure ReceiverEntry where
  mac : Mac := Mac.zero
  layer : CharBuf 16 := CharBuf.zero 16
  version : CharBuf 8 := CharBuf.zero 8
  lastSeen : UInt32 := 0
  active : Bool := false
  connected : Bool := false
  mediaIndex : UInt8 := 0
  syncQuality : UInt8 := nowdeSyncUnknown
  syncGaps : UInt16 := 0
deriving DecidableEq

/-- `MasterRelayState`. -/
structure MasterRelayState where
  index : UInt8 := 0
  positionMs : UInt32 := 0
  state : UInt8 := 0
  updatedAt : UInt32 := 0
deriving DecidableEq

/-- `DelayedMediaSyncPacket`: the packet is kept as the bytes to send. -/
structure DelayedMediaSyncPacket where
  sendTime : UInt32 := 0
  packet : List UInt8 := []
  receiverMac : Mac := Mac.zero
  active : Bool := false
deriving DecidableEq

/-! ## Firmware update -/

/-- A call into the `Update` library. -/
inductive UpdateCall
  | begin (size : UInt32)
  | write (bytes : List UInt8)
  | abort
  | finish
deriving DecidableEq

/-- The `Update` library, which is not part of the repository: what each call answers and
whether a session runs, given all calls made since boot. `finish` is `Update.end(true)`. -/
structure UpdateLib where
  begin : List UpdateCall → UInt32 → Bool
  write : List UpdateCall → List UInt8 → ℕ
  finish : List UpdateCall → Bool
  isRunning : List UpdateCall → Bool

/-- A library with no room for any update. -/
def noUpdate : UpdateLib := ⟨fun _ _ => false, fun _ _ => 0, fun _ => false, fun _ => false⟩

/-- The OTA statics of `sysex.cpp`, `otaInProgress`, and the calls made to `Update` so far. -/
structure Ota where
  otaInProgress : Bool := false
  otaTotalSize : UInt32 := 0
  otaReceivedSize : UInt32 := 0
  otaStartTime : UInt32 := 0
  calls : List UpdateCall := []
deriving DecidableEq

/-! ## USB input -/

/-- `midiEventPacket_t`. -/
structure MidiEventPacket where
  header : UInt8
  byte1 : UInt8
  byte2 : UInt8
  byte3 : UInt8
deriving DecidableEq

/-- The SysEx reassembly statics of `midi.cpp`: `buffer` is the first `sysexIndex` bytes. -/
structure SysexParser where
  buffer : List UInt8 := []
  inSysex : Bool := false
  sysexOverflow : Bool := false
deriving DecidableEq

/-! ## The node -/

/-- The keys of NVS namespace `nowde`; an absent key is `none`. -/
structure Nvs where
  layer : Option (List UInt8) := none
  role : Option UInt8 := none
  lr : Option UInt8 := none
  loss : Option UInt8 := none
  resyncrb : Option UInt8 := none
deriving DecidableEq

/-- The build flags a boot depends on (`platformio.ini`). -/
structure Build where
  defaultLayer : List UInt8
  roleDefault : UInt8
  wifiLr : Bool
  stopOnLinkLost : Bool

/-- The statics of `meshResyncTick()`, with the auto-reboot count read at boot. -/
structure MeshResync where
  stuckSince : UInt32 := 0
  lastAction : UInt32 := 0
  softResets : UInt8 := 0
  resyncRebootCount : UInt8 := 0
deriving DecidableEq

/-- All globals, function statics and task locals of a running node. -/
structure Node where
  senderModeEnabled : Bool := false
  receiverModeEnabled : Bool := false
  storedRole : UInt8 := nowdeRoleAuto
  nodeRole : UInt8 := nowdeRoleLegacy
  boardId : UInt8 := 0
  lrEnabled : Bool := false
  receiver : Receiver
  relay : Relay
  senderTable : Fin maxSenders → SenderEntry := fun _ => {}
  receiverTable : Fin maxReceivers → ReceiverEntry := fun _ => {}
  masterRelay : MasterRelayState := {}
  mediaSyncSeq : UInt16 := 0
  lastHostRxTime : UInt32 := 0
  hostResumed : Bool := false
  rfSimulationEnabled : Bool := false
  rfSimMaxDelayMs : UInt32 := 400
  delayedPackets : Fin maxDelayedPackets → DelayedMediaSyncPacket := fun _ => {}
  ota : Ota := {}
  parser : SysexParser := {}
  runningStateSendTime : UInt32 := 0
  logEnabled : Bool := false
  lastSenderBeacon : UInt32 := 0
  nextReceiverBeacon : UInt32 := 0
  meshResync : MeshResync := {}
  nvs : Nvs := {}

/-! ## The outside world -/

/-- `SyncState` of the mesh clock. -/
inductive SyncState
  | alone
  | synced
  | lost
deriving DecidableEq

/-- What one call of a handler reads from outside the node. -/
structure Env where
  /-- `millis()`, taken as one instant per handler call. -/
  millis : UInt32
  /-- Successive values of `meshClock.meshMillis()` during the call. -/
  meshMillis : ℕ → UInt32 := fun _ => 0
  /-- `meshClock.getSyncState()`. -/
  syncState : SyncState := .alone
  /-- The number behind `random(lo, hi)`. -/
  entropy : ℕ := 0
  /-- `esp_now_send()` returned `ESP_OK`. -/
  espNowSendOk : Bool := true
  /-- `esp_reset_reason()`. -/
  resetReason : UInt8 := 1

/-- `random(lo, hi)`: some number of `[lo, hi)`, or `lo` when that is empty. -/
def Env.random (env : Env) (lo hi : ℕ) : ℕ := if hi ≤ lo then lo else lo + env.entropy % (hi - lo)

/-- The instant `time` as a handler reads it. -/
def Env.at (env : Env) (time : ℕ) : Env := { env with millis := UInt32.ofNat time }

/-- A message queued for the host, by the function that queues it. -/
inductive HostMsg
  /-- `midiSendCC(cc, value)`. -/
  | cc (number value : UInt8)
  /-- `midiSendTimeCode(positionMs)`. -/
  | timeCode (positionMs : UInt32)
  /-- `midiSendFullFrame(positionMs)`. -/
  | fullFrame (positionMs : UInt32)
  /-- `midiSendStart()`. -/
  | start
  /-- `midiSendStop()`. -/
  | stop
  /-- The send loop of `sendHello()`. -/
  | hello (message : List UInt8)
  /-- `sendSysExBytes(message, len)`. -/
  | sysExBytes (message : List UInt8)
  /-- The send loop of `sendRunningState()`, one chunk. -/
  | runningState (message : List UInt8)
  /-- The send loop of `sendErrorReport()`. -/
  | errorReport (message : List UInt8)
deriving DecidableEq

/-- What a handler does to the outside. -/
inductive Out
  | host (m : HostMsg)
  /-- `esp_now_send(mac, frame)`. -/
  | espNowSend (mac : Mac) (frame : List UInt8)
  /-- `esp_now_add_peer`. -/
  | addPeer (mac : Mac)
  /-- `esp_now_del_peer`. -/
  | delPeer (mac : Mac)
  /-- `meshClock.reset()`. -/
  | meshClockReset
  /-- `esp_restart()`: the call never returns. -/
  | restart
  /-- An integer division by zero, which traps on the ESP32. -/
  | divideByZero
deriving DecidableEq

/-- The messages to the host among some outputs. -/
def Out.host? : Out → Option HostMsg
  | .host m => some m
  | _ => none

end Nowde
