import Nowde.Spec.Ota
import Nowde.Spec.Sender

/-!
# The SysEx dispatcher (`sysex.cpp`)

`handleSysExMessage` validates a frame and runs the command it names; USB and the radio share
it. `data` is the frame with what may follow it in the buffer, `length` its `uint8_t` length.
-/

namespace Nowde

/-! ## The commands -/

/-- The cases of the `switch` in `handleSysExMessage`. -/
inductive Command
  | queryConfig
  | pushFullConfig
  | queryRunningState
  | enterBootloader
  | otaBegin
  | otaData
  | otaEnd
  | setRole
  | setLocalLayer
  | setLog
  | setLr
  | otaDataAcked
  | setLossPolicy
  | setOrigin
  | mediaSync
  | changeReceiverLayer
deriving DecidableEq

namespace Command

/-- The command byte. -/
def code : Command → UInt8
  | queryConfig => sysexCmdQueryConfig
  | pushFullConfig => sysexCmdPushFullConfig
  | queryRunningState => sysexCmdQueryRunningState
  | enterBootloader => sysexCmdEnterBootloader
  | otaBegin => sysexCmdOtaBegin
  | otaData => sysexCmdOtaData
  | otaEnd => sysexCmdOtaEnd
  | setRole => sysexCmdSetRole
  | setLocalLayer => sysexCmdSetLocalLayer
  | setLog => sysexCmdSetLog
  | setLr => sysexCmdSetLr
  | otaDataAcked => sysexCmdOtaDataAcked
  | setLossPolicy => sysexCmdSetLossPolicy
  | setOrigin => sysexCmdSetOrigin
  | mediaSync => sysexCmdMediaSync
  | changeReceiverLayer => sysexCmdChangeReceiverLayer

def all : List Command :=
  [queryConfig, pushFullConfig, queryRunningState, enterBootloader, otaBegin, otaData, otaEnd, setRole,
    setLocalLayer, setLog, setLr, otaDataAcked, setLossPolicy, setOrigin, mediaSync, changeReceiverLayer]

/-- The case a command byte selects; `none` is `default`. -/
def ofCode (b : UInt8) : Option Command := all.find? fun c => c.code = b

end Command

/-! ## Messages to the host -/

/-- The bytes of `sendHello()`. -/
def helloMessage (env : Env) (n : Node) : List UInt8 :=
  let gaps := min n.receiver.mediaSyncState.syncGaps.toNat 0x3FFF
  [sysexStart, sysexManufacturerId, sysexCmdHello] ++
    encode7bit ((CharBuf.zero 8).blit nowdeVersion).bytes ++ encode7bit (u32be env.millis) ++
    [env.resetReason &&& 0x7F, n.nodeRole &&& 0x7F, n.boardId &&& 0x7F,
      nodeSyncQuality env n.nodeRole n.receiver.mediaSyncState &&& 0x7F,
      if n.lrEnabled then 1 else 0,
      UInt8.ofNat (gaps / 128) &&& 0x7F, UInt8.ofNat gaps &&& 0x7F] ++
    [sysexEnd]

/-- `sendHello()`. -/
def sendHello (env : Env) (n : Node) : List Out := [.host (.hello (helloMessage env n))]

/-- The bytes of `sendConfigState()`. -/
def configStateMessage (n : Node) : List UInt8 :=
  let layer := cstr (n.receiver.subscribedLayer.bytes.take (maxLayerLength - 1))
  let lock := n.receiver.originLock
  [sysexStart, sysexManufacturerId, sysexCmdConfigState,
      if n.rfSimulationEnabled then 1 else 0,
      (n.rfSimMaxDelayMs >>> 7).toUInt8 &&& 0x7F, n.rfSimMaxDelayMs.toUInt8 &&& 0x7F,
      n.nodeRole &&& 0x7F, n.boardId &&& 0x7F, UInt8.ofNat layer.length] ++
    layer.map (· &&& 0x7F) ++
    [if n.receiver.mediaSyncState.stopOnLinkLost then 1 else 0,
      if lock.valid then (if lock.pinned then 2 else 1) else 0] ++
    encode7bit lock.mac.bytes ++ [sysexEnd]

/-- `sendConfigState()`. -/
def sendConfigState (n : Node) : List Out := [.host (.sysExBytes (configStateMessage n))]

/-- The 39 bytes of one receiver in `RUNNING_STATE`. -/
def receiverData (env : Env) (e : ReceiverEntry) : List UInt8 :=
  e.mac.bytes ++ e.layer.bytes ++ e.version.bytes ++ u32be (env.millis - e.lastSeen) ++
    [1, e.mediaIndex, e.syncQuality, UInt8.ofNat (e.syncGaps.toNat / 256), UInt8.ofNat e.syncGaps.toNat]

/-- One chunk of `sendRunningState()`; a chunk carries at most one receiver. -/
def runningStateMessage (env : Env) (numActive chunkIndex chunkCount : ℕ) (receivers : List ReceiverEntry) :
    List UInt8 :=
  [sysexStart, sysexManufacturerId, sysexCmdRunningState] ++ encode7bit (u32be env.millis) ++
    [if env.syncState = .synced then 1 else 0, UInt8.ofNat numActive, UInt8.ofNat chunkIndex,
      UInt8.ofNat chunkCount, UInt8.ofNat receivers.length] ++
    receivers.flatMap (fun e => encode7bit (receiverData env e)) ++ [sysexEnd]

/-- The snapshot of active and connected receivers. -/
def connectedReceivers (t : Fin maxReceivers → ReceiverEntry) : List ReceiverEntry :=
  Slots.collect t fun e => if e.active && e.connected then some e else none

/-- `sendRunningState()`, throttled to one report in 500 ms. -/
def sendRunningState (env : Env) (n : Node) : Node × List Out :=
  if env.millis - n.runningStateSendTime < 500 then (n, [])
  else
    let snapshot := connectedReceivers n.receiverTable
    ({ n with runningStateSendTime := env.millis },
      if snapshot = [] then [.host (.runningState (runningStateMessage env 0 0 1 []))]
      else snapshot.mapIdx fun i e =>
        .host (.runningState (runningStateMessage env snapshot.length i snapshot.length [e])))

/-! ## What each command does -/

/-- A legacy node becomes a sender when its host handshakes; a slave never does. -/
def activateSender (n : Node) : Node :=
  if ¬n.senderModeEnabled ∧ n.nodeRole ≠ nowdeRoleSlave then { n with senderModeEnabled := true } else n

/-- `SYSEX_CMD_QUERY_CONFIG`. -/
def queryConfig (env : Env) (n : Node) : Node × List Out :=
  let n := { activateSender n with hostResumed := false }
  (n, sendHello env n ++ sendConfigState n)

/-- `SYSEX_CMD_PUSH_FULL_CONFIG`. -/
def pushFullConfig (n : Node) (data : List UInt8) (length : ℕ) : Node × List Out :=
  if length ≥ 6 then
    let n := { activateSender n with
      rfSimulationEnabled := byteAt data 3 ≠ 0
      rfSimMaxDelayMs := ((byteAt data 4 &&& 0x7F).toUInt32 <<< 7) ||| (byteAt data 5 &&& 0x7F).toUInt32 }
    (n, sendConfigState n)
  else (n, sendConfigInvalid)

/-- `SYSEX_CMD_QUERY_RUNNING_STATE`. -/
def queryRunningState (env : Env) (n : Node) : Node × List Out :=
  let sentHello := n.hostResumed
  let hello := if sentHello then sendHello env n else []
  let n := { n with hostResumed := false }
  if n.senderModeEnabled then
    let r := sendRunningState env n
    (r.1, hello ++ r.2)
  else if ¬sentHello then (n, sendHello env n)
  else (n, hello)

/-- `SYSEX_CMD_MEDIA_SYNC`: the packet minted from a host frame. -/
def mintPacket (env : Env) (mediaSyncSeq : UInt16) (data : List UInt8) (length : ℕ) : MediaSyncPacket where
  layer := (CharBuf.strncpy 16 (CharBuf.ofFrame 16 data 3).terminate.bytes).terminate
  mediaIndex := byteAt data 19
  positionMs := be32 (restoreMsbs (byteAt data 20) 0 (slice data 21 4))
  state := byteAt data 25
  meshTimestamp := meshMillisStable env.meshMillis
  volume := if length ≥ 29 then byteAt data 26 &&& 0x7F else 0
  flags := if length ≥ 29 then byteAt data 27 &&& 0x7F else 0
  seq := mediaSyncSeq + 1

/-- The first free slot takes the packet; with none free it is dropped. -/
def delayPacket (env : Env) (rfSimMaxDelayMs : UInt32) (t : Fin maxDelayedPackets → DelayedMediaSyncPacket)
    (packet : List UInt8) : Fin maxDelayedPackets → DelayedMediaSyncPacket :=
  match Slots.find t fun d => !d.active with
  | none => t
  | some j => Function.update t j
      { sendTime := env.millis + UInt32.ofNat (env.random 0 (rfSimMaxDelayMs.toNat + 1))
        packet := packet
        receiverMac := Mac.broadcast
        active := true }

/-- `SYSEX_CMD_MEDIA_SYNC`. -/
def mediaSync (env : Env) (n : Node) (data : List UInt8) (length : ℕ) : Node × List Out :=
  if n.senderModeEnabled ∧ length ≥ 27 then
    let p := mintPacket env n.mediaSyncSeq data length
    let n := { n with
      mediaSyncSeq := p.seq
      masterRelay := { index := p.mediaIndex, positionMs := p.positionMs, state := p.state, updatedAt := env.millis } }
    if ¬n.rfSimulationEnabled then (n, [.espNowSend Mac.broadcast p.toFrame])
    else ({ n with delayedPackets := delayPacket env n.rfSimMaxDelayMs n.delayedPackets p.toFrame }, [])
  else (n, [])

/-- The layer a raw layer frame sets, stored in NVS: `SET_LOCAL_LAYER` and the receiver side of
`CHANGE_RECEIVER_LAYER`. -/
def changeSubscribedLayer (n : Node) (data : List UInt8) (length : ℕ) : Node :=
  let newLayer := slice data 3 (min (length - 4) (maxLayerLength - 1)) ++ [0]
  let subscribedLayer := (CharBuf.strncpy 16 newLayer).terminate
  { n with
    receiver := { n.receiver with subscribedLayer := subscribedLayer }
    nvs := { n.nvs with layer := some (cstr subscribedLayer.bytes) } }

/-- `SYSEX_CMD_CHANGE_RECEIVER_LAYER`: a long frame on a sender goes to the named receiver, a
short one sets this node's own layer. -/
def changeReceiverLayer (env : Env) (n : Node) (data : List UInt8) (length : ℕ) : Node × List Out :=
  if n.senderModeEnabled ∧ length ≥ 29 then
    let targetMac := Mac.ofFrame (decode7bit (slice data 3 7)) 0
    let newLayer := ((CharBuf.zero 16).blit (decode7bit (slice data 10 19))).terminate
    let espnowMsg := [sysexStart, sysexManufacturerId, sysexCmdChangeReceiverLayer] ++
      cstr newLayer.bytes ++ [sysexEnd]
    match Slots.find n.receiverTable fun e => e.active && e.mac == targetMac with
    | some _ => (n, .espNowSend targetMac espnowMsg ::
        if env.espNowSendOk then [] else sendErrorReport errorEspnowSendFailed targetMac.bytes 6)
    | none => (n, sendErrorReport errorReceiverTimeout targetMac.bytes 6)
  else if n.receiverModeEnabled ∧ length ≥ 4 then
    let n := changeSubscribedLayer n data length
    (n, sendReceiverInfo env n)
  else (n, [])

/-- A stored role, with AUTO resolved by the board. -/
def resolveRole (boardId role : UInt8) : UInt8 :=
  if role = nowdeRoleAuto then
    if boardId = nowdeBoardidAtoms3 then nowdeRoleMaster
    else if boardId = nowdeBoardidAtoms3Lite then nowdeRoleSlave
    else nowdeRoleLegacy
  else role

/-- `SYSEX_CMD_SET_ROLE`. -/
def setRole (env : Env) (n : Node) (data : List UInt8) (length : ℕ) : Node × List Out :=
  if length ≥ 5 then
    let role := byteAt data 3
    if role ≠ nowdeRoleSlave ∧ role ≠ nowdeRoleMaster ∧ role ≠ nowdeRoleAuto then
      (n, sendErrorReport errorConfigInvalid [role] 1)
    else
      let r := applyRole { n with storedRole := role, nvs := { n.nvs with role := some role } }
        (resolveRole n.boardId role)
      (r.1, r.2 ++ sendHello env r.1 ++ sendConfigState r.1)
  else (n, sendConfigInvalid)

/-- `SYSEX_CMD_SET_LR`. -/
def setLr (env : Env) (n : Node) (data : List UInt8) (length : ℕ) : Node × List Out :=
  if length ≥ 5 ∧ (byteAt data 3 = 0 ∨ byteAt data 3 = 1) then
    let n := { n with
      lrEnabled := byteAt data 3 = 1
      nvs := { n.nvs with lr := some (byteAt data 3) } }
    (n, sendHello env n ++ [.restart])
  else (n, sendConfigInvalid)

/-- `SYSEX_CMD_SET_LOSS_POLICY`. -/
def setLossPolicy (n : Node) (data : List UInt8) (length : ℕ) : Node × List Out :=
  if length ≥ 5 ∧ (byteAt data 3 = 0 ∨ byteAt data 3 = 1) then
    let n := { n with
      receiver := { n.receiver with
        mediaSyncState := { n.receiver.mediaSyncState with stopOnLinkLost := byteAt data 3 = 1 } }
      nvs := { n.nvs with loss := some (byteAt data 3) } }
    (n, sendConfigState n)
  else (n, sendConfigInvalid)

/-- `SYSEX_CMD_SET_ORIGIN`. -/
def setOrigin (env : Env) (n : Node) (data : List UInt8) (length : ℕ) : Node × List Out :=
  if length = 4 then
    let n := { n with receiver := originRelease n.receiver }
    (n, sendConfigState n)
  else if length ≥ 11 then
    let mac := decode7bit (slice data 3 7)
    if mac.length < 6 then (n, sendConfigInvalid)
    else
      let n := { n with
        receiver := { n.receiver with
          originLock := { mac := Mac.ofFrame mac 0, valid := true, pinned := true, lastHeard := env.millis }
          mediaSyncState := { n.receiver.mediaSyncState with haveSeq := false } } }
      (n, sendConfigState n)
  else (n, sendConfigInvalid)

/-- `SYSEX_CMD_SET_LOCAL_LAYER`. -/
def setLocalLayer (env : Env) (n : Node) (data : List UInt8) (length : ℕ) : Node × List Out :=
  if length ≥ 5 then
    let n := changeSubscribedLayer n data length
    (n, sendReceiverInfo env n ++ sendConfigState n)
  else (n, sendConfigInvalid)

/-- `SYSEX_CMD_SET_LOG`. -/
def setLog (n : Node) (data : List UInt8) (length : ℕ) : Node × List Out :=
  if length ≥ 5 then ({ n with logEnabled := byteAt data 3 ≠ 0 }, []) else (n, sendConfigInvalid)

/-! ## The dispatcher -/

/-- The OTA commands change nothing but the OTA state. -/
def withOta (n : Node) (r : Ota × List Out) : Node × List Out := ({ n with ota := r.1 }, r.2)

/-- The body of the `switch`. -/
def execute (lib : UpdateLib) (env : Env) (n : Node) (c : Command) (data : List UInt8) (length : ℕ) :
    Node × List Out :=
  match c with
  | .queryConfig => queryConfig env n
  | .pushFullConfig => pushFullConfig n data length
  | .queryRunningState => queryRunningState env n
  | .enterBootloader => (n, [])
  | .otaBegin => withOta n (otaBegin lib env n.ota data length)
  | .otaData => withOta n (otaData lib n.ota data length)
  | .otaDataAcked => withOta n (otaDataAcked lib n.ota data length)
  | .otaEnd => withOta n (otaEnd lib n.ota)
  | .setRole => setRole env n data length
  | .setLocalLayer => setLocalLayer env n data length
  | .setLog => setLog n data length
  | .setLr => setLr env n data length
  | .setLossPolicy => setLossPolicy n data length
  | .setOrigin => setOrigin env n data length
  | .mediaSync => mediaSync env n data length
  | .changeReceiverLayer => changeReceiverLayer env n data length

/-- `F0 7D … F7`: a frame the dispatcher takes for its own. -/
def isOwnSysEx (data : List UInt8) (length : ℕ) : Bool :=
  length ≥ 3 ∧ byteAt data 0 = sysexStart ∧ byteAt data (length - 1) = sysexEnd ∧
    byteAt data 1 = sysexManufacturerId

/-- `handleSysExMessage(data, length)`. -/
def handleSysExMessage (lib : UpdateLib) (env : Env) (n : Node) (data : List UInt8) (length : UInt8) :
    Node × List Out :=
  if ¬isOwnSysEx data length.toNat then (n, [])
  else if length < 4 then (n, sendErrorReport errorSysexParseError (data.take 3) length)
  else
    match Command.ofCode (byteAt data 2) with
    | some c => execute lib env n c data length.toNat
    | none => (n, sendErrorReport errorSysexParseError [byteAt data 2] 1)

end Nowde
