import Nowde.Spec.State

/-!
# The slave side (`receiver_mode.cpp`, `nowde_state.cpp`)

`processMediaSyncPacket` is the whole receive path: layer filter, origin lock, gap counter,
then the followed state and the messages to the host. The link-lost check and the MTC clock
are the receiver part of one `espnowTask` iteration.
-/

namespace Nowde

/-- `layerMatches(subscribed, packetLayer)`; the wildcard is `"*"`. -/
def layerMatches (subscribed packetLayer : List UInt8) : Bool :=
  strncmpEq subscribed [0x2A] maxLayerLength || strncmpEq subscribed packetLayer maxLayerLength

/-- `meshMillisStable()`: two consecutive reads must agree; at most five reads. -/
def meshMillisStable (read : ℕ → UInt32) : UInt32 :=
  go 4 1 (read 0)
where
  go : ℕ → ℕ → UInt32 → UInt32
    | 0, _, a => a
    | tries + 1, i, a =>
      let b := read i
      if (b - a).toInt32 < 100 then b else go tries (i + 1) b

/-- `nodeSyncQuality()`. -/
def nodeSyncQuality (env : Env) (nodeRole : UInt8) (ms : MediaSyncState) : UInt8 :=
  if nodeRole = nowdeRoleMaster then nowdeSyncLocked
  else if ms.currentState ≠ 1 then nowdeSyncNone
  else if ms.linkLost then nowdeSyncNone
  else if env.millis - ms.lastSyncTime > linkLostTimeoutMs then nowdeSyncNone
  else if ms.coarse ∨ env.syncState ≠ .synced then nowdeSyncCoarse
  else nowdeSyncLocked

/-! ## The origin lock -/

/-- `originRelease()`. -/
def originRelease (r : Receiver) : Receiver :=
  { r with
    originLock := { mac := Mac.zero, lastHeard := r.originLock.lastHeard }
    mediaSyncState := { r.mediaSyncState with haveSeq := false } }

/-- `originAccepts(origin)`: may this node act on a packet that originated there? -/
def originAccepts (now : UInt32) (r : Receiver) (origin : Mac) : Receiver × Bool :=
  if ¬r.originLock.valid then
    ({ r with
        originLock := { r.originLock with
          mac := origin, valid := true, lastHeard := now, pinned_valid := fun _ => rfl }
        mediaSyncState := { r.mediaSyncState with haveSeq := false } }, true)
  else if r.originLock.mac = origin then
    ({ r with originLock := { r.originLock with lastHeard := now } }, true)
  else if ¬r.originLock.pinned ∧ now - r.originLock.lastHeard > originLockReleaseMs then
    ({ r with
        originLock := { r.originLock with mac := origin, lastHeard := now }
        mediaSyncState := { r.mediaSyncState with haveSeq := false } }, true)
  else (r, false)

/-! ## One accepted packet -/

/-- The delivery counter: lines 84 to 100 of `processMediaSyncPacket`. -/
def countGap (len : ℕ) (p : MediaSyncPacket) (ms : MediaSyncState) : MediaSyncState :=
  if len < mediaSyncSize then ms
  else
    let gap : UInt16 := p.seq - ms.lastSeq - 1
    let syncGaps : UInt16 :=
      if ms.haveSeq ∧ gap > 0 ∧ gap ≤ mediasyncMaxGap then
        let total : UInt32 := ms.syncGaps.toUInt32 + gap.toUInt32
        if total > 0xFFFF then 0xFFFF else total.toUInt16
      else ms.syncGaps
    { ms with syncGaps := syncGaps, lastSeq := p.seq, haveSeq := true }

/-- `timeDelta`: the packet's age on the mesh clock, as a signed 32-bit difference. -/
def timeDelta (env : Env) (p : MediaSyncPacket) : Int32 :=
  (meshMillisStable env.meshMillis - p.meshTimestamp).toInt32

/-- `clockTrustworthy`: the age is within the desync threshold. -/
def clockTrustworthy (env : Env) (p : MediaSyncPacket) : Bool :=
  (timeDelta env p).abs ≤ clockDesyncThresholdMs

/-- `compensatedPositionMs`. -/
def compensatedPositionMs (env : Env) (p : MediaSyncPacket) : UInt32 :=
  if clockTrustworthy env p ∧ p.state = 1 ∧ timeDelta env p > 0 then
    p.positionMs + (timeDelta env p).toUInt32
  else p.positionMs

/-- `jumped`: the position moved by more than a second against the local clock. -/
def jumped (env : Env) (p : MediaSyncPacket) (ms : MediaSyncState) : Bool :=
  let expected := ms.currentPositionMs + (env.millis - ms.localClockStartTime)
  let diff := (compensatedPositionMs env p - expected).toInt32
  ms.currentState = 1 ∧ p.state = 1 ∧ (diff > jumpFullframeThresholdMs ∨ diff < -jumpFullframeThresholdMs)

/-- "Update sync state" and "Reset local clock reference", lines 113 and 151 to 161. -/
def updateSyncState (env : Env) (p : MediaSyncPacket) (ms : MediaSyncState) : MediaSyncState :=
  { ms with
    coarse := !clockTrustworthy env p
    currentIndex := p.mediaIndex
    currentPositionMs := compensatedPositionMs env p
    currentState := p.state
    lastSyncTime := env.millis
    linkLost := false
    localClockStartTime := if p.state = 1 then env.millis else ms.localClockStartTime }

/-- "Handle media index changes": CC#100 when the index is new and not zero. -/
def sendIndexChange (env : Env) (p : MediaSyncPacket) (ms : MediaSyncState) :
    MediaSyncState × List HostMsg :=
  if ms.lastSentIndex ≠ p.mediaIndex ∧ p.mediaIndex ≠ 0 then
    ({ ms with lastSentIndex := p.mediaIndex, lastCC100SendTime := env.millis }, [.cc 100 p.mediaIndex])
  else (ms, [])

/-- The master-driven volume, lines 174 to 190. -/
def sendVolume (env : Env) (hasVolume : Bool) (p : MediaSyncPacket) (ms : MediaSyncState) :
    MediaSyncState × List HostMsg :=
  if hasVolume ∧ p.flags &&& mediasyncFlagVolume ≠ 0 then
    let v : UInt8 := if p.volume > 100 then 100 else p.volume
    let ms := { ms with currentVolume := v }
    if v ≠ ms.lastSentVolume then
      ({ ms with lastSentVolume := v, lastCC7SendTime := env.millis }, [.cc 7 v])
    else if env.millis - ms.lastCC7SendTime ≥ cc7RepeatIntervalMs then
      ({ ms with lastCC7SendTime := env.millis }, [.cc 7 v])
    else (ms, [])
  else (ms, [])

/-- State transitions and the periodic CC#100, lines 192 to 216. `toPlaying` and `toStopped`
(a stop edge or a first contact with a stopped master) were decided before the update. -/
def sendTransition (env : Env) (p : MediaSyncPacket) (toPlaying toStopped : Bool) (ms : MediaSyncState) :
    MediaSyncState × List HostMsg :=
  if toPlaying then (ms, [.fullFrame (compensatedPositionMs env p), .start])
  else if toStopped then
    ({ ms with lastSentIndex := 0, lastCC100SendTime := env.millis }, [.cc 100 0, .stop])
  else if ms.currentState = 1 ∧ ms.currentIndex > 0 ∧
      env.millis - ms.lastCC100SendTime ≥ cc100RepeatIntervalMs then
    ({ ms with lastCC100SendTime := env.millis }, [.cc 100 ms.currentIndex])
  else (ms, [])

/-- Everything after the delivery counter: lines 102 to 216. -/
def followPacket (env : Env) (hasVolume : Bool) (p : MediaSyncPacket) (ms : MediaSyncState) :
    MediaSyncState × List HostMsg :=
  let stateChangedToStopped : Bool := ms.currentState = 1 ∧ p.state = 0
  let stateChangedToPlaying : Bool := ms.currentState = 0 ∧ p.state = 1
  let firstContactStopped : Bool := ms.lastSentIndex = 255 ∧ p.state = 0 ∧ p.mediaIndex = 0
  let ms₁ := updateSyncState env p ms
  let r₂ := sendIndexChange env p ms₁
  let r₃ := sendVolume env hasVolume p r₂.1
  let r₄ := sendTransition env p stateChangedToPlaying (stateChangedToStopped || firstContactStopped) r₃.1
  (r₄.1, r₂.2 ++ (if jumped env p ms then [.fullFrame (compensatedPositionMs env p)] else []) ++
    r₃.2 ++ r₄.2)

/-- `processMediaSyncPacket(origin, data, len)`. -/
def processMediaSyncPacket (env : Env) (r : Receiver) (origin : Mac) (data : List UInt8) :
    Receiver × List HostMsg :=
  if data.length < mediaSyncMinLen then (r, [])
  else
    let hasVolume : Bool := data.length ≥ mediaSyncVolumeLen
    let p := MediaSyncPacket.ofFrame data
    if ¬layerMatches r.subscribedLayer.bytes p.layer.bytes then (r, [])
    else
      let a := originAccepts env.millis r origin
      if ¬a.2 then (r, [])
      else
        let f := followPacket env hasVolume p (countGap data.length p a.1.mediaSyncState)
        ({ a.1 with mediaSyncState := f.1 }, f.2)

/-! ## The receiver part of `espnowTask` -/

/-- "Check for link lost condition". -/
def checkLinkLost (now : UInt32) (ms : MediaSyncState) : MediaSyncState × List HostMsg :=
  if ms.currentState = 1 ∧ ¬ms.linkLost ∧ now - ms.lastSyncTime > linkLostTimeoutMs then
    if ms.stopOnLinkLost then
      ({ ms with linkLost := true, currentState := 0, lastSentIndex := 0 }, [.cc 100 0, .stop])
    else ({ ms with linkLost := true }, [])
  else (ms, [])

/-- "Continuous MTC clock generation when playing"; `1000 / MTC_FRAMERATE` is 33. -/
def generateMtc (now : UInt32) (ms : MediaSyncState) : MediaSyncState × List HostMsg :=
  if ms.currentState = 1 ∧ now - ms.lastMTCUpdateTime ≥ 1000 / mtcFramerate then
    ({ ms with lastMTCUpdateTime := now },
      [.timeCode (ms.currentPositionMs + (now - ms.localClockStartTime))])
  else (ms, [])

/-- Link-lost check, then MTC, as one iteration runs them. -/
def receiverTick (now : UInt32) (r : Receiver) : Receiver × List HostMsg :=
  let l := checkLinkLost now r.mediaSyncState
  let m := generateMtc now l.1
  ({ r with mediaSyncState := m.1 }, l.2 ++ m.2)

end Nowde
