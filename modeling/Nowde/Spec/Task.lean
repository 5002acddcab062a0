import Nowde.Spec.Node

/-!
# Boot and the ESP-NOW task (`main.cpp`, `storage.cpp`)

`boot` is `setup()` on what NVS holds; `espnowTask` is one iteration of the task loop, with
every `millis()` of the iteration read at one instant. `Node.step` is the node as a machine.
-/

namespace Nowde

/-! ## Boot -/

/-- `loadRoleFromEEPROM()`. -/
def loadRole (build : Build) (nvs : Nvs) : UInt8 :=
  match nvs.role with
  | none => build.roleDefault
  | some role => if role ≠ nowdeRoleSlave ∧ role ≠ nowdeRoleMaster then nowdeRoleAuto else role

/-- `loadLayerFromEEPROM()`, with the default for an empty one. -/
def loadLayer (build : Build) (nvs : Nvs) : List UInt8 :=
  match nvs.layer with
  | none => build.defaultLayer
  | some layer => if layer = [] then build.defaultLayer else layer

/-- `loadLrFromEEPROM()` and `loadLossPolicyFromEEPROM()`: an absent key is the build's default. -/
def loadSwitch (stored : Option UInt8) (buildDefault : Bool) : Bool :=
  match stored with
  | none => buildDefault
  | some v => v ≠ 0

/-- The node `setup()` leaves behind, before any frame or tick. -/
def boot (build : Build) (nvs : Nvs) (boardId : UInt8) (myMacAddress : Mac) : Node :=
  let storedRole := loadRole build nvs
  (applyRole
    { storedRole := storedRole
      boardId := boardId
      lrEnabled := loadSwitch nvs.lr build.wifiLr
      receiver :=
        { subscribedLayer := (CharBuf.strncpy 16 (loadLayer build nvs)).terminate
          mediaSyncState := { stopOnLinkLost := loadSwitch nvs.loss build.stopOnLinkLost }
          originLock := {} }
      relay := { myMacAddress := myMacAddress }
      meshResync := { resyncRebootCount := nvs.resyncrb.getD 0 }
      nvs := nvs }
    (resolveRole boardId storedRole)).1

/-! ## One iteration of `espnowTask` -/

/-- "Process delayed packets for RF simulation". -/
def sendDelayedPackets (now : UInt32) (t : Fin maxDelayedPackets → DelayedMediaSyncPacket) :
    (Fin maxDelayedPackets → DelayedMediaSyncPacket) × List Out :=
  (fun i => if (t i).active ∧ now ≥ (t i).sendTime then { t i with active := false } else t i,
    Slots.collect t fun d =>
      if d.active ∧ now ≥ d.sendTime then some (.espNowSend d.receiverMac d.packet) else none)

/-- `sendSenderBeacon()` when it is due; `now` is the loop's sample. -/
def senderBeacon (now : UInt32) (n : Node) : Node × List Out :=
  if now - n.lastSenderBeacon ≥ senderBeaconIntervalMs then
    ({ n with lastSenderBeacon := now }, [.espNowSend Mac.broadcast [espnowMsgSenderBeacon]])
  else (n, [])

/-- The delayed packets of a node that simulates a bad link. -/
def delayedTick (now : UInt32) (n : Node) : Node × List Out :=
  if n.rfSimulationEnabled then
    let d := sendDelayedPackets now n.delayedPackets
    ({ n with delayedPackets := d.1 }, d.2)
  else (n, [])

/-- "Sender mode operations". -/
def senderTick (env : Env) (n : Node) : Node × List Out :=
  let b := senderBeacon env.millis n
  let t := cleanupReceiverTable env.millis b.1.receiverTable
  let d := delayedTick env.millis { b.1 with receiverTable := t.1 }
  (d.1, b.2 ++ t.2 ++ d.2)

/-- The receiver beacon, `sendReceiverInfo()` about once a second. -/
def receiverBeacon (now : UInt32) (env : Env) (n : Node) : Node × List Out :=
  if now ≥ n.nextReceiverBeacon then
    ({ n with nextReceiverBeacon := now + receiverBeaconIntervalMs + UInt32.ofNat (env.random 0 200) },
      sendReceiverInfo env n)
  else (n, [])

/-- `meshResyncTick()`. -/
def meshResyncTick (env : Env) (n : Node) : Node × List Out :=
  let q := nodeSyncQuality env n.nodeRole n.receiver.mediaSyncState
  let s := n.meshResync
  if q ≠ nowdeSyncCoarse then
    let s₁ : MeshResync := { s with stuckSince := 0, softResets := 0 }
    if q = nowdeSyncLocked ∧ s.resyncRebootCount ≠ 0 then
      ({ n with meshResync := { s₁ with resyncRebootCount := 0 }, nvs := { n.nvs with resyncrb := some 0 } }, [])
    else ({ n with meshResync := s₁ }, [])
  else
    let now := env.millis
    let s := if s.stuckSince = 0 then { s with stuckSince := now, lastAction := now, softResets := 0 } else s
    if s.softResets < meshMaxSoftResets then
      if now - s.lastAction ≥ meshResyncGraceMs then
        ({ n with meshResync := { s with softResets := s.softResets + 1, lastAction := now } }, [.meshClockReset])
      else ({ n with meshResync := s }, [])
    else if now - s.stuckSince ≥ meshRebootGraceMs ∧ s.resyncRebootCount < meshMaxAutoReboots then
      ({ n with meshResync := s, nvs := { n.nvs with resyncrb := some (s.resyncRebootCount + 1) } }, [.restart])
    else ({ n with meshResync := s }, [])

/-- "Receiver mode operations". -/
def receiverModeTick (env : Env) (n : Node) : Node × List Out :=
  let b := receiverBeacon env.millis env n
  let t := cleanupSenderTable env.millis b.1.senderTable
  let r := receiverTick env.millis b.1.receiver
  let m := meshResyncTick env { b.1 with senderTable := t.1, receiver := r.1 }
  (m.1, b.2 ++ t.2 ++ r.2.map .host ++ m.2)

/-- One iteration of the `espnowTask` loop. A restart never returns, so nothing follows it. -/
def espnowTask (env : Env) (n : Node) : Node × List Out :=
  let s := if n.senderModeEnabled then senderTick env n else (n, [])
  let r := if s.1.receiverModeEnabled then receiverModeTick env s.1 else (s.1, [])
  if .restart ∈ r.2 then (r.1, s.2 ++ r.2)
  else
    let f := relayTick env r.1
    (f.1, s.2 ++ r.2 ++ f.2)

/-- The parts of an iteration: the sender's, the receiver's, and the relay's unless the node
restarts before it. -/
theorem espnowTask_parts (env : Env) (n : Node) : ∃ s r : Node × List Out,
    (n.senderModeEnabled = true ∧ s = senderTick env n ∨ n.senderModeEnabled = false ∧ s = (n, [])) ∧
      (s.1.receiverModeEnabled = true ∧ r = receiverModeTick env s.1 ∨
        s.1.receiverModeEnabled = false ∧ r = (s.1, [])) ∧
      (Out.restart ∈ r.2 ∧ espnowTask env n = (r.1, s.2 ++ r.2) ∨
        Out.restart ∉ r.2 ∧ espnowTask env n = ((relayTick env r.1).1, s.2 ++ r.2 ++ (relayTick env r.1).2)) := by
  set s := if n.senderModeEnabled then senderTick env n else (n, []) with hs
  set r := if s.1.receiverModeEnabled then receiverModeTick env s.1 else (s.1, []) with hr
  refine ⟨s, r, ?_, ?_, ?_⟩
  · cases hmode : n.senderModeEnabled with
    | true => exact Or.inl ⟨rfl, by rw [hs, hmode]; rfl⟩
    | false => exact Or.inr ⟨rfl, by rw [hs, hmode]; rfl⟩
  · cases hmode : s.1.receiverModeEnabled with
    | true => exact Or.inl ⟨rfl, by rw [hr, hmode]; rfl⟩
    | false => exact Or.inr ⟨rfl, by rw [hr, hmode]; rfl⟩
  · unfold espnowTask
    dsimp only
    rw [← hs, ← hr]
    by_cases hre : Out.restart ∈ r.2
    · exact Or.inl ⟨hre, if_pos hre⟩
    · exact Or.inr ⟨hre, if_neg hre⟩

/-- A node without what an iteration moves. -/
def Node.still (n : Node) : Node :=
  { n with
    receiver := { n.receiver with mediaSyncState := { stopOnLinkLost := true } }
    relay := { n.relay with pendingRelays := fun _ => {} }
    senderTable := fun _ => {}
    receiverTable := fun _ => {}
    delayedPackets := fun _ => {}
    lastSenderBeacon := 0
    nextReceiverBeacon := 0
    meshResync := {}
    nvs := { n.nvs with resyncrb := none } }

theorem senderTick_still (env : Env) (n : Node) : (senderTick env n).1.still = n.still := by
  unfold senderTick senderBeacon delayedTick
  dsimp only
  split_ifs <;> rfl

theorem receiverModeTick_still (env : Env) (n : Node) : (receiverModeTick env n).1.still = n.still := by
  unfold receiverModeTick receiverBeacon meshResyncTick
  dsimp only
  split_ifs <;> rfl

/-- **An iteration leaves the rest of the node alone.** -/
theorem espnowTask_still (env : Env) (n : Node) : (espnowTask env n).1.still = n.still := by
  obtain ⟨s, r, hs, hr, htask⟩ := espnowTask_parts env n
  have hsender : s.1.still = n.still := by
    rcases hs with ⟨-, rfl⟩ | ⟨-, rfl⟩
    · exact senderTick_still env n
    · rfl
  have hreceiver : r.1.still = s.1.still := by
    rcases hr with ⟨-, rfl⟩ | ⟨-, rfl⟩
    · exact receiverModeTick_still env s.1
    · rfl
  rcases htask with ⟨-, htask⟩ | ⟨-, htask⟩
  · rw [htask]
    exact hreceiver.trans hsender
  · rw [htask]
    exact hreceiver.trans hsender

/-! ## The node as a machine -/

/-- What can happen to a running node. -/
inductive Event
  /-- The receive callback gets a frame from `src`. -/
  | radio (env : Env) (src : Mac) (data : List UInt8)
  /-- The MIDI task reads a packet from the host. -/
  | usb (env : Env) (packet : MidiEventPacket)
  /-- The ESP-NOW task goes round. -/
  | task (env : Env)

/-- The node reboots: it restarted itself, or it trapped. -/
def reboots (out : List Out) : Bool := Out.restart ∈ out ∨ Out.divideByZero ∈ out

/-- One event, up to the handler's return. -/
def Node.handle (lib : UpdateLib) (n : Node) : Event → Node × List Out
  | .radio env src data => onDataRecv lib env n src data
  | .usb env packet => midiPacket lib env n packet
  | .task env => espnowTask env n

/-- One event, with the reboot it may bring. -/
def Node.step (lib : UpdateLib) (build : Build) (n : Node) (e : Event) : Node × List Out :=
  let r := n.handle lib e
  if reboots r.2 then (boot build r.1.nvs r.1.boardId r.1.relay.myMacAddress, r.2) else r

end Nowde
