import Nowde.Proof.HostPath
import Nowde.Proof.Settings
import Nowde.Proof.WellFormed

/-!
# What a host reads back is what it set

A host sets a node up with commands, and reads the node's `CONFIG_STATE`. What it set is kept over reboots or
until the next one. Here the device of the settings also notes what was asked of the node since it booted.

* `handle_session`: only a command moves the session, and it moves it as asked.
* `execute_configOf`: a `CONFIG_STATE` is of the node as the command leaves it.
* `told_as_asked`: at every moment of every run a `CONFIG_STATE` tells the host what was asked for last.
-/

namespace Nowde

/-! ## A session -/

/-- What a host can set until the next reboot: the bad link, the pin, and the layer in use. -/
@[ext]
structure Session where
  rfSim : Bool := false
  delayMs : UInt32 := 400
  pinned : Option Mac := none
  layer : List UInt8
deriving DecidableEq

/-- The session as the node has it. -/
def Node.session (n : Node) : Session where
  rfSim := n.rfSimulationEnabled
  delayMs := n.rfSimMaxDelayMs
  pinned := if n.receiver.originLock.pinned then some n.receiver.originLock.mac else none
  layer := cstr n.receiver.subscribedLayer.bytes

/-- What a command asks of the session. -/
def Session.ask (w : Session) (n : Node) (c : Command) (data : List UInt8) (length : ℕ) : Session :=
  match c with
  | .pushFullConfig =>
    if length ≥ 6 then
      { w with
        rfSim := byteAt data 3 ≠ 0
        delayMs := ((byteAt data 4 &&& 0x7F).toUInt32 <<< 7) ||| (byteAt data 5 &&& 0x7F).toUInt32 }
    else w
  | .setOrigin =>
    let mac := decode7bit (slice data 3 7)
    if length = 4 then { w with pinned := none }
    else if length ≥ 11 ∧ ¬mac.length < 6 then { w with pinned := some (Mac.ofFrame mac 0) }
    else w
  | _ =>
    match namedLayer n c data length with
    | some name => { w with layer := (cstr name).take 15 }
    | none => w

/-- What an event asks of the session. -/
def Node.inSession (n : Node) (e : Event) (w : Session) : Session :=
  match n.commandOf e with
  | some (c, data, length) => w.ask n c data length
  | none => w

section Commands

variable (lib : UpdateLib) (env : Env) (n : Node) (data : List UInt8) (length : ℕ)

/-- What a role or a handshake moves is none of the session. -/
theorem applyRole_session (role : UInt8) : (applyRole n role).1.session = n.session := by
  unfold applyRole
  dsimp only
  split_ifs <;> rfl

theorem activateSender_session : (activateSender n).session = n.session := by
  unfold activateSender
  split <;> rfl

theorem changeSubscribedLayer_session : (changeSubscribedLayer n data length).session =
    { n.session with layer := (cstr (slice data 3 (min (length - 4) 15))).take 15 } := by
  have hlayer : cstr (changeSubscribedLayer n data length).receiver.subscribedLayer.bytes =
      (cstr (slice data 3 (min (length - 4) 15))).take 15 := by
    show cstr (layerBuf (slice data 3 (min (length - 4) 15) ++ [0])).bytes = _
    rw [cstr_layerBuf, cstr_append_zero]
  unfold Node.session
  rw [hlayer]
  rfl

/-- **What a command does to the session** is what it asks. -/
theorem execute_session (c : Command) :
    (execute lib env n c data length).1.session = n.session.ask n c data length := by
  cases c with
  | pushFullConfig =>
    simp only [execute, pushFullConfig, Session.ask]
    split
    · exact congrArg (fun w : Session => { w with
        rfSim := byteAt data 3 ≠ 0
        delayMs := ((byteAt data 4 &&& 0x7F).toUInt32 <<< 7) ||| (byteAt data 5 &&& 0x7F).toUInt32 })
        (activateSender_session n)
    · rfl
  | setOrigin =>
    simp only [execute, setOrigin, originRelease, Session.ask]
    by_cases hrelease : length = 4
    · rw [if_pos hrelease, if_pos hrelease]
      rfl
    · rw [if_neg hrelease, if_neg hrelease]
      by_cases hlong : length ≥ 11
      · by_cases hmac : (decode7bit (slice data 3 7)).length < 6
        · rw [if_pos hlong, if_pos hmac, if_neg fun h => h.2 hmac]
        · rw [if_pos hlong, if_neg hmac, if_pos ⟨hlong, hmac⟩]
          rfl
      · rw [if_neg hlong, if_neg fun h => hlong h.1]
  | setLocalLayer =>
    simp only [execute, setLocalLayer, Session.ask, namedLayer]
    split
    · exact changeSubscribedLayer_session n data length
    · rfl
  | changeReceiverLayer =>
    simp only [execute, changeReceiverLayer, Session.ask, namedLayer]
    split
    · split <;> rfl
    · split
      · exact changeSubscribedLayer_session n data length
      · rfl
  | queryConfig => exact activateSender_session n
  | setRole =>
    simp only [execute, setRole, Session.ask, namedLayer]
    split_ifs
    · rfl
    · exact applyRole_session _ _
    · rfl
  | queryRunningState =>
    simp only [execute, queryRunningState, sendRunningState, Session.ask, namedLayer]
    split_ifs <;> rfl
  | enterBootloader | otaBegin | otaData | otaDataAcked | otaEnd => rfl
  | setLog =>
    simp only [execute, setLog, Session.ask, namedLayer]
    split <;> rfl
  | setLr =>
    simp only [execute, setLr, Session.ask, namedLayer]
    split <;> rfl
  | setLossPolicy =>
    simp only [execute, setLossPolicy, Session.ask, namedLayer]
    split <;> rfl
  | mediaSync =>
    simp only [execute, mediaSync, Session.ask, namedLayer]
    split_ifs <;> rfl

end Commands

/-! ## The answer -/

/-- Each `CONFIG_STATE` among the outputs is of node `m`. -/
def ConfigOf (m : Node) (out : List Out) : Prop :=
  ∀ message, .host (.sysExBytes message) ∈ out → byteAt message 2 = sysexCmdConfigState →
    message = configStateMessage m

section Answers

variable {m : Node} {out out' : List Out} (env : Env)

@[simp] theorem configOf_nil : ConfigOf m [] := fun _ h => absurd h (by simp)

@[simp] theorem configOf_append : ConfigOf m (out ++ out') ↔ ConfigOf m out ∧ ConfigOf m out' := by
  simp only [ConfigOf, List.mem_append, or_imp, forall_and]

/-- Outputs without SysEx bytes. -/
theorem configOf_of_none (h : ∀ message, .host (.sysExBytes message) ∉ out) : ConfigOf m out :=
  fun message hmem => absurd hmem (h message)

@[simp] theorem sendConfigState_configOf : ConfigOf m (sendConfigState m) := by
  intro message hmem _
  simpa [sendConfigState] using hmem

@[simp] theorem sendHello_configOf (n : Node) : ConfigOf m (sendHello env n) :=
  configOf_of_none (by simp [sendHello])

@[simp] theorem sendErrorReport_configOf (code : UInt8) (context : List UInt8) (length : UInt8) :
    ConfigOf m (sendErrorReport code context length) := configOf_of_none (by simp [sendErrorReport])

@[simp] theorem sendConfigInvalid_configOf : ConfigOf m sendConfigInvalid := sendErrorReport_configOf _ _ _

/-- Reports to the mesh and changes of the peer list are no SysEx. -/
theorem sendReceiverInfo_noBytes (n : Node) (message : List UInt8) :
    .host (.sysExBytes message) ∉ sendReceiverInfo env n := by
  intro hmem
  obtain ⟨i, -, heq⟩ := mem_sendReceiverInfo _ _ hmem
  cases heq

theorem applyRole_noBytes (n : Node) (role : UInt8) (message : List UInt8) :
    .host (.sysExBytes message) ∉ (applyRole n role).2 := by
  intro hmem
  unfold applyRole at hmem
  dsimp only at hmem
  split_ifs at hmem
  · cases hmem
  · dsimp only at hmem
    obtain ⟨i, -, heq⟩ := Slots.mem_collect_ite.1 hmem
    cases heq
  · cases hmem
  · cases hmem

@[simp] theorem sendReceiverInfo_configOf (n : Node) : ConfigOf m (sendReceiverInfo env n) :=
  configOf_of_none (sendReceiverInfo_noBytes env n)

@[simp] theorem applyRole_configOf (n : Node) (role : UInt8) : ConfigOf m (applyRole n role).2 :=
  configOf_of_none (applyRole_noBytes n role)

theorem sendRunningState_configOf (n : Node) : ConfigOf m (sendRunningState env n).2 := by
  refine configOf_of_none fun message hmem => ?_
  unfold sendRunningState at hmem
  split at hmem
  · cases hmem
  · dsimp only at hmem
    split at hmem
    · simp at hmem
    · obtain ⟨i, hi, heq⟩ := List.mem_mapIdx.1 hmem
      cases heq

/-- **A `CONFIG_STATE`** is of the node as the command leaves it. -/
theorem execute_configOf (lib : UpdateLib) (n : Node) (c : Command) (data : List UInt8) (length : ℕ) :
    ConfigOf (execute lib env n c data length).1 (execute lib env n c data length).2 := by
  cases c with
  | queryConfig => simp [execute, queryConfig]
  | pushFullConfig =>
    simp only [execute, pushFullConfig]
    split <;> simp
  | queryRunningState =>
    simp only [execute, queryRunningState]
    split_ifs <;> simp [sendRunningState_configOf]
  | enterBootloader => exact configOf_nil
  | otaBegin =>
    refine configOf_of_none fun message hmem => ?_
    simp only [execute, withOta, otaBegin] at hmem
    split_ifs at hmem <;> simp [sendErrorReport, sendConfigInvalid] at hmem
  | otaData =>
    refine configOf_of_none fun message hmem => ?_
    simp only [execute, withOta, otaData] at hmem
    split_ifs at hmem <;> simp [sendErrorReport, sendConfigInvalid] at hmem
  | otaDataAcked =>
    -- the other frame that is sent as bytes
    intro message hmem hconfig
    simp only [execute, withOta, otaDataAcked, sendOtaAck] at hmem
    have hack : ∀ seq status, message ≠ [sysexStart, sysexManufacturerId, sysexCmdOtaAck, seq, status, sysexEnd] := by
      intro seq status heq
      rw [heq, byteAt_cons_succ, byteAt_cons_succ, byteAt_cons_zero] at hconfig
      exact absurd hconfig (by decide)
    split_ifs at hmem <;> simp [hack] at hmem
  | otaEnd =>
    refine configOf_of_none fun message hmem => ?_
    simp only [execute, withOta, otaEnd] at hmem
    split_ifs at hmem <;> simp [sendErrorReport, sendConfigInvalid] at hmem
  | setRole =>
    simp only [execute, setRole]
    split_ifs <;> simp
  | setLog =>
    simp only [execute, setLog]
    split <;> simp
  | setLr =>
    simp only [execute, setLr]
    split
    · exact configOf_append.2 ⟨sendHello_configOf env _, configOf_of_none (by simp)⟩
    · simp
  | setLossPolicy =>
    simp only [execute, setLossPolicy]
    split <;> simp
  | setOrigin =>
    simp only [execute, setOrigin]
    split_ifs <;> simp
  | setLocalLayer =>
    simp only [execute, setLocalLayer]
    split <;> simp
  | mediaSync =>
    refine configOf_of_none fun message hmem => ?_
    simp only [execute, mediaSync] at hmem
    split_ifs at hmem <;> simp at hmem
  | changeReceiverLayer =>
    simp only [execute, changeReceiverLayer]
    split
    · split
      · refine configOf_of_none fun message hmem => ?_
        split_ifs at hmem <;> simp [sendErrorReport] at hmem
      · simp
    · split <;> simp

end Answers

section Events

variable (lib : UpdateLib) (n : Node)

/-- **What an event does to the session** is what it asks. -/
theorem handle_session (e : Event) : (n.handle lib e).1.session = n.inSession e n.session := by
  unfold Node.inSession
  cases hcmd : n.commandOf e with
  | some k =>
    obtain ⟨c, data, length⟩ := k
    have hnoted : (n.noted e).session.ask (n.noted e) c data length = n.session.ask n c data length := by
      cases e <;> rfl
    rw [handle_of_command lib n hcmd, execute_session, hnoted]
  | none =>
    cases e with
    | task env =>
      show (espnowTask env n).1.still.session = n.still.session
      rw [espnowTask_still]
    | usb env packet =>
      simp only [Node.handle, (midiPacket_of_none lib env n hcmd).1]
      rfl
    | radio env src data =>
      have hnone : radioCommand data = none := by simpa [Node.commandOf] using hcmd
      have hkept := (onDataRecv_kept lib env n src fun c hc => by rw [hnone] at hc; cases hc).1
      obtain ⟨_, _, _, _, hlayer, hnode⟩ := handle_of_none lib n hcmd (by simp)
      have hsubscribed : (n.handle lib (.radio env src data)).1.receiver.subscribedLayer =
          n.receiver.subscribedLayer := by
        rw [hnode]
        exact hlayer
      refine Session.ext hkept.rfSim.1 hkept.rfSim.2 ?_ (congrArg (fun b : CharBuf 16 => cstr b.bytes) hsubscribed)
      show (if (onDataRecv lib env n src data).1.receiver.originLock.pinned = true then _ else _) = if _ then _ else _
      rw [hkept.pinned]
      split
      · next hpinned => exact congrArg some (hkept.pinnedMac hpinned)
      · rfl

end Events

/-! ## Runs -/

/-- The session of a boot. -/
def Session.booted (w : Settings) : Session where
  layer := w.layer

/-- A device, with what was asked of it for good, and since it booted. -/
structure ToldDevice where
  kept : KeptDevice
  session : Session

namespace ToldDevice

/-- What an event asks of the session. -/
def asks (s : ToldDevice) : DeviceEvent → Session
  | .node e => s.kept.device.node.inSession e s.session
  | _ => s.session

/-- One event. -/
def step (lib : UpdateLib) (build : Build) (s : ToldDevice) (e : DeviceEvent) : ToldDevice × List (Out ⊕ Shown) :=
  let r := s.kept.step lib build e
  ({ kept := r.1
     session := if s.kept.device.boots lib build e then Session.booted r.1.wanted else s.asks e }, r.2)

/-- A device as it boots. -/
def init (build : Build) (nvs : Nvs) (boardId : UInt8) (mac : Mac) (ui : Ui) : ToldDevice where
  kept := { device := { node := boot build nvs boardId mac, ui := ui }, wanted := .load build nvs }
  session := Session.booted (.load build nvs)

end ToldDevice

/-- What was asked for is stored and in use. -/
structure InUse (build : Build) (s : ToldDevice) : Prop where
  kept : SettingsKept build s.kept
  session : s.kept.device.node.session = s.session
  delay : s.session.delayMs.toNat < 0x4000
  layer : s.session.layer.length ≤ 15

/-- What a host reads is what was asked for: `info` for settings `w` and a session `s`. -/
structure Told (boardId : UInt8) (w : Settings) (s : Session) (info : Host.ConfigInfo) : Prop where
  rfSim : info.rfSim = s.rfSim
  delay : info.rfSimDelayMs = s.delayMs.toNat
  trailer : ∃ t, info.trailer = some t ∧ t.role = Host.roleName (resolveRole boardId w.role) ∧
    t.layer = (s.layer.map fun c => Char.ofNat c.toNat) ∧ (s.layer = [] ∨ s.layer = w.layer) ∧
    ∃ tail, t.tail = some tail ∧ tail.stopOnLinkLost = w.stopOnLinkLost ∧ tail.originPinned = s.pinned.isSome ∧
      ∀ mac, s.pinned = some mac → tail.origin = some (Host.joinHex ':' mac.bytes)

section Runs

variable {lib : UpdateLib} {build : Build} {s : ToldDevice}

/-- A boot clears the session. -/
theorem boot_session (nvs : Nvs) (boardId : UInt8) (mac : Mac) :
    (boot build nvs boardId mac).session = Session.booted (Settings.load build nvs) :=
  applyRole_session _ _

/-- A delay is of fourteen bits. -/
theorem fourteenBits_lt (a b : UInt8) : (((a &&& 0x7F).toUInt32 <<< 7) ||| (b &&& 0x7F).toUInt32).toNat < 0x4000 := by
  have hlow : ∀ c : UInt8, (c &&& 0x7F).toUInt32.toNat < 2 ^ 7 := by
    intro c
    rw [UInt8.toNat_toUInt32, UInt8.toNat_and]
    exact lt_of_le_of_lt Nat.and_le_right (by decide)
  have hhigh : ((a &&& 0x7F).toUInt32 <<< 7).toNat < 2 ^ 14 := by
    rw [UInt32.toNat_shiftLeft]
    have := hlow a
    show (a &&& 0x7F).toUInt32.toNat <<< 7 % 2 ^ 32 < 2 ^ 14
    rw [Nat.shiftLeft_eq]
    omega
  rw [UInt32.toNat_or]
  exact Nat.or_lt_two_pow hhigh ((hlow b).trans (by decide))

theorem Session.ask_delay {w : Session} (h : w.delayMs.toNat < 0x4000) (n : Node) (c : Command) (data : List UInt8)
    (length : ℕ) : (w.ask n c data length).delayMs.toNat < 0x4000 := by
  cases c with
  | pushFullConfig =>
    simp only [Session.ask]
    split
    · exact fourteenBits_lt _ _
    · exact h
  | setOrigin =>
    simp only [Session.ask]
    split_ifs <;> exact h
  | _ =>
    simp only [Session.ask]
    split <;> exact h

theorem Session.ask_layer {w : Session} (h : w.layer.length ≤ 15) (n : Node) (c : Command) (data : List UInt8)
    (length : ℕ) : (w.ask n c data length).layer.length ≤ 15 := by
  cases c with
  | pushFullConfig =>
    simp only [Session.ask]
    split <;> exact h
  | setOrigin =>
    simp only [Session.ask]
    split_ifs <;> exact h
  | _ =>
    simp only [Session.ask]
    split
    · exact List.length_take_le _ _
    · exact h

/-- The session an event leaves is the one it asks for. -/
theorem Node.inSession_bounds {n : Node} {w : Session} (hdelay : w.delayMs.toNat < 0x4000)
    (hlayer : w.layer.length ≤ 15) (e : Event) :
    (n.inSession e w).delayMs.toNat < 0x4000 ∧ (n.inSession e w).layer.length ≤ 15 := by
  unfold Node.inSession
  split
  · exact ⟨Session.ask_delay hdelay _ _ _ _, Session.ask_layer hlayer _ _ _ _⟩
  · exact ⟨hdelay, hlayer⟩

/-- The settings of a boot fit the layer's buffer. -/
theorem load_layer_length (nvs : Nvs) : (Settings.load build nvs).layer.length ≤ 15 := by
  show (cstr (layerBuf (loadLayer build nvs)).bytes).length ≤ 15
  rw [cstr_layerBuf]
  exact List.length_take_le _ _

/-- What boots is in the session of a boot. -/
theorem InUse.of_boot {k : KeptDevice} (hkept : SettingsKept build k)
    (hnode : ∃ nvs boardId mac, k.device.node = boot build nvs boardId mac) :
    InUse build { kept := k, session := Session.booted k.wanted } := by
  obtain ⟨nvs, boardId, mac, hnode⟩ := hnode
  have hwanted : Settings.load build nvs = k.wanted := by
    have hstored := hkept.stored
    rwa [hnode, boot_nvs] at hstored
  refine ⟨hkept, ?_, by show (400 : UInt32).toNat < 0x4000; decide, ?_⟩
  · show k.device.node.session = Session.booted k.wanted
    rw [hnode, boot_session, hwanted]
  · show k.wanted.layer.length ≤ 15
    rw [← hwanted]
    exact load_layer_length nvs

/-- An event that boots the node leaves it as it boots. -/
theorem Device.node_of_boots {d : Device} {e : DeviceEvent} (h : d.boots lib build e = true) :
    ∃ nvs boardId mac, (d.step lib build e).1.node = boot build nvs boardId mac := by
  have hstep : ∀ {e : Event}, reboots (d.node.step lib build e).2 = true →
      ∃ nvs boardId mac, (d.nodeStep lib build e).1.node = boot build nvs boardId mac := by
    intro e hre
    rw [step_outputs] at hre
    unfold Device.nodeStep
    dsimp only
    rw [step_of_reboots build hre, if_pos hre]
    exact ⟨_, _, _, rfl⟩
  cases e with
  | node e =>
    cases e with
    | task env =>
      cases hreset : d.resetting with
      | true => simp [Device.boots, hreset] at h
      | false =>
        have htask : d.step lib build (.node (.task env)) = d.nodeStep lib build (.task env) := by
          simp [Device.step, hreset]
        rw [htask]
        exact hstep (by simpa [Device.boots, hreset] using h)
    | radio env src data => exact hstep h
    | usb env packet => exact hstep h
  | ui env b => cases h
  | waited =>
    have hwait : (d.step lib build .waited).1 = Device.reboot build d := if_pos h
    rw [hwait]
    exact ⟨_, _, _, rfl⟩
  | powerCut => exact ⟨_, _, _, rfl⟩

/-- **Any other event** leaves the session that it asks for. -/
theorem ToldDevice.session_step {e : DeviceEvent} (hboots : s.kept.device.boots lib build e = false)
    (h : s.kept.device.node.session = s.session) :
    (s.kept.device.step lib build e).1.node.session = s.asks e := by
  have hstep : ∀ {e : Event}, reboots (s.kept.device.node.step lib build e).2 = false →
      (s.kept.device.nodeStep lib build e).1.node.session = s.asks (.node e) := by
    intro e hre
    have hstays : ¬reboots (s.kept.device.node.handle lib e).2 = true := by
      rw [← step_outputs build, hre]
      exact Bool.false_ne_true
    unfold Device.nodeStep
    dsimp only
    rw [step_of_not_reboots build (Bool.eq_false_of_not_eq_true hstays), if_neg hstays]
    show (s.kept.device.node.handle lib e).1.session = _
    rw [handle_session, h]
    rfl
  cases e with
  | node e =>
    cases e with
    | task env =>
      cases hreset : s.kept.device.resetting with
      | true =>
        have hsame : (s.kept.device.step lib build (.node (.task env))).1 = s.kept.device := by
          simp [Device.step, hreset]
        rw [hsame]
        exact h
      | false =>
        have htask :
            s.kept.device.step lib build (.node (.task env)) = s.kept.device.nodeStep lib build (.task env) := by
          simp [Device.step, hreset]
        rw [htask]
        exact hstep (by simpa [Device.boots, hreset] using hboots)
    | radio env src data => exact hstep hboots
    | usb env packet => exact hstep hboots
  | ui env b =>
    show _ = s.session
    rw [← h]
    unfold Device.step
    dsimp only
    split_ifs <;> rfl
  | waited =>
    have hreset : s.kept.device.resetting = false := hboots
    have hwait : (s.kept.device.step lib build .waited).1 = s.kept.device := if_neg (by simp [hreset])
    rw [hwait]
    exact h
  | powerCut => cases hboots

/-- **One event** keeps stored and in use what was asked for. -/
theorem InUse.step (h : InUse build s) (e : DeviceEvent) : InUse build (s.step lib build e).1 := by
  have hkept : SettingsKept build (s.kept.step lib build e).1 := h.kept.step e
  unfold ToldDevice.step
  dsimp only
  cases hboots : s.kept.device.boots lib build e with
  | true =>
    rw [if_pos rfl]
    exact InUse.of_boot hkept (Device.node_of_boots hboots)
  | false =>
    rw [if_neg Bool.false_ne_true]
    have hbounds : (s.asks e).delayMs.toNat < 0x4000 ∧ (s.asks e).layer.length ≤ 15 := by
      cases e with
      | node e => exact Node.inSession_bounds h.delay h.layer e
      | _ => exact ⟨h.delay, h.layer⟩
    exact ⟨hkept, ToldDevice.session_step hboots h.session, hbounds.1, hbounds.2⟩

/-- **A device has in use what was asked for**, at every moment of every run. -/
theorem inUse_run (nvs : Nvs) (boardId : UInt8) (mac : Mac) (ui : Ui) (events : List DeviceEvent) :
    InUse build (Mealy.run (ToldDevice.step lib build) (ToldDevice.init build nvs boardId mac ui) events).1 := by
  refine Mealy.inv_run (G := fun _ _ => True) (InUse build) (fun s e h _ => h.step e) ?_
    (Mealy.guarded_of_forall (fun _ _ => trivial) _ _)
  exact InUse.of_boot (SettingsKept.of_boot nvs boardId mac ui) ⟨nvs, boardId, mac, rfl⟩

/-- A role that a node runs with is of seven bits. -/
theorem resolveRole_lt (hdefault : build.roleDefault < 0x80) (nvs : Nvs) (boardId : UInt8) :
    resolveRole boardId (loadRole build nvs) < 0x80 := by
  have hload : loadRole build nvs < 0x80 := by
    unfold loadRole
    split
    · exact hdefault
    · split_ifs with hrole
      · decide
      · rcases not_and_or.1 hrole with h | h <;> rw [not_not.1 h] <;> decide
  unfold resolveRole
  split_ifs
  · decide
  · decide
  · decide
  · exact hload

/-- **A `CONFIG_STATE` is read** as what the node has in use. -/
theorem parse_told {n : Node} {w : Settings} {unnamed : Bool} (hruns : RunsWith n w unnamed)
    (hdelay : n.session.delayMs.toNat < 0x4000) (hlen : n.session.layer.length ≤ 15)
    (hascii : ∀ c ∈ n.session.layer, c < 0x80) (hrole : resolveRole n.boardId w.role < 0x80) :
    ∃ info, Host.parse (Host.payload (configStateMessage n)) = some ("CONFIG_STATE", .configState info) ∧
      Told n.boardId w n.session info := by
  have hreads := configReads n hlen hascii hdelay
  obtain ⟨t, ht, hreadsRole, -, hlayer, htail⟩ := hreads.trailer
  have hkept : n.session.layer = [] ∨ n.session.layer = w.layer := by
    have hused : n.session.layer = if unnamed then [] else w.layer := hruns.layer
    cases unnamed with
    | true => exact .inl hused
    | false => exact .inr hused
  refine ⟨_, parse_configState n hlen hascii, hreads.rfSim, hreads.delay, t, ht, ?_, hlayer, hkept, _, htail,
    hruns.lossPolicy, ?_, ?_⟩
  · rw [← hruns.role.2] at hrole ⊢
    exact hreadsRole hrole
  · -- a pinned lock is valid
    show (n.receiver.originLock.valid && n.receiver.originLock.pinned) =
      (if n.receiver.originLock.pinned = true then some n.receiver.originLock.mac else none).isSome
    cases hpinned : n.receiver.originLock.pinned with
    | true => rw [n.receiver.originLock.pinned_valid hpinned, if_pos rfl]; rfl
    | false => rw [Bool.and_false, if_neg Bool.false_ne_true]; rfl
  · intro mac hmac
    have hpin :
        (if n.receiver.originLock.pinned = true then some n.receiver.originLock.mac else none) = some mac := hmac
    split at hpin
    · next hpinned =>
      cases hpin
      exact if_pos (n.receiver.originLock.pinned_valid hpinned)
    · cases hpin

/-- What a device puts out for its node is what the node's handler does. -/
theorem Device.mem_handle {d : Device} {e : Event} {o : Out} (h : .inl o ∈ (d.step lib build (.node e)).2) :
    o ∈ (d.node.handle lib e).2 := by
  have hnode : .inl o ∈ (d.nodeStep lib build e).2 → o ∈ (d.node.handle lib e).2 := by
    intro hmem
    obtain ⟨o', ho, heq⟩ := List.mem_map.1 hmem
    cases heq
    rwa [step_outputs] at ho
  cases e with
  | task env =>
    cases hreset : d.resetting with
    | true => simp [Device.step, hreset] at h
    | false => exact hnode (by simpa [Device.step, hreset] using h)
  | radio env src data => exact hnode h
  | usb env packet => exact hnode h

/-- No setting changes the board. -/
theorem Switches.set_boardId (w : Switches) (setting : Option Setting) : (w.set setting).boardId = w.boardId := by
  cases setting with
  | none => rfl
  | some setting => cases setting <;> rfl

/-- Without a command no SysEx frame is sent as bytes. -/
theorem handle_noBytes (lib : UpdateLib) {n : Node} {e : Event} (hcmd : n.commandOf e = none) (message : List UInt8) :
    .host (.sysExBytes message) ∉ (n.handle lib e).2 := by
  intro hmem
  have hplays : ∀ {h : HostMsg}, h.sysEx? = none → .host (.sysExBytes message) ≠ Out.host h := by
    intro h hsysEx heq
    cases heq
    cases hsysEx
  cases e with
  | usb env packet =>
    obtain ⟨a, b, l, heq⟩ := (midiPacket_of_none lib env n hcmd).2 _ hmem
    cases heq
  | task env =>
    rcases espnowTask_out env n _ hmem with ⟨-, h, hh, heq⟩ | hround
    · exact hplays (receiverTick_sysEx _ _ h hh) heq
    · cases hround
  | radio env src data =>
    have hnone : radioCommand data = none := by simpa [Node.commandOf] using hcmd
    simp only [Node.handle] at hmem
    rcases onDataRecv_cases lib env n src data with
      ⟨-, -, -, hrecv⟩ | ⟨-, -, -, hrecv⟩ | ⟨-, -, -, hsysex, hrecv⟩ | ⟨-, -, relay, hrecv⟩
    · rw [hrecv] at hmem
      cases handleSenderBeacon_out env n.senderTable src _ hmem
    · rw [hrecv] at hmem
      cases handleReceiverInfo_out env n.receiverTable src data _ hmem
    · unfold radioCommand at hnone
      rw [if_pos hsysex] at hnone
      rw [hrecv, handleSysExMessage_of_none lib env n hnone] at hmem
      obtain ⟨a, b, l, heq⟩ := sysexRejection_out _ _ _ hmem
      cases heq
    · rw [hrecv] at hmem
      unfold mediaEffect receiveMedia at hmem
      dsimp only at hmem
      split at hmem
      · split at hmem
        · obtain ⟨h, hh, heq⟩ := List.mem_map.1 hmem
          exact hplays (processMediaSyncPacket_sysEx env _ _ _ h hh) heq.symm
        · cases hmem
      · cases hmem

/-- Only an answer to a command is a `CONFIG_STATE`. -/
theorem handle_configOf (lib : UpdateLib) (n : Node) (e : Event) :
    ConfigOf (n.handle lib e).1 (n.handle lib e).2 := by
  cases hcmd : n.commandOf e with
  | some k =>
    obtain ⟨c, data, length⟩ := k
    rw [handle_of_command lib n hcmd]
    exact execute_configOf e.env lib _ c data length
  | none => exact configOf_of_none (handle_noBytes lib hcmd)

/-- **What a device in such a state answers** is what was asked for last. -/
theorem InUse.told (h : InUse build s) (hdefault : build.roleDefault < 0x80)
    (hup : s.kept.device.resetting = false) {e : Event} {message : List UInt8}
    (hmem : .inl (.host (.sysExBytes message)) ∈ (s.step lib build (.node e)).2)
    (hconfig : byteAt message 2 = sysexCmdConfigState) (hascii : ∀ c ∈ (s.asks (.node e)).layer, c < 0x80) :
    ∃ info, Host.parse (Host.payload message) = some ("CONFIG_STATE", .configState info) ∧
      Told s.kept.device.node.boardId (s.kept.device.node.asked build e s.kept.wanted) (s.asks (.node e)) info := by
  set n := s.kept.device.node with hn
  have hmessage := handle_configOf lib n e message (Device.mem_handle hmem) hconfig
  have hsession : (n.handle lib e).1.session = s.asks (.node e) := by
    rw [handle_session, h.session]
    rfl
  have hbounds : (s.asks (.node e)).delayMs.toNat < 0x4000 ∧ (s.asks (.node e)).layer.length ≤ 15 :=
    Node.inSession_bounds h.delay h.layer e
  have hboard : (n.handle lib e).1.boardId = n.boardId :=
    (congrArg Switches.boardId (handle_switches lib n e)).trans (Switches.set_boardId _ _)
  have hload := handle_load lib build n e
  rw [h.kept.stored] at hload
  rw [hmessage, ← hsession, ← hboard]
  refine parse_told (handle_runsWith lib build n e (h.kept.inUse hup)) ?_ ?_ ?_ ?_
  · rw [hsession]
    exact hbounds.1
  · rw [hsession]
    exact hbounds.2
  · rw [hsession]
    exact hascii
  · rw [← hload]
    exact resolveRole_lt hdefault _ _

end Runs

/-- **A host is told what it asked for**: whatever a device went through since it booted with whatever NVS, a
`CONFIG_STATE` that it sends says what was validly asked for last, the command it answers included. -/
theorem told_as_asked (lib : UpdateLib) (build : Build) (hdefault : build.roleDefault < 0x80) (nvs : Nvs)
    (boardId : UInt8) (mac : Mac) (ui : Ui) (events : List DeviceEvent) (e : Event) {s : ToldDevice}
    (hs : s = (Mealy.run (ToldDevice.step lib build) (ToldDevice.init build nvs boardId mac ui) events).1)
    (hup : s.kept.device.resetting = false) {message : List UInt8}
    (hmem : .inl (.host (.sysExBytes message)) ∈ (s.step lib build (.node e)).2)
    (hconfig : byteAt message 2 = sysexCmdConfigState) (hascii : ∀ c ∈ (s.asks (.node e)).layer, c < 0x80) :
    ∃ info, Host.parse (Host.payload message) = some ("CONFIG_STATE", .configState info) ∧
      Told s.kept.device.node.boardId (s.kept.device.node.asked build e s.kept.wanted) (s.asks (.node e)) info := by
  have hinUse : InUse build s := hs ▸ inUse_run nvs boardId mac ui events
  exact hinUse.told hdefault hup hmem hconfig hascii

/-- A host sets the loss policy, the layer and the bad link, the device loses its power, and the host sets the layer
again, pins a master and asks. -/
def setUp : List DeviceEvent :=
  let sent (frames : List (List UInt8)) : List DeviceEvent :=
    (frames.flatMap Host.sysexPackets).map fun packet => .node (.usb { millis := 900 } packet)
  sent [Host.send (Host.setLossPolicy true), Host.send (Host.setLocalLayer ['a']),
      Host.send (Host.pushFullConfig true 300)] ++
    .powerCut :: sent [Host.send (Host.setLocalLayer ['b', 'c']), Host.send (Host.setOrigin (some slaveMac))] ++
    [.node (.usb { millis := 900 } ⟨0x04, 0xF0, 0x7D, 0x01⟩)]

/-- The device before the end of the question. -/
def askedDevice : ToldDevice :=
  (Mealy.run (ToldDevice.step noUpdate plainBuild) (ToldDevice.init plainBuild {} 3 slaveMac {}) setUp).1

/-- The end of it. -/
def queryEnd : Event := .usb { millis := 901 } ⟨0x05, 0xF7, 0, 0⟩

/-- A question over USB is answered. -/
theorem query_answered {lib : UpdateLib} {build : Build} {s : ToldDevice} {env : Env} {packet : MidiEventPacket}
    {data : List UInt8} {length : ℕ}
    (hcmd : s.kept.device.node.commandOf (.usb env packet) = some (.queryConfig, data, length)) :
    .inl (.host (.sysExBytes (configStateMessage (s.kept.device.node.handle lib (.usb env packet)).1))) ∈
      (s.step lib build (.node (.usb env packet))).2 := by
  have hanswer : .host (.sysExBytes (configStateMessage (s.kept.device.node.handle lib (.usb env packet)).1)) ∈
      (s.kept.device.node.handle lib (.usb env packet)).2 := by
    rw [handle_of_command lib s.kept.device.node hcmd]
    exact List.mem_append_right _ (List.mem_singleton_self _)
  show _ ∈ (s.kept.device.node.step lib build (.usb env packet)).2.map Sum.inl
  rw [step_outputs]
  exact List.mem_map_of_mem hanswer

theorem queryEnd_completes :
    askedDevice.kept.device.node.commandOf queryEnd = some (.queryConfig, [0xF0, 0x7D, 0x01, 0xF7], 4) := by
  decide +kernel

theorem told_as_asked_query :
    ∃ info, Host.parse (Host.payload (configStateMessage (askedDevice.kept.device.node.handle noUpdate queryEnd).1)) =
        some ("CONFIG_STATE", .configState info) ∧
      Told askedDevice.kept.device.node.boardId
        (askedDevice.kept.device.node.asked plainBuild queryEnd askedDevice.kept.wanted)
        (askedDevice.asks (.node queryEnd)) info :=
  told_as_asked noUpdate plainBuild (by decide) {} 3 slaveMac {} setUp queryEnd (s := askedDevice) rfl
    (by decide +kernel) (query_answered queryEnd_completes) (by decide +kernel) (by decide +kernel)

end Nowde
