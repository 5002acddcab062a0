import Nowde.Proof.LayerKept
import Nowde.Spec.Ui

/-!
# What a node keeps over reboots

Four things are meant to outlive a reboot: the role, the radio's long range switch, the loss policy and the
layer. Each is held twice, in a global and in NVS. A command may come over USB or over the air, the node may
restart itself, be reset by a long press, or lose its power at any moment.

* `execute_switches`, `handle_switches`: only a valid command moves a switch, and it moves both copies.
* `settings_kept`: at every moment of every run a node runs with, and would boot again with, what was last
  asked for since the last reset, and the defaults of its build else. An empty layer name is in use until the
  next boot, which takes the build's own layer for it.
-/

namespace Nowde

/-! ## Settings -/

/-- What is meant to outlive a reboot. -/
@[ext]
structure Settings where
  role : UInt8
  lr : Bool
  stopOnLinkLost : Bool
  layer : List UInt8

/-- One valid command. -/
inductive Setting
  | role (role : UInt8)
  | lr (on : Bool)
  | lossPolicy (stop : Bool)
  | layer (name : List UInt8)

namespace Settings

/-- The settings a node boots with. -/
def load (build : Build) (nvs : Nvs) : Settings where
  role := loadRole build nvs
  lr := loadSwitch nvs.lr build.wifiLr
  stopOnLinkLost := loadSwitch nvs.loss build.stopOnLinkLost
  layer := cstr (layerBuf (loadLayer build nvs)).bytes

/-- What a command asks a boot for; a boot takes the build's own layer for an empty name. -/
def set (build : Build) (w : Settings) : Setting → Settings
  | .role role => { w with role := role }
  | .lr on => { w with lr := on }
  | .lossPolicy stop => { w with stopOnLinkLost := stop }
  | .layer name =>
    { w with layer := if cstr name = [] then (load build {}).layer else (cstr name).take 15 }

end Settings

/-- The setting that a command makes. -/
def settingOf (n : Node) (c : Command) (data : List UInt8) (length : ℕ) : Option Setting :=
  let v := byteAt data 3
  match c with
  | .setRole =>
    if length ≥ 5 ∧ (v = nowdeRoleSlave ∨ v = nowdeRoleMaster ∨ v = nowdeRoleAuto) then some (.role v) else none
  | .setLr => if length ≥ 5 ∧ (v = 0 ∨ v = 1) then some (.lr (v = 1)) else none
  | .setLossPolicy => if length ≥ 5 ∧ (v = 0 ∨ v = 1) then some (.lossPolicy (v = 1)) else none
  | _ => (namedLayer n c data length).map .layer

/-- The setting that an event makes. -/
def Node.sets (n : Node) (e : Event) : Option Setting :=
  (n.commandOf e).bind fun k => settingOf n k.1 k.2.1 k.2.2

/-! ## The two copies -/

/-- Where the switches live: the globals, and the keys of NVS. -/
structure Switches where
  boardId : UInt8
  storedRole : UInt8
  nodeRole : UInt8
  lrEnabled : Bool
  stopOnLinkLost : Bool
  role : Option UInt8
  lr : Option UInt8
  loss : Option UInt8

/-- The switches of a node. -/
def Node.switches (n : Node) : Switches where
  boardId := n.boardId
  storedRole := n.storedRole
  nodeRole := n.nodeRole
  lrEnabled := n.lrEnabled
  stopOnLinkLost := n.receiver.mediaSyncState.stopOnLinkLost
  role := n.nvs.role
  lr := n.nvs.lr
  loss := n.nvs.loss

/-- A setting moves both copies of its switch. -/
def Switches.set (w : Switches) : Option Setting → Switches
  | some (.role role) => { w with storedRole := role, nodeRole := resolveRole w.boardId role, role := some role }
  | some (.lr on) => { w with lrEnabled := on, lr := some (if on then 1 else 0) }
  | some (.lossPolicy stop) => { w with stopOnLinkLost := stop, loss := some (if stop then 1 else 0) }
  | some (.layer _) | none => w

section Commands

variable (lib : UpdateLib) (env : Env) (n : Node) (data : List UInt8) (length : ℕ)

theorem activateSender_switches : (activateSender n).switches = n.switches := by
  unfold activateSender
  split <;> rfl

theorem applyRole_switches (role : UInt8) : (applyRole n role).1.switches = { n.switches with nodeRole := role } := by
  unfold applyRole
  dsimp only
  split_ifs <;> rfl

/-- A switch is stored as the byte that was asked for. -/
theorem stored_switch {v : UInt8} (h : v = 0 ∨ v = 1) : (if decide (v = 1) = true then 1 else 0 : UInt8) = v := by
  rcases h with rfl | rfl <;> rfl

theorem setRole_switches :
    (setRole env n data length).1.switches = n.switches.set (settingOf n .setRole data length) := by
  unfold setRole settingOf
  dsimp only
  by_cases hlen : length ≥ 5
  · rw [if_pos hlen]
    by_cases hrole : byteAt data 3 = nowdeRoleSlave ∨ byteAt data 3 = nowdeRoleMaster ∨ byteAt data 3 = nowdeRoleAuto
    · have hvalid : ¬(byteAt data 3 ≠ nowdeRoleSlave ∧ byteAt data 3 ≠ nowdeRoleMaster ∧
          byteAt data 3 ≠ nowdeRoleAuto) := by tauto
      rw [if_neg hvalid, if_pos ⟨hlen, hrole⟩]
      exact applyRole_switches _ _
    · have hvalid : byteAt data 3 ≠ nowdeRoleSlave ∧ byteAt data 3 ≠ nowdeRoleMaster ∧
          byteAt data 3 ≠ nowdeRoleAuto := by tauto
      rw [if_pos hvalid, if_neg fun h => hrole h.2]
      rfl
  · rw [if_neg hlen, if_neg fun h => hlen h.1]
    rfl

theorem setLr_switches : (setLr env n data length).1.switches = n.switches.set (settingOf n .setLr data length) := by
  unfold setLr settingOf
  dsimp only
  by_cases h : length ≥ 5 ∧ (byteAt data 3 = 0 ∨ byteAt data 3 = 1)
  · rw [if_pos h, if_pos h]
    unfold Switches.set Node.switches
    dsimp only
    rw [stored_switch h.2]
  · rw [if_neg h, if_neg h]
    rfl

theorem setLossPolicy_switches :
    (setLossPolicy n data length).1.switches = n.switches.set (settingOf n .setLossPolicy data length) := by
  unfold setLossPolicy settingOf
  dsimp only
  by_cases h : length ≥ 5 ∧ (byteAt data 3 = 0 ∨ byteAt data 3 = 1)
  · rw [if_pos h, if_pos h]
    unfold Switches.set Node.switches
    dsimp only
    rw [stored_switch h.2]
  · rw [if_neg h, if_neg h]
    rfl

/-- A layer is no switch. -/
theorem Switches.set_layer (w : Switches) (name : Option (List UInt8)) : w.set (name.map .layer) = w := by
  cases name <;> rfl

/-- **What a command does to the switches**, in use and stored. -/
theorem execute_switches (c : Command) :
    (execute lib env n c data length).1.switches = n.switches.set (settingOf n c data length) := by
  cases c with
  | setRole => exact setRole_switches env n data length
  | setLr => exact setLr_switches env n data length
  | setLossPolicy => exact setLossPolicy_switches n data length
  | queryConfig => exact activateSender_switches n
  | pushFullConfig =>
    simp only [execute, pushFullConfig]
    split
    · exact activateSender_switches n
    · rfl
  | queryRunningState =>
    simp only [execute, queryRunningState, sendRunningState]
    split_ifs <;> rfl
  | enterBootloader | otaBegin | otaData | otaDataAcked | otaEnd => rfl
  | setLog =>
    simp only [execute, setLog]
    split <;> rfl
  | setOrigin =>
    simp only [execute, setOrigin, originRelease]
    split_ifs <;> rfl
  | mediaSync =>
    simp only [execute, mediaSync]
    split_ifs <;> rfl
  | setLocalLayer =>
    refine Eq.trans ?_ (Switches.set_layer _ _).symm
    simp only [execute, setLocalLayer]
    split <;> rfl
  | changeReceiverLayer =>
    refine Eq.trans ?_ (Switches.set_layer _ _).symm
    simp only [execute, changeReceiverLayer]
    split
    · split <;> rfl
    · split <;> rfl

end Commands

section Events

variable (lib : UpdateLib) (n : Node)

/-- The policy stays where a round finds it. -/
theorem receiverTick_stopOnLinkLost (now : UInt32) (r : Receiver) :
    (receiverTick now r).1.mediaSyncState.stopOnLinkLost = r.mediaSyncState.stopOnLinkLost := by
  unfold receiverTick checkLinkLost generateMtc
  dsimp only
  split_ifs <;> rfl

theorem receiverModeTick_stopOnLinkLost (env : Env) :
    (receiverModeTick env n).1.receiver.mediaSyncState.stopOnLinkLost = n.receiver.mediaSyncState.stopOnLinkLost := by
  have hreceiver : (receiverModeTick env n).1.receiver = (receiverTick env.millis n.receiver).1 := by
    unfold receiverModeTick receiverBeacon meshResyncTick
    dsimp only
    split_ifs <;> rfl
  rw [hreceiver]
  exact receiverTick_stopOnLinkLost _ _

theorem senderTick_receiver (env : Env) : (senderTick env n).1.receiver = n.receiver := by
  unfold senderTick senderBeacon delayedTick
  dsimp only
  split_ifs <;> rfl

/-- A round of the task loop moves no switch. -/
theorem espnowTask_switches (env : Env) : (espnowTask env n).1.switches = n.switches := by
  have hpolicy : (espnowTask env n).1.receiver.mediaSyncState.stopOnLinkLost =
      n.receiver.mediaSyncState.stopOnLinkLost := by
    obtain ⟨s, r, hs, hr, htask⟩ := espnowTask_parts env n
    have hsender : s.1.receiver = n.receiver := by
      rcases hs with ⟨-, rfl⟩ | ⟨-, rfl⟩
      · exact senderTick_receiver n env
      · rfl
    have hreceiver : r.1.receiver.mediaSyncState.stopOnLinkLost = s.1.receiver.mediaSyncState.stopOnLinkLost := by
      rcases hr with ⟨-, rfl⟩ | ⟨-, rfl⟩
      · exact receiverModeTick_stopOnLinkLost s.1 env
      · rfl
    rcases htask with ⟨-, htask⟩ | ⟨-, htask⟩ <;> rw [htask] <;> exact hreceiver.trans (by rw [hsender])
  have hstill : (espnowTask env n).1.still.switches = n.still.switches := by rw [espnowTask_still]
  have hrest : { (espnowTask env n).1.switches with stopOnLinkLost := true } =
      { n.switches with stopOnLinkLost := true } := hstill
  calc (espnowTask env n).1.switches
      = { { (espnowTask env n).1.switches with stopOnLinkLost := true } with
          stopOnLinkLost := (espnowTask env n).1.receiver.mediaSyncState.stopOnLinkLost } := rfl
    _ = { { n.switches with stopOnLinkLost := true } with
          stopOnLinkLost := n.receiver.mediaSyncState.stopOnLinkLost } := by rw [hrest, hpolicy]
    _ = n.switches := rfl

/-- **What an event does to the switches.** -/
theorem handle_switches (e : Event) : (n.handle lib e).1.switches = n.switches.set (n.sets e) := by
  unfold Node.sets
  cases hcmd : n.commandOf e with
  | none =>
    cases e with
    | task env => exact espnowTask_switches n env
    | usb env packet =>
      simp only [Node.handle, (midiPacket_of_none lib env n hcmd).1]
      rfl
    | radio env src data =>
      have hnone : radioCommand data = none := by simpa [Node.commandOf] using hcmd
      have hkept := (onDataRecv_kept lib env n src fun c hc => by rw [hnone] at hc; cases hc).1
      have hpolicy : (n.handle lib (.radio env src data)).1.receiver.mediaSyncState.stopOnLinkLost =
          n.receiver.mediaSyncState.stopOnLinkLost := hkept.loss.1
      obtain ⟨_, _, _, _, -, hnode⟩ := handle_of_none lib n hcmd (by simp)
      have hpolicy' := hpolicy
      rw [hnode] at hpolicy'
      rw [hnode]
      exact congrArg (fun stop => { n.switches with stopOnLinkLost := stop }) hpolicy'
  | some k =>
    obtain ⟨c, data, length⟩ := k
    rw [handle_of_command lib n hcmd]
    have hsetting : settingOf (n.noted e) c data length = settingOf n c data length := by
      cases e <;> rfl
    have hswitches : (n.noted e).switches = n.switches := by cases e <;> rfl
    rw [execute_switches, hsetting, hswitches]
    rfl

end Events

/-! ## Runs -/

/-- What an event makes of the mark that an empty layer name was asked for. -/
def Node.unnames (n : Node) (e : Event) (unnamed : Bool) : Bool :=
  match n.sets e with
  | some (.layer name) => cstr name = []
  | _ => unnamed

/-- A device, with what was last asked for, and whether the layer last asked for since it booted has no name. -/
structure KeptDevice where
  device : Device
  wanted : Settings
  unnamed : Bool := false

/-- What an event asks for. -/
def KeptDevice.asks (build : Build) (s : KeptDevice) : DeviceEvent → Settings
  | .node (.task _) | .waited | .powerCut => s.wanted
  | .node e => ((s.device.node.sets e).map (s.wanted.set build)).getD s.wanted
  | .ui env b =>
    if s.device.resetting = false ∧ .nvsReset ∈ (uiTick env b s.device.ui s.device.node).2 then .load build {}
    else s.wanted

/-- What an event makes of the mark, where it does not boot the node. -/
def KeptDevice.unnames (s : KeptDevice) : DeviceEvent → Bool
  | .node e => s.device.node.unnames e s.unnamed
  | _ => s.unnamed

/-- One event. -/
def KeptDevice.step (lib : UpdateLib) (build : Build) (s : KeptDevice) (e : DeviceEvent) :
    KeptDevice × List (Out ⊕ Shown) :=
  let r := s.device.step lib build e
  ({ device := r.1
     wanted := s.asks build e
     unnamed := if s.device.boots lib build e then false else s.unnames e }, r.2)

/-- A node runs with these settings, and with the empty layer where that was asked for. -/
structure RunsWith (n : Node) (w : Settings) (unnamed : Bool) : Prop where
  role : n.storedRole = w.role ∧ n.nodeRole = resolveRole n.boardId w.role
  lr : n.lrEnabled = w.lr
  lossPolicy : n.receiver.mediaSyncState.stopOnLinkLost = w.stopOnLinkLost
  layer : cstr n.receiver.subscribedLayer.bytes = if unnamed then [] else w.layer

/-- **What was asked for is in NVS and, until a reset is waited for, in use.** -/
structure SettingsKept (build : Build) (s : KeptDevice) : Prop where
  stored : Settings.load build s.device.node.nvs = s.wanted
  inUse : s.device.resetting = false → RunsWith s.device.node s.wanted s.unnamed
  restored : RunsWith (Device.reboot build s.device).node s.wanted false

section Boot

variable (build : Build) (nvs : Nvs) (boardId : UInt8) (mac : Mac)

theorem applyRole_nvs (n : Node) (role : UInt8) : (applyRole n role).1.nvs = n.nvs := by
  unfold applyRole
  dsimp only
  split_ifs <;> rfl

theorem boot_nvs : (boot build nvs boardId mac).nvs = nvs := applyRole_nvs _ _

/-- The switches a node boots with. -/
theorem boot_switches : (boot build nvs boardId mac).switches =
    { boardId := boardId
      storedRole := loadRole build nvs
      nodeRole := resolveRole boardId (loadRole build nvs)
      lrEnabled := loadSwitch nvs.lr build.wifiLr
      stopOnLinkLost := loadSwitch nvs.loss build.stopOnLinkLost
      role := nvs.role
      lr := nvs.lr
      loss := nvs.loss } := applyRole_switches _ _

/-- **A boot loads what NVS holds**, and runs with it. -/
theorem boot_runsWith : RunsWith (boot build nvs boardId mac) (Settings.load build nvs) false := by
  have hswitches := boot_switches build nvs boardId mac
  have hboard : (boot build nvs boardId mac).boardId = boardId := congrArg Switches.boardId hswitches
  refine ⟨⟨congrArg Switches.storedRole hswitches, ?_⟩, congrArg Switches.lrEnabled hswitches,
    congrArg Switches.stopOnLinkLost hswitches, ?_⟩
  · rw [hboard]
    exact congrArg Switches.nodeRole hswitches
  · rw [boot_subscribed]
    rfl

end Boot

section Steps

variable (lib : UpdateLib) (build : Build) (n : Node) (e : Event)

/-- What an event makes of the settings. -/
def Node.asked (w : Settings) : Settings := ((n.sets e).map (w.set build)).getD w

/-- The layer commands among the settings. -/
theorem namesLayer_eq : n.namesLayer e = (n.sets e).bind fun s =>
    match s with
    | .layer name => some name
    | _ => none := by
  unfold Node.namesLayer Node.sets
  cases n.commandOf e with
  | none => rfl
  | some k =>
    obtain ⟨c, data, length⟩ := k
    simp only [Option.bind_some]
    have hnone : ∀ (p : Prop) [Decidable p] (s : Setting), (∀ name, s ≠ .layer name) →
        ((if p then some s else none).bind fun s => match s with
          | .layer name => some name
          | _ => none) = none := by
      intro p _ s hs
      split
      · cases s with
        | layer name => exact absurd rfl (hs name)
        | _ => rfl
      · rfl
    cases c with
    | setRole | setLr | setLossPolicy => exact (hnone _ _ (by simp)).symm
    | _ =>
      simp only [settingOf]
      cases namedLayer n _ data length <;> rfl

/-- The stored switches decide what a boot loads of them. -/
theorem load_switches (nvs nvs' : Nvs) (hrole : nvs'.role = nvs.role) (hlr : nvs'.lr = nvs.lr)
    (hloss : nvs'.loss = nvs.loss) (hlayer : nvs'.layer = nvs.layer) :
    Settings.load build nvs' = Settings.load build nvs := by
  unfold Settings.load loadRole loadLayer
  rw [hrole, hlr, hloss, hlayer]

/-- Only a role that a boot understands is set. -/
theorem valid_of_sets {role : UInt8} (h : n.sets e = some (.role role)) :
    role = nowdeRoleSlave ∨ role = nowdeRoleMaster ∨ role = nowdeRoleAuto := by
  obtain ⟨⟨c, data, length⟩, -, hset⟩ := Option.bind_eq_some_iff.1 h
  cases c with
  | setRole =>
    simp only [settingOf] at hset
    split at hset
    · next hvalid =>
      cases hset
      exact hvalid.2
    · cases hset
  | setLr | setLossPolicy =>
    simp only [settingOf] at hset
    split at hset <;> cases hset
  | _ =>
    simp only [settingOf] at hset
    obtain ⟨_, -, hname⟩ := Option.map_eq_some_iff.1 hset
    cases hname

theorem loadRole_of_valid {role : UInt8} (nvs : Nvs) (hnvs : nvs.role = some role)
    (h : role = nowdeRoleSlave ∨ role = nowdeRoleMaster ∨ role = nowdeRoleAuto) : loadRole build nvs = role := by
  unfold loadRole
  rw [hnvs]
  rcases h with rfl | rfl | rfl <;> rfl

/-- A layer is loaded as it was stored, and an empty one as the build's own. -/
theorem load_layer {name : List UInt8} (nvs : Nvs) (hnvs : nvs.layer = some (cstr (layerBuf (name ++ [0])).bytes)) :
    (Settings.load build nvs).layer =
      if cstr name = [] then (Settings.load build {}).layer else (cstr name).take 15 := by
  have hstored : cstr (layerBuf (name ++ [0])).bytes = (cstr name).take 15 := by
    rw [cstr_layerBuf, cstr_append_zero]
  unfold Settings.load loadLayer
  dsimp only
  rw [hnvs]
  dsimp only
  by_cases hempty : cstr name = []
  · rw [if_pos hempty, if_pos (by rw [hstored, hempty, List.take_nil])]
  · have hsome : cstr (layerBuf (name ++ [0])).bytes ≠ [] :=
      cstr_layerBuf_ne_nil (by rw [cstr_append_zero]; exact hempty)
    rw [if_neg hempty, if_neg hsome, layerBuf_cstr, hstored]

/-- **What an event leaves in NVS** is what it asks for. -/
theorem handle_load : Settings.load build (n.handle lib e).1.nvs = n.asked build e (Settings.load build n.nvs) := by
  have hswitches := handle_switches lib n e
  have hlayer := handle_layer lib n e
  rw [namesLayer_eq] at hlayer
  unfold Node.asked
  have hrole : (n.handle lib e).1.nvs.role = _ := congrArg Switches.role hswitches
  have hlr : (n.handle lib e).1.nvs.lr = _ := congrArg Switches.lr hswitches
  have hloss : (n.handle lib e).1.nvs.loss = _ := congrArg Switches.loss hswitches
  have hname := congrArg Prod.snd hlayer
  cases hsets : n.sets e with
  | none =>
    rw [hsets] at hrole hlr hloss hname
    exact load_switches build _ _ hrole hlr hloss hname
  | some s =>
    rw [hsets] at hrole hlr hloss hname
    cases s with
    | role role =>
      have hload := loadRole_of_valid build _ hrole (valid_of_sets n e hsets)
      have hrest := load_switches build n.nvs { (n.handle lib e).1.nvs with role := n.nvs.role } rfl hlr hloss hname
      show Settings.load build _ = { Settings.load build n.nvs with role := role }
      rw [← hrest, ← hload]
      rfl
    | lr on =>
      have hload : loadSwitch (n.handle lib e).1.nvs.lr build.wifiLr = on := by
        rw [hlr]
        cases on <;> rfl
      have hrest := load_switches build n.nvs { (n.handle lib e).1.nvs with lr := n.nvs.lr } hrole rfl hloss hname
      show Settings.load build _ = { Settings.load build n.nvs with lr := on }
      rw [← hrest, ← hload]
      rfl
    | lossPolicy stop =>
      have hload : loadSwitch (n.handle lib e).1.nvs.loss build.stopOnLinkLost = stop := by
        rw [hloss]
        cases stop <;> rfl
      have hrest := load_switches build n.nvs { (n.handle lib e).1.nvs with loss := n.nvs.loss } hrole hlr rfl hname
      show Settings.load build _ = { Settings.load build n.nvs with stopOnLinkLost := stop }
      rw [← hrest, ← hload]
      rfl
    | layer name =>
      have hload := load_layer build _ hname
      have hrest := load_switches build n.nvs { (n.handle lib e).1.nvs with layer := n.nvs.layer } hrole hlr hloss rfl
      show Settings.load build _ = (Settings.load build n.nvs).set build (.layer name)
      unfold Settings.set
      dsimp only
      rw [← hrest, ← hload]
      rfl

/-- **What an event leaves in use** is what it asks for. -/
theorem handle_runsWith {w : Settings} {unnamed : Bool} (h : RunsWith n w unnamed) :
    RunsWith (n.handle lib e).1 (n.asked build e w) (n.unnames e unnamed) := by
  have hswitches := handle_switches lib n e
  have hlayer := handle_layer lib n e
  rw [namesLayer_eq] at hlayer
  have hboard : (n.handle lib e).1.boardId = _ := congrArg Switches.boardId hswitches
  have hstored : (n.handle lib e).1.storedRole = _ := congrArg Switches.storedRole hswitches
  have hrole : (n.handle lib e).1.nodeRole = _ := congrArg Switches.nodeRole hswitches
  have hlr : (n.handle lib e).1.lrEnabled = _ := congrArg Switches.lrEnabled hswitches
  have hloss : (n.handle lib e).1.receiver.mediaSyncState.stopOnLinkLost = _ :=
    congrArg Switches.stopOnLinkLost hswitches
  have hused : (n.handle lib e).1.receiver.subscribedLayer = _ := congrArg Prod.fst hlayer
  unfold Node.asked Node.unnames
  constructor
  · rw [hboard, hstored, hrole]
    cases hsets : n.sets e with
    | none => exact h.role
    | some s =>
      cases s with
      | role role => exact ⟨rfl, rfl⟩
      | _ => exact h.role
  · rw [hlr]
    cases hsets : n.sets e with
    | none => exact h.lr
    | some s =>
      cases s with
      | lr on => rfl
      | _ => exact h.lr
  · rw [hloss]
    cases hsets : n.sets e with
    | none => exact h.lossPolicy
    | some s =>
      cases s with
      | lossPolicy stop => rfl
      | _ => exact h.lossPolicy
  · rw [hused]
    cases hsets : n.sets e with
    | none => exact h.layer
    | some s =>
      cases s with
      | layer name =>
        show cstr (layerBuf (name ++ [0])).bytes = if decide (cstr name = []) = true then [] else _
        rw [cstr_layerBuf, cstr_append_zero]
        by_cases hempty : cstr name = []
        · rw [if_pos (decide_eq_true hempty), hempty, List.take_nil]
        · rw [if_neg (by simp [hempty])]
          exact (if_neg hempty).symm
      | _ => exact h.layer

end Steps

section Runs

variable {lib : UpdateLib} {build : Build} {s : KeptDevice} {d : Device} {w : Settings}

theorem KeptDevice.unnames_task (env : Env) : s.unnames (.node (.task env)) = s.unnamed := rfl

/-- What NVS holds is what a reboot restores. -/
theorem restored_of_stored (h : Settings.load build d.node.nvs = w) :
    RunsWith (Device.reboot build d).node w false := by
  rw [← h]
  exact boot_runsWith build _ _ _

/-- A reboot leaves everything as it was asked for. -/
theorem SettingsKept.of_reboot (h : Settings.load build d.node.nvs = w) :
    SettingsKept build { device := Device.reboot build d, wanted := w } := by
  have hstored : Settings.load build (Device.reboot build d).node.nvs = w := by
    rw [← h]
    exact congrArg _ (boot_nvs build _ _ _)
  exact ⟨hstored, fun _ => restored_of_stored h, restored_of_stored hstored⟩

/-- **What the node does** keeps what was asked for. -/
theorem SettingsKept.nodeStep (h : SettingsKept build s) (e : Event) :
    SettingsKept build
      { device := (s.device.nodeStep lib build e).1
        wanted := s.device.node.asked build e s.wanted
        unnamed := if reboots (s.device.node.step lib build e).2 then false
          else s.device.node.unnames e s.unnamed } := by
  have hload := handle_load lib build s.device.node e
  rw [h.stored] at hload
  unfold Device.nodeStep
  dsimp only
  rw [step_outputs]
  cases hre : reboots (s.device.node.handle lib e).2 with
  | true =>
    rw [step_of_reboots build hre, if_pos rfl, if_pos rfl]
    exact SettingsKept.of_reboot (d := { s.device with node := (s.device.node.handle lib e).1 }) hload
  | false =>
    rw [step_of_not_reboots build hre, if_neg Bool.false_ne_true, if_neg Bool.false_ne_true]
    exact ⟨hload, fun hreset => handle_runsWith lib build s.device.node e (h.inUse hreset), restored_of_stored hload⟩

/-- **One event** keeps what was asked for. -/
theorem SettingsKept.step (h : SettingsKept build s) (e : DeviceEvent) :
    SettingsKept build (s.step lib build e).1 := by
  cases e with
  | node e =>
    cases e with
    | task env =>
      cases hreset : s.device.resetting with
      | true =>
        have hsame : (s.step lib build (.node (.task env))).1 = s := by
          simp [KeptDevice.step, KeptDevice.asks, KeptDevice.unnames_task, Device.step, Device.boots, hreset]
        rw [hsame]
        exact h
      | false =>
        have hstep : (s.step lib build (.node (.task env))).1 =
            { device := (s.device.nodeStep lib build (.task env)).1
              wanted := s.wanted
              unnamed := if reboots (s.device.node.step lib build (.task env)).2 then false else s.unnamed } := by
          simp [KeptDevice.step, KeptDevice.asks, KeptDevice.unnames_task, Device.step, Device.boots, hreset]
        rw [hstep]
        exact h.nodeStep (.task env)
    | radio env src data => exact h.nodeStep (.radio env src data)
    | usb env packet => exact h.nodeStep (.usb env packet)
  | ui env b =>
    cases hreset : s.device.resetting with
    | true =>
      have hsame : (s.step lib build (.ui env b)).1 = s := by
        simp [KeptDevice.step, KeptDevice.asks, KeptDevice.unnames, Device.step, Device.boots, hreset]
      rw [hsame]
      exact h
    | false =>
      by_cases hpress : Shown.nvsReset ∈ (uiTick env b s.device.ui s.device.node).2
      · -- NVS is clear from here on, what is in use follows with the reboot
        have hstep : (s.step lib build (.ui env b)).1 =
            { device :=
                { node := { s.device.node with nvs := {} }
                  ui := (uiTick env b s.device.ui s.device.node).1
                  resetting := true }
              wanted := .load build {}
              unnamed := s.unnamed } := by
          simp [KeptDevice.step, KeptDevice.asks, KeptDevice.unnames, Device.step, Device.boots, hreset, hpress]
        rw [hstep]
        exact ⟨rfl, fun hno => (by cases hno), restored_of_stored rfl⟩
      · have hstep : (s.step lib build (.ui env b)).1 =
            { s with device := { s.device with ui := (uiTick env b s.device.ui s.device.node).1 } } := by
          simp [KeptDevice.step, KeptDevice.asks, KeptDevice.unnames, Device.step, Device.boots, hreset, hpress]
        rw [hstep]
        exact ⟨h.stored, h.inUse, restored_of_stored h.stored⟩
  | waited =>
    cases hreset : s.device.resetting with
    | true =>
      have hstep : (s.step lib build .waited).1 = { device := Device.reboot build s.device, wanted := s.wanted } := by
        simp [KeptDevice.step, KeptDevice.asks, Device.step, Device.boots, hreset]
      rw [hstep]
      exact SettingsKept.of_reboot h.stored
    | false =>
      have hsame : (s.step lib build .waited).1 = s := by
        simp [KeptDevice.step, KeptDevice.asks, KeptDevice.unnames, Device.step, Device.boots, hreset]
      rw [hsame]
      exact h
  | powerCut => exact SettingsKept.of_reboot h.stored

/-- A node that boots has what NVS holds. -/
theorem SettingsKept.of_boot (nvs : Nvs) (boardId : UInt8) (mac : Mac) (ui : Ui) :
    SettingsKept build { device := { node := boot build nvs boardId mac, ui := ui }, wanted := .load build nvs } := by
  have hstored : Settings.load build (boot build nvs boardId mac).nvs = Settings.load build nvs :=
    congrArg _ (boot_nvs build nvs boardId mac)
  exact ⟨hstored, fun _ => boot_runsWith build nvs boardId mac, restored_of_stored hstored⟩

end Runs

/-- **What a host sets stays set**: over every run of a device, from whatever NVS it booted with. -/
theorem settings_kept (lib : UpdateLib) (build : Build) (nvs : Nvs) (boardId : UInt8) (mac : Mac) (ui : Ui)
    (events : List DeviceEvent) :
    SettingsKept build (Mealy.run (KeptDevice.step lib build)
      { device := { node := boot build nvs boardId mac, ui := ui }, wanted := .load build nvs } events).1 := by
  exact Mealy.inv_run (G := fun _ _ => True) (SettingsKept build) (fun s e h _ => h.step e)
    (SettingsKept.of_boot nvs boardId mac ui) (Mealy.guarded_of_forall (fun _ _ => trivial) _ _)

end Nowde
