import Nowde.Spec.Task

/-!
# The button, the LED and a power cut (`ui.cpp`)

The task loop ends each round with `uiTick`: the button turns the page or, held for three seconds, clears
NVS and reboots the node, and five times a second the LED or the screen shows the node's state as one colour.
A `Device` is the node with that face, and with the power cuts it must survive.
-/

namespace Nowde

/-- `REFRESH_MS`. -/
def refreshMs : UInt32 := 200

/-- `Rgb`. -/
structure Rgb where
  r : UInt8
  g : UInt8
  b : UInt8
deriving DecidableEq

/-- What `M5.update()` makes of the button; `pressedFor` is `pressedFor(HOLD_RESET_MS)`. -/
structure BtnA where
  wasClicked : Bool := false
  pressedFor : Bool := false
  wasReleased : Bool := false

/-- The statics of `ui.cpp`; the notice line is left out. -/
structure Ui where
  hasDisplay : Bool := false
  page : UInt8 := 0
  lastRefresh : UInt32 := 0
  holdArmed : Bool := true

/-- What one round shows. -/
inductive Shown
  /-- `rgbLedWrite(LED_PIN, r, g, b)`. -/
  | led (color : Rgb)
  /-- `drawStatusPage()` under a banner of this colour. -/
  | statusPage (banner : Rgb)
  | infoPage
  /-- The answer to a long press, before the reboot. -/
  | nvsReset
deriving DecidableEq

/-! ## What the colour is made of -/

/-- `countActiveSenders()`. -/
def countActiveSenders (t : Fin maxSenders → SenderEntry) : ℕ := Slots.count t fun e => e.active

/-- `countConnectedReceivers()`. -/
def countConnectedReceivers (t : Fin maxReceivers → ReceiverEntry) : ℕ :=
  Slots.count t fun e => e.active && e.connected

/-- `countLockedReceivers()`. -/
def countLockedReceivers (t : Fin maxReceivers → ReceiverEntry) : ℕ :=
  Slots.count t fun e => e.active && e.connected && e.syncQuality == nowdeSyncLocked

/-- `masterRelayPlaying()`. -/
def masterRelayPlaying (now : UInt32) (m : MasterRelayState) : Bool :=
  m.state = 1 ∧ m.updatedAt ≠ 0 ∧ now - m.updatedAt < 3000

/-- `statusColor(blink)`: the colour, and whether it blinks. -/
def statusColor (env : Env) (n : Node) : Rgb × Bool :=
  if n.ota.otaInProgress then (⟨80, 0, 80⟩, false)
  else if n.nodeRole = nowdeRoleMaster then
    if ¬hostLinked env.millis n.lastHostRxTime then (⟨40, 0, 60⟩, false)
    else if countConnectedReceivers n.receiverTable = 0 then (⟨60, 60, 0⟩, true)
    else if masterRelayPlaying env.millis n.masterRelay ∧
        countLockedReceivers n.receiverTable < countConnectedReceivers n.receiverTable then (⟨70, 40, 0⟩, false)
    else if masterRelayPlaying env.millis n.masterRelay then (⟨0, 70, 0⟩, false)
    else (⟨0, 40, 60⟩, false)
  else
    let ms := n.receiver.mediaSyncState
    if ms.linkLost then (⟨80, 0, 0⟩, false)
    else if env.syncState = .lost then (⟨80, 20, 0⟩, false)
    else if env.syncState = .alone ∨ countActiveSenders n.senderTable = 0 then (⟨60, 60, 0⟩, true)
    else if ms.currentState = 1 ∧ ms.coarse then (⟨70, 40, 0⟩, false)
    else if ms.currentState = 1 then (⟨0, 70, 0⟩, false)
    else (⟨0, 40, 60⟩, false)

/-- `ledShow()`. -/
def ledShow (env : Env) (n : Node) : Shown :=
  let c := statusColor env n
  if c.2 ∧ (env.millis / 400) &&& 1 = 1 then .led ⟨0, 0, 0⟩ else .led c.1

/-! ## One round -/

/-- A click turns the page and has it drawn at once. -/
def Ui.click (u : Ui) (b : BtnA) : Ui :=
  if b.wasClicked ∧ u.hasDisplay then { u with page := (u.page + 1) % 2, lastRefresh := 0 } else u

/-- `uiTick()`. After a long press the node reboots, so the rest of the round is lost. -/
def uiTick (env : Env) (b : BtnA) (u : Ui) (n : Node) : Ui × List Shown :=
  let u := u.click b
  if b.pressedFor ∧ u.holdArmed then ({ u with holdArmed := false }, [.nvsReset])
  else
    let u := if b.wasReleased then { u with holdArmed := true } else u
    if env.millis - u.lastRefresh < refreshMs then (u, [])
    else
      ({ u with lastRefresh := env.millis },
        [if u.hasDisplay then if u.page = 0 then .statusPage (statusColor env n).1 else .infoPage
          else ledShow env n])

/-! ## The device -/

/-- A node with its face. After a long press NVS is clear, and the task waits 800 ms before it reboots. -/
structure Device where
  node : Node
  ui : Ui := {}
  resetting : Bool := false

/-- What can happen to a device. -/
inductive DeviceEvent
  | node (e : Event)
  /-- The end of a round of the task loop. -/
  | ui (env : Env) (b : BtnA)
  /-- The end of the wait after a long press. -/
  | waited
  /-- The power goes, and comes back. -/
  | powerCut

namespace Device

/-- The node boots with what NVS holds. -/
def reboot (build : Build) (d : Device) : Device where
  node := boot build d.node.nvs d.node.boardId d.node.relay.myMacAddress
  ui := { hasDisplay := d.ui.hasDisplay }

/-- What the node does, with the reboot it may bring. -/
def nodeStep (lib : UpdateLib) (build : Build) (d : Device) (e : Event) : Device × List (Out ⊕ Shown) :=
  let r := d.node.step lib build e
  (if reboots r.2 then { node := r.1, ui := { hasDisplay := d.ui.hasDisplay } } else { d with node := r.1 },
    r.2.map .inl)

/-- One event. The task does nothing while it waits for the reboot. -/
def step (lib : UpdateLib) (build : Build) (d : Device) : DeviceEvent → Device × List (Out ⊕ Shown)
  | .node (.task env) => if d.resetting then (d, []) else nodeStep lib build d (.task env)
  | .node e => nodeStep lib build d e
  | .ui env b =>
    if d.resetting then (d, [])
    else
      let r := uiTick env b d.ui d.node
      (if .nvsReset ∈ r.2 then { node := { d.node with nvs := {} }, ui := r.1, resetting := true }
        else { d with ui := r.1 }, r.2.map .inr)
  | .waited => (if d.resetting then reboot build d else d, [])
  | .powerCut => (reboot build d, [])

/-- The event boots the node. -/
def boots (lib : UpdateLib) (build : Build) (d : Device) : DeviceEvent → Bool
  | .node (.task env) => !d.resetting && reboots (d.node.step lib build (.task env)).2
  | .node e => reboots (d.node.step lib build e).2
  | .ui .. => false
  | .waited => d.resetting
  | .powerCut => true

end Device

end Nowde
