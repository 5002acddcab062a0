import Nowde.Proof.ReadBack
import Nowde.Proof.Resync

/-!
# The tool sets a node up

The tool sends one of its requests and waits for the `CONFIG_STATE` that answers it. The driver cuts the
request into USB packets. Between them the node goes round, hears the mesh, and shows its state.

* `Request.handle`: what a request asks, and its one answer.
* `quiet_none`, `quiet_one`: no command and no answer before the last packet, and none after it.
* `set_and_told`: a request does exactly what it asks, and its one answer says so.
-/

namespace Nowde

/-! ## Requests -/

/-- A request of the tool that sets a node up and waits for `CONFIG_STATE`, or for the `HELLO` before it. -/
inductive Request
  | setRole (role : Host.RoleName)
  | setLocalLayer (layer : List Char)
  | setLossPolicy (stop : Bool)
  | setOrigin (mac : Option Mac)
  | pushFullConfig (rfSim : Bool) (delayMs : ℤ)

namespace Request

/-- What the tool sends. -/
def frame : Request → List UInt8
  | setRole role => Host.send (Host.setRole role)
  | setLocalLayer layer => Host.send (Host.setLocalLayer layer)
  | setLossPolicy stop => Host.send (Host.setLossPolicy stop)
  | setOrigin mac => Host.send (Host.setOrigin mac)
  | pushFullConfig rfSim delayMs => Host.send (Host.pushFullConfig rfSim delayMs)

/-- A layer has a name, without a NUL. -/
def Named : Request → Prop
  | setLocalLayer layer => layer ≠ [] ∧ Char.ofNat 0 ∉ layer
  | _ => True

/-- What it asks for good. -/
def settings : Request → Settings → Settings
  | setRole role, w => { w with role := role.code }
  | setLocalLayer layer, w => { w with layer := (layer.map Host.ascii).take 15 }
  | setLossPolicy stop, w => { w with stopOnLinkLost := stop }
  | setOrigin _, w | pushFullConfig .., w => w

/-- What it asks until the next reboot. -/
def session : Request → Session → Session
  | setLocalLayer layer, w => { w with layer := (layer.map Host.ascii).take 15 }
  | setOrigin mac, w => { w with pinned := mac }
  | pushFullConfig rfSim delayMs, w =>
    { w with rfSim := rfSim, delayMs := UInt32.ofNat (max 0 (min 16383 delayMs)).toNat }
  | setRole _, w | setLossPolicy _, w => w

/-- The command of a request. -/
def command : Request → Command
  | setRole _ => .setRole
  | setLocalLayer _ => .setLocalLayer
  | setLossPolicy _ => .setLossPolicy
  | setOrigin _ => .setOrigin
  | pushFullConfig .. => .pushFullConfig

/-- The bytes between the command and the end of the frame. -/
def payload : Request → List UInt8
  | setRole role => [role.code]
  | setLocalLayer layer => (layer.map Host.ascii).take 15
  | setLossPolicy stop => [if stop then 1 else 0]
  | setOrigin none => []
  | setOrigin (some mac) => encode7bit mac.bytes
  | pushFullConfig rfSim delayMs =>
    [if rfSim then 1 else 0, UInt8.ofNat ((max 0 (min 16383 delayMs)).toNat >>> 7) &&& 0x7F,
      UInt8.ofNat (max 0 (min 16383 delayMs)).toNat &&& 0x7F]

theorem frame_eq (r : Request) : r.frame = commandFrame r.command r.payload := by
  cases r with
  | setLocalLayer layer => exact localLayerFrame_eq
  | setOrigin mac =>
    cases mac with
    | none => rfl
    | some mac =>
      show Host.send ([sysexManufacturerId, sysexCmdSetOrigin] ++ encode7 mac.bytes) = _
      rw [encode7_eq]
      rfl
  | _ => rfl

theorem length_payload (r : Request) : r.payload.length ≤ 15 := by
  cases r with
  | setLocalLayer layer => exact List.length_take_le _ _
  | setOrigin mac =>
    cases mac with
    | none => exact Nat.zero_le _
    | some mac => exact (length_encode_mac mac).trans_le (by omega)
  | setRole | setLossPolicy | pushFullConfig => simp [payload]

theorem ascii_lt (c : Char) : Host.ascii c < 0x80 := by
  unfold Host.ascii
  split
  · next h =>
    rw [UInt8.lt_iff_toNat_lt, UInt8.toNat_ofNat']
    exact lt_of_le_of_lt (Nat.mod_le _ _) h
  · decide

/-- The payload is of data bytes. -/
theorem payload_lt (r : Request) : ∀ b ∈ r.payload, b < 0x80 := by
  have hlow : ∀ b : UInt8, b &&& 0x7F < 0x80 := by
    intro b
    rw [UInt8.lt_iff_toNat_lt, toNat_and_0x7F]
    exact Nat.mod_lt _ (by decide)
  cases r with
  | setRole role => cases role <;> exact List.forall_mem_singleton.2 (by decide)
  | setLocalLayer layer =>
    intro b hb
    obtain ⟨c, -, rfl⟩ := List.mem_map.1 (List.mem_of_mem_take hb)
    exact ascii_lt c
  | setLossPolicy stop => cases stop <;> exact List.forall_mem_singleton.2 (by decide)
  | setOrigin mac =>
    cases mac with
    | none => exact List.forall_mem_nil _
    | some mac => exact encode7bit_lt mac.bytes
  | pushFullConfig rfSim delayMs =>
    refine List.forall_mem_cons.2 ⟨?_, List.forall_mem_cons.2 ⟨hlow _, List.forall_mem_singleton.2 (hlow _)⟩⟩
    cases rfSim <;> decide

variable {r : Request} (n : Node)

/-- A byte or a stretch of the payload, where the dispatcher looks for it. -/
theorem slice_frame {i k : ℕ} (h : i + k ≤ r.payload.length) : slice r.frame (i + 3) k = slice r.payload i k := by
  rw [frame_eq, slice_commandFrame_of_le h]

/-- The name of a layer, as the dispatcher copies it. -/
theorem cstr_payload {layer : List Char} (h : (setLocalLayer layer).Named) :
    cstr (setLocalLayer layer).payload = (layer.map Host.ascii).take 15 :=
  cstr_of_notMem (zero_notMem_ascii h.2)

theorem payload_ne_nil {layer : List Char} (h : (setLocalLayer layer).Named) : (setLocalLayer layer).payload ≠ [] := by
  intro hnil
  rcases List.take_eq_nil_iff.1 hnil with hzero | hname
  · omega
  · exact h.1 (List.map_eq_nil_iff.1 hname)

theorem namedLayer_setLocalLayer {layer : List Char} (h : (setLocalLayer layer).Named) :
    namedLayer n .setLocalLayer (setLocalLayer layer).frame ((setLocalLayer layer).payload.length + 4) =
      some (setLocalLayer layer).payload := by
  have hpos := List.length_pos_iff.2 (payload_ne_nil h)
  have hle := (setLocalLayer layer).length_payload
  unfold namedLayer
  dsimp only
  have hmin : min ((setLocalLayer layer).payload.length + 4 - 4) 15 = (setLocalLayer layer).payload.length := by omega
  rw [if_pos (by omega), hmin, show 3 = 0 + 3 from rfl, slice_frame (by omega)]
  simp [slice]

/-- **What a request asks for good.** -/
theorem settingOf_frame (hr : r.Named) (build : Build) (w : Settings) :
    ((settingOf n r.command r.frame (r.payload.length + 4)).map (w.set build)).getD w = r.settings w := by
  cases r with
  | setRole role => cases role <;> rfl
  | setLocalLayer layer =>
    have hname := namedLayer_setLocalLayer n hr
    show (((namedLayer n .setLocalLayer _ _).map Setting.layer).map (w.set build)).getD w = _
    rw [hname]
    show { w with layer := if cstr (setLocalLayer layer).payload = [] then _ else _ } = _
    rw [cstr_payload hr]
    show { w with layer := if (setLocalLayer layer).payload = [] then _ else (setLocalLayer layer).payload.take 15 } = _
    rw [if_neg (payload_ne_nil hr), List.take_of_length_le (length_payload _)]
    rfl
  | setLossPolicy stop => cases stop <;> rfl
  | setOrigin mac => rfl
  | pushFullConfig rfSim delayMs => rfl

theorem length_setOrigin (mac : Mac) : (setOrigin (some mac)).payload.length = 7 := length_encode_mac mac

/-- The address to pin, as the dispatcher reads it. -/
theorem decode_setOrigin (mac : Mac) : decode7bit (slice (setOrigin (some mac)).frame 3 7) = mac.bytes := by
  have hslice : slice (setOrigin (some mac)).payload 0 7 = encode7bit mac.bytes := by
    show (encode7bit mac.bytes).take 7 = _
    exact List.take_of_length_le (length_encode_mac mac).le
  rw [show 3 = 0 + 3 from rfl, slice_frame (by rw [length_setOrigin]), hslice, decode7bit_encode7bit]

/-- A delay of fourteen bits, put together from its two halves. -/
theorem delay_split {d : ℕ} (h : d < 0x4000) {hi lo : UInt8} (hhi : hi.toNat = d / 128) (hlo : lo.toNat = d % 128) :
    ((hi &&& 0x7F).toUInt32 <<< 7) ||| (lo &&& 0x7F).toUInt32 = UInt32.ofNat d := by
  have hhigh : ((hi &&& 0x7F).toUInt32 <<< 7).toNat = (d / 128) <<< 7 := by
    rw [UInt32.toNat_shiftLeft, UInt8.toNat_toUInt32, toNat_and_0x7F, hhi]
    show (d / 128 % 128) <<< 7 % 2 ^ 32 = (d / 128) <<< 7
    rw [Nat.shiftLeft_eq, Nat.shiftLeft_eq]
    omega
  have hlow : (lo &&& 0x7F).toUInt32.toNat = d % 128 := by
    rw [UInt8.toNat_toUInt32, toNat_and_0x7F, hlo, Nat.mod_mod]
  rw [← UInt32.toNat_inj, UInt32.toNat_or, hhigh, hlow, ← Nat.shiftLeft_add_eq_or_of_lt (by omega : d % 128 < 2 ^ 7),
    Nat.shiftLeft_eq, UInt32.toNat_ofNat']
  omega

/-- **What a request asks until the next reboot.** -/
theorem ask_frame (hr : r.Named) (w : Session) :
    w.ask n r.command r.frame (r.payload.length + 4) = r.session w := by
  cases r with
  | setRole role => rfl
  | setLocalLayer layer =>
    simp only [Session.ask, command]
    rw [namedLayer_setLocalLayer n hr]
    dsimp only
    rw [cstr_payload hr, List.take_take, Nat.min_self]
    rfl
  | setLossPolicy stop => rfl
  | setOrigin mac =>
    cases mac with
    | none => rfl
    | some mac =>
      simp only [Session.ask, command]
      rw [decode_setOrigin, length_setOrigin, if_neg (by omega), if_pos ⟨le_rfl, by show ¬6 < 6; omega⟩]
      rfl
  | pushFullConfig rfSim delayMs =>
    set d := (max 0 (min 16383 delayMs)).toNat with hd
    have hsize : d < 0x4000 := by omega
    have hlen : (pushFullConfig rfSim delayMs).payload.length = 3 := rfl
    have hhi : (UInt8.ofNat (d >>> 7) &&& 0x7F).toNat = d / 128 := by
      rw [toNat_and_0x7F, UInt8.toNat_ofNat', Nat.shiftRight_eq_div_pow]
      omega
    have hlo : (UInt8.ofNat d &&& 0x7F).toNat = d % 128 := by
      rw [toNat_and_0x7F, UInt8.toNat_ofNat']
      omega
    have hdelay := delay_split hsize hhi hlo
    simp only [Session.ask, command]
    rw [hlen, if_pos (by omega)]
    show { w with
      rfSim := (if rfSim = true then 1 else 0 : UInt8) ≠ 0
      delayMs := _ } = { w with rfSim := rfSim, delayMs := UInt32.ofNat d }
    rw [← hdelay]
    cases rfSim <;> rfl

end Request

/-! ## The answer -/

/-- The `CONFIG_STATE` frames. -/
def configState? : Out ⊕ Shown → Option (List UInt8)
  | .inl (.host (.sysExBytes message)) => if byteAt message 2 = sysexCmdConfigState then some message else none
  | _ => none

section Answer

variable {out : List Out}

/-- Outputs without SysEx bytes. -/
theorem configStates_of_none (h : ∀ message, .host (.sysExBytes message) ∉ out) :
    out.filterMap (fun o => configState? (.inl o)) = [] := by
  rw [List.filterMap_eq_nil_iff]
  intro o ho
  cases o with
  | host m =>
    cases m with
    | sysExBytes message => exact absurd ho (h message)
    | _ => rfl
  | _ => rfl

theorem configStates_sendConfigState (n : Node) :
    (sendConfigState n).filterMap (fun o => configState? (.inl o)) = [configStateMessage n] := rfl

theorem configStates_sendHello (env : Env) (n : Node) :
    (sendHello env n).filterMap (fun o => configState? (.inl o)) = [] := rfl

/-- **A request is answered once**, by the node as it leaves it. -/
theorem Request.execute_answer {r : Request} (hr : r.Named) (lib : UpdateLib) (env : Env) (n : Node) :
    (execute lib env n r.command r.frame (r.payload.length + 4)).2.filterMap (fun o => configState? (.inl o)) =
      [configStateMessage (execute lib env n r.command r.frame (r.payload.length + 4)).1] := by
  cases r with
  | setRole role =>
    have hcode : ¬(role.code ≠ nowdeRoleSlave ∧ role.code ≠ nowdeRoleMaster ∧ role.code ≠ nowdeRoleAuto) := by
      cases role <;> decide
    have hbyte : byteAt (setRole role).frame 3 = role.code := rfl
    show (Nowde.setRole env n (setRole role).frame 5).2.filterMap _ =
      [configStateMessage (Nowde.setRole env n (setRole role).frame 5).1]
    unfold Nowde.setRole
    dsimp only
    rw [if_pos le_rfl, hbyte, if_neg hcode]
    simp only [List.filterMap_append, configStates_of_none (applyRole_noBytes _ _), configStates_sendHello,
      configStates_sendConfigState, List.nil_append]
  | setLocalLayer layer =>
    have hpos := List.length_pos_iff.2 (payload_ne_nil hr)
    show (Nowde.setLocalLayer env n _ _).2.filterMap _ = [configStateMessage (Nowde.setLocalLayer env n _ _).1]
    unfold Nowde.setLocalLayer
    rw [if_pos (by omega)]
    simp only [List.filterMap_append, configStates_of_none (sendReceiverInfo_noBytes _ _),
      configStates_sendConfigState, List.nil_append]
  | setLossPolicy stop => cases stop <;> rfl
  | setOrigin mac =>
    cases mac with
    | none => rfl
    | some mac =>
      show (Nowde.setOrigin env n _ _).2.filterMap _ = [configStateMessage (Nowde.setOrigin env n _ _).1]
      unfold Nowde.setOrigin
      dsimp only
      rw [length_setOrigin, if_neg (by omega), if_pos le_rfl, decode_setOrigin, if_neg (by show ¬6 < 6; omega)]
      rfl
  | pushFullConfig rfSim delayMs => rfl

end Answer

/-! ## The way there -/

/-- The USB packet of an event, with its instant. -/
def DeviceEvent.packet? : DeviceEvent → Option (Env × MidiEventPacket)
  | .node (.usb env packet) => some (env, packet)
  | _ => none

/-- The events between the packets of a request: no command from the air, no reboot and no long press. -/
structure Unmixed (lib : UpdateLib) (build : Build) (s : ToldDevice) (e : DeviceEvent) : Prop where
  up : s.kept.device.resetting = false
  running : s.kept.device.boots lib build e = false
  air : ∀ env src data, e = .node (.radio env src data) → radioCommand data = none
  button : ∀ env b, e = .ui env b → Shown.nvsReset ∉ (uiTick env b s.kept.device.ui s.kept.device.node).2

section Way

variable {lib : UpdateLib} {build : Build} {s : ToldDevice}

/-- A node that goes on is what the handler leaves. -/
theorem ToldDevice.step_node {e : Event} (h : Unmixed lib build s (.node e)) :
    (s.step lib build (.node e)).1.kept.device.node = (s.kept.device.node.handle lib e).1 ∧
      (s.step lib build (.node e)).1.kept.wanted = s.kept.device.node.asked build e s.kept.wanted ∧
      (s.step lib build (.node e)).1.session = s.kept.device.node.inSession e s.session ∧
      (s.step lib build (.node e)).2 = (s.kept.device.node.handle lib e).2.map .inl := by
  have hdevice : s.kept.device.step lib build (.node e) = s.kept.device.nodeStep lib build e := by
    cases e with
    | task env => exact if_neg (by simp [h.up])
    | _ => rfl
  have hreboots : reboots (s.kept.device.node.handle lib e).2 = false := by
    have hrunning := h.running
    rw [← step_outputs build]
    cases e with
    | task env => simpa [Device.boots, h.up] using hrunning
    | _ => exact hrunning
  have hstep : s.kept.device.nodeStep lib build e =
      ({ s.kept.device with node := (s.kept.device.node.handle lib e).1 },
        (s.kept.device.node.handle lib e).2.map .inl) := by
    unfold Device.nodeStep
    dsimp only
    rw [step_of_not_reboots build hreboots, if_neg (by simp [hreboots])]
  unfold ToldDevice.step KeptDevice.step
  dsimp only
  rw [hdevice, hstep, h.running, if_neg Bool.false_ne_true]
  refine ⟨rfl, ?_, rfl, rfl⟩
  cases e <;> rfl

/-- What the dispatcher does not hear asks for nothing. -/
theorem asks_of_none {n : Node} {e : Event} (h : n.commandOf e = none) (build : Build) (w : Settings) (v : Session) :
    n.asked build e w = w ∧ n.inSession e v = v := by
  unfold Node.asked Node.sets Node.inSession
  rw [h]
  exact ⟨rfl, rfl⟩

/-- What the parser of a device is after an event. -/
def parserAfter (p : SysexParser) (e : DeviceEvent) : SysexParser :=
  match e.packet? with
  | some packet => (p.receive packet).1
  | none => p

/-- The messages that an event completes. -/
def completes (p : SysexParser) (e : DeviceEvent) : List (Env × List UInt8) :=
  match e.packet? with
  | some packet => (p.receive packet).2
  | none => []

/-- The messages of the packets, event by event. -/
theorem messages_cons (p : SysexParser) (e : DeviceEvent) (es : List DeviceEvent) :
    (Mealy.run SysexParser.receive p ((e :: es).filterMap DeviceEvent.packet?)).2 =
      completes p e ++ (Mealy.run SysexParser.receive (parserAfter p e) (es.filterMap DeviceEvent.packet?)).2 := by
  unfold completes parserAfter
  cases h : e.packet? with
  | none => rw [List.filterMap_cons_none h]; rfl
  | some packet => rw [List.filterMap_cons_some h, Mealy.run_cons]

/-- The face of a device is none of the node's business. -/
theorem ToldDevice.step_face {e : DeviceEvent} (h : Unmixed lib build s e) (hface : ∀ e', e ≠ .node e') :
    (s.step lib build e).1.kept.device.node = s.kept.device.node ∧ (s.step lib build e).1.kept.wanted = s.kept.wanted ∧
      (s.step lib build e).1.session = s.session ∧ (s.step lib build e).2.filterMap configState? = [] := by
  have hstays : (s.step lib build e).1.session = s.asks e := if_neg (by simp [h.running])
  cases e with
  | node e => exact absurd rfl (hface e)
  | ui env b =>
    have hdevice : s.kept.device.step lib build (.ui env b) =
        ({ s.kept.device with ui := (uiTick env b s.kept.device.ui s.kept.device.node).1 },
          (uiTick env b s.kept.device.ui s.kept.device.node).2.map .inr) := by
      simp [Device.step, h.up, h.button env b rfl]
    have hwanted : s.kept.asks build (.ui env b) = s.kept.wanted := if_neg fun hpress => h.button env b rfl hpress.2
    refine ⟨congrArg (fun r => r.1.node) hdevice, hwanted, hstays, ?_⟩
    show (s.kept.device.step lib build (.ui env b)).2.filterMap configState? = []
    rw [hdevice, List.filterMap_map, List.filterMap_eq_nil_iff]
    exact fun _ _ => rfl
  | waited =>
    have hdevice : s.kept.device.step lib build .waited = (s.kept.device, []) := by simp [Device.step, h.up]
    refine ⟨congrArg (fun r => r.1.node) hdevice, rfl, hstays, ?_⟩
    show (s.kept.device.step lib build .waited).2.filterMap configState? = []
    rw [hdevice]
    rfl
  | powerCut => cases h.running

/-- The parser of a device follows the packets. -/
theorem ToldDevice.parser_step {e : DeviceEvent} (h : Unmixed lib build s e) :
    (s.step lib build e).1.kept.device.node.parser = parserAfter s.kept.device.node.parser e := by
  cases e with
  | node e =>
    rw [(ToldDevice.step_node h).1, parser_handle]
    cases e <;> rfl
  | ui env b => rw [(ToldDevice.step_face h (by simp)).1]; rfl
  | waited => rw [(ToldDevice.step_face h (by simp)).1]; rfl
  | powerCut => cases h.running

/-- **An event that completes no message** asks for nothing and answers nothing. -/
theorem Unmixed.nothing {e : DeviceEvent} (h : Unmixed lib build s e)
    (hnone : completes s.kept.device.node.parser e = []) :
    (s.step lib build e).1.kept.wanted = s.kept.wanted ∧ (s.step lib build e).1.session = s.session ∧
      (s.step lib build e).2.filterMap configState? = [] := by
  cases e with
  | node e =>
    have hcmd : s.kept.device.node.commandOf e = none := by
      cases e with
      | task env => rfl
      | radio env src data =>
        show (radioCommand data).map _ = none
        rw [h.air env src data rfl]
        rfl
      | usb env packet =>
        have hmessage : (s.kept.device.node.parser.packet packet).2 = none := by
          cases hm : (s.kept.device.node.parser.packet packet).2 with
          | none => rfl
          | some message => simp [completes, DeviceEvent.packet?, SysexParser.receive, hm] at hnone
        simp [Node.commandOf, hmessage]
    obtain ⟨-, hwanted, hsession, hout⟩ := ToldDevice.step_node h
    obtain ⟨hasked, hin⟩ := asks_of_none hcmd build s.kept.wanted s.session
    refine ⟨hwanted.trans hasked, hsession.trans hin, ?_⟩
    rw [hout, List.filterMap_map]
    exact configStates_of_none (handle_noBytes lib hcmd)
  | ui env b => exact (ToldDevice.step_face h (by simp)).2
  | waited => exact (ToldDevice.step_face h (by simp)).2
  | powerCut => cases h.running

/-- The board stays the board. -/
theorem Unmixed.boardId {e : DeviceEvent} (h : Unmixed lib build s e) :
    (s.step lib build e).1.kept.device.node.boardId = s.kept.device.node.boardId := by
  cases e with
  | node e =>
    rw [(ToldDevice.step_node h).1]
    exact (congrArg Switches.boardId (handle_switches lib _ e)).trans (Switches.set_boardId _ _)
  | ui env b => rw [(ToldDevice.step_face h (by simp)).1]
  | waited => rw [(ToldDevice.step_face h (by simp)).1]
  | powerCut => cases h.running

theorem configState?_eq_some {o : Out ⊕ Shown} {message : List UInt8} (h : configState? o = some message) :
    o = .inl (.host (.sysExBytes message)) ∧ byteAt message 2 = sysexCmdConfigState := by
  unfold configState? at h
  split at h
  · split at h
    · next hconfig =>
      cases h
      exact ⟨rfl, hconfig⟩
    · cases h
  · cases h

/-- A request has been done, and its one answer tells the host so. -/
structure Done (r : Request) (s : ToldDevice) (t : ToldDevice × List (Out ⊕ Shown)) : Prop where
  settings : t.1.kept.wanted = r.settings s.kept.wanted
  session : t.1.session = r.session s.session
  answer : ∃ message info, t.2.filterMap configState? = [message] ∧
    Host.parse (Host.payload message) = some ("CONFIG_STATE", .configState info) ∧
    Told s.kept.device.node.boardId (r.settings s.kept.wanted) (r.session s.session) info

/-- **An event that completes a request** does it. -/
theorem Unmixed.done {e : DeviceEvent} {r : Request} (hr : r.Named) {env : Env} (h : Unmixed lib build s e)
    (hinUse : InUse build s) (hdefault : build.roleDefault < 0x80)
    (hascii : ∀ c ∈ (r.session s.session).layer, c < 0x80)
    (hone : completes s.kept.device.node.parser e = [(env, r.frame)]) : Done r s (s.step lib build e) := by
  obtain ⟨env', packet, rfl⟩ : ∃ env' packet, e = .node (.usb env' packet) := by
    cases e with
    | node e =>
      cases e with
      | usb env' packet => exact ⟨env', packet, rfl⟩
      | _ => simp [completes, DeviceEvent.packet?] at hone
    | _ => simp [completes, DeviceEvent.packet?] at hone
  have hmessage : (s.kept.device.node.parser.packet packet).2 = some r.frame := by
    cases hm : (s.kept.device.node.parser.packet packet).2 with
    | none => simp [completes, DeviceEvent.packet?, SysexParser.receive, hm] at hone
    | some message =>
      have hpair : env' = env ∧ message = r.frame := by
        simpa [completes, DeviceEvent.packet?, SysexParser.receive, hm] using hone
      rw [hpair.2]
  have hlen : (UInt8.ofNat r.frame.length).toNat = r.payload.length + 4 := by
    have hle := r.length_payload
    rw [Request.frame_eq, length_commandFrame, UInt8.toNat_ofNat']
    omega
  have hcmd : s.kept.device.node.commandOf (.usb env' packet) = some (r.command, r.frame, r.payload.length + 4) := by
    have hcommand : sysexCommand r.frame (r.payload.length + 4) = some r.command := by
      rw [Request.frame_eq]
      exact sysexCommand_commandFrame
    show ((s.kept.device.node.parser.packet packet).2.bind fun message =>
      (sysexCommand message (UInt8.ofNat message.length).toNat).map fun c =>
        (c, message, (UInt8.ofNat message.length).toNat)) = _
    rw [hmessage, Option.bind_some, hlen, hcommand]
    rfl
  obtain ⟨-, hwanted, hsession, hout⟩ := ToldDevice.step_node h
  have hasked : s.kept.device.node.asked build (.usb env' packet) s.kept.wanted = r.settings s.kept.wanted := by
    unfold Node.asked Node.sets
    rw [hcmd]
    exact Request.settingOf_frame _ hr build _
  have hin : s.kept.device.node.inSession (.usb env' packet) s.session = r.session s.session := by
    unfold Node.inSession
    rw [hcmd]
    exact Request.ask_frame _ hr _
  have hanswer : (s.step lib build (.node (.usb env' packet))).2.filterMap configState? =
      [configStateMessage (execute lib env' (s.kept.device.node.noteHost env' packet) r.command r.frame
        (r.payload.length + 4)).1] := by
    rw [hout, List.filterMap_map, handle_of_command lib _ hcmd]
    exact Request.execute_answer hr lib _ _
  obtain ⟨o, hmem, ho⟩ := List.mem_filterMap.1 (hanswer ▸ List.mem_singleton_self _)
  obtain ⟨rfl, hconfig⟩ := configState?_eq_some ho
  obtain ⟨info, hparse, htold⟩ := hinUse.told hdefault h.up hmem hconfig (by
    show ∀ c ∈ (s.kept.device.node.inSession (.usb env' packet) s.session).layer, c < 0x80
    rw [hin]
    exact hascii)
  refine ⟨hwanted.trans hasked, hsession.trans hin, _, info, hanswer, hparse, ?_⟩
  rw [← hasked, ← hin]
  exact htold

/-- **Packets that complete no message** ask for nothing. -/
theorem quiet_none {events : List DeviceEvent}
    (h : Mealy.Guarded (ToldDevice.step lib build) (Unmixed lib build) s events)
    (hnone : (Mealy.run SysexParser.receive s.kept.device.node.parser (events.filterMap DeviceEvent.packet?)).2 = []) :
    let t := Mealy.run (ToldDevice.step lib build) s events
    t.1.kept.wanted = s.kept.wanted ∧ t.1.session = s.session ∧ t.2.filterMap configState? = [] := by
  induction events generalizing s with
  | nil => exact ⟨rfl, rfl, rfl⟩
  | cons e es ih =>
    rw [messages_cons, List.append_eq_nil_iff] at hnone
    obtain ⟨hwanted, hsession, hout⟩ := h.1.nothing hnone.1
    obtain ⟨hwanted', hsession', hout'⟩ := ih h.2 (by rw [ToldDevice.parser_step h.1]; exact hnone.2)
    refine ⟨hwanted'.trans hwanted, hsession'.trans hsession, ?_⟩
    rw [Mealy.run_cons, List.filterMap_append, hout, hout']
    rfl

/-- **Packets that complete one request** do it, once. -/
theorem quiet_one {r : Request} (hr : r.Named) {events : List DeviceEvent}
    (h : Mealy.Guarded (ToldDevice.step lib build) (Unmixed lib build) s events) (hinUse : InUse build s)
    (hdefault : build.roleDefault < 0x80) (hascii : ∀ c ∈ (r.session s.session).layer, c < 0x80) {env : Env}
    (hone : (Mealy.run SysexParser.receive s.kept.device.node.parser (events.filterMap DeviceEvent.packet?)).2 =
      [(env, r.frame)]) : Done r s (Mealy.run (ToldDevice.step lib build) s events) := by
  induction events generalizing s with
  | nil => cases hone
  | cons e es ih =>
    rw [messages_cons] at hone
    have hparser := ToldDevice.parser_step h.1
    rcases List.append_eq_singleton_iff.1 hone with ⟨hnow, hlater⟩ | ⟨hnow, hlater⟩
    · -- the request is still on its way
      obtain ⟨hwanted, hsession, hout⟩ := h.1.nothing hnow
      obtain ⟨hsettings', hsession', message, info, hout', hparse, htold⟩ :=
        ih h.2 (hinUse.step e) (by rw [hsession]; exact hascii) (by rw [hparser]; exact hlater)
      rw [hwanted] at hsettings' htold
      rw [hsession] at hsession' htold
      rw [h.1.boardId] at htold
      refine ⟨hsettings', hsession', message, info, ?_, hparse, htold⟩
      rw [Mealy.run_cons, List.filterMap_append, hout, hout', List.nil_append]
    · -- it is here, and the rest brings no other
      obtain ⟨hsettings, hsession, message, info, hout, hparse, htold⟩ := h.1.done hr hinUse hdefault hascii hnow
      obtain ⟨hwanted', hsession', hout'⟩ := quiet_none h.2 (by rw [hparser]; exact hlater)
      refine ⟨hwanted'.trans hsettings, hsession'.trans hsession, message, info, ?_, hparse, htold⟩
      rw [Mealy.run_cons, List.filterMap_append, hout, hout', List.append_nil]

/-- **The packets of a request** complete it, whatever the parser held before. -/
theorem Request.received (r : Request) {p : SysexParser} (hclear : p.sysexOverflow = false)
    {packets : List (Env × MidiEventPacket)} (hpackets : packets.map Prod.snd = Host.sysexPackets r.frame) :
    ∃ env, (Mealy.run SysexParser.receive p packets).2 = [(env, r.frame)] := by
  have hcode : ∀ c : Command, c.code < 0x80 := by
    intro c
    cases c <;> decide
  have hdata : ∀ b : UInt8, 0x80 ≤ b → b ∉ [sysexManufacturerId, r.command.code] ++ r.payload := by
    intro b hb hmem
    rcases List.mem_append.1 hmem with hhead | hpayload
    · have hlow : ∀ c ∈ [sysexManufacturerId, r.command.code], c < 0x80 :=
        List.forall_mem_cons.2 ⟨by decide, List.forall_mem_singleton.2 (hcode _)⟩
      exact absurd (hlow b hhead) (UInt8.not_lt.2 hb)
    · exact absurd (r.payload_lt b hpayload) (UInt8.not_lt.2 hb)
  have hle := r.length_payload
  have hroom : ([sysexManufacturerId, r.command.code] ++ r.payload).length + 2 ≤ sysexBufferSize := by
    simp only [List.length_append, List.length_cons, List.length_nil, sysexBufferSize]
    omega
  rw [Request.frame_eq, commandFrame_eq] at hpackets
  obtain ⟨env, hrun⟩ :=
    received_frame (s := p) (hdata sysexEnd (by decide)) (hdata sysexStart (by decide)) hroom hpackets
  refine ⟨env, ?_⟩
  rw [hrun, hclear, Request.frame_eq, commandFrame_eq]
  rfl

end Way

/-- **The tool sets and reads back**: after whatever a device went through, a request whose packets come with anything
in between but other commands, reboots and long presses does what it asks, no less and no more, and is answered once;
the tool reads what was asked for. -/
theorem set_and_told (lib : UpdateLib) (build : Build) (hdefault : build.roleDefault < 0x80) (nvs : Nvs)
    (boardId : UInt8) (mac : Mac) (ui : Ui) (history : List DeviceEvent) {s : ToldDevice}
    (hs : s = (Mealy.run (ToldDevice.step lib build) (ToldDevice.init build nvs boardId mac ui) history).1)
    (hclear : s.kept.device.node.parser.sysexOverflow = false) {r : Request} (hr : r.Named)
    (hascii : ∀ c ∈ (r.session s.session).layer, c < 0x80) {events : List DeviceEvent}
    (hpackets : (events.filterMap DeviceEvent.packet?).map Prod.snd = Host.sysexPackets r.frame)
    (hunmixed : Mealy.Guarded (ToldDevice.step lib build) (Unmixed lib build) s events) :
    Done r s (Mealy.run (ToldDevice.step lib build) s events) := by
  have hinUse : InUse build s := hs ▸ inUse_run nvs boardId mac ui history
  obtain ⟨env, hone⟩ := r.received hclear hpackets
  exact quiet_one hr hunmixed hinUse hdefault hascii hone

/-- `SET_LOSS_POLICY` in its two packets, with a round in between. -/
def lossPolicySent : List DeviceEvent :=
  [.node (.usb { millis := 900 } ⟨0x04, 0xF0, 0x7D, 0x0D⟩), .node (.task { millis := 910 }),
    .node (.usb { millis := 920 } ⟨0x06, 0x01, 0xF7, 0⟩)]

theorem set_and_told_lossPolicy :
    Done (.setLossPolicy true) (ToldDevice.init plainBuild {} 3 slaveMac {})
      (Mealy.run (ToldDevice.step noUpdate plainBuild) (ToldDevice.init plainBuild {} 3 slaveMac {}) lossPolicySent) := by
  refine set_and_told noUpdate plainBuild (by decide) {} 3 slaveMac {} [] rfl rfl (r := .setLossPolicy true) trivial
    (by decide +kernel) (by decide) ?_
  refine ⟨⟨rfl, ?_, by simp, by simp⟩, ⟨rfl, ?_, by simp, by simp⟩, ⟨rfl, ?_, by simp, by simp⟩, trivial⟩
  · decide +kernel
  · decide +kernel
  · decide +kernel

end Nowde
