import Nowde.Proof.Commands

/-!
# Commands that arrive over the air

USB and the radio share one SysEx dispatcher. The configuration and update commands are the
host's, but nothing on the radio path filters them.

* `onDataRecv_kept`: a radio frame that does not carry a SysEx command, or carries
  `CHANGE_RECEIVER_LAYER`, leaves the host's settings and the update session alone.
* `hostOnly_iff`: a radio frame is harmless **exactly** when it carries no other command.
* `setRole_overTheAir`: five bytes on the radio turn a slave into a master.
-/

namespace Nowde

/-! ## What belongs to the host -/

/-- The update session, the role, the LR switch, the loss policy, the RF simulation and the
pinned origin are as they were. -/
structure HostStateKept (n n' : Node) : Prop where
  ota : n'.ota = n.ota
  nodeRole : n'.nodeRole = n.nodeRole
  storedRole : n'.storedRole = n.storedRole
  sender : n'.senderModeEnabled = n.senderModeEnabled
  lr : n'.lrEnabled = n.lrEnabled ∧ n'.nvs.lr = n.nvs.lr
  loss : n'.receiver.mediaSyncState.stopOnLinkLost = n.receiver.mediaSyncState.stopOnLinkLost ∧
    n'.nvs.loss = n.nvs.loss
  role : n'.nvs.role = n.nvs.role
  rfSim : n'.rfSimulationEnabled = n.rfSimulationEnabled ∧ n'.rfSimMaxDelayMs = n.rfSimMaxDelayMs
  pinned : n'.receiver.originLock.pinned = n.receiver.originLock.pinned
  pinnedMac : n.receiver.originLock.pinned = true → n'.receiver.originLock.mac = n.receiver.originLock.mac

theorem HostStateKept.refl (n : Node) : HostStateKept n n :=
  ⟨rfl, rfl, rfl, rfl, ⟨rfl, rfl⟩, ⟨rfl, rfl⟩, rfl, ⟨rfl, rfl⟩, rfl, fun _ => rfl⟩

/-! ## Radio frames -/

section Radio

variable (lib : UpdateLib) (env : Env) (n : Node) (src : Mac) {data : List UInt8}

/-- `CHANGE_RECEIVER_LAYER` moves the layer and what NVS keeps of it, and nothing of the host's. -/
theorem changeReceiverLayer_kept (length : ℕ) :
    HostStateKept n (changeReceiverLayer env n data length).1 ∧
      Out.restart ∉ (changeReceiverLayer env n data length).2 := by
  have hinfo : ∀ m, Out.restart ∉ sendReceiverInfo env m := by
    intro m
    unfold sendReceiverInfo
    split
    · simp
    · rw [Slots.mem_collect]
      rintro ⟨i, hi⟩
      split at hi <;> cases hi
  unfold changeReceiverLayer
  split
  · dsimp only
    split
    · refine ⟨HostStateKept.refl n, ?_⟩
      split_ifs <;> simp [sendErrorReport]
    · exact ⟨HostStateKept.refl n, by simp [sendErrorReport]⟩
  · split
    · exact ⟨⟨rfl, rfl, rfl, rfl, ⟨rfl, rfl⟩, ⟨rfl, rfl⟩, rfl, ⟨rfl, rfl⟩, rfl, fun _ => rfl⟩, hinfo _⟩
    · exact ⟨HostStateKept.refl n, by simp⟩

/-- A packet keeps the loss policy, the pin and the pinned origin. -/
theorem processMediaSyncPacket_kept (r : Receiver) (origin : Mac) (data : List UInt8) :
    let r' := (processMediaSyncPacket env r origin data).1
    r'.mediaSyncState.stopOnLinkLost = r.mediaSyncState.stopOnLinkLost ∧
      r'.originLock.pinned = r.originLock.pinned ∧
      (r.originLock.pinned = true → r'.originLock.mac = r.originLock.mac) := by
  by_cases hacc : Accepts env r origin data
  · obtain ⟨-, hmac, -, hpin, -, hms⟩ := originAccepts_spec (originAccepts_iff.2 hacc.2.2)
    obtain ⟨g, sq, b, hgap⟩ := countGap_eq (MediaSyncPacket.ofFrame data)
      (originAccepts env.millis r origin).1.mediaSyncState data.length
    obtain ⟨i, t, v, w, u, hf⟩ := followPacket_eq env (data.length ≥ mediaSyncVolumeLen)
      (MediaSyncPacket.ofFrame data) (countGap data.length (MediaSyncPacket.ofFrame data)
        (originAccepts env.millis r origin).1.mediaSyncState)
    rw [processMediaSyncPacket_of_accepts hacc]
    refine ⟨?_, hpin, ?_⟩
    · dsimp only
      rw [hf, hgap]
      show (originAccepts env.millis r origin).1.mediaSyncState.stopOnLinkLost = _
      rcases hms with ⟨hs, -, -⟩ | hs <;> rw [hs]
    · intro hp
      -- a pinned lock lets its own origin through and no other
      rcases hacc.2.2 with hfree | hsame | ⟨hunpinned, -⟩
      · rw [r.originLock.pinned_valid hp] at hfree
        cases hfree
      · exact hmac.trans hsame.symm
      · rw [hp] at hunpinned
        cases hunpinned
  · rw [processMediaSyncPacket_of_not_accepts hacc]
    exact ⟨rfl, rfl, fun _ => rfl⟩

theorem mediaEffect_kept : HostStateKept n (mediaEffect env n src data).1 ∧
    Out.restart ∉ (mediaEffect env n src data).2 := by
  unfold mediaEffect
  cases mediaFrame src data with
  | none => exact ⟨HostStateKept.refl n, by simp⟩
  | some f =>
    by_cases hfol : n.follows
    · obtain ⟨hloss, hpin, hmac⟩ := processMediaSyncPacket_kept env n.receiver f.1 f.2
      simp only [receiveMedia_of_follows hfol]
      exact ⟨⟨rfl, rfl, rfl, rfl, ⟨rfl, rfl⟩, ⟨hloss, rfl⟩, rfl, ⟨rfl, rfl⟩, hpin, hmac⟩, by simp⟩
    · simp only [receiveMedia_of_not_follows hfol]
      exact ⟨HostStateKept.refl n, by simp⟩

/-- The command a radio frame has the node run. -/
def radioCommand (data : List UInt8) : Option Command :=
  if isSysexFrame data then sysexCommand data (UInt8.ofNat data.length).toNat else none

/-- A radio frame that starts like SysEx goes to the dispatcher. -/
theorem onDataRecv_of_isSysexFrame (h : isSysexFrame data) :
    onDataRecv lib env n src data = handleSysExMessage lib env n data (UInt8.ofNat data.length) := by
  have hlen : ¬data.length < 1 := by
    intro hlen
    have hnil : data = [] := List.length_eq_zero_iff.1 (by omega)
    rw [hnil] at h
    exact absurd h.1 (by decide)
  unfold onDataRecv
  rw [if_neg hlen, if_neg h.2]
  dsimp only
  rw [if_pos h.1]

/-- What `radioCommand` names is run, as if it had come from the host. -/
theorem onDataRecv_of_radioCommand {c : Command} (h : radioCommand data = some c) :
    onDataRecv lib env n src data = execute lib env n c data (UInt8.ofNat data.length).toNat := by
  unfold radioCommand at h
  split at h
  · next hstart =>
    rw [onDataRecv_of_isSysexFrame lib env n src hstart]
    exact handleSysExMessage_of_command lib env n h
  · cases h

theorem handleSenderBeacon_no_restart (t : Fin maxSenders → SenderEntry) :
    Out.restart ∉ (handleSenderBeacon env t src).2 := by
  unfold handleSenderBeacon
  split
  · simp
  · split <;> simp

theorem handleReceiverInfo_no_restart (t : Fin maxReceivers → ReceiverEntry) :
    Out.restart ∉ (handleReceiverInfo env t src data).2 := by
  unfold handleReceiverInfo
  split
  · simp
  · dsimp only
    split
    · simp
    · split <;> simp

/-- **A radio frame that runs no command but `CHANGE_RECEIVER_LAYER`** leaves what is the host's. -/
theorem onDataRecv_kept (h : ∀ c, radioCommand data = some c → c = .changeReceiverLayer) :
    HostStateKept n (onDataRecv lib env n src data).1 ∧ Out.restart ∉ (onDataRecv lib env n src data).2 := by
  rcases onDataRecv_cases lib env n src data with
    ⟨-, -, -, hrecv⟩ | ⟨-, -, -, hrecv⟩ | ⟨-, -, -, hsysex, hrecv⟩ | ⟨-, -, relay, hrecv⟩
  · rw [hrecv]
    exact ⟨⟨rfl, rfl, rfl, rfl, ⟨rfl, rfl⟩, ⟨rfl, rfl⟩, rfl, ⟨rfl, rfl⟩, rfl, fun _ => rfl⟩,
      handleSenderBeacon_no_restart env src n.senderTable⟩
  · rw [hrecv]
    exact ⟨⟨rfl, rfl, rfl, rfl, ⟨rfl, rfl⟩, ⟨rfl, rfl⟩, rfl, ⟨rfl, rfl⟩, rfl, fun _ => rfl⟩,
      handleReceiverInfo_no_restart env src n.receiverTable⟩
  · rw [hrecv]
    unfold radioCommand at h
    rw [if_pos hsysex] at h
    cases hc : sysexCommand data (UInt8.ofNat data.length).toNat with
    | none =>
      -- a rejection is a message to the host at most
      rw [handleSysExMessage_of_none lib env n hc]
      refine ⟨HostStateKept.refl n, fun hr => ?_⟩
      obtain ⟨m, hm⟩ := sysexRejection_host hr
      cases hm
    | some c =>
      have hlayer := h c hc
      subst hlayer
      rw [handleSysExMessage_of_command lib env n hc]
      exact changeReceiverLayer_kept env n _
  · have hkept : HostStateKept n (mediaEffect env n src data).1 ∧
        Out.restart ∉ (mediaEffect env n src data).2 := mediaEffect_kept env n src
    obtain ⟨⟨h1, h2, h3, h4, h5, h6, h7, h8, h9, h10⟩, hout⟩ := hkept
    rw [hrecv]
    exact ⟨⟨h1, h2, h3, h4, h5, h6, h7, h8, h9, h10⟩, hout⟩

/-- A radio frame is short enough for its length to fit the dispatcher's byte. -/
theorem toNat_radioLength (hlen : data.length ≤ 250) : (UInt8.ofNat data.length).toNat = data.length := by
  rw [UInt8.toNat_ofNat']
  omega

/-- A frame that carries a command over the air runs it. -/
theorem radioCommand_of_carries {c : Command} (hlen : data.length ≤ 250) (h : CarriesCommand data c) :
    radioCommand data = some c := by
  have hclock : ¬isMeshClockPacket data = true := by
    intro hc
    simp only [isMeshClockPacket, decide_eq_true_eq] at hc
    cases data with
    | nil => simp at hc
    | cons b bs =>
      have hb : b = 0x4D := by simpa using congrArg List.head? hc.2
      have h0 := h.2.1
      rw [hb, byteAt_cons_zero] at h0
      exact absurd h0 (by decide)
  unfold radioCommand
  rw [if_pos ⟨h.2.1, hclock⟩, toNat_radioLength hlen, sysexCommand_eq_some.2 h]

/-- **Host-only commands stay with the host exactly when** the frame is not a SysEx frame that
carries one: for a radio frame of at most 250 bytes, the host's settings and the update session
are kept, the node does not restart and no command but `CHANGE_RECEIVER_LAYER` runs iff no other
command stands in the frame. -/
theorem hostOnly_iff (hlen : data.length ≤ 250) :
    (HostStateKept n (onDataRecv lib env n src data).1 ∧ Out.restart ∉ (onDataRecv lib env n src data).2 ∧
        ∀ c, radioCommand data = some c → c = .changeReceiverLayer) ↔
      ∀ c, CarriesCommand data c → c = .changeReceiverLayer := by
  constructor
  · rintro ⟨-, -, honly⟩ c hc
    exact honly c (radioCommand_of_carries hlen hc)
  · intro hcarry
    have honly : ∀ c, radioCommand data = some c → c = .changeReceiverLayer := by
      intro c hc
      unfold radioCommand at hc
      split at hc
      · rw [toNat_radioLength hlen] at hc
        exact hcarry c (sysexCommand_eq_some.1 hc)
      · cases hc
    obtain ⟨hkept, hout⟩ := onDataRecv_kept lib env n src honly
    exact ⟨hkept, hout, honly⟩

end Radio

/-! ## A role from the air -/

/-- `SET_ROLE` master. -/
def setRoleMaster : List UInt8 := [0xF0, 0x7D, 0x08, 0x01, 0xF7]

/-- The mesh form of `CHANGE_RECEIVER_LAYER` for layer `a`. -/
def layerOverTheAir : List UInt8 := [0xF0, 0x7D, 0x11, 0x61, 0xF7]

theorem layerOverTheAir_harmless :
    (HostStateKept lockedSlave (onDataRecv noUpdate { millis := 1000 } lockedSlave masterA layerOverTheAir).1 ∧
        Out.restart ∉ (onDataRecv noUpdate { millis := 1000 } lockedSlave masterA layerOverTheAir).2 ∧
        ∀ c, radioCommand layerOverTheAir = some c → c = .changeReceiverLayer) ↔
      ∀ c, CarriesCommand layerOverTheAir c → c = .changeReceiverLayer :=
  hostOnly_iff noUpdate { millis := 1000 } lockedSlave masterA (by decide)

/-- **Five bytes on the radio make a slave a master.** -/
theorem setRole_overTheAir :
    ¬∀ (lib : UpdateLib) (env : Env) (n : Node) (src : Mac) (data : List UInt8), data.length ≤ 250 →
      HostStateKept n (onDataRecv lib env n src data).1 ∧ Out.restart ∉ (onDataRecv lib env n src data).2 ∧
        ∀ c, radioCommand data = some c → c = .changeReceiverLayer := by
  intro hall
  have hkept := (hall noUpdate { millis := 1000 } lockedSlave masterB setRoleMaster (by decide)).1
  have hbefore : lockedSlave.senderModeEnabled = false := rfl
  have hafter : (onDataRecv noUpdate { millis := 1000 } lockedSlave masterB setRoleMaster).1.senderModeEnabled
      = true := by decide +kernel
  have := hafter.symm.trans (hkept.sender.trans hbefore)
  cases this

end Nowde
