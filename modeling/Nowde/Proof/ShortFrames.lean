import Nowde.Proof.Commands

/-!
# Frames too short for their command

Every handler tests the frame's length against offsets of its own. Two tests let a short frame in:
`PUSH_FULL_CONFIG` takes 6 bytes for its 7, and reads the `F7` as the low delay bits;
`CHANGE_RECEIVER_LAYER` has a shorter form, which a node in both modes takes a short host frame for.

* `shortFrames_iff`: any other frame that is too short changes nothing, and no other frame's `F7` is
  read into the state.
-/

namespace Nowde

/-- The payload is shorter than the layout documented for the command. On a node in sender mode,
`CHANGE_RECEIVER_LAYER` is the host's frame. -/
def Command.TooShort (n : Node) (payload : ℕ) : Command → Prop
  | .pushFullConfig => payload < 3
  | .otaBegin => payload < 5
  | .setRole | .setLr | .setLossPolicy | .setLog => payload < 1
  | .mediaSync => payload < 23
  | .setOrigin => 1 ≤ payload ∧ payload ≤ 6
  | .changeReceiverLayer => n.senderModeEnabled = true ∧ payload < 26
  | _ => False

/-- A frame that leaves the node as it is, whatever its NVS holds: nothing is written there either. -/
def ChangesNothing (lib : UpdateLib) (env : Env) (n : Node) (data : List UInt8) : Prop :=
  ∀ nvs, (handleSysExMessage lib env { n with nvs := nvs } data (UInt8.ofNat data.length)).1 = { n with nvs := nvs }

/-- The command's handler comes to the same state whatever the last byte of the frame is. -/
def EndUnread (lib : UpdateLib) (env : Env) (n : Node) (c : Command) (data : List UInt8) : Prop :=
  ∀ b, (execute lib env n c (data.set (data.length - 1) b) data.length).1 = (execute lib env n c data data.length).1

/-- **What a command's length tests are for.** -/
structure LengthChecked (lib : UpdateLib) (env : Env) (n : Node) (c : Command) (data : List UInt8) : Prop where
  rejected : c.TooShort n (data.length - 4) → ChangesNothing lib env n data
  endUnread : EndUnread lib env n c data

/-- A `PUSH_FULL_CONFIG` frame a byte short, or a `CHANGE_RECEIVER_LAYER` frame too short for the host's
form, on a node in both modes. -/
def PassesShort (n : Node) (length : ℕ) (c : Command) : Prop :=
  c = .pushFullConfig ∧ length = 6 ∨
    c = .changeReceiverLayer ∧ n.senderModeEnabled = true ∧ n.receiverModeEnabled = true ∧ length ≤ 28

section Handlers

variable (lib : UpdateLib) (env : Env) (n : Node) {c : Command} {data : List UInt8} {length : ℕ}

/-! ## Short frames -/

/-- The host's form is passed on; the node itself stays as it is. -/
theorem changeReceiverLayer_host (data : List UInt8) (h : n.senderModeEnabled = true ∧ length ≥ 29) :
    (changeReceiverLayer env n data length).1 = n := by
  unfold changeReceiverLayer
  rw [if_pos h]
  dsimp only
  split <;> rfl

/-- **A handler turns a frame down** when it is too short and neither of the two that pass. -/
theorem execute_tooShort (hshort : c.TooShort n (length - 4)) (hlen : 4 ≤ length) (hpass : ¬PassesShort n length c) :
    (execute lib env n c data length).1 = n := by
  cases c with
  | pushFullConfig =>
    have hne : length ≠ 6 := fun h => hpass (Or.inl ⟨rfl, h⟩)
    have hlow : length - 4 < 3 := hshort
    simp only [execute, pushFullConfig]
    rw [if_neg (by omega)]
  | otaBegin =>
    have hlow : length - 4 < 5 := hshort
    simp only [execute, otaBegin, withOta]
    rw [if_neg (by omega)]
  | setRole =>
    have hlow : length - 4 < 1 := hshort
    simp only [execute, setRole]
    rw [if_neg (by omega)]
  | setLr =>
    have hlow : length - 4 < 1 := hshort
    simp only [execute, setLr]
    rw [if_neg (by omega)]
  | setLossPolicy =>
    have hlow : length - 4 < 1 := hshort
    simp only [execute, setLossPolicy]
    rw [if_neg (by omega)]
  | setLog =>
    have hlow : length - 4 < 1 := hshort
    simp only [execute, setLog]
    rw [if_neg (by omega)]
  | mediaSync =>
    have hlow : length - 4 < 23 := hshort
    simp only [execute, mediaSync]
    rw [if_neg (by omega)]
  | setOrigin =>
    have hlow : 1 ≤ length - 4 ∧ length - 4 ≤ 6 := hshort
    simp only [execute, setOrigin]
    rw [if_neg (by omega), if_neg (by omega)]
  | changeReceiverLayer =>
    obtain ⟨hsender, hlow⟩ : n.senderModeEnabled = true ∧ length - 4 < 26 := hshort
    simp only [execute]
    by_cases hhost : n.senderModeEnabled = true ∧ length ≥ 29
    · exact changeReceiverLayer_host env n data hhost
    · unfold changeReceiverLayer
      have hreceiver : ¬(n.receiverModeEnabled = true ∧ length ≥ 4) := by
        rintro ⟨hreceiver, -⟩
        have hlong : ¬length ≥ 29 := fun h => hhost ⟨hsender, h⟩
        exact hpass (Or.inr ⟨rfl, hsender, hreceiver, by omega⟩)
      rw [if_neg hhost, if_neg hreceiver]
  | queryConfig | queryRunningState | enterBootloader | otaData | otaEnd | setLocalLayer | otaDataAcked =>
    exact absurd hshort (by simp [Command.TooShort])

/-! ## The last byte -/

/-- A host frame's media is all before its last byte. -/
theorem mintPacket_cut (mediaSyncSeq : UInt16) (data : List UInt8) (h : length ≥ 27) :
    mintPacket env mediaSyncSeq (data.take (length - 1)) length = mintPacket env mediaSyncSeq data length := by
  unfold mintPacket
  rw [charBuf_take data (by omega), byteAt_take data (by omega), byteAt_take data (by omega),
    slice_take data (by omega), byteAt_take data (by omega)]
  by_cases hvolume : length ≥ 29
  · rw [byteAt_take data (by omega), byteAt_take data (by omega)]
  · simp only [if_neg hvolume]

/-- **No handler reads the last byte into the state**, short of a `PUSH_FULL_CONFIG` frame a byte short. -/
theorem execute_cut (hlen : 4 ≤ length) (hpass : ¬(c = .pushFullConfig ∧ length = 6)) :
    (execute lib env n c (data.take (length - 1)) length).1 = (execute lib env n c data length).1 := by
  cases c with
  | queryConfig | queryRunningState | enterBootloader | otaEnd => rfl
  | pushFullConfig =>
    simp only [execute, pushFullConfig]
    split
    · next h =>
      have hseven : 7 ≤ length := by
        by_contra hlt
        exact hpass ⟨rfl, by omega⟩
      rw [byteAt_take data (by omega), byteAt_take data (by omega), byteAt_take data (by omega)]
    · rfl
  | otaBegin =>
    simp only [execute, otaBegin, withOta]
    split
    · rw [show otaAnnouncedSize (data.take (length - 1)) = otaAnnouncedSize data by
        unfold otaAnnouncedSize
        rw [slice_take data (by omega)]]
    · rfl
  | otaData =>
    simp only [execute, otaData, withOta]
    split
    · rw [slice_take data (by omega)]
    · rfl
  | otaDataAcked =>
    simp only [execute, otaDataAcked, withOta]
    split
    · next h => rw [slice_take data (by omega), byteAt_take data (by omega), byteAt_take data (by omega)]
    · rfl
  | setRole =>
    simp only [execute, setRole]
    split
    · next h => rw [byteAt_take data (by omega)]
    · rfl
  | setLocalLayer =>
    simp only [execute, setLocalLayer, changeSubscribedLayer]
    split
    · rw [slice_take data (by omega)]
    · rfl
  | setLog =>
    simp only [execute, setLog]
    split
    · rw [byteAt_take data (by omega)]
    · rfl
  | setLr =>
    simp only [execute, setLr]
    by_cases h : length ≥ 5
    · rw [byteAt_take data (by omega)]
    · rw [if_neg fun hset => h hset.1, if_neg fun hset => h hset.1]
  | setLossPolicy =>
    simp only [execute, setLossPolicy]
    by_cases h : length ≥ 5
    · rw [byteAt_take data (by omega)]
    · rw [if_neg fun hset => h hset.1, if_neg fun hset => h hset.1]
  | setOrigin =>
    simp only [execute, setOrigin]
    split
    · rfl
    · split
      · rw [slice_take data (by omega)]
      · rfl
  | mediaSync =>
    simp only [execute, mediaSync]
    split
    · next h => rw [mintPacket_cut env _ data h.2]
    · rfl
  | changeReceiverLayer =>
    simp only [execute]
    by_cases hhost : n.senderModeEnabled = true ∧ length ≥ 29
    · rw [changeReceiverLayer_host env n _ hhost, changeReceiverLayer_host env n _ hhost]
    · unfold changeReceiverLayer
      rw [if_neg hhost, if_neg hhost]
      split
      · unfold changeSubscribedLayer
        rw [slice_take data (by omega)]
      · rfl

theorem execute_endUnread (hlen : 4 ≤ data.length) (hpass : ¬(c = .pushFullConfig ∧ data.length = 6)) :
    EndUnread lib env n c data := by
  intro b
  have hcut : (data.set (data.length - 1) b).take (data.length - 1) = data.take (data.length - 1) :=
    List.take_set_of_le (le_refl _)
  have hset := @execute_cut lib env n c (data.set (data.length - 1) b) data.length hlen hpass
  rw [hcut] at hset
  exact hset.symm.trans (execute_cut lib env n hlen hpass)

/-- The exception takes the last byte for the low bits of the delay. -/
theorem pushFullConfig_readsEnd (hlen : data.length = 6) : ¬EndUnread lib env n .pushFullConfig data := by
  intro h
  obtain ⟨a0, a1, a2, a3, a4, a5, rfl⟩ : ∃ a0 a1 a2 a3 a4 a5, data = [a0, a1, a2, a3, a4, a5] := by
    match data, hlen with
    | [a0, a1, a2, a3, a4, a5], _ => exact ⟨a0, a1, a2, a3, a4, a5, rfl⟩
  have hdelay : ∀ b, (execute lib env n .pushFullConfig [a0, a1, a2, a3, a4, b] 6).1.rfSimMaxDelayMs =
      ((a4 &&& 0x7F).toUInt32 <<< 7) ||| (b &&& 0x7F).toUInt32 := fun _ => rfl
  have hsame := (h 0).trans (h 1).symm
  have hdelays := (hdelay 0).symm.trans ((congrArg Node.rfSimMaxDelayMs hsame).trans (hdelay 1))
  have key : ∀ b : Fin 256, ((UInt8.ofNat b &&& 0x7F).toUInt32 <<< 7) ||| ((0 : UInt8) &&& 0x7F).toUInt32 ≠
      ((UInt8.ofNat b &&& 0x7F).toUInt32 <<< 7) ||| ((1 : UInt8) &&& 0x7F).toUInt32 := by
    decide +kernel
  exact key ⟨a4.toNat, a4.toNat_lt⟩ (by simpa using hdelays)

/-! ## The exception that stores a layer -/

theorem changeReceiverLayer_stores (hlen : 4 ≤ data.length) (hshort : data.length ≤ 28)
    (hreceiver : n.receiverModeEnabled = true) (hc : sysexCommand data data.length = some .changeReceiverLayer) :
    ¬ChangesNothing lib env n data := by
  intro h
  have hbyte : (UInt8.ofNat data.length).toNat = data.length := by
    rw [UInt8.toNat_ofNat', Nat.mod_eq_of_lt (by omega)]
  have hkept := h { n.nvs with layer := none }
  rw [handleSysExMessage_of_command lib env _ (by rw [hbyte]; exact hc), hbyte] at hkept
  have hlayer := congrArg (fun m : Node => m.nvs.layer) hkept
  simp only [execute, changeReceiverLayer] at hlayer
  rw [if_neg (by omega), if_pos ⟨hreceiver, hlen⟩] at hlayer
  cases hlayer

end Handlers

/-! ## Every command and every length -/

/-- **The length tests do their work exactly on the frames that do not pass short**, for every node, every
command and every frame of up to 255 bytes. -/
theorem shortFrames_iff (lib : UpdateLib) (env : Env) (n : Node) {c : Command} {data : List UInt8}
    (hc : CarriesCommand data c) (hmax : data.length ≤ 255) :
    LengthChecked lib env n c data ↔ ¬PassesShort n data.length c := by
  have hlen : 4 ≤ data.length := hc.1
  have hcommand : sysexCommand data data.length = some c := sysexCommand_eq_some.2 hc
  have hbyte : (UInt8.ofNat data.length).toNat = data.length := by
    rw [UInt8.toNat_ofNat', Nat.mod_eq_of_lt (by omega)]
  refine ⟨?_, ?_⟩
  · rintro ⟨hrejected, hend⟩ (⟨rfl, hsix⟩ | ⟨rfl, hsender, hreceiver, hshort⟩)
    · exact pushFullConfig_readsEnd lib env n hsix hend
    · have htoo : Command.changeReceiverLayer.TooShort n (data.length - 4) := ⟨hsender, by omega⟩
      exact changeReceiverLayer_stores lib env n hlen hshort hreceiver hcommand (hrejected htoo)
  · intro hpass
    refine ⟨fun htoo nvs => ?_, execute_endUnread lib env n hlen fun h => hpass (Or.inl h)⟩
    rw [handleSysExMessage_of_command lib env _ (by rw [hbyte]; exact hcommand), hbyte]
    exact execute_tooShort lib env { n with nvs := nvs } htoo hlen hpass

/-- A `SET_ROLE` frame without a role is turned down. -/
theorem emptySetRole_rejected :
    LengthChecked noUpdate { millis := 0 } (boot plainBuild {} 0 slaveMac) .setRole [0xF0, 0x7D, 0x08, 0xF7] :=
  (shortFrames_iff noUpdate { millis := 0 } (boot plainBuild {} 0 slaveMac)
    (sysexCommand_eq_some.1 (by decide +kernel)) (by decide)).2 (by rintro (⟨h, -⟩ | ⟨h, -⟩) <;> cases h)

/-- **A `PUSH_FULL_CONFIG` frame a byte short** is taken, with the `F7` for its delay. -/
theorem shortPush_taken :
    CarriesCommand [0xF0, 0x7D, 0x02, 0x01, 0x00, 0xF7] .pushFullConfig ∧
      ¬LengthChecked noUpdate { millis := 0 } (boot plainBuild {} 0 slaveMac) .pushFullConfig
        [0xF0, 0x7D, 0x02, 0x01, 0x00, 0xF7] :=
  ⟨sysexCommand_eq_some.1 (by decide +kernel), fun h => pushFullConfig_readsEnd _ _ _ rfl h.endUnread⟩

end Nowde
