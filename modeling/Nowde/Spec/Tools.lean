import Nowde.Spec.Midi

/-!
# The host tool (`tools/nowde_sysex.py`, `tools/nowde-cli.py`)

The frames of a firmware update, of a layer assignment and of the media stream as the host builds and
sends them, and their way onto USB: the driver cuts a SysEx frame into packets of up to three bytes.
-/

namespace Nowde.Host

/-- `ota_begin(size)`. -/
def otaBegin (size : ℕ) : List UInt8 :=
  [sysexManufacturerId, sysexCmdOtaBegin] ++ encode7 (u32be (UInt32.ofNat size))

/-- `ota_data(chunk)`. -/
def otaData (chunk : List UInt8) : List UInt8 := [sysexManufacturerId, sysexCmdOtaData] ++ encode7 chunk

/-- `ota_end()`. -/
def otaEnd : List UInt8 := [sysexManufacturerId, sysexCmdOtaEnd]

/-- The payload of an `OTA_DATA_ACKED` frame, as its handler describes it. -/
def otaDataAcked (seq : UInt8) (chunk : List UInt8) : List UInt8 :=
  [sysexManufacturerId, sysexCmdOtaDataAcked, seq, UInt8.ofNat chunk.length] ++ encode7 chunk

/-- `encode('ascii', errors='replace')` of one character. -/
def ascii (c : Char) : UInt8 := if c.toNat < 128 then UInt8.ofNat c.toNat else 0x3F

/-- `layer16(layer)`. -/
def layer16 (layer : List Char) : List UInt8 :=
  ((layer.take 16 ++ List.replicate 16 (Char.ofNat 0)).take 16).map ascii

/-- `change_receiver_layer(mac, layer)`. -/
def changeReceiverLayer (mac : Mac) (layer : List Char) : List UInt8 :=
  [sysexManufacturerId, sysexCmdChangeReceiverLayer] ++ encode7 mac.bytes ++ encode7 (layer16 layer)

/-- `set_local_layer(layer)`. -/
def setLocalLayer (layer : List Char) : List UInt8 :=
  [sysexManufacturerId, sysexCmdSetLocalLayer] ++ (layer.take 15).map ascii

/-- The names that `set_role` takes. -/
inductive RoleName
  | slave
  | master
  | auto

/-- `{'slave': 0, 'master': 1, 'auto': 0x7F}`. -/
def RoleName.code : RoleName → UInt8
  | slave => 0
  | master => 1
  | auto => 0x7F

/-- `set_role(role)`. -/
def setRole (role : RoleName) : List UInt8 := [sysexManufacturerId, sysexCmdSetRole, role.code]

/-- `set_loss_policy(stop)`. -/
def setLossPolicy (stop : Bool) : List UInt8 :=
  [sysexManufacturerId, sysexCmdSetLossPolicy, if stop then 1 else 0]

/-- `set_origin(mac)`; `none` is `None`. -/
def setOrigin : Option Mac → List UInt8
  | none => [sysexManufacturerId, sysexCmdSetOrigin]
  | some mac => [sysexManufacturerId, sysexCmdSetOrigin] ++ encode7 mac.bytes

/-- `push_full_config(rf_sim, delay_ms)`. -/
def pushFullConfig (rfSim : Bool) (delayMs : ℤ) : List UInt8 :=
  let delayMs := (max 0 (min 16383 delayMs)).toNat
  [sysexManufacturerId, sysexCmdPushFullConfig, if rfSim then 1 else 0,
    UInt8.ofNat (delayMs >>> 7) &&& 0x7F, UInt8.ofNat delayMs &&& 0x7F]

/-- `query_config()`. -/
def queryConfig : List UInt8 := [sysexManufacturerId, sysexCmdQueryConfig]

/-- `media_sync(layer, index, position_ms, playing)`. -/
def mediaSync (layer : List Char) (index positionMs : ℤ) (playing : Bool) : List UInt8 :=
  [sysexManufacturerId, sysexCmdMediaSync] ++ layer16 layer ++ [UInt8.ofNat (max 0 (min 127 index)).toNat] ++
    encode7 (u32be (UInt32.ofNat (max 0 positionMs).toNat)) ++ [if playing then 1 else 0]

/-- `Node.send(payload)`: the frame the driver makes of a payload. -/
def send (payload : List UInt8) : List UInt8 := sysexStart :: payload ++ [sysexEnd]

/-- The slices `data[i:i + chunk]` for `i` in `range(0, len(data), chunk)`. -/
def chunks (chunk : ℕ) (data : List UInt8) : List (List UInt8) :=
  (List.range ((data.length + chunk - 1) / chunk)).map fun k => slice data (chunk * k) chunk

/-- The update frames of `cmd_ota`, in order; the tool's `chunk` is 224. -/
def cmdOta (chunk : ℕ) (data : List UInt8) : List (List UInt8) :=
  send (otaBegin data.length) :: (chunks chunk data).map (fun c => send (otaData c)) ++ [send otaEnd]

/-- The USB-MIDI packets of a frame: three bytes each, and the rest under the code that says how
many there are. The firmware's `sendSysExBytes` cuts its own frames the same way. -/
def sysexPackets : List UInt8 → List MidiEventPacket
  | [] => []
  | [a] => [⟨0x05, a, 0, 0⟩]
  | [a, b] => [⟨0x06, a, b, 0⟩]
  | [a, b, c] => [⟨0x07, a, b, c⟩]
  | a :: b :: c :: d :: rest => ⟨0x04, a, b, c⟩ :: sysexPackets (d :: rest)

/-! ## Chunks -/

variable {c : ℕ}

theorem chunks_nil : chunks c [] = [] := by
  unfold chunks
  have hzero : ([] : List UInt8).length + c - 1 < c ∨ c = 0 := by simp; omega
  rcases hzero with h | h
  · rw [Nat.div_eq_of_lt h]
    rfl
  · rw [h, Nat.div_zero]
    rfl

theorem chunks_of_ne_nil (hc : 0 < c) {data : List UInt8} (h : data ≠ []) :
    chunks c data = data.take c :: chunks c (data.drop c) := by
  have hpos : 0 < data.length := List.length_pos_iff.2 h
  have hcount : (data.length + c - 1) / c = ((data.drop c).length + c - 1) / c + 1 := by
    rw [List.length_drop]
    -- a last chunk may be shorter
    rcases Nat.lt_or_ge data.length c with hlt | hge
    · rw [Nat.sub_eq_zero_of_le hlt.le, Nat.div_eq_of_lt (by omega : 0 + c - 1 < c),
        show data.length + c - 1 = data.length - 1 + c by omega, Nat.add_div_right _ hc,
        Nat.div_eq_of_lt (by omega : data.length - 1 < c)]
    · rw [show data.length + c - 1 = data.length - c + c - 1 + c by omega, Nat.add_div_right _ hc]
  unfold chunks
  rw [hcount, List.range_succ_eq_map, List.map_cons, List.map_map]
  have hslice : ∀ k, slice data (c * (k + 1)) c = slice (data.drop c) (c * k) c := by
    intro k
    unfold slice
    rw [List.drop_drop, show c + c * k = c * (k + 1) by rw [Nat.mul_add, Nat.mul_one, Nat.add_comm]]
  have hfirst : slice data (c * 0) c = data.take c := by simp [slice]
  rw [hfirst]
  congr 1
  exact List.map_congr_left fun k _ => hslice k

/-- **The chunks make up the image**, and each has between one and `c` bytes. -/
theorem chunks_spec (hc : 0 < c) (data : List UInt8) :
    (chunks c data).flatten = data ∧ ∀ chunk ∈ chunks c data, chunk ≠ [] ∧ chunk.length ≤ c := by
  induction hn : data.length using Nat.strongRecOn generalizing data with
  | ind n ih =>
    by_cases hd : data = []
    · subst hd
      rw [chunks_nil]
      exact ⟨rfl, by simp⟩
    · have hpos : 0 < data.length := List.length_pos_iff.2 hd
      obtain ⟨hflat, hlen⟩ := ih (data.drop c).length (by rw [List.length_drop]; omega) (data.drop c) rfl
      rw [chunks_of_ne_nil hc hd]
      refine ⟨?_, ?_⟩
      · rw [List.flatten_cons, hflat, List.take_append_drop]
      · intro chunk hmem
        rcases List.mem_cons.1 hmem with rfl | hmem
        · refine ⟨?_, List.length_take_le _ _⟩
          intro hnil
          have := congrArg List.length hnil
          rw [List.length_take, List.length_nil] at this
          omega
        · exact hlen chunk hmem

end Nowde.Host
