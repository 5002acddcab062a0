import Mathlib.Tactic

/-!
# Constants, C strings and wire records (`nowde_config.h`)

`uint8_t`, `uint16_t` and `uint32_t` are `UInt8`, `UInt16` and `UInt32`; `millis()` is a
`UInt32` (`unsigned long` is 32 bits on the ESP32). A frame is the list of its bytes. The
packed structs are read at their `offsetof` positions, little-endian.
-/

namespace Nowde

/-! ## Constants -/

def maxLayerLength : ℕ := 16
def maxSenders : ℕ := 10
def maxReceivers : ℕ := 10
def maxRelayOrigins : ℕ := maxSenders
def maxPendingRelays : ℕ := 8
def maxDelayedPackets : ℕ := 20

def receiverTimeoutMs : UInt32 := 5000
def senderTimeoutMs : UInt32 := 5000
/-- `cleanupReceiverTable` removes an entry after this long (a literal in the source). -/
def receiverRemoveMs : UInt32 := 10000
def receiverBeaconIntervalMs : UInt32 := 1000
def senderBeaconIntervalMs : UInt32 := 1000

def nowdeRoleSlave : UInt8 := 0
def nowdeRoleMaster : UInt8 := 1
def nowdeRoleLegacy : UInt8 := 2
def nowdeRoleAuto : UInt8 := 0x7F

def nowdeBoardidAtoms3 : UInt8 := 2
def nowdeBoardidAtoms3Lite : UInt8 := 3

def originLockReleaseMs : UInt32 := 2000
def mediasyncMaxGap : UInt16 := 100
def maxHops : UInt8 := 3
def meshRelayDelayMinMs : ℕ := 5
def meshRelayDelayMaxMs : ℕ := 30

def cc100RepeatIntervalMs : UInt32 := 1000
def cc7RepeatIntervalMs : UInt32 := 1000
def hostLinkTimeoutMs : UInt32 := 5000
def linkLostTimeoutMs : UInt32 := 10000
def clockDesyncThresholdMs : Int32 := 200
def jumpFullframeThresholdMs : Int32 := 1000
def mtcFramerate : UInt32 := 30

def meshResyncGraceMs : UInt32 := 15000
def meshMaxSoftResets : UInt8 := 2
def meshRebootGraceMs : UInt32 := 60000
def meshMaxAutoReboots : UInt8 := 2

def sysexStart : UInt8 := 0xF0
def sysexEnd : UInt8 := 0xF7
def sysexManufacturerId : UInt8 := 0x7D

def sysexCmdQueryConfig : UInt8 := 0x01
def sysexCmdPushFullConfig : UInt8 := 0x02
def sysexCmdQueryRunningState : UInt8 := 0x03
def sysexCmdEnterBootloader : UInt8 := 0x04
def sysexCmdOtaBegin : UInt8 := 0x05
def sysexCmdOtaData : UInt8 := 0x06
def sysexCmdOtaEnd : UInt8 := 0x07
def sysexCmdSetRole : UInt8 := 0x08
def sysexCmdSetLocalLayer : UInt8 := 0x09
def sysexCmdSetLog : UInt8 := 0x0A
def sysexCmdSetLr : UInt8 := 0x0B
def sysexCmdOtaDataAcked : UInt8 := 0x0C
def sysexCmdSetLossPolicy : UInt8 := 0x0D
def sysexCmdSetOrigin : UInt8 := 0x0E
def sysexCmdMediaSync : UInt8 := 0x10
def sysexCmdChangeReceiverLayer : UInt8 := 0x11
def sysexCmdHello : UInt8 := 0x20
def sysexCmdConfigState : UInt8 := 0x21
def sysexCmdRunningState : UInt8 := 0x22
def sysexCmdOtaAck : UInt8 := 0x23
def sysexCmdErrorReport : UInt8 := 0x30
def sysexCmdLog : UInt8 := 0x31

def errorConfigInvalid : UInt8 := 0x01
def errorSysexParseError : UInt8 := 0x02
def errorEspnowSendFailed : UInt8 := 0x03
def errorReceiverTimeout : UInt8 := 0x05

def espnowMsgSenderBeacon : UInt8 := 0x01
def espnowMsgReceiverInfo : UInt8 := 0x02
def espnowMsgMediaSync : UInt8 := 0x03
def espnowMsgMeshRelay : UInt8 := 0x05

def mediasyncFlagVolume : UInt8 := 0x01

def nowdeSyncNone : UInt8 := 0
def nowdeSyncCoarse : UInt8 := 1
def nowdeSyncLocked : UInt8 := 2
def nowdeSyncUnknown : UInt8 := 0xFF

/-- `NOWDE_VERSION`, `"2.0.4"`. -/
def nowdeVersion : List UInt8 := [0x32, 0x2E, 0x30, 0x2E, 0x34]

/-! ## Bytes and C strings -/

/-- The byte at offset `i`; every read below is behind a length test that makes it real. -/
def byteAt (data : List UInt8) (i : ℕ) : UInt8 := data.getD i 0

/-- The `n` bytes from offset `i`. -/
def slice (data : List UInt8) (i n : ℕ) : List UInt8 := (data.drop i).take n

def le16 (data : List UInt8) (i : ℕ) : UInt16 :=
  UInt16.ofNat ((byteAt data i).toNat + 256 * (byteAt data (i + 1)).toNat)

def le32 (data : List UInt8) (i : ℕ) : UInt32 :=
  UInt32.ofNat ((byteAt data i).toNat + 256 * (byteAt data (i + 1)).toNat +
    65536 * (byteAt data (i + 2)).toNat + 16777216 * (byteAt data (i + 3)).toNat)

def le16Bytes (x : UInt16) : List UInt8 := [UInt8.ofNat x.toNat, UInt8.ofNat (x.toNat / 256)]

def le32Bytes (x : UInt32) : List UInt8 :=
  [UInt8.ofNat x.toNat, UInt8.ofNat (x.toNat / 256), UInt8.ofNat (x.toNat / 65536),
    UInt8.ofNat (x.toNat / 16777216)]

/-- The characters of a C string: up to the first NUL. -/
def cstr (s : List UInt8) : List UInt8 := s.takeWhile (· ≠ 0)

/-- `strncmp(a, b, n) == 0`. -/
def strncmpEq (a b : List UInt8) (n : ℕ) : Bool := cstr (a.take n) = cstr (b.take n)

/-- A `char[n]` or `uint8_t[n]`: always exactly `n` bytes. -/
structure CharBuf (n : ℕ) where
  bytes : List UInt8
  size : bytes.length = n
deriving DecidableEq

namespace CharBuf

variable {n : ℕ}

def zero (n : ℕ) : CharBuf n := ⟨List.replicate n 0, List.length_replicate⟩

/-- `memcpy(buf, src, len)` for a `src` of `len ≤ n` bytes; what follows keeps its old value. -/
def blit (b : CharBuf n) (src : List UInt8) : CharBuf n :=
  ⟨src.take n ++ b.bytes.drop src.length, by
    have := b.size
    simp only [List.length_append, List.length_take, List.length_drop]
    omega⟩

/-- `strncpy(buf, src, n)`: the C string cut to `n`, padded with NULs. -/
def strncpy (n : ℕ) (src : List UInt8) : CharBuf n :=
  (zero n).blit (cstr (src.take n))

/-- `buf[n - 1] = '\0'`. -/
def terminate (b : CharBuf n) : CharBuf n :=
  ⟨b.bytes.take (n - 1) ++ List.replicate (n - (n - 1)) 0, by
    have := b.size
    simp only [List.length_append, List.length_take, List.length_replicate]
    omega⟩

/-- The bytes at `offset` of a frame as a buffer, as a pointer cast reads them. -/
def ofFrame (n : ℕ) (data : List UInt8) (offset : ℕ) : CharBuf n :=
  (zero n).blit (slice data offset n)

end CharBuf

/-- A 6-byte MAC address. -/
structure Mac where
  b0 : UInt8
  b1 : UInt8
  b2 : UInt8
  b3 : UInt8
  b4 : UInt8
  b5 : UInt8
deriving DecidableEq

namespace Mac

def zero : Mac := ⟨0, 0, 0, 0, 0, 0⟩

/-- `broadcastAddress`. -/
def broadcast : Mac := ⟨0xFF, 0xFF, 0xFF, 0xFF, 0xFF, 0xFF⟩

def bytes (m : Mac) : List UInt8 := [m.b0, m.b1, m.b2, m.b3, m.b4, m.b5]

def ofFrame (data : List UInt8) (i : ℕ) : Mac :=
  ⟨byteAt data i, byteAt data (i + 1), byteAt data (i + 2), byteAt data (i + 3),
    byteAt data (i + 4), byteAt data (i + 5)⟩

end Mac

/-! ## Wire records -/

/-- `MediaSyncPacket` without its constant `type`: 31 bytes on the wire. -/
structure MediaSyncPacket where
  layer : CharBuf 16
  mediaIndex : UInt8
  positionMs : UInt32
  state : UInt8
  meshTimestamp : UInt32
  volume : UInt8
  flags : UInt8
  seq : UInt16
deriving DecidableEq

/-- `sizeof(MediaSyncPacket)`. -/
def mediaSyncSize : ℕ := 31
/-- `MEDIA_SYNC_MIN_LEN`, the offset of `volume`. -/
def mediaSyncMinLen : ℕ := 27
/-- `MEDIA_SYNC_VOLUME_LEN`, the offset of `seq`. -/
def mediaSyncVolumeLen : ℕ := 29

namespace MediaSyncPacket

/-- `reinterpret_cast<const MediaSyncPacket*>(data)`. -/
def ofFrame (data : List UInt8) : MediaSyncPacket where
  layer := CharBuf.ofFrame 16 data 1
  mediaIndex := byteAt data 17
  positionMs := le32 data 18
  state := byteAt data 22
  meshTimestamp := le32 data 23
  volume := byteAt data 27
  flags := byteAt data 28
  seq := le16 data 29

/-- The bytes of the packed struct. -/
def toFrame (p : MediaSyncPacket) : List UInt8 :=
  espnowMsgMediaSync :: p.layer.bytes ++ p.mediaIndex :: le32Bytes p.positionMs ++
    p.state :: le32Bytes p.meshTimestamp ++ [p.volume, p.flags] ++ le16Bytes p.seq

end MediaSyncPacket

/-- `ReceiverInfo` without its constant `type`: 29 bytes on the wire. -/
structure ReceiverInfo where
  layer : CharBuf 16
  version : CharBuf 8
  mediaIndex : UInt8
  syncQuality : UInt8
  syncGaps : UInt16
deriving DecidableEq

/-- `sizeof(ReceiverInfo)`. -/
def receiverInfoSize : ℕ := 29
/-- `RECEIVER_INFO_MIN_LEN`, the offset of `syncQuality`. -/
def receiverInfoMinLen : ℕ := 26
/-- `RECEIVER_INFO_QUALITY_LEN`, the offset of `syncGaps`. -/
def receiverInfoQualityLen : ℕ := 27

namespace ReceiverInfo

def ofFrame (data : List UInt8) : ReceiverInfo where
  layer := CharBuf.ofFrame 16 data 1
  version := CharBuf.ofFrame 8 data 17
  mediaIndex := byteAt data 25
  syncQuality := byteAt data 26
  syncGaps := le16 data 27

def toFrame (r : ReceiverInfo) : List UInt8 :=
  espnowMsgReceiverInfo :: r.layer.bytes ++ r.version.bytes ++ [r.mediaIndex, r.syncQuality] ++
    le16Bytes r.syncGaps

end ReceiverInfo

/-- `MeshRelayHeader` without its constant `type`: 10 bytes on the wire. -/
structure MeshRelayHeader where
  origin : Mac
  seq : UInt16
  hop : UInt8
deriving DecidableEq

/-- `sizeof(MeshRelayHeader)`. -/
def meshRelayHeaderSize : ℕ := 10

namespace MeshRelayHeader

def ofFrame (data : List UInt8) : MeshRelayHeader where
  origin := Mac.ofFrame data 1
  seq := le16 data 7
  hop := byteAt data 9

def toFrame (h : MeshRelayHeader) : List UInt8 :=
  espnowMsgMeshRelay :: h.origin.bytes ++ le16Bytes h.seq ++ [h.hop]

end MeshRelayHeader

/-! ## The records read back what was written -/

section Readers

variable (a : UInt8) (l r : List UInt8) (i : ℕ)

@[simp] theorem byteAt_cons_zero : byteAt (a :: l) 0 = a := rfl

@[simp] theorem byteAt_cons_succ : byteAt (a :: l) (i + 1) = byteAt l i := rfl

@[simp] theorem le16_cons_succ : le16 (a :: l) (i + 1) = le16 l i := rfl

@[simp] theorem le32_cons_succ : le32 (a :: l) (i + 1) = le32 l i := rfl

variable {l i}

theorem byteAt_append_right (h : l.length ≤ i) : byteAt (l ++ r) i = byteAt r (i - l.length) := by
  simp only [byteAt, List.getD_eq_getElem?_getD, List.getElem?_append_right h]

theorem le16_append_right (h : l.length ≤ i) : le16 (l ++ r) i = le16 r (i - l.length) := by
  unfold le16
  rw [byteAt_append_right r h, byteAt_append_right r (by omega : l.length ≤ i + 1),
    show i + 1 - l.length = i - l.length + 1 by omega]

theorem le32_append_right (h : l.length ≤ i) : le32 (l ++ r) i = le32 r (i - l.length) := by
  unfold le32
  rw [byteAt_append_right r h, byteAt_append_right r (by omega : l.length ≤ i + 1),
    byteAt_append_right r (by omega : l.length ≤ i + 2),
    byteAt_append_right r (by omega : l.length ≤ i + 3),
    show i + 1 - l.length = i - l.length + 1 by omega,
    show i + 2 - l.length = i - l.length + 2 by omega,
    show i + 3 - l.length = i - l.length + 3 by omega]

@[simp] theorem le16_le16Bytes (x : UInt16) : le16 (le16Bytes x ++ r) 0 = x := by
  have hx := x.toNat_lt
  apply UInt16.toNat_inj.1
  simp only [le16, le16Bytes, List.cons_append, List.nil_append, byteAt_cons_zero, byteAt_cons_succ,
    UInt8.toNat_ofNat', UInt16.toNat_ofNat']
  omega

@[simp] theorem le32_le32Bytes (x : UInt32) : le32 (le32Bytes x ++ r) 0 = x := by
  have hx := x.toNat_lt
  apply UInt32.toNat_inj.1
  simp only [le32, le32Bytes, List.cons_append, List.nil_append, byteAt_cons_zero, byteAt_cons_succ,
    UInt8.toNat_ofNat', UInt32.toNat_ofNat']
  omega

end Readers

/-! ## Reading a frame cut short -/

section Cut

variable (data : List UInt8) {i k : ℕ}

theorem byteAt_take (h : i < k) : byteAt (data.take k) i = byteAt data i := by
  simp only [byteAt, List.getD_eq_getElem?_getD, List.getElem?_take_of_lt h]

theorem le16_take (h : i + 1 < k) : le16 (data.take k) i = le16 data i := by
  unfold le16
  rw [byteAt_take data (by omega), byteAt_take data h]

theorem le32_take (h : i + 3 < k) : le32 (data.take k) i = le32 data i := by
  unfold le32
  rw [byteAt_take data (by omega), byteAt_take data (by omega), byteAt_take data (by omega), byteAt_take data h]

theorem slice_take {n : ℕ} (h : i + n ≤ k) : slice (data.take k) i n = slice data i n := by
  unfold slice
  rw [List.drop_take, List.take_take, Nat.min_eq_left (by omega)]

theorem charBuf_take {n : ℕ} (h : i + n ≤ k) : CharBuf.ofFrame n (data.take k) i = CharBuf.ofFrame n data i := by
  unfold CharBuf.ofFrame
  rw [slice_take data h]

end Cut

theorem CharBuf.ext_bytes {n : ℕ} {a b : CharBuf n} (h : a.bytes = b.bytes) : a = b := by
  cases a; cases b; simp_all

theorem CharBuf.ofFrame_append {n : ℕ} (b : CharBuf n) (l r : List UInt8) :
    CharBuf.ofFrame n (l ++ (b.bytes ++ r)) l.length = b := by
  apply CharBuf.ext_bytes
  have hb := b.size
  have htake : b.bytes.take n = b.bytes := List.take_of_length_le hb.le
  simp [CharBuf.ofFrame, CharBuf.blit, CharBuf.zero, slice, hb, htake]

@[simp] theorem MediaSyncPacket.length_toFrame (p : MediaSyncPacket) :
    p.toFrame.length = mediaSyncSize := by
  have := p.layer.size
  simp [MediaSyncPacket.toFrame, le32Bytes, le16Bytes, mediaSyncSize, this]

/-- **A minted packet reads back as itself**, whatever follows it in the frame. -/
theorem MediaSyncPacket.ofFrame_toFrame (p : MediaSyncPacket) (rest : List UInt8) :
    MediaSyncPacket.ofFrame (p.toFrame ++ rest) = p := by
  obtain ⟨layer, idx, pos, st, ts, vol, fl, seq⟩ := p
  have hl : layer.bytes.length = 16 := layer.size
  set tail := idx :: le32Bytes pos ++ st :: le32Bytes ts ++ [vol, fl] ++ le16Bytes seq ++ rest with htail
  have hfr : (MediaSyncPacket.toFrame ⟨layer, idx, pos, st, ts, vol, fl, seq⟩ ++ rest) =
      [espnowMsgMediaSync] ++ (layer.bytes ++ tail) := by
    simp [MediaSyncPacket.toFrame, htail]
  rw [hfr]
  unfold MediaSyncPacket.ofFrame
  congr 1
  · exact CharBuf.ofFrame_append layer [espnowMsgMediaSync] tail
  -- past the layer the frame is a literal cons of the remaining fields
  all_goals rw [← List.append_assoc]
  · rw [byteAt_append_right _ (by simp [hl])]; simp [hl, htail]
  · rw [le32_append_right _ (by simp [hl])]; simp [hl, htail]
  · rw [byteAt_append_right _ (by simp [hl])]; simp [hl, htail, le32Bytes]
  · rw [le32_append_right _ (by simp [hl])]
    simpa [hl, htail, le32Bytes] using le32_le32Bytes ([vol, fl] ++ le16Bytes seq ++ rest) ts
  · rw [byteAt_append_right _ (by simp [hl])]; simp [hl, htail, le32Bytes]
  · rw [byteAt_append_right _ (by simp [hl])]; simp [hl, htail, le32Bytes]
  · rw [le16_append_right _ (by simp [hl])]
    simp [hl, htail, le32Bytes]

theorem MediaSyncPacket.ofFrame_self (p : MediaSyncPacket) : MediaSyncPacket.ofFrame p.toFrame = p := by
  have hread := p.ofFrame_toFrame []
  rwa [List.append_nil] at hread

/-- A report reads back as itself. -/
theorem ReceiverInfo.ofFrame_toFrame (r : ReceiverInfo) : ReceiverInfo.ofFrame r.toFrame = r := by
  obtain ⟨layer, version, idx, quality, gaps⟩ := r
  have hl : layer.bytes.length = 16 := layer.size
  have hv : version.bytes.length = 8 := version.size
  set tail := [idx, quality] ++ le16Bytes gaps with htail
  have hlayer : ReceiverInfo.toFrame ⟨layer, version, idx, quality, gaps⟩ =
      [espnowMsgReceiverInfo] ++ (layer.bytes ++ (version.bytes ++ tail)) := by
    simp [ReceiverInfo.toFrame, htail]
  have hversion : ReceiverInfo.toFrame ⟨layer, version, idx, quality, gaps⟩ =
      ([espnowMsgReceiverInfo] ++ layer.bytes) ++ (version.bytes ++ tail) := by
    rw [hlayer, List.append_assoc]
  have hrest : ReceiverInfo.toFrame ⟨layer, version, idx, quality, gaps⟩ =
      ([espnowMsgReceiverInfo] ++ layer.bytes ++ version.bytes) ++ tail := by
    rw [hversion, List.append_assoc, List.append_assoc, List.append_assoc]
  unfold ReceiverInfo.ofFrame
  congr 1
  · rw [hlayer]
    exact CharBuf.ofFrame_append layer [espnowMsgReceiverInfo] _
  · rw [hversion]
    have h17 : ([espnowMsgReceiverInfo] ++ layer.bytes).length = 17 := by simp [hl]
    rw [← h17]
    exact CharBuf.ofFrame_append version _ tail
  -- the trailing fields are literal bytes past the two names
  all_goals rw [hrest]
  · rw [byteAt_append_right _ (by simp [hl, hv])]; simp [hl, hv, htail]
  · rw [byteAt_append_right _ (by simp [hl, hv])]; simp [hl, hv, htail]
  · rw [le16_append_right _ (by simp [hl, hv])]
    simpa [hl, hv, htail] using le16_le16Bytes [] gaps

@[simp] theorem MeshRelayHeader.length_toFrame (h : MeshRelayHeader) :
    h.toFrame.length = meshRelayHeaderSize := rfl

/-- A relay envelope reads back as itself. -/
theorem MeshRelayHeader.ofFrame_toFrame (h : MeshRelayHeader) (rest : List UInt8) :
    MeshRelayHeader.ofFrame (h.toFrame ++ rest) = h := by
  obtain ⟨⟨b0, b1, b2, b3, b4, b5⟩, seq, hop⟩ := h
  have hseq : le16 (le16Bytes seq ++ ([hop] ++ rest)) 0 = seq := le16_le16Bytes _ _
  have hfr : (MeshRelayHeader.toFrame ⟨⟨b0, b1, b2, b3, b4, b5⟩, seq, hop⟩ ++ rest) =
      [espnowMsgMeshRelay, b0, b1, b2, b3, b4, b5] ++ (le16Bytes seq ++ ([hop] ++ rest)) := by
    simp [MeshRelayHeader.toFrame, Mac.bytes]
  rw [hfr]
  unfold MeshRelayHeader.ofFrame
  congr 1

end Nowde
