import Nowde.Spec.HostParse
import Nowde.Spec.Sysex
import Nowde.Proof.CStrings
import Nowde.Proof.ReceiverMap

/-!
# What the host reads

The host's `parse` is applied to the frames the firmware builds. Every fixed offset on one side is met
by a field of the same length on the other, so each reading is the value that was written.

* `parse_hello`, `parse_configState`, `parse_runningState`: one frame of each kind.
* `replies_decode`: all of them, and the chunks of a report put together.
-/

namespace Nowde

open Host

/-! ## Fields in a row -/

section Fields

variable {l r : List UInt8} {i n : ℕ}

theorem byteAt_append_left (h : i < l.length) : byteAt (l ++ r) i = byteAt l i := by
  simp only [byteAt, List.getD_eq_getElem?_getD, List.getElem?_append_left h]

theorem slice_left (h : l.length = n) : slice (l ++ r) 0 n = l := by
  unfold slice
  rw [List.drop_zero, List.take_left' h]

theorem slice_right (h : l.length ≤ i) : slice (l ++ r) i n = slice r (i - l.length) n := by
  unfold slice
  rw [List.drop_append, List.drop_eq_nil_of_le h, List.nil_append]

end Fields

/-! ## Numbers of seven bits -/

theorem toNat_and_0x7F (b : UInt8) : (b &&& 0x7F).toNat = b.toNat % 128 := by
  have key : ∀ b : Fin 256, (UInt8.ofNat b &&& 0x7F).toNat = (b : ℕ) % 128 := by decide +kernel
  have := key ⟨b.toNat, b.toNat_lt⟩
  simpa using this

theorem and_0x7F_of_lt {b : UInt8} (h : b < 0x80) : b &&& 0x7F = b := by
  apply UInt8.toNat_inj.1
  rw [toNat_and_0x7F]
  exact Nat.mod_eq_of_lt (UInt8.lt_iff_toNat_lt.1 h)

/-- Two 7-bit bytes read back as the number, if it has fourteen bits. -/
theorem from14_split {v : ℕ} {hi lo : UInt8} (hhi : hi.toNat % 128 = v / 128) (hlo : lo.toNat % 128 = v % 128) :
    from14 (hi &&& 0x7F) (lo &&& 0x7F) = v := by
  unfold from14
  rw [toNat_and_0x7F, toNat_and_0x7F, hhi, hlo, ← Nat.shiftLeft_add_eq_or_of_lt (by omega : v % 128 < 2 ^ 7),
    Nat.shiftLeft_eq]
  omega

/-! ## Text -/

/-- The characters of a C string. -/
def text (b : List UInt8) : List Char := (cstr b).map fun c => Char.ofNat c.toNat

/-- An ASCII string with nothing but NULs behind it. -/
def Padded (b : List UInt8) : Prop :=
  b = cstr b ++ List.replicate (b.length - (cstr b).length) 0 ∧ ∀ c ∈ cstr b, c < 0x80

instance (b : List UInt8) : Decidable (Padded b) := inferInstanceAs (Decidable (_ ∧ _))

theorem asciiText_of_lt {b : List UInt8} (h : ∀ c ∈ b, c < 0x80) :
    asciiText b = b.map fun c => Char.ofNat c.toNat := by
  unfold asciiText
  rw [List.filter_eq_self.2 fun c hc => decide_eq_true (h c hc)]

/-- Only a NUL is read as a NUL. -/
theorem ofNat_ne_nul {c : UInt8} (hlt : c < 0x80) (hne : c ≠ 0) : Char.ofNat c.toNat ≠ Char.ofNat 0 := by
  have key : ∀ c : Fin 128, (c : ℕ) ≠ 0 → Char.ofNat c ≠ Char.ofNat 0 := by decide +kernel
  apply key ⟨c.toNat, UInt8.lt_iff_toNat_lt.1 hlt⟩
  intro hzero
  exact hne (UInt8.toNat_inj.1 hzero)

theorem rstrip_replicate (t : List Char) (k : ℕ) :
    rstrip (t ++ List.replicate k (Char.ofNat 0)) = rstrip t := by
  induction k with
  | zero => rw [List.replicate_zero, List.append_nil]
  | succ k ih =>
    unfold rstrip at ih ⊢
    rw [List.replicate_succ', ← List.append_assoc, List.rdropWhile_concat_pos _ _ _ (by simp), ih]

/-- **A padded buffer is read as its string.** -/
theorem rstrip_asciiText {b : List UInt8} (h : Padded b) : rstrip (asciiText b) = text b := by
  obtain ⟨hpad, hascii⟩ := h
  have hall : ∀ c ∈ b, c < 0x80 := by
    intro c hc
    rw [hpad, List.mem_append, List.mem_replicate] at hc
    rcases hc with hc | ⟨-, rfl⟩
    · exact hascii c hc
    · decide
  have hchars : asciiText b = text b ++ List.replicate (b.length - (cstr b).length) (Char.ofNat 0) := by
    rw [asciiText_of_lt hall]
    conv_lhs => rw [hpad]
    rw [List.map_append, List.map_replicate]
    rfl
  have hlast : rstrip (text b) = text b := by
    unfold rstrip
    rw [List.rdropWhile_eq_self_iff]
    intro hne hnul
    obtain ⟨c, hc, hceq⟩ := List.mem_map.1 (List.getLast_mem hne)
    have hzero : c ≠ 0 := fun hzero => zero_notMem_cstr b (hzero ▸ hc)
    rw [← hceq] at hnul
    exact ofNat_ne_nul (hascii c hc) hzero (of_decide_eq_true hnul)
  rw [hchars, rstrip_replicate, hlast]

/-! ## A frame and its payload -/

theorem payload_frame (start end_ : UInt8) (l : List UInt8) : payload (start :: (l ++ [end_])) = l := by
  unfold payload
  rw [List.tail_cons, List.dropLast_concat]

theorem parse_command (cmd : UInt8) (d : List UInt8) :
    parse (sysexManufacturerId :: cmd :: d) = some (cmdName cmd, parsePayload cmd d) := by
  unfold parse
  rw [if_neg]
  · rfl
  · simp [sysexManufacturerId]

theorem length_encode_four {b : List UInt8} (h : b.length = 4) : (encode7bit b).length = 5 := by
  rw [length_encode7bit, h]

theorem fromU32be_u32be (v : UInt32) : fromU32be (u32be v) = v.toNat := by
  unfold fromU32be
  rw [be32_u32be]

/-! ## HELLO -/

/-- The fields of a `HELLO`, behind the command byte. -/
def helloFields (env : Env) (n : Node) : List UInt8 :=
  encode7bit ((CharBuf.zero 8).blit nowdeVersion).bytes ++ (encode7bit (u32be env.millis) ++
    [env.resetReason &&& 0x7F, n.nodeRole &&& 0x7F, n.boardId &&& 0x7F,
      nodeSyncQuality env n.nodeRole n.receiver.mediaSyncState &&& 0x7F,
      if n.lrEnabled then 1 else 0,
      UInt8.ofNat (min n.receiver.mediaSyncState.syncGaps.toNat 0x3FFF / 128) &&& 0x7F,
      UInt8.ofNat (min n.receiver.mediaSyncState.syncGaps.toNat 0x3FFF) &&& 0x7F])

/-- The `HELLO` of a node says what the node is. The reset reason, the role and the board are
numbers of seven bits. -/
structure HelloReads (env : Env) (n : Node) (info : HelloInfo) : Prop where
  version : info.version = text nowdeVersion
  uptime : info.uptimeMs = env.millis.toNat
  boot : env.resetReason < 0x80 → info.boot = bootName env.resetReason
  role : n.nodeRole < 0x80 → info.role = some (roleName n.nodeRole)
  board : n.boardId < 0x80 → info.board = some (boardName n.boardId)
  quality : info.syncQuality = some (nodeSyncQuality env n.nodeRole n.receiver.mediaSyncState).toNat
  lr : info.lr = some n.lrEnabled
  gaps : info.syncGaps = some (min n.receiver.mediaSyncState.syncGaps.toNat 0x3FFF)

section Hello

variable (env : Env) (n : Node)

/-- A node's own quality is none, coarse or locked. -/
theorem nodeSyncQuality_lt (ms : MediaSyncState) (role : UInt8) : nodeSyncQuality env role ms < 0x80 := by
  unfold nodeSyncQuality
  split_ifs <;> decide

theorem payload_hello :
    payload (helloMessage env n) = sysexManufacturerId :: sysexCmdHello :: helloFields env n := by
  unfold helloMessage helloFields
  simp only [List.cons_append, List.nil_append, ← List.append_assoc]
  rw [← List.cons_append, ← List.cons_append, payload_frame]

theorem helloReads : HelloReads env n (parseHello (helloFields env n)) := by
  have hversion : (encode7bit ((CharBuf.zero 8).blit nowdeVersion).bytes).length = 10 := by decide +kernel
  have huptime : (encode7bit (u32be env.millis)).length = 5 := length_encode_four rfl
  have hlen : (helloFields env n).length = 22 := by
    unfold helloFields
    simp [hversion, huptime]
  -- a byte behind the two encoded fields
  have hbyte : ∀ i, 15 ≤ i → byteAt (helloFields env n) i = byteAt
      [env.resetReason &&& 0x7F, n.nodeRole &&& 0x7F, n.boardId &&& 0x7F,
        nodeSyncQuality env n.nodeRole n.receiver.mediaSyncState &&& 0x7F,
        if n.lrEnabled then 1 else 0,
        UInt8.ofNat (min n.receiver.mediaSyncState.syncGaps.toNat 0x3FFF / 128) &&& 0x7F,
        UInt8.ofNat (min n.receiver.mediaSyncState.syncGaps.toNat 0x3FFF) &&& 0x7F] (i - 15) := by
    intro i hi
    unfold helloFields
    rw [byteAt_append_right _ (by omega), byteAt_append_right _ (by omega), hversion, huptime,
      show i - 10 - 5 = i - 15 by omega]
  constructor
  · unfold parseHello helloFields
    dsimp only
    rw [slice_left hversion, decode7_encode7bit]
    decide +kernel
  · unfold parseHello helloFields
    dsimp only
    rw [slice_right (by omega), hversion, slice_left huptime, decode7_encode7bit, fromU32be_u32be]
  · intro hreason
    unfold parseHello
    dsimp only
    rw [hbyte 15 (by omega)]
    exact congrArg bootName (and_0x7F_of_lt hreason)
  · intro hrole
    unfold parseHello
    dsimp only
    rw [hlen, if_pos (by omega), hbyte 16 (by omega)]
    exact congrArg (fun b => some (roleName b)) (and_0x7F_of_lt hrole)
  · intro hboard
    unfold parseHello
    dsimp only
    rw [hlen, if_pos (by omega), hbyte 17 (by omega)]
    exact congrArg (fun b => some (boardName b)) (and_0x7F_of_lt hboard)
  · unfold parseHello
    dsimp only
    rw [hlen, if_pos (by omega), hbyte 18 (by omega)]
    exact congrArg (fun b => some b.toNat) (and_0x7F_of_lt (nodeSyncQuality_lt env _ _))
  · unfold parseHello
    dsimp only
    rw [hlen, if_pos (by omega), hbyte 19 (by omega)]
    cases n.lrEnabled <;> rfl
  · unfold parseHello
    dsimp only
    rw [hlen, if_pos (by omega), hbyte 20 (by omega), hbyte 21 (by omega)]
    have hgaps : min n.receiver.mediaSyncState.syncGaps.toNat 0x3FFF < 16384 := by omega
    refine congrArg some (from14_split ?_ ?_)
    · rw [UInt8.toNat_ofNat']
      omega
    · rw [UInt8.toNat_ofNat']
      omega

theorem parse_hello :
    parse (payload (helloMessage env n)) = some ("HELLO", .hello (parseHello (helloFields env n))) := by
  have hlen : (helloFields env n).length ≥ 16 := by
    unfold helloFields
    simp [length_encode7bit, CharBuf.size]
  rw [payload_hello, parse_command]
  unfold parsePayload
  rw [if_pos ⟨rfl, hlen⟩]
  rfl

end Hello

/-! ## CONFIG_STATE -/

/-- The six bytes before the layer. -/
def configHead (n : Node) (layerLen : ℕ) : List UInt8 :=
  [(if n.rfSimulationEnabled then 1 else 0 : UInt8), (n.rfSimMaxDelayMs >>> 7).toUInt8 &&& 0x7F,
    n.rfSimMaxDelayMs.toUInt8 &&& 0x7F, n.nodeRole &&& 0x7F, n.boardId &&& 0x7F, UInt8.ofNat layerLen]

/-- The two bytes behind it. -/
def configSwitches (n : Node) : List UInt8 :=
  [(if n.receiver.mediaSyncState.stopOnLinkLost then 1 else 0 : UInt8),
    if n.receiver.originLock.valid then (if n.receiver.originLock.pinned then 2 else 1) else 0]

/-- The fields of a `CONFIG_STATE` with `layer` as its layer. -/
def configFields (n : Node) (layer : List UInt8) : List UInt8 :=
  configHead n layer.length ++ (layer ++ (configSwitches n ++ encode7bit n.receiver.originLock.mac.bytes))

/-- The lock as a host reads it: without a lock there is no origin. -/
def originReading (lock : OriginLock) : Option (List Char) :=
  if lock.valid then some (joinHex ':' lock.mac.bytes) else none

/-- The last trailer. -/
def tailReading (n : Node) : ConfigTail where
  stopOnLinkLost := n.receiver.mediaSyncState.stopOnLinkLost
  originPinned := n.receiver.originLock.valid && n.receiver.originLock.pinned
  origin := originReading n.receiver.originLock

/-- The `CONFIG_STATE` of a node says how the node is configured. -/
structure ConfigReads (n : Node) (info : ConfigInfo) : Prop where
  rfSim : info.rfSim = n.rfSimulationEnabled
  delay : info.rfSimDelayMs = n.rfSimMaxDelayMs.toNat
  trailer : ∃ t, info.trailer = some t ∧ (n.nodeRole < 0x80 → t.role = roleName n.nodeRole) ∧
    (n.boardId < 0x80 → t.board = boardName n.boardId) ∧ t.layer = text n.receiver.subscribedLayer.bytes ∧
    t.tail = some (tailReading n)

section Config

variable (n : Node)

@[simp] theorem length_configHead (k : ℕ) : (configHead n k).length = 6 := rfl

@[simp] theorem length_configSwitches : (configSwitches n).length = 2 := rfl

theorem length_encode_mac (mac : Mac) : (encode7bit mac.bytes).length = 7 := by
  rw [length_encode7bit, show mac.bytes.length = 6 from rfl]

theorem length_configFields (layer : List UInt8) : (configFields n layer).length = 6 + layer.length + 9 := by
  unfold configFields
  simp only [List.length_append, length_configHead, length_configSwitches, length_encode_mac]
  omega

theorem payload_configState (hlen : (cstr n.receiver.subscribedLayer.bytes).length ≤ 15)
    (hascii : ∀ c ∈ cstr n.receiver.subscribedLayer.bytes, c < 0x80) :
    payload (configStateMessage n) = sysexManufacturerId :: sysexCmdConfigState ::
      configFields n (cstr n.receiver.subscribedLayer.bytes) := by
  have hlayer : cstr (n.receiver.subscribedLayer.bytes.take (maxLayerLength - 1)) =
      cstr n.receiver.subscribedLayer.bytes := by
    rw [cstr_take]
    exact List.take_of_length_le hlen
  have hclear : (cstr n.receiver.subscribedLayer.bytes).map (· &&& 0x7F) = cstr n.receiver.subscribedLayer.bytes := by
    rw [List.map_congr_left fun c hc => and_0x7F_of_lt (hascii c hc), List.map_id']
  unfold configStateMessage configFields configHead configSwitches
  dsimp only
  rw [hlayer, hclear, show ∀ a b c d e f g h i (l : List UInt8), [a, b, c, d, e, f, g, h, i] ++ l =
    a :: ([b, c, d, e, f, g, h, i] ++ l) from fun _ _ _ _ _ _ _ _ _ _ => rfl]
  rw [List.cons_append, List.cons_append, List.cons_append, payload_frame]
  simp only [List.cons_append, List.nil_append, List.append_assoc]

/-- The trailer behind a layer of any length. -/
theorem parseConfigTail_fields (layer : List UInt8) :
    parseConfigTail (configFields n layer) (6 + layer.length) = some (tailReading n) := by
  have hbyte : ∀ i < 2, byteAt (configFields n layer) (6 + layer.length + i) = byteAt (configSwitches n) i := by
    intro i hi
    unfold configFields
    rw [byteAt_append_right _ (by simp; omega), byteAt_append_right _ (by simp; omega), length_configHead,
      show 6 + layer.length + i - 6 - layer.length = i by omega, byteAt_append_left hi]
  have hmac : slice (configFields n layer) (6 + layer.length + 2) 7 = encode7bit n.receiver.originLock.mac.bytes := by
    unfold configFields
    rw [slice_right (by simp; omega), slice_right (by simp; omega), slice_right (by simp; omega), length_configHead,
      length_configSwitches, show 6 + layer.length + 2 - 6 - layer.length - 2 = 0 by omega]
    have hleft := slice_left (r := []) (length_encode_mac n.receiver.originLock.mac)
    rwa [List.append_nil] at hleft
  unfold parseConfigTail
  rw [length_configFields, if_pos le_rfl, hmac, decode7_encode7bit, ← Nat.add_zero (6 + layer.length),
    hbyte 0 (by omega), Nat.add_zero, hbyte 1 (by omega)]
  unfold tailReading originReading configSwitches
  simp only [byteAt_cons_zero, byteAt_cons_succ]
  cases n.receiver.mediaSyncState.stopOnLinkLost <;> cases n.receiver.originLock.valid <;>
    cases n.receiver.originLock.pinned <;> rfl

theorem configReads (hlen : (cstr n.receiver.subscribedLayer.bytes).length ≤ 15)
    (hascii : ∀ c ∈ cstr n.receiver.subscribedLayer.bytes, c < 0x80) (hdelay : n.rfSimMaxDelayMs.toNat < 0x4000) :
    ConfigReads n (parseConfigState (configFields n (cstr n.receiver.subscribedLayer.bytes))) := by
  set layer := cstr n.receiver.subscribedLayer.bytes with hlayer
  have hbyte : ∀ i < 6, byteAt (configFields n layer) i = byteAt (configHead n layer.length) i := by
    intro i hi
    unfold configFields
    rw [byteAt_append_left hi]
  have hcount : (byteAt (configFields n layer) 5).toNat = layer.length := by
    rw [hbyte 5 (by omega)]
    show (UInt8.ofNat layer.length).toNat = layer.length
    rw [UInt8.toNat_ofNat']
    omega
  constructor
  · unfold parseConfigState
    dsimp only
    rw [hbyte 0 (by omega)]
    unfold configHead
    cases n.rfSimulationEnabled <;> rfl
  · unfold parseConfigState
    dsimp only
    rw [hbyte 1 (by omega), hbyte 2 (by omega)]
    apply from14_split
    · rw [UInt32.toNat_toUInt8, UInt32.toNat_shiftRight]
      show n.rfSimMaxDelayMs.toNat >>> 7 % 256 % 128 = _
      rw [Nat.shiftRight_eq_div_pow]
      omega
    · rw [UInt32.toNat_toUInt8]
      omega
  · have hlong : (configFields n layer).length ≥ 6 := by
      rw [length_configFields]
      omega
    unfold parseConfigState
    dsimp only
    rw [if_pos hlong]
    refine ⟨_, rfl, ?_, ?_, ?_, ?_⟩
    · intro hrole
      dsimp only
      rw [hbyte 3 (by omega)]
      exact congrArg roleName (and_0x7F_of_lt hrole)
    · intro hboard
      dsimp only
      rw [hbyte 4 (by omega)]
      exact congrArg boardName (and_0x7F_of_lt hboard)
    · dsimp only
      rw [hcount]
      unfold configFields
      rw [slice_right (by simp), length_configHead, slice_left rfl, asciiText_of_lt hascii]
      rfl
    · dsimp only
      rw [hcount, parseConfigTail_fields]

theorem parse_configState (hlen : (cstr n.receiver.subscribedLayer.bytes).length ≤ 15)
    (hascii : ∀ c ∈ cstr n.receiver.subscribedLayer.bytes, c < 0x80) :
    parse (payload (configStateMessage n)) = some ("CONFIG_STATE",
      .configState (parseConfigState (configFields n (cstr n.receiver.subscribedLayer.bytes)))) := by
  rw [payload_configState n hlen hascii, parse_command]
  unfold parsePayload
  rw [if_neg (by simp [sysexCmdConfigState]), if_pos]
  · rfl
  · refine ⟨rfl, ?_⟩
    rw [length_configFields]
    omega

end Config

/-! ## RUNNING_STATE -/

/-- An entry of the receiver table as the host reads it. -/
def receiverReading (env : Env) (e : ReceiverEntry) : ReceiverReading where
  mac := joinHex ':' e.mac.bytes
  macBytes := e.mac.bytes
  layer := text e.layer.bytes
  version := text e.version.bytes
  lastSeenMs := (env.millis - e.lastSeen).toNat
  index := e.mediaIndex.toNat
  syncQuality := e.syncQuality.toNat
  syncGaps := e.syncGaps.toNat

/-- The row of any entry: the host drops what is not ASCII, and the NULs at the end. -/
def receiverRow (env : Env) (e : ReceiverEntry) : ReceiverReading :=
  { receiverReading env e with
    layer := rstrip (asciiText e.layer.bytes)
    version := rstrip (asciiText e.version.bytes) }

/-- An entry whose layer and version are ASCII strings. -/
def Labelled (e : ReceiverEntry) : Prop := Padded e.layer.bytes ∧ Padded e.version.bytes

instance (e : ReceiverEntry) : Decidable (Labelled e) := inferInstanceAs (Decidable (_ ∧ _))

/-- The five bytes behind the uptime. -/
def runningHead (env : Env) (numActive chunkIndex chunkCount chunkReceivers : ℕ) : List UInt8 :=
  [(if env.syncState = .synced then 1 else 0 : UInt8), UInt8.ofNat numActive, UInt8.ofNat chunkIndex,
    UInt8.ofNat chunkCount, UInt8.ofNat chunkReceivers]

/-- The fields of a chunk. -/
def runningFields (env : Env) (numActive chunkIndex chunkCount : ℕ) (receivers : List ReceiverEntry) : List UInt8 :=
  encode7bit (u32be env.millis) ++ runningHead env numActive chunkIndex chunkCount receivers.length ++
    receivers.flatMap fun e => encode7bit (receiverData env e)

section Running

variable (env : Env)

theorem receiverData_eq (e : ReceiverEntry) : receiverData env e = e.mac.bytes ++ (e.layer.bytes ++
    (e.version.bytes ++ (u32be (env.millis - e.lastSeen) ++
      [1, e.mediaIndex, e.syncQuality, UInt8.ofNat (e.syncGaps.toNat / 256), UInt8.ofNat e.syncGaps.toNat]))) := by
  unfold receiverData
  simp only [List.append_assoc]

theorem length_receiverData (e : ReceiverEntry) : (receiverData env e).length = 39 := by
  have hmac : e.mac.bytes.length = 6 := rfl
  rw [receiverData_eq]
  simp only [List.length_append, hmac, e.layer.size, e.version.size, length_u32be]
  rfl

/-- The row of an ASCII entry. -/
theorem receiverRow_of_labelled {e : ReceiverEntry} (h : Labelled e) : receiverRow env e = receiverReading env e := by
  unfold receiverRow
  rw [rstrip_asciiText h.1, rstrip_asciiText h.2]
  rfl

/-- **A record of 39 bytes is read as its entry.** -/
theorem parseReceiver_receiverData (e : ReceiverEntry) : parseReceiver (receiverData env e) = receiverRow env e := by
  have hmac : e.mac.bytes.length = 6 := rfl
  have hlayer := e.layer.size
  have hversion := e.version.size
  have hage : (u32be (env.millis - e.lastSeen)).length = 4 := rfl
  have hlen := length_receiverData env e
  -- a byte behind the four fields
  have hbyte : ∀ i, 34 ≤ i → byteAt (receiverData env e) i = byteAt
      [1, e.mediaIndex, e.syncQuality, UInt8.ofNat (e.syncGaps.toNat / 256), UInt8.ofNat e.syncGaps.toNat]
        (i - 34) := by
    intro i hi
    rw [receiverData_eq, byteAt_append_right _ (by omega), byteAt_append_right _ (by omega),
      byteAt_append_right _ (by omega), byteAt_append_right _ (by omega), hmac, hlayer, hversion, hage,
      show i - 6 - 16 - 8 - 4 = i - 34 by omega]
  have hslice0 : slice (receiverData env e) 0 6 = e.mac.bytes := by
    rw [receiverData_eq]
    exact slice_left hmac
  have hslice6 : slice (receiverData env e) 6 16 = e.layer.bytes := by
    rw [receiverData_eq, slice_right (by omega), hmac]
    exact slice_left hlayer
  have hslice22 : slice (receiverData env e) 22 8 = e.version.bytes := by
    rw [receiverData_eq, slice_right (by omega), hmac, slice_right (by omega), hlayer]
    exact slice_left hversion
  have hslice30 : slice (receiverData env e) 30 4 = u32be (env.millis - e.lastSeen) := by
    rw [receiverData_eq, slice_right (by omega), hmac, slice_right (by omega), hlayer, slice_right (by omega),
      hversion]
    exact slice_left hage
  have hgaps : (UInt8.ofNat (e.syncGaps.toNat / 256)).toNat <<< 8 ||| (UInt8.ofNat e.syncGaps.toNat).toNat =
      e.syncGaps.toNat := by
    have hlt := e.syncGaps.toNat_lt
    rw [UInt8.toNat_ofNat', UInt8.toNat_ofNat',
      ← Nat.shiftLeft_add_eq_or_of_lt (by omega : e.syncGaps.toNat % 2 ^ 8 < 2 ^ 8), Nat.shiftLeft_eq]
    omega
  unfold parseReceiver receiverRow receiverReading
  rw [hslice0, hslice6, hslice22, hslice30, fromU32be_u32be, hlen, if_pos (by omega), if_pos (by omega),
    hbyte 35 (by omega), hbyte 36 (by omega), hbyte 37 (by omega), hbyte 38 (by omega)]
  congr 1

/-- **The records of a chunk are read one after the other**, whatever stands before them. -/
theorem parseReceivers_flatMap (rs : List ReceiverEntry) (l : List UInt8) :
    parseReceivers (l ++ rs.flatMap fun e => encode7bit (receiverData env e)) rs.length l.length =
      rs.map (receiverRow env) := by
  induction rs generalizing l with
  | nil => rfl
  | cons e rs ih =>
    have henc : (encode7bit (receiverData env e)).length = 45 := by
      rw [length_encode7bit, length_receiverData]
    have hrest := ih (l ++ encode7bit (receiverData env e))
    rw [List.append_assoc, List.length_append, henc] at hrest
    rw [List.flatMap_cons, List.length_cons]
    unfold parseReceivers
    rw [slice_right le_rfl, Nat.sub_self, slice_left henc, decode7_encode7bit]
    dsimp only
    rw [length_receiverData, if_neg (by omega), parseReceiver_receiverData, hrest, List.map_cons]

theorem payload_runningState (numActive chunkIndex chunkCount : ℕ) (receivers : List ReceiverEntry) :
    payload (runningStateMessage env numActive chunkIndex chunkCount receivers) =
      sysexManufacturerId :: sysexCmdRunningState :: runningFields env numActive chunkIndex chunkCount receivers := by
  unfold runningStateMessage runningFields runningHead
  rw [List.cons_append, List.cons_append, List.cons_append, List.cons_append, payload_frame]
  simp only [List.cons_append, List.nil_append]

/-- **A chunk is read as what was put in it.** -/
theorem parse_runningState (numActive chunkIndex chunkCount : ℕ) (receivers : List ReceiverEntry)
    (htotal : numActive < 256) (hindex : chunkIndex < 256) (hcount : chunkCount < 256)
    (hhere : receivers.length < 256) :
    parse (payload (runningStateMessage env numActive chunkIndex chunkCount receivers)) =
      some ("RUNNING_STATE", .runningState
        { uptimeMs := env.millis.toNat
          synced := env.syncState = .synced
          total := numActive
          chunk := chunkIndex
          chunks := chunkCount
          receivers := receivers.map (receiverRow env) }) := by
  have huptime : (encode7bit (u32be env.millis)).length = 5 := length_encode_four rfl
  have hhead : (encode7bit (u32be env.millis) ++
      runningHead env numActive chunkIndex chunkCount receivers.length).length = 10 := by
    rw [List.length_append, huptime]
    rfl
  have hbyte : ∀ i < 5, byteAt (runningFields env numActive chunkIndex chunkCount receivers) (5 + i) =
      byteAt (runningHead env numActive chunkIndex chunkCount receivers.length) i := by
    intro i hi
    unfold runningFields
    rw [byteAt_append_left (by omega), byteAt_append_right _ (by omega), huptime, Nat.add_sub_cancel_left]
  have hslice : slice (runningFields env numActive chunkIndex chunkCount receivers) 0 5 =
      encode7bit (u32be env.millis) := by
    unfold runningFields
    rw [List.append_assoc]
    exact slice_left huptime
  have hread := parseReceivers_flatMap env receivers (encode7bit (u32be env.millis) ++
    runningHead env numActive chunkIndex chunkCount receivers.length)
  rw [hhead] at hread
  have hsmall : ∀ {v : ℕ}, v < 256 → (UInt8.ofNat v).toNat = v := by
    intro v hv
    rw [UInt8.toNat_ofNat']
    omega
  rw [payload_runningState, parse_command]
  unfold parsePayload
  rw [if_neg (by simp [sysexCmdRunningState]), if_neg (by simp [sysexCmdRunningState]), if_pos]
  · unfold parseRunningState
    rw [hslice, decode7_encode7bit, fromU32be_u32be, hbyte 0 (by omega), hbyte 1 (by omega), hbyte 2 (by omega),
      hbyte 3 (by omega), hbyte 4 (by omega)]
    unfold runningHead
    simp only [byteAt_cons_zero, byteAt_cons_succ]
    rw [hsmall htotal, hsmall hindex, hsmall hcount, hsmall hhere]
    unfold runningHead at hread
    unfold runningFields runningHead
    rw [hread]
    by_cases hsync : env.syncState = .synced
    · rw [if_pos hsync]
      simp [hsync]
      rfl
    · rw [if_neg hsync]
      simp [hsync]
      rfl
  · refine ⟨rfl, ?_⟩
    unfold runningFields
    rw [List.length_append, hhead]
    omega

end Running

/-! ## A whole report -/

/-- The slots of active and connected receivers, in order. -/
def reportedSlots (t : Fin maxReceivers → ReceiverEntry) : List (Fin maxReceivers) :=
  (List.finRange maxReceivers).filter fun i => (t i).active && (t i).connected

/-- The chunks `infos` of a report: numbered in order, and together they list every active and
connected receiver once. -/
structure RunningReads (env : Env) (n : Node) (infos : List RunningInfo) : Prop where
  uptime : ∀ info ∈ infos, info.uptimeMs = env.millis.toNat
  synced : ∀ info ∈ infos, info.synced = (env.syncState = .synced : Bool)
  total : ∀ info ∈ infos, info.total = (reportedSlots n.receiverTable).length
  chunks : ∀ info ∈ infos, info.chunks = infos.length
  numbered : infos.map (·.chunk) = List.range infos.length
  receivers : infos.flatMap (·.receivers) =
    (reportedSlots n.receiverTable).map fun i => receiverReading env (n.receiverTable i)

section Report

variable (env : Env) (n : Node)

theorem connectedReceivers_eq (t : Fin maxReceivers → ReceiverEntry) :
    connectedReceivers t = (reportedSlots t).map t := by
  unfold connectedReceivers Slots.collect reportedSlots
  induction List.finRange maxReceivers with
  | nil => rfl
  | cons i is ih =>
    rw [List.filterMap_cons, List.filter_cons, ih]
    dsimp only
    by_cases h : ((t i).active && (t i).connected) = true
    · rw [if_pos h, if_pos h]
      rfl
    · rw [if_neg h, if_neg h]

/-- The readings of the chunks of a snapshot that is not empty. -/
def chunkReadings (snapshot : List ReceiverEntry) : List RunningInfo :=
  snapshot.mapIdx fun i e =>
    { uptimeMs := env.millis.toNat
      synced := env.syncState = .synced
      total := snapshot.length
      chunk := i
      chunks := snapshot.length
      receivers := [receiverRow env e] }

/-- The readings of a report: one chunk says that there is nobody. -/
def reportReadings (snapshot : List ReceiverEntry) : List RunningInfo :=
  if snapshot = [] then
    [{ uptimeMs := env.millis.toNat
       synced := env.syncState = .synced
       total := 0
       chunk := 0
       chunks := 1
       receivers := [] }]
  else chunkReadings env snapshot

theorem chunkReadings_receivers (snapshot : List ReceiverEntry) :
    (chunkReadings env snapshot).flatMap (·.receivers) = snapshot.map (receiverRow env) := by
  have hsingle : (chunkReadings env snapshot).map (·.receivers) = snapshot.map fun e => [receiverRow env e] := by
    apply List.ext_getElem
    · simp [chunkReadings]
    · intro i h₁ h₂
      simp [chunkReadings]
  rw [List.flatMap_def, hsingle, ← List.flatMap_def, ← List.map_eq_flatMap]

theorem reportReadings_receivers (snapshot : List ReceiverEntry) :
    (reportReadings env snapshot).flatMap (·.receivers) = snapshot.map (receiverRow env) := by
  unfold reportReadings
  split
  · next hempty =>
    rw [hempty]
    rfl
  · exact chunkReadings_receivers env snapshot

theorem reportReadings_synced (snapshot : List ReceiverEntry) :
    ∀ info ∈ reportReadings env snapshot, info.synced = (env.syncState = .synced : Bool) := by
  intro info hinfo
  unfold reportReadings at hinfo
  split at hinfo
  · rw [List.mem_singleton.1 hinfo]
  · obtain ⟨i, hi, rfl⟩ := List.mem_mapIdx.1 hinfo
    rfl

theorem reportReadings_ne_nil (snapshot : List ReceiverEntry) : reportReadings env snapshot ≠ [] := by
  unfold reportReadings
  split
  · simp
  · next hsome => simpa [chunkReadings] using hsome

/-- **Every report is read as the table**, chunk by chunk, when it is not throttled. -/
theorem sendRunningState_parses (hthrottle : ¬env.millis - n.runningStateSendTime < 500) :
    ∃ messages : List (List UInt8), (sendRunningState env n).2 = messages.map (fun m => .host (.runningState m)) ∧
      messages.map (fun m => parse (payload m)) =
        (reportReadings env (connectedReceivers n.receiverTable)).map fun i => some ("RUNNING_STATE", .runningState i) := by
  have hfew : (connectedReceivers n.receiverTable).length ≤ 10 := Slots.length_collect_le _ _
  unfold sendRunningState reportReadings
  rw [if_neg hthrottle]
  dsimp only
  set snapshot := connectedReceivers n.receiverTable
  by_cases hempty : snapshot = []
  · have hread := parse_runningState env 0 0 1 [] (by omega) (by omega) (by omega) (by simp)
    rw [if_pos hempty, if_pos hempty]
    exact ⟨[_], rfl, congrArg (fun r => [r]) hread⟩
  · rw [if_neg hempty, if_neg hempty]
    refine ⟨snapshot.mapIdx fun i e => runningStateMessage env snapshot.length i snapshot.length [e], ?_, ?_⟩
    · apply List.ext_getElem
      · simp
      · intro i h₁ h₂
        simp
    · apply List.ext_getElem
      · simp [chunkReadings]
      · intro i h₁ h₂
        have hi : i < snapshot.length := by simpa using h₁
        have hread := parse_runningState env snapshot.length i snapshot.length [snapshot[i]] (by omega) (by omega)
          (by omega) (by simp)
        simpa [chunkReadings] using hread

/-- A report of ASCII entries is read as the table. -/
theorem sendRunningState_reads (hthrottle : ¬env.millis - n.runningStateSendTime < 500)
    (hlabel : ∀ i, (n.receiverTable i).active = true → (n.receiverTable i).connected = true →
      Labelled (n.receiverTable i)) :
    ∃ (messages : List (List UInt8)) (infos : List RunningInfo),
      (sendRunningState env n).2 = messages.map (fun m => .host (.runningState m)) ∧
        messages.map (fun m => parse (payload m)) = infos.map (fun i => some ("RUNNING_STATE", .runningState i)) ∧
        RunningReads env n infos := by
  obtain ⟨messages, hout, hparse⟩ := sendRunningState_parses env n hthrottle
  have hrows : (connectedReceivers n.receiverTable).map (receiverRow env) =
      (reportedSlots n.receiverTable).map fun i => receiverReading env (n.receiverTable i) := by
    rw [connectedReceivers_eq, List.map_map]
    refine List.map_congr_left fun i hi => ?_
    have hshown := (List.mem_filter.1 hi).2
    rw [Bool.and_eq_true] at hshown
    exact receiverRow_of_labelled env (hlabel i hshown.1 hshown.2)
  have hcount : (reportedSlots n.receiverTable).length = (connectedReceivers n.receiverTable).length := by
    rw [connectedReceivers_eq, List.length_map]
  refine ⟨messages, _, hout, hparse, ?_⟩
  have hreceivers := (reportReadings_receivers env (connectedReceivers n.receiverTable)).trans hrows
  have hsynced := reportReadings_synced env (connectedReceivers n.receiverTable)
  unfold reportReadings at hreceivers hsynced ⊢
  set snapshot := connectedReceivers n.receiverTable
  by_cases hempty : snapshot = []
  · rw [if_pos hempty] at hreceivers hsynced ⊢
    rw [hempty] at hcount
    refine ⟨?_, hsynced, ?_, ?_, ?_, hreceivers⟩ <;> simp [hcount]
  · rw [if_neg hempty] at hreceivers hsynced ⊢
    have hmem : ∀ info ∈ chunkReadings env snapshot, info.uptimeMs = env.millis.toNat ∧
        info.total = snapshot.length ∧ info.chunks = snapshot.length := by
      intro info hinfo
      obtain ⟨i, hi, rfl⟩ := List.mem_mapIdx.1 hinfo
      exact ⟨rfl, rfl, rfl⟩
    have hlen : (chunkReadings env snapshot).length = snapshot.length := List.length_mapIdx
    refine ⟨fun info hinfo => (hmem info hinfo).1, hsynced, ?_, ?_, ?_, hreceivers⟩
    · intro info hinfo
      rw [(hmem info hinfo).2.1, hcount]
    · intro info hinfo
      rw [(hmem info hinfo).2.2, hlen]
    · apply List.ext_getElem
      · simp
      · intro i h₁ h₂
        simp [chunkReadings]

/-- All three replies of a node are read as what they were written from. -/
structure RepliesDecode (env : Env) (n : Node) : Prop where
  hello : ∃ m info, sendHello env n = [.host (.hello m)] ∧ parse (payload m) = some ("HELLO", .hello info) ∧
    HelloReads env n info
  config : ∃ m info, sendConfigState n = [.host (.sysExBytes m)] ∧
    parse (payload m) = some ("CONFIG_STATE", .configState info) ∧ ConfigReads n info
  /-- One report in 500 ms. -/
  running : ¬env.millis - n.runningStateSendTime < 500 →
    ∃ (messages : List (List UInt8)) (infos : List RunningInfo),
      (sendRunningState env n).2 = messages.map (fun m => .host (.runningState m)) ∧
        messages.map (fun m => parse (payload m)) = infos.map (fun i => some ("RUNNING_STATE", .runningState i)) ∧
        RunningReads env n infos

/-- **The host reads back what the firmware wrote.** -/
theorem replies_decode (hlen : (cstr n.receiver.subscribedLayer.bytes).length ≤ 15)
    (hascii : ∀ c ∈ cstr n.receiver.subscribedLayer.bytes, c < 0x80) (hdelay : n.rfSimMaxDelayMs.toNat < 0x4000)
    (hlabel : ∀ i, (n.receiverTable i).active = true → (n.receiverTable i).connected = true →
      Labelled (n.receiverTable i)) : RepliesDecode env n where
  hello := ⟨_, _, rfl, parse_hello env n, helloReads env n⟩
  config := ⟨_, _, rfl, parse_configState n hlen hascii, configReads n hlen hascii hdelay⟩
  running := fun hthrottle => sendRunningState_reads env n hthrottle hlabel

end Report

/-- A master that has heard one receiver. -/
def hearingMaster : Node :=
  { freshMaster with
    receiverTable := (handleReceiverInfo { millis := 1000 } freshMaster.receiverTable slaveMac (reportOf 0x33)).1 }

theorem replies_decode_hearing : RepliesDecode { millis := 2000 } hearingMaster :=
  replies_decode _ _ (by decide +kernel) (by decide +kernel) (by decide +kernel) (by decide +kernel)

/-! ## What a report writes can be read -/

/-- A terminated copy of an ASCII string is padded. -/
theorem padded_terminate {n : ℕ} {src : List UInt8} (hn : 0 < n) (h : ∀ c ∈ cstr src, c < 0x80) :
    Padded (CharBuf.strncpy n src).terminate.bytes := by
  have hstring := cstr_strncpy_terminate n src
  refine ⟨?_, ?_⟩
  · rw [hstring, (CharBuf.strncpy n src).terminate.size]
    exact bytes_strncpy_terminate hn src
  · intro c hc
    rw [hstring] at hc
    exact h c (List.mem_of_mem_take hc)

/-- **A table that a host can read stays one** when an ASCII report comes in. -/
theorem handleReceiverInfo_labelled (env : Env) {t : Fin maxReceivers → ReceiverEntry} (src : Mac)
    {data : List UInt8} (hlayer : ∀ c ∈ cstr (ReceiverInfo.ofFrame data).layer.bytes, c < 0x80)
    (hversion : ∀ c ∈ cstr (ReceiverInfo.ofFrame data).version.bytes, c < 0x80)
    (h : ∀ i, (t i).active = true → Labelled (t i)) :
    ∀ i, ((handleReceiverInfo env t src data).1 i).active = true →
      Labelled ((handleReceiverInfo env t src data).1 i) := by
  intro i hi
  by_cases hlen : data.length < receiverInfoMinLen
  · unfold handleReceiverInfo at hi ⊢
    rw [if_pos hlen] at hi ⊢
    exact h i hi
  · unfold handleReceiverInfo at hi ⊢
    rw [if_neg hlen] at hi ⊢
    dsimp only at hi ⊢
    cases hfind : Slots.find t fun e => e.active && e.mac == src with
    | some j =>
      have hactive := Slots.find_eq_some hfind
      rw [Bool.and_eq_true] at hactive
      simp only [hfind, Function.update_apply] at hi ⊢
      split_ifs with hij
      · -- a known receiver: its layer is kept or copied
        obtain ⟨hold, hversions⟩ := h j hactive.1
        refine ⟨?_, hversions⟩
        unfold refreshReceiver
        dsimp only
        split_ifs
        · exact hold
        · exact padded_terminate (by omega) hlayer
      · rw [if_neg hij] at hi
        exact h i hi
    | none =>
      cases hfree : Slots.find t fun e => !e.active with
      | some j =>
        simp only [hfind, hfree, Function.update_apply] at hi ⊢
        split_ifs with hij
        · exact ⟨padded_terminate (by omega) hlayer, padded_terminate (by omega) hversion⟩
        · rw [if_neg hij] at hi
          exact h i hi
      | none =>
        simp only [hfind, hfree] at hi ⊢
        exact h i hi

end Nowde
