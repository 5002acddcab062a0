import Nowde.Proof.LayerChange
import Nowde.Proof.Replies

/-!
# From the host to a slave

A `MEDIA_SYNC` crosses three encodings: the host's frame, the dispatcher's offsets and the packed
struct. The layer is cut to sixteen characters by the host, to fifteen by the master, and to fifteen
by whoever stores it on a slave.

* `mintPacket_mediaSync`: what the master mints from the host's frame.
* `setLocalLayer_stored`: what a slave stores.
* `mediaSync_survives`: the whole path.
-/

namespace Nowde

/-- The frame of `media_sync`. -/
def mediaSyncFrame (name : List Char) (index : ℕ) (position : UInt32) (playing : Bool) : List UInt8 :=
  Host.send (Host.mediaSync name index position.toNat playing)

/-- The frame of `set_local_layer`. -/
def localLayerFrame (name : List Char) : List UInt8 := Host.send (Host.setLocalLayer name)

/-- The packet carries what the host asked for. -/
structure AsAsked (name : List Char) (index : ℕ) (position : UInt32) (playing : Bool) (p : MediaSyncPacket) :
    Prop where
  /-- The name cut to fifteen bytes and padded with NULs. -/
  layer : p.layer.bytes = (name.map Host.ascii).take 15 ++
    List.replicate (16 - ((name.map Host.ascii).take 15).length) 0
  index : p.mediaIndex.toNat = index
  position : p.positionMs = position
  state : p.state = if playing then 1 else 0

/-- The node's layer is what `SET_LOCAL_LAYER` stores for the name, on whatever node. -/
def SetTo (name : List Char) (m : Node) : Prop :=
  ∃ lib env n, m.receiver.subscribedLayer = (handleSysExMessage lib env n (localLayerFrame name)
    (UInt8.ofNat (localLayerFrame name).length)).1.receiver.subscribedLayer

/-- The node's layer is the wildcard. -/
def Wild (m : Node) : Prop := cstr m.receiver.subscribedLayer.bytes = [0x2A]

/-! ## The host's frames -/

section Frames

variable {name : List Char} {index : ℕ} {position : UInt32} {playing : Bool}

/-- The payload of the host's frame, behind the command byte. -/
def mediaSyncPayload (name : List Char) (index : ℕ) (position : UInt32) (playing : Bool) : List UInt8 :=
  Host.layer16 name ++ (UInt8.ofNat (max 0 (min 127 (index : ℤ))).toNat ::
    (encode7bit (u32be position) ++ [if playing then 1 else 0]))

theorem mediaSyncFrame_eq : mediaSyncFrame name index position playing =
    commandFrame .mediaSync (mediaSyncPayload name index position playing) := by
  have hposition : UInt32.ofNat (max 0 (position.toNat : ℤ)).toNat = position := by
    rw [max_eq_right (Int.natCast_nonneg _), Int.toNat_natCast, UInt32.ofNat_toNat]
  unfold mediaSyncFrame Host.mediaSync commandFrame mediaSyncPayload
  rw [encode7_eq, hposition]
  simp only [List.append_assoc, List.cons_append, List.nil_append]
  rfl

theorem length_mediaSyncPayload : (mediaSyncPayload name index position playing).length = 23 := by
  unfold mediaSyncPayload
  rw [List.length_append, length_layer16, List.length_cons, List.length_append, length_encode_four rfl]
  rfl

theorem localLayerFrame_eq : localLayerFrame name =
    commandFrame .setLocalLayer ((name.map Host.ascii).take 15) := by
  unfold localLayerFrame Host.setLocalLayer commandFrame
  rw [List.map_take]
  rfl

/-- The dispatcher runs a frame that fits its length byte. -/
theorem handle_commandFrame (lib : UpdateLib) (env : Env) (n : Node) {c : Command} {payload : List UInt8}
    (h : payload.length + 4 < 256) :
    handleSysExMessage lib env n (commandFrame c payload) (UInt8.ofNat (commandFrame c payload).length) =
      execute lib env n c (commandFrame c payload) (payload.length + 4) := by
  have hlen : (UInt8.ofNat (commandFrame c payload).length).toNat = payload.length + 4 := by
    rw [length_commandFrame, UInt8.toNat_ofNat']
    omega
  rw [handleSysExMessage_of_command lib env n (by rw [hlen]; exact sysexCommand_commandFrame), hlen]

end Frames

/-! ## The master -/

section Master

variable (env : Env) (mediaSyncSeq : UInt16) {name : List Char} {index : ℕ} {position : UInt32} {playing : Bool}

/-- A byte of the payload, where the dispatcher looks for it. -/
theorem byteAt_commandFrame {c : Command} {payload : List UInt8} {i : ℕ} (h : i < payload.length) :
    byteAt (commandFrame c payload) (i + 3) = byteAt payload i := by
  rw [commandFrame_eq]
  show byteAt (payload ++ [sysexEnd]) i = _
  rw [byteAt_append_left h]

theorem slice_commandFrame_of_le {c : Command} {payload : List UInt8} {i n : ℕ} (h : i + n ≤ payload.length) :
    slice (commandFrame c payload) (i + 3) n = slice payload i n := by
  rw [commandFrame_eq]
  unfold slice
  show ((payload ++ [sysexEnd]).drop i).take n = _
  rw [List.drop_append_of_le_length (by omega), List.take_append_of_le_length (by rw [List.length_drop]; omega)]

/-- **The master mints what the host asked for.** -/
theorem mintPacket_mediaSync (hnul : Char.ofNat 0 ∉ name) (hindex : index ≤ 127) :
    AsAsked name index position playing
      (mintPacket env mediaSyncSeq (mediaSyncFrame name index position playing) 27) := by
  have hlen := @length_mediaSyncPayload name index position playing
  have hlayer16 := @length_layer16 name
  have henc : (encode7bit (u32be position)).length = 5 := length_encode_four rfl
  -- the position is one byte of top bits and four of low bits
  obtain ⟨msb, rest, hsplit⟩ := List.exists_cons_of_length_eq_add_one henc
  have hrest : rest.length = 4 := by
    rw [hsplit, List.length_cons] at henc
    omega
  have hbehind : ∀ i, 16 ≤ i → byteAt (mediaSyncPayload name index position playing) i =
      byteAt (UInt8.ofNat (max 0 (min 127 (index : ℤ))).toNat ::
        (encode7bit (u32be position) ++ [if playing then 1 else 0])) (i - 16) := by
    intro i hi
    unfold mediaSyncPayload
    rw [byteAt_append_right _ (by omega), hlayer16]
  have hposition : restoreMsbs msb 0 rest = u32be position := by
    have hdecode := decode7bit_encode7bit (u32be position)
    rw [hsplit, decode7bit_cons, List.take_of_length_le (by omega), List.drop_eq_nil_of_le (by omega),
      decode7bit_nil, List.append_nil] at hdecode
    exact hdecode
  rw [mediaSyncFrame_eq]
  constructor
  · have hslice : slice (commandFrame .mediaSync (mediaSyncPayload name index position playing)) 3 16 =
        Host.layer16 name := by
      rw [show 3 = 0 + 3 by rfl, slice_commandFrame_of_le (by omega)]
      exact slice_left hlayer16
    -- no character but NUL is sent as a zero byte, so the C string is the whole name
    have hname : (cstr (name.map Host.ascii)).take 15 = (name.map Host.ascii).take 15 :=
      (cstr_name_iff name).2 fun hmem => hnul (List.mem_of_mem_take hmem)
    have hcut : cstr (CharBuf.ofFrame 16 (commandFrame .mediaSync
        (mediaSyncPayload name index position playing)) 3).terminate.bytes = (name.map Host.ascii).take 15 := by
      unfold CharBuf.ofFrame
      rw [hslice, cstr_newLayer, hname]
    unfold mintPacket
    dsimp only
    rw [bytes_strncpy_terminate (by omega), hcut, List.take_of_length_le (List.length_take_le _ _)]
  · unfold mintPacket
    dsimp only
    rw [show 19 = 16 + 3 by rfl, byteAt_commandFrame (by omega), hbehind 16 le_rfl]
    show (UInt8.ofNat (max 0 (min 127 (index : ℤ))).toNat).toNat = index
    rw [UInt8.toNat_ofNat']
    omega
  · have hmsb : byteAt (commandFrame .mediaSync (mediaSyncPayload name index position playing)) 20 = msb := by
      rw [show 20 = 17 + 3 by rfl, byteAt_commandFrame (by omega), hbehind 17 (by omega), hsplit]
      rfl
    have hlow : slice (commandFrame .mediaSync (mediaSyncPayload name index position playing)) 21 4 = rest := by
      rw [show 21 = 18 + 3 by rfl, slice_commandFrame_of_le (by omega)]
      unfold mediaSyncPayload
      rw [slice_right (by omega), hlayer16, hsplit]
      exact slice_left hrest
    unfold mintPacket
    dsimp only
    rw [hmsb, hlow, hposition, be32_u32be]
  · unfold mintPacket
    dsimp only
    rw [show 25 = 22 + 3 by rfl, byteAt_commandFrame (by omega), hbehind 22 (by omega),
      show 22 - 16 = 5 + 1 by rfl, byteAt_cons_succ, byteAt_append_right _ henc.le, henc]
    rfl

end Master

/-! ## The slave -/

section Slave

variable {name : List Char} {index : ℕ} {position : UInt32} {playing : Bool} {p : MediaSyncPacket} {m : Node}

/-- A name without a NUL is what its bytes spell. -/
theorem zero_notMem_ascii (hnul : Char.ofNat 0 ∉ name) : (0 : UInt8) ∉ (name.map Host.ascii).take 15 := by
  rw [← (cstr_name_iff name).2 fun hmem => hnul (List.mem_of_mem_take hmem)]
  exact zero_notMem_take_cstr _ _

/-- **A slave stores the name cut to fifteen bytes.** -/
theorem setLocalLayer_stored (hne : name ≠ []) (hnul : Char.ofNat 0 ∉ name) (h : SetTo name m) :
    cstr m.receiver.subscribedLayer.bytes = (name.map Host.ascii).take 15 := by
  obtain ⟨lib, env, n, hset⟩ := h
  have hlen : ((name.map Host.ascii).take 15).length ≤ 15 := List.length_take_le _ _
  have hpos : 0 < ((name.map Host.ascii).take 15).length := by
    have hname : 0 < name.length := List.length_pos_iff.2 hne
    rw [List.length_take, List.length_map]
    omega
  rw [hset, localLayerFrame_eq, handle_commandFrame lib env n (by omega)]
  show cstr (setLocalLayer env n _ _).1.receiver.subscribedLayer.bytes = _
  unfold setLocalLayer
  rw [if_pos (by omega)]
  exact cstr_changeSubscribedLayer .setLocalLayer hlen (zero_notMem_ascii hnul)

theorem AsAsked.cstr_layer (h : AsAsked name index position playing p) (hnul : Char.ofNat 0 ∉ name) :
    cstr p.layer.bytes = (name.map Host.ascii).take 15 := by
  rw [h.layer, cstr_append_zeros, cstr_of_notMem (zero_notMem_ascii hnul)]

/-- The filter passes the wildcard and the same string. -/
theorem layerMatches_iff : layerMatches m.receiver.subscribedLayer.bytes p.layer.bytes = true ↔
    Wild m ∨ cstr m.receiver.subscribedLayer.bytes = cstr p.layer.bytes := by
  have hmine : (cstr m.receiver.subscribedLayer.bytes).length ≤ 16 :=
    (cstr_length_le _).trans_eq m.receiver.subscribedLayer.size
  have htheirs : (cstr p.layer.bytes).length ≤ 16 := (cstr_length_le _).trans_eq p.layer.size
  unfold layerMatches Wild
  rw [Bool.or_eq_true, strncmpEq_iff, strncmpEq_iff]
  unfold maxLayerLength
  rw [List.take_of_length_le hmine, List.take_of_length_le htheirs]
  exact Iff.rfl

/-- **A slave without a lock follows what it is subscribed to**: index, state, and the position when
its mesh clock reads the stamp. -/
structure Adopts (lib : UpdateLib) (env : Env) (m : Node) (origin : Mac) (p : MediaSyncPacket)
    (via : Option (Mac × UInt8)) : Prop where
  index : (onDataRecv lib env m (wire origin p via).1 (wire origin p via).2).1.receiver.mediaSyncState.currentIndex =
    p.mediaIndex
  state : (onDataRecv lib env m (wire origin p via).1 (wire origin p via).2).1.receiver.mediaSyncState.currentState =
    p.state
  position : meshMillisStable env.meshMillis = p.meshTimestamp →
    (onDataRecv lib env m (wire origin p via).1 (wire origin p via).2).1.receiver.mediaSyncState.currentPositionMs =
      p.positionMs

/-- A packet of no age is taken as it is. -/
theorem compensatedPositionMs_of_eq {env : Env} (h : meshMillisStable env.meshMillis = p.meshTimestamp) :
    compensatedPositionMs env p = p.positionMs := by
  have hage : timeDelta env p = 0 := by
    unfold timeDelta
    rw [h, UInt32.sub_self]
    rfl
  unfold compensatedPositionMs
  rw [hage, if_neg]
  intro hpos
  exact absurd hpos.2.2 (by decide)

theorem adopts (lib : UpdateLib) (env : Env) (origin : Mac) (via : Option (Mac × UInt8)) (hfollows : m.follows)
    (hlock : m.receiver.originLock.valid = false)
    (hlayer : layerMatches m.receiver.subscribedLayer.bytes p.layer.bytes = true) :
    Adopts lib env m origin p via := by
  have hof := p.ofFrame_self
  have hacc : Accepts env m.receiver origin p.toFrame := by
    refine ⟨?_, ?_, Or.inl hlock⟩
    · rw [p.length_toFrame]
      decide
    · rwa [hof]
  have hreceiver := onDataRecv_wire_receiver lib env m origin p via hfollows
  rw [processMediaSyncPacket_of_accepts hacc, hof] at hreceiver
  dsimp only at hreceiver
  obtain ⟨i, t, v, w, u, hf⟩ := followPacket_eq env (decide (p.toFrame.length ≥ mediaSyncVolumeLen)) p
    (countGap p.toFrame.length p (originAccepts env.millis m.receiver origin).1.mediaSyncState)
  rw [hf] at hreceiver
  constructor
  · rw [hreceiver]
    rfl
  · rw [hreceiver]
    rfl
  · intro hclock
    rw [hreceiver]
    exact compensatedPositionMs_of_eq hclock

/-- A slave on another layer keeps its receiver, and sends nothing. -/
theorem unaffected (lib : UpdateLib) (env : Env) (origin : Mac) (via : Option (Mac × UInt8)) (hfollows : m.follows)
    (hlayer : ¬layerMatches m.receiver.subscribedLayer.bytes p.layer.bytes = true) :
    (onDataRecv lib env m (wire origin p via).1 (wire origin p via).2).1.receiver = m.receiver ∧
      (onDataRecv lib env m (wire origin p via).1 (wire origin p via).2).2 = [] := by
  have hof := p.ofFrame_self
  have hrej : processMediaSyncPacket env m.receiver origin p.toFrame = (m.receiver, []) := by
    apply processMediaSyncPacket_of_layer
    rw [hof]
    exact hlayer
  rw [onDataRecv_wire, receiveMedia_of_follows hfollows, hrej]
  exact ⟨rfl, rfl⟩

end Slave

/-! ## The whole path -/

/-- What a media frame does on its way from a master's host to any slave. -/
structure Survives (lib : UpdateLib) (env : Env) (n : Node) (name : List Char) (index : ℕ) (position : UInt32)
    (playing : Bool) (p : MediaSyncPacket) : Prop where
  /-- One broadcast packet. -/
  sent : (handleSysExMessage lib env n (mediaSyncFrame name index position playing)
    (UInt8.ofNat (mediaSyncFrame name index position playing).length)).2 = [.espNowSend Mac.broadcast p.toFrame]
  asked : AsAsked name index position playing p
  /-- Every slave without a lock that is subscribed to the name or to all adopts it. -/
  adopted : ∀ lib' env' m origin via, m.follows → m.receiver.originLock.valid = false → SetTo name m ∨ Wild m →
    Adopts lib' env' m origin p via
  /-- Every slave whose name differs in the first fifteen characters is left alone. -/
  others : ∀ lib' env' m origin via, m.follows → ¬Wild m →
    (cstr m.receiver.subscribedLayer.bytes).take 15 ≠ (name.map Host.ascii).take 15 →
      (onDataRecv lib' env' m (wire origin p via).1 (wire origin p via).2).1.receiver = m.receiver ∧
        (onDataRecv lib' env' m (wire origin p via).1 (wire origin p via).2).2 = []

/-- **What the host asked for is what the slaves adopt.** -/
theorem mediaSync_survives (lib : UpdateLib) (env : Env) {n : Node} {name : List Char} (hne : name ≠ [])
    (hnul : Char.ofNat 0 ∉ name) {index : ℕ} (hindex : index ≤ 127) (position : UInt32) (playing : Bool)
    (hsender : n.senderModeEnabled = true) (hrf : n.rfSimulationEnabled = false) :
    ∃ p, Survives lib env n name index position playing p := by
  have hminted := @mintPacket_mediaSync env n.mediaSyncSeq name index position playing hnul hindex
  have hlayer := hminted.cstr_layer hnul
  refine ⟨_, ?_, hminted, ?_, ?_⟩
  · have hlen := @length_mediaSyncPayload name index position playing
    rw [mediaSyncFrame_eq, handle_commandFrame lib env n (by omega), hlen]
    show (mediaSync env n _ 27).2 = _
    unfold mediaSync
    rw [if_pos ⟨hsender, by decide⟩]
    dsimp only
    rw [if_pos (by simp [hrf])]
  · intro lib' env' m origin via hfollows hlock hsub
    apply adopts lib' env' origin via hfollows hlock
    rw [layerMatches_iff, hlayer]
    rcases hsub with hset | hwild
    · exact Or.inr (setLocalLayer_stored hne hnul hset)
    · exact Or.inl hwild
  · intro lib' env' m origin via hfollows hwild hdiff
    apply unaffected lib' env' origin via hfollows
    rw [layerMatches_iff, hlayer]
    rintro (h | h)
    · exact hwild h
    · apply hdiff
      rw [h, List.take_take, Nat.min_self]

/-- A position with its top bit set. -/
theorem mediaSync_survives_stage : ∃ p, Survives noUpdate { millis := 1000 } hearingMaster
    ['s', 't', 'a', 'g', 'e'] 7 0xDEADBEEF true p :=
  mediaSync_survives noUpdate { millis := 1000 } (by decide) (by decide) (by decide) 0xDEADBEEF true
    (by decide +kernel) (by decide +kernel)

end Nowde
