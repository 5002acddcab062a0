import Nowde.Spec.Node
import Nowde.Lib.Run

/-!
# What one packet does on the receive path

* `originAccepts_cases`: the four outcomes of the origin lock.
* `processMediaSyncPacket_of_accepts`, `_of_not_accepts`: a packet is followed, or nothing changes.
* `followPacket_eq`: after the delivery counter, a packet writes the followed state and the
  send memories (CC#100 and CC#7), and nothing else.
* `onDataRecv_media`: a radio frame that carries a packet does to the receiver what its packet does.
* `onDataRecv_cases`: the kinds of radio frames.
* `onDataRecv_wire`: a direct and a relayed copy of a minted packet reach the receive path alike.
-/

namespace Nowde

/-! ## The origin lock -/

section OriginLock

variable {now : UInt32} {r : Receiver} {origin : Mac}

theorem originAccepts_self (hv : r.originLock.valid = true) (hm : r.originLock.mac = origin) :
    originAccepts now r origin = ({ r with originLock := { r.originLock with lastHeard := now } }, true) := by
  unfold originAccepts
  rw [if_neg (by simp [hv]), if_pos hm]

/-- The lock may let an origin through: it holds nobody, or this one, or one that is neither
pinned nor heard within the release time. -/
def MayFollow (now : UInt32) (l : OriginLock) (origin : Mac) : Prop :=
  l.valid = false ∨ l.mac = origin ∨ (l.pinned = false ∧ now - l.lastHeard > originLockReleaseMs)

theorem originAccepts_iff : (originAccepts now r origin).2 = true ↔ MayFollow now r.originLock origin := by
  unfold originAccepts MayFollow
  by_cases hv : r.originLock.valid = true
  · by_cases hm : r.originLock.mac = origin
    · simp [hv, hm]
    · by_cases hp : r.originLock.pinned = false ∧ now - r.originLock.lastHeard > originLockReleaseMs
      · simp [hv, hm, hp]
      · simp only [hv, hm, not_true_eq_false, if_false, Bool.not_eq_true, hp, false_or]
        simp
  · simp [hv]

/-- **After an accepted origin** the lock holds it, heard just now; the pin is as before, and a
held lock that moved was not pinned. The followed state keeps all but `haveSeq`. -/
theorem originAccepts_spec (h : (originAccepts now r origin).2 = true) :
    let r' := (originAccepts now r origin).1
    r'.originLock.valid = true ∧ r'.originLock.mac = origin ∧ r'.originLock.lastHeard = now ∧
      r'.originLock.pinned = r.originLock.pinned ∧ r'.subscribedLayer = r.subscribedLayer ∧
      (r'.mediaSyncState = r.mediaSyncState ∧ r.originLock.valid = true ∧ r.originLock.mac = origin ∨
        r'.mediaSyncState = { r.mediaSyncState with haveSeq := false }) := by
  unfold originAccepts at h ⊢
  by_cases hv : r.originLock.valid = true
  · by_cases hm : r.originLock.mac = origin
    · simp [hv, hm]
    · by_cases hp : r.originLock.pinned = false ∧ now - r.originLock.lastHeard > originLockReleaseMs
      · simp [hv, hm, hp]
      · simp [hv, hm, hp] at h
  · simp [hv]

end OriginLock

/-! ## The followed state -/

section Follow

variable (env : Env) (hasVolume : Bool) (p : MediaSyncPacket) (ms : MediaSyncState)

theorem sendIndexChange_eq : ∃ i t, (sendIndexChange env p ms).1 =
    { ms with lastSentIndex := i, lastCC100SendTime := t } := by
  unfold sendIndexChange
  by_cases h : ms.lastSentIndex ≠ p.mediaIndex ∧ p.mediaIndex ≠ 0
  · rw [if_pos h]; exact ⟨_, _, rfl⟩
  · rw [if_neg h]; exact ⟨ms.lastSentIndex, ms.lastCC100SendTime, rfl⟩

theorem sendVolume_eq : ∃ v w t, (sendVolume env hasVolume p ms).1 =
    { ms with currentVolume := v, lastSentVolume := w, lastCC7SendTime := t } := by
  unfold sendVolume
  by_cases hv : hasVolume ∧ p.flags &&& mediasyncFlagVolume ≠ 0
  · rw [if_pos hv]
    generalize (if p.volume > 100 then 100 else p.volume) = v
    dsimp only
    split
    · exact ⟨_, _, _, rfl⟩
    · split
      · exact ⟨_, ms.lastSentVolume, _, rfl⟩
      · exact ⟨_, ms.lastSentVolume, ms.lastCC7SendTime, rfl⟩
  · rw [if_neg hv]
    exact ⟨ms.currentVolume, ms.lastSentVolume, ms.lastCC7SendTime, rfl⟩

theorem sendTransition_eq (a b : Bool) : ∃ i t, (sendTransition env p a b ms).1 =
    { ms with lastSentIndex := i, lastCC100SendTime := t } := by
  unfold sendTransition
  split
  · exact ⟨ms.lastSentIndex, ms.lastCC100SendTime, rfl⟩
  · split
    · exact ⟨_, _, rfl⟩
    · split
      · exact ⟨ms.lastSentIndex, _, rfl⟩
      · exact ⟨ms.lastSentIndex, ms.lastCC100SendTime, rfl⟩

/-- **Following a packet** writes the fields of `updateSyncState` and the send memories. -/
theorem followPacket_eq : ∃ i t v w u, (followPacket env hasVolume p ms).1 =
    { updateSyncState env p ms with
      lastSentIndex := i, lastCC100SendTime := t
      currentVolume := v, lastSentVolume := w, lastCC7SendTime := u } := by
  obtain ⟨i₁, t₁, h₁⟩ := sendIndexChange_eq env p (updateSyncState env p ms)
  obtain ⟨v, w, u, h₂⟩ := sendVolume_eq env hasVolume p (sendIndexChange env p (updateSyncState env p ms)).1
  obtain ⟨i, t, h₃⟩ := sendTransition_eq env p
    (sendVolume env hasVolume p (sendIndexChange env p (updateSyncState env p ms)).1).1
    (ms.currentState = 0 ∧ p.state = 1 : Bool)
    ((ms.currentState = 1 ∧ p.state = 0 : Bool) || (ms.lastSentIndex = 255 ∧ p.state = 0 ∧ p.mediaIndex = 0 : Bool))
  refine ⟨i, t, v, w, u, ?_⟩
  unfold followPacket
  rw [h₃, h₂, h₁]

theorem countGap_eq (len : ℕ) : ∃ g s b, countGap len p ms =
    { ms with syncGaps := g, lastSeq := s, haveSeq := b } := by
  unfold countGap
  split
  · exact ⟨ms.syncGaps, ms.lastSeq, ms.haveSeq, rfl⟩
  · exact ⟨_, _, _, rfl⟩

end Follow

/-! ## One packet -/

section Packet

variable {env : Env} {r : Receiver} {origin : Mac} {data : List UInt8}

/-- The packet passes the length test, the layer filter and the origin lock. -/
def Accepts (env : Env) (r : Receiver) (origin : Mac) (data : List UInt8) : Prop :=
  mediaSyncMinLen ≤ data.length ∧
    layerMatches r.subscribedLayer.bytes (MediaSyncPacket.ofFrame data).layer.bytes = true ∧
    MayFollow env.millis r.originLock origin

theorem processMediaSyncPacket_of_accepts (h : Accepts env r origin data) :
    processMediaSyncPacket env r origin data =
      let r₁ := (originAccepts env.millis r origin).1
      let p := MediaSyncPacket.ofFrame data
      let f := followPacket env (data.length ≥ mediaSyncVolumeLen) p (countGap data.length p r₁.mediaSyncState)
      ({ r₁ with mediaSyncState := f.1 }, f.2) := by
  obtain ⟨hlen, hlayer, hlock⟩ := h
  have ha := originAccepts_iff.2 hlock
  unfold processMediaSyncPacket
  rw [if_neg (by omega)]
  simp only [hlayer, ha, not_true_eq_false, if_false]

theorem processMediaSyncPacket_of_not_accepts (h : ¬Accepts env r origin data) :
    processMediaSyncPacket env r origin data = (r, []) := by
  unfold processMediaSyncPacket
  by_cases hlen : data.length < mediaSyncMinLen
  · rw [if_pos hlen]
  · rw [if_neg hlen]
    by_cases hlayer : layerMatches r.subscribedLayer.bytes (MediaSyncPacket.ofFrame data).layer.bytes = true
    · have hlock : (originAccepts env.millis r origin).2 = false := by
        by_contra ha
        exact h ⟨by omega, hlayer, originAccepts_iff.1 (by simpa using ha)⟩
      simp only [hlayer, hlock, not_true_eq_false, if_false, Bool.false_eq_true, not_false_eq_true, if_true]
    · simp only [hlayer, Bool.false_eq_true, not_false_eq_true, if_true]

/-- A packet for another layer is dropped. -/
theorem processMediaSyncPacket_of_layer
    (h : ¬layerMatches r.subscribedLayer.bytes (MediaSyncPacket.ofFrame data).layer.bytes = true) :
    processMediaSyncPacket env r origin data = (r, []) :=
  processMediaSyncPacket_of_not_accepts fun hacc => h hacc.2.1

end Packet

/-! ## Which frames carry a packet -/

/-- The origin and the packet bytes of a `0x03` or `0x05` frame. -/
def mediaFrame (src : Mac) (data : List UInt8) : Option (Mac × List UInt8) :=
  if byteAt data 0 = espnowMsgMediaSync ∧ data.length ≥ 1 then
    if isMeshClockPacket data then none else some (src, data)
  else if byteAt data 0 = espnowMsgMeshRelay ∧ data.length ≥ meshRelayHeaderSize + mediaSyncMinLen then
    some ((MeshRelayHeader.ofFrame data).origin, data.drop meshRelayHeaderSize)
  else none

/-- **What a media frame does** to everything but the relay is `receiveMedia`. -/
theorem onDataRecv_media (lib : UpdateLib) (env : Env) (n : Node) {src origin : Mac}
    {data inner : List UInt8} (h : mediaFrame src data = some (origin, inner)) :
    ∃ relay, onDataRecv lib env n src data =
      ({ (receiveMedia env n origin inner).1 with relay := relay }, (receiveMedia env n origin inner).2) := by
  unfold mediaFrame at h
  unfold onDataRecv
  split at h
  · next h3 =>
    obtain ⟨htype, hlen⟩ := h3
    by_cases hclock : isMeshClockPacket data = true
    · rw [if_pos hclock] at h; cases h
    · rw [if_neg hclock] at h
      cases h
      rw [if_neg (by omega), if_neg hclock]
      simp only [htype]
      rw [if_neg (by decide), if_neg (by decide), if_neg (by decide), if_pos trivial]
      unfold onMediaSync
      dsimp only
      split
      · exact ⟨_, rfl⟩
      · exact ⟨(receiveMedia env n src data).1.relay, rfl⟩
  · split at h
    · next h5 =>
      obtain ⟨htype, hlen⟩ := h5
      cases h
      have h37 : 37 ≤ data.length := hlen
      have hclock : isMeshClockPacket data = false := by
        simp only [isMeshClockPacket, decide_eq_false_iff_not, not_and]
        omega
      rw [if_neg (by omega), if_neg (by simp [hclock])]
      simp only [htype]
      rw [if_neg (by decide), if_neg (by decide), if_neg (by decide), if_neg (by decide), if_pos trivial]
      unfold onMeshRelay
      rw [if_neg (by omega)]
      exact ⟨_, rfl⟩
    · cases h

/-! ## Which frames are accepted -/

/-- The receiver half of the gate in `onDataRecv`. -/
def Node.follows (n : Node) : Prop := n.receiverModeEnabled = true ∧ n.senderModeEnabled = false

instance (n : Node) : Decidable n.follows := inferInstanceAs (Decidable (_ ∧ _))

instance (now : UInt32) (l : OriginLock) (origin : Mac) : Decidable (MayFollow now l origin) :=
  inferInstanceAs (Decidable (_ ∨ _ ∨ _))

instance (env : Env) (r : Receiver) (origin : Mac) (data : List UInt8) : Decidable (Accepts env r origin data) :=
  inferInstanceAs (Decidable (_ ∧ _ ∧ _))

theorem receiveMedia_of_follows {env : Env} {n : Node} {origin : Mac} {data : List UInt8} (h : n.follows) :
    receiveMedia env n origin data =
      ({ n with receiver := (processMediaSyncPacket env n.receiver origin data).1 },
        (processMediaSyncPacket env n.receiver origin data).2.map .host) := by
  unfold receiveMedia
  rw [if_pos ⟨h.1, by simp [h.2]⟩]

theorem receiveMedia_of_not_follows {env : Env} {n : Node} {origin : Mac} {data : List UInt8} (h : ¬n.follows) :
    receiveMedia env n origin data = (n, []) := by
  unfold receiveMedia
  rw [if_neg]
  intro hc
  exact h ⟨hc.1, by simpa using hc.2⟩

/-- The origin and packet bytes a node accepts from a radio frame, if it accepts any. -/
def acceptedFrame (n : Node) (env : Env) (src : Mac) (data : List UInt8) : Option (Mac × List UInt8) :=
  (mediaFrame src data).filter fun f => n.follows ∧ Accepts env n.receiver f.1 f.2

section AcceptedFrame

variable {n : Node} {env : Env} {src : Mac} {data : List UInt8}

theorem acceptedFrame_eq_some {f : Mac × List UInt8} : acceptedFrame n env src data = some f ↔
    mediaFrame src data = some f ∧ n.follows ∧ Accepts env n.receiver f.1 f.2 := by
  simp [acceptedFrame, Option.filter_eq_some_iff]

theorem acceptedFrame_of_not_media (h : mediaFrame src data = none) : acceptedFrame n env src data = none := by
  simp [acceptedFrame, h]

theorem not_accepts_of_acceptedFrame_eq_none {f : Mac × List UInt8} (h : acceptedFrame n env src data = none)
    (hm : mediaFrame src data = some f) (hfol : n.follows) : ¬Accepts env n.receiver f.1 f.2 := by
  intro hacc
  rw [acceptedFrame_eq_some.2 ⟨hm, hfol, hacc⟩] at h
  cases h

/-- A media frame that is not accepted does nothing to the receiver. -/
theorem receiveMedia_of_not_accepted {f : Mac × List UInt8} (h : acceptedFrame n env src data = none)
    (hm : mediaFrame src data = some f) : receiveMedia env n f.1 f.2 = (n, []) := by
  by_cases hfol : n.follows
  · rw [receiveMedia_of_follows hfol,
      processMediaSyncPacket_of_not_accepts (not_accepts_of_acceptedFrame_eq_none h hm hfol)]
    rfl
  · exact receiveMedia_of_not_follows hfol

end AcceptedFrame

/-- A frame of type `0x03` or `0x05`. -/
def isMedia (data : List UInt8) : Prop :=
  data.length ≥ 1 ∧ (byteAt data 0 = espnowMsgMediaSync ∨ byteAt data 0 = espnowMsgMeshRelay)

/-- What a media frame does, the relay aside. -/
def mediaEffect (env : Env) (n : Node) (src : Mac) (data : List UInt8) : Node × List Out :=
  match mediaFrame src data with
  | some f => receiveMedia env n f.1 f.2
  | none => (n, [])

/-- A frame that is not accepted does nothing, the relay aside. -/
theorem mediaEffect_of_not_accepted {env : Env} {n : Node} {src : Mac} {data : List UInt8}
    (h : acceptedFrame n env src data = none) : mediaEffect env n src data = (n, []) := by
  unfold mediaEffect
  cases hm : mediaFrame src data with
  | none => rfl
  | some f => exact receiveMedia_of_not_accepted h hm

/-- **A media frame does what its packet does**, and touches the relay. -/
theorem onDataRecv_isMedia (lib : UpdateLib) (env : Env) (n : Node) (src : Mac) {data : List UInt8}
    (h : isMedia data) : ∃ relay, onDataRecv lib env n src data =
      ({ (mediaEffect env n src data).1 with relay := relay }, (mediaEffect env n src data).2) := by
  unfold mediaEffect
  cases hm : mediaFrame src data with
  | some f => exact onDataRecv_media lib env n hm
  | none =>
    refine ⟨n.relay, ?_⟩
    obtain ⟨hlen, h3 | h5⟩ := h
    · -- a clock packet starts with another byte
      have hclock : isMeshClockPacket data = false := by
        by_contra hc
        simp only [isMeshClockPacket, Bool.not_eq_false, decide_eq_true_eq] at hc
        cases data with
        | nil => simp at hlen
        | cons b bs =>
          have hb : b = 0x4D := by simpa using congrArg List.head? hc.2
          rw [hb, byteAt_cons_zero] at h3
          exact absurd h3 (by decide)
      unfold mediaFrame at hm
      rw [if_pos ⟨h3, hlen⟩, if_neg (by simp [hclock])] at hm
      cases hm
    · have hshort : ¬data.length ≥ meshRelayHeaderSize + mediaSyncMinLen := by
        intro hlong
        unfold mediaFrame at hm
        rw [if_neg (by rw [h5]; exact fun hc => absurd hc.1 (by decide)), if_pos ⟨h5, hlong⟩] at hm
        cases hm
      unfold onDataRecv
      by_cases hclock : isMeshClockPacket data = true
      · rw [if_neg (by omega), if_pos hclock]
      · rw [if_neg (by omega), if_neg hclock]
        simp only [h5]
        rw [if_neg (by decide), if_neg (by decide), if_neg (by decide), if_neg (by decide), if_pos trivial]
        unfold onMeshRelay
        rw [if_pos (by omega)]

/-! ## What a frame is -/

/-- A frame that is a sender beacon. -/
def isSenderBeacon (data : List UInt8) : Prop :=
  data.length ≥ 1 ∧ ¬isMeshClockPacket data ∧ byteAt data 0 = espnowMsgSenderBeacon

/-- A frame that goes to the SysEx dispatcher. -/
def isSysexFrame (data : List UInt8) : Prop := byteAt data 0 = sysexStart ∧ ¬isMeshClockPacket data

instance (data : List UInt8) : Decidable (isSysexFrame data) := inferInstanceAs (Decidable (_ ∧ _))

/-- A frame that a sender takes for a `ReceiverInfo`. -/
def isReceiverInfo (n : Node) (data : List UInt8) : Prop :=
  ¬isMeshClockPacket data ∧ byteAt data 0 = espnowMsgReceiverInfo ∧ n.senderModeEnabled = true ∧
    data.length ≥ receiverInfoMinLen

instance (data : List UInt8) : Decidable (isSenderBeacon data) := inferInstanceAs (Decidable (_ ∧ _ ∧ _))

instance (n : Node) (data : List UInt8) : Decidable (isReceiverInfo n data) :=
  inferInstanceAs (Decidable (_ ∧ _ ∧ _ ∧ _))

section Kinds

variable (lib : UpdateLib) (env : Env) (n : Node) (src : Mac) (data : List UInt8)

/-- **A frame** is a beacon, a `ReceiverInfo`, a SysEx frame, a media frame, or nothing to the tables. -/
theorem onDataRecv_cases :
    (isSenderBeacon data ∧ ¬isReceiverInfo n data ∧ mediaFrame src data = none ∧
        onDataRecv lib env n src data = ({ n with senderTable := (handleSenderBeacon env n.senderTable src).1 },
          (handleSenderBeacon env n.senderTable src).2)) ∨
      (¬isSenderBeacon data ∧ isReceiverInfo n data ∧ mediaFrame src data = none ∧
        onDataRecv lib env n src data = ({ n with receiverTable := (handleReceiverInfo env n.receiverTable src data).1 },
          (handleReceiverInfo env n.receiverTable src data).2)) ∨
      (¬isSenderBeacon data ∧ ¬isReceiverInfo n data ∧ mediaFrame src data = none ∧ isSysexFrame data ∧
        onDataRecv lib env n src data = handleSysExMessage lib env n data (UInt8.ofNat data.length)) ∨
      (¬isSenderBeacon data ∧ ¬isReceiverInfo n data ∧
        ∃ relay, onDataRecv lib env n src data =
          ({ (mediaEffect env n src data).1 with relay := relay }, (mediaEffect env n src data).2)) := by
  by_cases hmedia : isMedia data
  · obtain ⟨relay, hrecv⟩ := onDataRecv_isMedia lib env n src hmedia
    refine Or.inr (Or.inr (Or.inr ⟨?_, ?_, relay, hrecv⟩))
    · rintro ⟨-, -, hb⟩
      rcases hmedia.2 with h | h <;> rw [h] at hb <;> exact absurd hb (by decide)
    · rintro ⟨-, hb, -⟩
      rcases hmedia.2 with h | h <;> rw [h] at hb <;> exact absurd hb (by decide)
  · have hnone : mediaFrame src data = none := by
      unfold mediaFrame
      rw [if_neg (fun h => hmedia ⟨h.2, Or.inl h.1⟩), if_neg]
      rintro ⟨h5, hlen⟩
      exact hmedia ⟨by unfold meshRelayHeaderSize at hlen; omega, Or.inr h5⟩
    have heffect : mediaEffect env n src data = (n, []) := by
      unfold mediaEffect
      rw [hnone]
    have h3 : data.length ≥ 1 → byteAt data 0 ≠ espnowMsgMediaSync := fun hl h => hmedia ⟨hl, Or.inl h⟩
    have h5 : data.length ≥ 1 → byteAt data 0 ≠ espnowMsgMeshRelay := fun hl h => hmedia ⟨hl, Or.inr h⟩
    rw [heffect]
    unfold onDataRecv
    by_cases hlen : data.length < 1
    · rw [if_pos hlen]
      refine Or.inr (Or.inr (Or.inr ⟨fun h => absurd h.1 (by omega), fun h => ?_, n.relay, rfl⟩))
      have hmin := h.2.2.2
      unfold receiverInfoMinLen at hmin
      omega
    · rw [if_neg hlen]
      by_cases hclock : isMeshClockPacket data = true
      · rw [if_pos hclock]
        exact Or.inr (Or.inr (Or.inr ⟨fun h => h.2.1 hclock, fun h => h.1 hclock, n.relay, rfl⟩))
      · rw [if_neg hclock]
        dsimp only
        by_cases hsysex : byteAt data 0 = sysexStart
        · rw [if_pos hsysex]
          refine Or.inr (Or.inr (Or.inl ⟨?_, ?_, hnone, ⟨hsysex, hclock⟩, rfl⟩))
          · rintro ⟨-, -, hb⟩
            rw [hsysex] at hb
            exact absurd hb (by decide)
          · rintro ⟨-, hb, -⟩
            rw [hsysex] at hb
            exact absurd hb (by decide)
        rw [if_neg hsysex]
        by_cases hbeacon : byteAt data 0 = espnowMsgSenderBeacon
        · rw [if_pos hbeacon]
          refine Or.inl ⟨⟨by omega, hclock, hbeacon⟩, ?_, hnone, rfl⟩
          rintro ⟨-, hinfo, -⟩
          rw [hbeacon] at hinfo
          exact absurd hinfo (by decide)
        · rw [if_neg hbeacon]
          by_cases hinfo : byteAt data 0 = espnowMsgReceiverInfo
          · rw [if_pos hinfo]
            by_cases hsender : n.senderModeEnabled = true
            · rw [if_pos hsender]
              by_cases hmin : data.length ≥ receiverInfoMinLen
              · exact Or.inr (Or.inl ⟨fun h => hbeacon h.2.2, ⟨hclock, hinfo, hsender, hmin⟩, hnone, rfl⟩)
              · -- too short to be noted
                refine Or.inr (Or.inr (Or.inr ⟨fun h => hbeacon h.2.2, fun h => hmin h.2.2.2, n.relay, ?_⟩))
                unfold handleReceiverInfo
                rw [if_pos (by omega)]
            · rw [if_neg hsender]
              exact Or.inr (Or.inr (Or.inr ⟨fun h => hbeacon h.2.2, fun h => hsender h.2.2.1, n.relay, rfl⟩))
          · rw [if_neg hinfo, if_neg (h3 (by omega)), if_neg (h5 (by omega))]
            exact Or.inr (Or.inr (Or.inr ⟨fun h => hbeacon h.2.2, fun h => hinfo h.2.1, n.relay, rfl⟩))

end Kinds

/-! ## Copies of a minted packet -/

/-- A copy of a minted packet on the air: straight from its origin, or wrapped by a relaying
node at some hop. Source MAC and bytes. -/
def wire (origin : Mac) (p : MediaSyncPacket) : Option (Mac × UInt8) → Mac × List UInt8
  | none => (origin, p.toFrame)
  | some (relayer, hop) => (relayer, MeshRelayHeader.toFrame ⟨origin, p.seq, hop⟩ ++ p.toFrame)

section Wire

variable (lib : UpdateLib) (env : Env) (n : Node) (origin : Mac) (p : MediaSyncPacket)
  (via : Option (Mac × UInt8))

/-- The hop count a copy arrives with. -/
def viaHop : Option (Mac × UInt8) → UInt8
  | none => 0
  | some (_, hop) => hop

/-- **A copy of a minted packet**, direct or relayed, goes to the receive path and to the relay
under its origin and its own `seq`. -/
theorem onDataRecv_wire :
    onDataRecv lib env n (wire origin p via).1 (wire origin p via).2 =
      let m := receiveMedia env n origin p.toFrame
      ({ m.1 with relay :=
          handleFloodCandidate env m.1.relay origin p.seq (viaHop via) p.toFrame via.isSome }, m.2) := by
  have hlen := p.length_toFrame
  cases via with
  | none =>
    -- straight from the origin: the frame is the packet
    have hclock : isMeshClockPacket p.toFrame = false := by
      simp [isMeshClockPacket, hlen, mediaSyncSize]
    have hof := p.ofFrame_self
    have htype : byteAt p.toFrame 0 = espnowMsgMediaSync := rfl
    unfold onDataRecv
    simp only [wire, hlen, hclock, htype]
    rw [if_neg (by decide), if_neg (by decide), if_neg (by decide), if_neg (by decide),
      if_neg (by decide), if_pos trivial]
    unfold onMediaSync
    simp only [hlen, hof]
    rw [if_pos (by decide)]
    rfl
  | some v =>
    -- through another node: the header names the origin
    obtain ⟨relayer, hop⟩ := v
    set h : MeshRelayHeader := ⟨origin, p.seq, hop⟩ with hh
    have hl : (h.toFrame ++ p.toFrame).length = 41 := by
      rw [List.length_append, hlen, MeshRelayHeader.length_toFrame]; rfl
    have hclock : isMeshClockPacket (h.toFrame ++ p.toFrame) = false := by
      simp [isMeshClockPacket, hlen, mediaSyncSize]
    have htype : byteAt (h.toFrame ++ p.toFrame) 0 = espnowMsgMeshRelay := rfl
    have hof : MeshRelayHeader.ofFrame (h.toFrame ++ p.toFrame) = h := MeshRelayHeader.ofFrame_toFrame h _
    have hdrop : (h.toFrame ++ p.toFrame).drop meshRelayHeaderSize = p.toFrame :=
      List.drop_left' h.length_toFrame
    unfold onDataRecv
    simp only [wire, ← hh, hl, hclock, htype]
    rw [if_neg (by decide), if_neg (by decide), if_neg (by decide), if_neg (by decide),
      if_neg (by decide), if_neg (by decide), if_pos trivial]
    unfold onMeshRelay
    simp only [hl, hof, hdrop]
    rw [if_neg (by decide)]
    rfl

/-- The receiver after a copy is what the receive path makes of the packet's own bytes. -/
theorem onDataRecv_wire_receiver (h : n.follows) :
    (onDataRecv lib env n (wire origin p via).1 (wire origin p via).2).1.receiver =
      (processMediaSyncPacket env n.receiver origin p.toFrame).1 := by
  rw [onDataRecv_wire, receiveMedia_of_follows h]

/-- A copy does not change what kind of node this is. -/
theorem onDataRecv_wire_follows (h : n.follows) :
    (onDataRecv lib env n (wire origin p via).1 (wire origin p via).2).1.follows := by
  rw [onDataRecv_wire, receiveMedia_of_follows h]
  exact h

end Wire

/-! ## A small installation

Two masters, a relaying node and a slave that follows every layer and is locked to the first
master: the fixed inputs of the examples in this development. -/

def masterA : Mac := ⟨0x24, 0x6F, 0x28, 0, 0, 1⟩
def masterB : Mac := ⟨0x24, 0x6F, 0x28, 0, 0, 9⟩
def slaveMac : Mac := ⟨0x24, 0x6F, 0x28, 0, 0, 2⟩
def relayerMac : Mac := ⟨0x24, 0x6F, 0x28, 0, 0, 3⟩

def lockedSlave : Node where
  receiverModeEnabled := true
  receiver :=
    { subscribedLayer := CharBuf.strncpy 16 [0x2A]
      mediaSyncState := { stopOnLinkLost := true }
      originLock := { mac := masterA, valid := true } }
  relay := { myMacAddress := slaveMac }

/-- A packet on layer `a` for a clip at its start. -/
def clip (index state : UInt8) (seq : UInt16) : MediaSyncPacket where
  layer := CharBuf.strncpy 16 [0x61]
  mediaIndex := index
  positionMs := 0
  state := state
  meshTimestamp := 0
  volume := 0
  flags := 0
  seq := seq

end Nowde
