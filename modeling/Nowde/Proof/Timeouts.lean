import Nowde.Proof.TaskLoop
import Nowde.Lib.Clock
import Nowde.Lib.Heard

/-!
# Timeouts

`espnowTask` and the two cleanup functions read `millis()` once and compare many stamps with it.
The receive callback runs in another task, so between the sample and a comparison it may stamp an
entry with a later time, and the unsigned difference of the two is then huge.

* `step_inv`: the stamps always are what the clock showed when the other side was heard.
* `timeouts_iff`: no timeout fires early **exactly** in the runs where no comparison meets a stamp
  made after its sample and no longer ago than the timeout.
* `lateStamp_removes`: one beacon at the wrong moment removes the sender that sent it.
-/

namespace Nowde

/-! ## No early timeout -/

/-- No comparison with a sample that is a whole turn of the clock old. -/
def Timely (s : TaskState) : TaskEvent → Prop
  | .task _ =>
    match s.point with
    | .receiver _ | .sender _ => s.time < s.cleanupNow + 2 ^ 32
    | .link => s.time < s.now + 2 ^ 32
    | _ => True
  | _ => True

/-- What the step marks missing, removes or declares lost was not heard for longer than the timeout. -/
def NotEarly (s : TaskState) : TaskEvent → Prop
  | .task env =>
    match s.point with
    | .receiver i =>
      let e := s.node.receiverTable i
      let e' := (s.task env).1.node.receiverTable i
      (e.connected = true → e'.connected = false → receiverTimeoutMs.toNat < s.time - s.receiverHeard e.mac) ∧
        (e.active = true → e'.active = false → receiverRemoveMs.toNat < s.time - s.receiverHeard e.mac)
    | .sender i =>
      let e := s.node.senderTable i
      e.active = true → ((s.task env).1.node.senderTable i).active = false →
        senderTimeoutMs.toNat < s.time - s.senderHeard e.mac
    | .link =>
      s.node.receiver.mediaSyncState.linkLost = false →
        (s.task env).1.node.receiver.mediaSyncState.linkLost = true → linkLostTimeoutMs.toNat < s.time - s.accepted
    | _ => True
  | _ => True

/-- The entry at hand was not stamped after the sample it is compared with. -/
def NoLateStamp (s : TaskState) : TaskEvent → Prop
  | .task _ =>
    match s.point with
    | .receiver i =>
      let e := s.node.receiverTable i
      e.active = true →
        (e.connected = true → ¬WrapClock.LateStamp (2 ^ 32) receiverTimeoutMs.toNat s.cleanupNow
            (s.receiverHeard e.mac) s.time) ∧
          ¬WrapClock.LateStamp (2 ^ 32) receiverRemoveMs.toNat s.cleanupNow (s.receiverHeard e.mac) s.time
    | .sender i =>
      let e := s.node.senderTable i
      e.active = true →
        ¬WrapClock.LateStamp (2 ^ 32) senderTimeoutMs.toNat s.cleanupNow (s.senderHeard e.mac) s.time
    | .link =>
      s.node.receiver.mediaSyncState.currentState = 1 → s.node.receiver.mediaSyncState.linkLost = false →
        ¬WrapClock.LateStamp (2 ^ 32) linkLostTimeoutMs.toNat s.now s.accepted s.time
    | _ => True
  | _ => True

instance (s : TaskState) : ∀ e, Decidable (Timely s e)
  | .pass _ | .receive .. | .usb .. => isTrue trivial
  | .task _ => by
    dsimp only [Timely]
    cases s.point <;> infer_instance

instance (s : TaskState) : ∀ e, Decidable (NotEarly s e)
  | .pass _ | .receive .. | .usb .. => isTrue trivial
  | .task _ => by
    dsimp only [NotEarly]
    cases s.point <;> infer_instance

instance (s : TaskState) : ∀ e, Decidable (NoLateStamp s e)
  | .pass _ | .receive .. | .usb .. => isTrue trivial
  | .task _ => by
    dsimp only [NoLateStamp]
    cases s.point <;> infer_instance

/-! ## Stamps tell the truth -/

/-- The stamps are what the clock showed when the other side was heard, and nothing is in the future. -/
structure TaskInv (s : TaskState) : Prop where
  senders : Heard.Tracks s.node.senderTable (·.active) (·.mac) (·.lastSeen) millisAt s.senderHeard
  receivers : Heard.Tracks s.node.receiverTable (·.active) (·.mac) (·.lastSeen) millisAt s.receiverHeard
  link : s.node.receiver.mediaSyncState.currentState = 1 →
    s.node.receiver.mediaSyncState.lastSyncTime = millisAt s.accepted
  senderPast : ∀ m, s.senderHeard m ≤ s.time
  receiverPast : ∀ m, s.receiverHeard m ≤ s.time
  acceptedPast : s.accepted ≤ s.time
  nowPast : s.now ≤ s.time
  cleanupPast : s.cleanupNow ≤ s.time

section Entries

variable {now : UInt32}

theorem cleanupSenderEntry_active {e : SenderEntry} (h : (cleanupSenderEntry now e).active = true) :
    e.active = true ∧ (cleanupSenderEntry now e).mac = e.mac ∧ (cleanupSenderEntry now e).lastSeen = e.lastSeen := by
  unfold cleanupSenderEntry at h ⊢
  split at h
  · cases h
  · exact ⟨h, by split <;> rfl, by split <;> rfl⟩

theorem cleanupSenderEntry_active_iff {e : SenderEntry} (h : e.active = true) :
    (cleanupSenderEntry now e).active = false ↔ now - e.lastSeen > senderTimeoutMs := by
  unfold cleanupSenderEntry SenderEntry.expired
  by_cases hold : now - e.lastSeen > senderTimeoutMs <;> simp [h, hold]

theorem cleanupReceiverEntry_of_inactive {e : ReceiverEntry} (h : e.active = false) :
    cleanupReceiverEntry now e = e := by
  simp [cleanupReceiverEntry, ReceiverEntry.expired, ReceiverEntry.missing, h]

theorem cleanupReceiverEntry_active {e : ReceiverEntry} (h : (cleanupReceiverEntry now e).active = true) :
    e.active = true ∧ (cleanupReceiverEntry now e).mac = e.mac ∧
      (cleanupReceiverEntry now e).lastSeen = e.lastSeen := by
  cases hactive : e.active with
  | false =>
    rw [cleanupReceiverEntry_of_inactive hactive, hactive] at h
    cases h
  | true =>
    unfold cleanupReceiverEntry
    dsimp only
    refine ⟨rfl, ?_, ?_⟩
    · split <;> split <;> rfl
    · split <;> split <;> rfl

theorem cleanupReceiverEntry_active_iff {e : ReceiverEntry} (h : e.active = true) :
    (cleanupReceiverEntry now e).active = false ↔ now - e.lastSeen > receiverRemoveMs := by
  unfold cleanupReceiverEntry ReceiverEntry.expired
  by_cases hold : now - e.lastSeen > receiverRemoveMs
  · simp [h, hold]
  · by_cases hmissing : e.missing now <;> simp [h, hold, hmissing]

/-- An entry is removed later than it is marked missing, so only the first timeout counts here. -/
theorem cleanupReceiverEntry_connected_iff {e : ReceiverEntry} (h : e.active = true) (hc : e.connected = true) :
    (cleanupReceiverEntry now e).connected = false ↔ now - e.lastSeen > receiverTimeoutMs := by
  unfold cleanupReceiverEntry ReceiverEntry.expired ReceiverEntry.missing
  by_cases hmissing : now - e.lastSeen > receiverTimeoutMs
  · by_cases hold : now - e.lastSeen > receiverRemoveMs <;> simp [h, hold, hmissing]
  · have hyoung : ¬now - e.lastSeen > receiverRemoveMs := by
      intro hold
      have : receiverTimeoutMs < receiverRemoveMs := by decide
      exact hmissing (UInt32.lt_trans this hold)
    simp [h, hc, hyoung, hmissing]

theorem checkLinkLost_playing {ms : MediaSyncState} (h : (checkLinkLost now ms).1.currentState = 1) :
    ms.currentState = 1 ∧ (checkLinkLost now ms).1.lastSyncTime = ms.lastSyncTime := by
  unfold checkLinkLost at h ⊢
  split_ifs at h ⊢ with hlost hstop
  · cases h
  · exact ⟨h, rfl⟩
  · exact ⟨h, rfl⟩

theorem checkLinkLost_linkLost_iff {ms : MediaSyncState} (h : ms.linkLost = false) :
    (checkLinkLost now ms).1.linkLost = true ↔
      ms.currentState = 1 ∧ now - ms.lastSyncTime > linkLostTimeoutMs := by
  unfold checkLinkLost
  split_ifs with hlost hstop
  · exact ⟨fun _ => ⟨hlost.1, hlost.2.2⟩, fun _ => rfl⟩
  · exact ⟨fun _ => ⟨hlost.1, hlost.2.2⟩, fun _ => rfl⟩
  · constructor
    · intro hl
      rw [h] at hl
      cases hl
    · rintro ⟨hplaying, hold⟩
      exact absurd ⟨hplaying, by simp [h], hold⟩ hlost

end Entries

section Tables

variable {heard : Mac → ℕ} {env : Env} {time : ℕ}

/-- A beacon is noted, unless the table is full. -/
theorem handleSenderBeacon_eq (t : Fin maxSenders → SenderEntry) (src : Mac) :
    (handleSenderBeacon env t src).1 = Heard.note (·.active) (·.mac) src
      (fun e => { e with lastSeen := env.millis }) { mac := src, lastSeen := env.millis, active := true } t := by
  unfold handleSenderBeacon Heard.note
  cases Slots.find t fun e => e.active && e.mac == src with
  | some i => rfl
  | none => cases Slots.find t fun e => !e.active <;> rfl

/-- So is a `ReceiverInfo` of sufficient length. -/
theorem handleReceiverInfo_eq (t : Fin maxReceivers → ReceiverEntry) (src : Mac) {data : List UInt8}
    (hlen : data.length ≥ receiverInfoMinLen) :
    (handleReceiverInfo env t src data).1 = Heard.note (·.active) (·.mac) src
      (refreshReceiver env.millis (rxReceiverInfo data)) (registerReceiver env.millis src (rxReceiverInfo data)) t := by
  unfold handleReceiverInfo Heard.note
  rw [if_neg (by omega)]
  dsimp only
  cases Slots.find t fun e => e.active && e.mac == src with
  | some i => rfl
  | none => cases Slots.find t fun e => !e.active <;> rfl

theorem handleSenderBeacon_tracks {t : Fin maxSenders → SenderEntry}
    (h : Heard.Tracks t (·.active) (·.mac) (·.lastSeen) millisAt heard) (src : Mac)
    (henv : env.millis = millisAt time) :
    Heard.Tracks (handleSenderBeacon env t src).1 (·.active) (·.mac) (·.lastSeen) millisAt
      (Function.update heard src time) := by
  rw [handleSenderBeacon_eq]
  exact h.note (fun e => ⟨rfl, henv⟩) rfl henv

theorem handleReceiverInfo_tracks {t : Fin maxReceivers → ReceiverEntry}
    (h : Heard.Tracks t (·.active) (·.mac) (·.lastSeen) millisAt heard) (src : Mac) {data : List UInt8}
    (hlen : data.length ≥ receiverInfoMinLen) (henv : env.millis = millisAt time) :
    Heard.Tracks (handleReceiverInfo env t src data).1 (·.active) (·.mac) (·.lastSeen) millisAt
      (Function.update heard src time) := by
  rw [handleReceiverInfo_eq t src hlen]
  exact h.note (fun e => ⟨rfl, henv⟩) rfl henv

end Tables

section Frames

variable (lib : UpdateLib) (env : Env) (n : Node) (src : Mac) (data : List UInt8)

/-- A media frame stamps the followed state if it is accepted, and leaves it alone otherwise. -/
theorem mediaEffect_stamp :
    (mediaEffect env n src data).1.senderTable = n.senderTable ∧
      (mediaEffect env n src data).1.receiverTable = n.receiverTable ∧
      ((acceptedFrame n env src data).isSome = true →
        (mediaEffect env n src data).1.receiver.mediaSyncState.lastSyncTime = env.millis) ∧
      ((acceptedFrame n env src data).isSome = false →
        (mediaEffect env n src data).1.receiver = n.receiver) := by
  unfold mediaEffect
  cases hm : mediaFrame src data with
  | none =>
    have hnone : acceptedFrame n env src data = none := acceptedFrame_of_not_media hm
    refine ⟨rfl, rfl, ?_, fun _ => rfl⟩
    intro h
    rw [hnone] at h
    cases h
  | some f =>
    dsimp only
    cases hacc : acceptedFrame n env src data with
    | none =>
      rw [receiveMedia_of_not_accepted hacc hm]
      refine ⟨rfl, rfl, ?_, fun _ => rfl⟩
      intro h
      cases h
    | some g =>
      obtain ⟨hg, hfol, haccepts⟩ := acceptedFrame_eq_some.1 hacc
      have hfg : f = g := Option.some.inj (hm.symm.trans hg)
      subst hfg
      rw [receiveMedia_of_follows hfol, processMediaSyncPacket_of_accepts haccepts]
      obtain ⟨i, t, v, w, u, hf⟩ := followPacket_eq env (f.2.length ≥ mediaSyncVolumeLen)
        (MediaSyncPacket.ofFrame f.2) (countGap f.2.length (MediaSyncPacket.ofFrame f.2)
          (originAccepts env.millis n.receiver f.1).1.mediaSyncState)
      refine ⟨rfl, rfl, ?_, ?_⟩
      · intro _
        dsimp only
        rw [hf]
        rfl
      · intro h
        cases h

end Frames

/-! ## Steps that hear nothing -/

/-- Nobody is heard or given up by a timeout: both tables stay, or the receivers are dropped, and the
followed state keeps its stamp unless it stops playing. -/
structure KeepsStamps (n n' : Node) : Prop where
  senders : n'.senderTable = n.senderTable
  receivers : n'.receiverTable = n.receiverTable ∨ ∀ i, (n'.receiverTable i).active = false
  state : n'.receiver.mediaSyncState.currentState = 1 → n.receiver.mediaSyncState.currentState = 1 ∧
    n'.receiver.mediaSyncState.lastSyncTime = n.receiver.mediaSyncState.lastSyncTime

section Keep

variable {n n' : Node} (lib : UpdateLib) (env : Env) (data : List UInt8)

theorem KeepsStamps.of_core (hs : n'.senderTable = n.senderTable)
    (hr : n'.receiverTable = n.receiverTable ∨ ∀ i, (n'.receiverTable i).active = false)
    (hc : n'.core = n.core) : KeepsStamps n n' where
  senders := hs
  receivers := hr
  state h := by
    have hcur : n'.receiver.mediaSyncState.currentState = n.receiver.mediaSyncState.currentState :=
      congrArg (·.currentState) hc
    have hsync : n'.receiver.mediaSyncState.lastSyncTime = n.receiver.mediaSyncState.lastSyncTime :=
      congrArg (·.lastSyncTime) hc
    exact ⟨hcur ▸ h, hsync⟩

theorem KeepsStamps.refl (n : Node) : KeepsStamps n n := ⟨rfl, Or.inl rfl, fun h => ⟨h, rfl⟩⟩

theorem handleSysExMessage_keeps (n : Node) (length : UInt8) :
    KeepsStamps n (handleSysExMessage lib env n data length).1 := by
  obtain ⟨hc, -, hs, hr, -⟩ := handleSysExMessage_spec lib env n data length
  exact KeepsStamps.of_core hs hr hc

theorem midiPacket_keeps (n : Node) (p : MidiEventPacket) : KeepsStamps n (midiPacket lib env n p).1 := by
  obtain ⟨hc, -, hs, hr, -⟩ := midiPacket_spec lib env n p
  exact KeepsStamps.of_core hs hr hc

end Keep

/-! ## Steps -/

section Steps

variable {lib : UpdateLib} {s : TaskState} (env : Env)

/-- After boot nobody was heard. -/
theorem boot_inv (build : Build) (nvs : Nvs) (boardId : UInt8) (mac : Mac) :
    TaskInv { node := boot build nvs boardId mac } where
  senders := by
    refine Heard.Tracks.of_idle fun i => ?_
    dsimp only [boot]
    rw [(applyRole_spec _ _).command.senderTable]
  receivers := by
    refine Heard.Tracks.of_idle fun i => ?_
    dsimp only [boot]
    rcases (applyRole_spec _ _).receivers with h | h
    · rw [h]
    · exact h i
  link h := by
    have hidle := congrArg (·.currentState) (boot_core build nvs boardId mac)
    exact absurd (hidle.symm.trans h) (by decide)
  senderPast _ := le_refl _
  receiverPast _ := le_refl _
  acceptedPast := le_refl _
  nowPast := le_refl _
  cleanupPast := le_refl _

theorem TaskInv.keep (h : TaskInv s) {n : Node} (hk : KeepsStamps s.node n) : TaskInv { s with node := n } := by
  refine { h with senders := ?_, receivers := ?_, link := ?_ }
  · dsimp only
    rw [hk.senders]
    exact h.senders
  · rcases hk.receivers with hr | hr
    · dsimp only
      rw [hr]
      exact h.receivers
    · exact Heard.Tracks.of_idle hr
  · intro hplaying
    obtain ⟨hbefore, hstamp⟩ := hk.state hplaying
    exact hstamp.trans (h.link hbefore)

/-- The callback stamps what it hears. -/
theorem receive_inv (h : TaskInv s) (src : Mac) (data : List UInt8) :
    TaskInv (s.receive lib env src data).1 := by
  have hupdate : ∀ (heard : Mac → ℕ), (∀ m, heard m ≤ s.time) →
      ∀ m, Function.update heard src s.time m ≤ s.time := by
    intro heard hle m
    by_cases hm : m = src
    · rw [hm, Function.update_self]
    · rw [Function.update_of_ne hm]
      exact hle m
  have hstamp := mediaEffect_stamp (s.env env) s.node src data
  unfold TaskState.receive
  dsimp only
  rcases onDataRecv_cases lib (s.env env) s.node src data with
    ⟨hb, hi, hm, hrecv⟩ | ⟨hb, hi, hm, hrecv⟩ | ⟨hb, hi, hm, -, hrecv⟩ | ⟨hb, hi, relay, hrecv⟩
  · rw [hrecv, acceptedFrame_of_not_media hm, if_pos hb, if_neg hi]
    exact
      { h with
        senders := handleSenderBeacon_tracks h.senders src rfl
        senderPast := hupdate _ h.senderPast }
  · rw [hrecv, acceptedFrame_of_not_media hm, if_neg hb, if_pos hi]
    exact
      { h with
        receivers := handleReceiverInfo_tracks h.receivers src hi.2.2.2 rfl
        receiverPast := hupdate _ h.receiverPast }
  · rw [hrecv, acceptedFrame_of_not_media hm, if_neg hb, if_neg hi]
    exact h.keep (handleSysExMessage_keeps lib (s.env env) data s.node _)
  · -- a media frame, which stamps the followed state if it is accepted
    obtain ⟨hsenders, hreceivers, hyes, hno⟩ := hstamp
    rw [hrecv, if_neg hb, if_neg hi]
    refine
      { h with
        senders := ?_
        receivers := ?_
        link := ?_
        acceptedPast := ?_ }
    · dsimp only
      rw [hsenders]
      exact h.senders
    · dsimp only
      rw [hreceivers]
      exact h.receivers
    · dsimp only
      intro hplaying
      cases hacc : (acceptedFrame s.node (s.env env) src data).isSome with
      | true =>
        rw [hyes hacc]
        rfl
      | false =>
        rw [hno hacc] at hplaying ⊢
        exact h.link hplaying
    · dsimp only
      split
      · exact le_refl _
      · exact h.acceptedPast

/-- Time passes. -/
theorem pass_inv (h : TaskInv s) (ms : ℕ) : TaskInv { s with time := s.time + ms } :=
  { h with
    senderPast := fun m => le_trans (h.senderPast m) (Nat.le_add_right _ _)
    receiverPast := fun m => le_trans (h.receiverPast m) (Nat.le_add_right _ _)
    acceptedPast := le_trans h.acceptedPast (Nat.le_add_right _ _)
    nowPast := le_trans h.nowPast (Nat.le_add_right _ _)
    cleanupPast := le_trans h.cleanupPast (Nat.le_add_right _ _) }

/-- The parts of the loop besides the two cleanups. -/
theorem senderBeacon_keeps (now : UInt32) (n : Node) : KeepsStamps n (senderBeacon now n).1 := by
  unfold senderBeacon
  split
  · exact ⟨rfl, Or.inl rfl, fun h => ⟨h, rfl⟩⟩
  · exact KeepsStamps.refl n

theorem delayedTick_keeps (now : UInt32) (n : Node) : KeepsStamps n (delayedTick now n).1 := by
  unfold delayedTick
  split
  · exact ⟨rfl, Or.inl rfl, fun h => ⟨h, rfl⟩⟩
  · exact KeepsStamps.refl n

theorem receiverBeacon_keeps (now : UInt32) (n : Node) : KeepsStamps n (receiverBeacon now env n).1 := by
  unfold receiverBeacon
  split
  · exact ⟨rfl, Or.inl rfl, fun h => ⟨h, rfl⟩⟩
  · exact KeepsStamps.refl n

theorem meshResyncTick_keeps (n : Node) : KeepsStamps n (meshResyncTick env n).1 := by
  unfold meshResyncTick
  dsimp only
  split_ifs <;> exact ⟨rfl, Or.inl rfl, fun h => ⟨h, rfl⟩⟩

theorem generateMtc_playing {now : UInt32} {ms : MediaSyncState} (h : (generateMtc now ms).1.currentState = 1) :
    ms.currentState = 1 ∧ (generateMtc now ms).1.lastSyncTime = ms.lastSyncTime := by
  unfold generateMtc at h ⊢
  split at h
  · next hdue =>
    rw [if_pos hdue]
    exact ⟨h, rfl⟩
  · next hdue =>
    rw [if_neg hdue]
    exact ⟨h, rfl⟩

/-- The task stamps nothing: it only gives entries up. -/
theorem task_inv (h : TaskInv s) : TaskInv (s.task env).1 := by
  unfold TaskState.task
  cases s.point with
  | top =>
    dsimp only
    split
    · exact { h.keep (senderBeacon_keeps _ s.node) with nowPast := le_refl _ }
    · exact { h with nowPast := le_refl _ }
  | receivers => exact { h with cleanupPast := le_refl _ }
  | receiver i => exact { h with receivers := h.receivers.expire_slot cleanupReceiverEntry_active }
  | delayed => exact { h.keep (delayedTick_keeps _ s.node) with nowPast := h.nowPast }
  | senders => exact { h.keep (receiverBeacon_keeps _ _ s.node) with cleanupPast := le_refl _ }
  | sender i => exact { h with senders := h.senders.expire_slot cleanupSenderEntry_active }
  | link =>
    -- who still plays after the check has not been stopped by it
    refine { h with link := ?_ }
    intro hplaying
    obtain ⟨hbefore, hstamp⟩ := checkLinkLost_playing hplaying
    exact hstamp.trans (h.link hbefore)
  | mtc =>
    refine { h with link := ?_ }
    intro hplaying
    obtain ⟨hbefore, hstamp⟩ := generateMtc_playing hplaying
    exact hstamp.trans (h.link hbefore)
  | resync => exact { h.keep (meshResyncTick_keeps _ s.node) with nowPast := h.nowPast }
  | relays => exact { h with nowPast := h.nowPast }

/-- **The stamps tell the truth** after every event. -/
theorem step_inv (build : Build) (e : TaskEvent) (h : TaskInv s) : TaskInv (s.step lib build e).1 := by
  have hhandle : TaskInv (s.handle lib e).1 := by
    cases e with
    | pass ms => exact pass_inv h ms
    | receive env src data => exact receive_inv env h src data
    | usb env p => exact h.keep (midiPacket_keeps lib (s.env env) s.node p)
    | task env => exact task_inv env h
  unfold TaskState.step
  dsimp only
  split
  · exact boot_inv _ _ _ _
  · exact hhandle

end Steps

/-! ## One comparison -/

section Comparisons

variable {s : TaskState} {env : Env}

/-- A comparison of a true stamp with a sample is early exactly when the stamp is late. -/
theorem timer_iff {T stamp : UInt32} {sample heard time : ℕ} (hstamp : stamp = millisAt heard)
    (hsample : sample ≤ time) (hgap : time < sample + 2 ^ 32) (hheard : heard ≤ time) :
    (millisAt sample - stamp > T → T.toNat < time - heard) ↔
      ¬WrapClock.LateStamp (2 ^ 32) T.toNat sample heard time := by
  rw [← WrapClock.fires_imp_old_iff hsample hgap hheard, hstamp, gt_iff_lt, UInt32.lt_iff_toNat_lt]
  unfold millisAt
  rw [WrapClock.toNat_ofNat_sub_ofNat]

theorem receiver_notEarly_iff {i : Fin maxReceivers} (h : TaskInv s) (ht : Timely s (.task env))
    (hpoint : s.point = .receiver i) : NotEarly s (.task env) ↔ NoLateStamp s (.task env) := by
  have hentry : (s.task env).1.node.receiverTable i =
      cleanupReceiverEntry (millisAt s.cleanupNow) (s.node.receiverTable i) := by
    simp [TaskState.task, TaskState.goto, hpoint]
  simp only [Timely, NotEarly, NoLateStamp, hpoint] at ht ⊢
  rw [hentry]
  cases hactive : (s.node.receiverTable i).active with
  | false =>
    -- an idle slot has nobody to lose
    rw [cleanupReceiverEntry_of_inactive hactive, hactive]
    constructor
    · intro _ hno
      cases hno
    · refine fun _ => ⟨fun hc hgone => ?_, fun hno => by cases hno⟩
      rw [hc] at hgone
      cases hgone
  | true =>
    have hstamp := h.receivers.stamped i hactive
    have hpast := h.receiverPast (s.node.receiverTable i).mac
    rw [← timer_iff hstamp h.cleanupPast ht hpast, ← timer_iff hstamp h.cleanupPast ht hpast,
      cleanupReceiverEntry_active_iff hactive]
    constructor
    · rintro ⟨hmissing, hremove⟩ -
      refine ⟨fun hc hold => hmissing hc ?_, fun hold => hremove rfl hold⟩
      exact (cleanupReceiverEntry_connected_iff hactive hc).2 hold
    · intro hno
      obtain ⟨hmissing, hremove⟩ := hno rfl
      refine ⟨fun hc hgone => hmissing hc ?_, fun _ hgone => hremove hgone⟩
      exact (cleanupReceiverEntry_connected_iff hactive hc).1 hgone

theorem sender_notEarly_iff {i : Fin maxSenders} (h : TaskInv s) (ht : Timely s (.task env))
    (hpoint : s.point = .sender i) : NotEarly s (.task env) ↔ NoLateStamp s (.task env) := by
  have hentry : (s.task env).1.node.senderTable i =
      cleanupSenderEntry (millisAt s.cleanupNow) (s.node.senderTable i) := by
    simp [TaskState.task, TaskState.goto, hpoint]
  simp only [Timely, NotEarly, NoLateStamp, hpoint] at ht ⊢
  rw [hentry]
  refine imp_congr_right ?_
  intro hactive
  have hstamp := h.senders.stamped i hactive
  have hpast := h.senderPast (s.node.senderTable i).mac
  rw [← timer_iff hstamp h.cleanupPast ht hpast, cleanupSenderEntry_active_iff hactive]

theorem link_notEarly_iff (h : TaskInv s) (ht : Timely s (.task env)) (hpoint : s.point = .link) :
    NotEarly s (.task env) ↔ NoLateStamp s (.task env) := by
  have hstate : (s.task env).1.node.receiver.mediaSyncState =
      (checkLinkLost (millisAt s.now) s.node.receiver.mediaSyncState).1 := by
    simp [TaskState.task, TaskState.goto, hpoint]
  simp only [Timely, NotEarly, NoLateStamp, hpoint] at ht ⊢
  rw [hstate]
  constructor
  · intro hearly hplaying hok
    rw [← timer_iff (h.link hplaying) h.nowPast ht h.acceptedPast]
    exact fun hold => hearly hok ((checkLinkLost_linkLost_iff hok).2 ⟨hplaying, hold⟩)
  · intro hno hok hlost
    obtain ⟨hplaying, hold⟩ := (checkLinkLost_linkLost_iff hok).1 hlost
    exact (timer_iff (h.link hplaying) h.nowPast ht h.acceptedPast).2 (hno hplaying hok) hold

/-- **One step is early exactly when its stamp is late.** -/
theorem notEarly_iff (e : TaskEvent) (h : TaskInv s) (ht : Timely s e) : NotEarly s e ↔ NoLateStamp s e := by
  cases e with
  | pass ms => exact Iff.rfl
  | receive env src data => exact Iff.rfl
  | usb env p => exact Iff.rfl
  | task env =>
    cases hpoint : s.point with
    | receiver i => exact receiver_notEarly_iff h ht hpoint
    | sender i => exact sender_notEarly_iff h ht hpoint
    | link => exact link_notEarly_iff h ht hpoint
    | top | receivers | delayed | senders | mtc | resync | relays => simp [NotEarly, NoLateStamp, hpoint]

end Comparisons

/-! ## Runs -/

/-- **No timeout fires early** in a run from boot exactly when none of its comparisons meets a stamp
that is later than the sample and no older than the timeout. -/
theorem timeouts_iff (lib : UpdateLib) (build : Build) (nvs : Nvs) (boardId : UInt8) (mac : Mac)
    {es : List TaskEvent}
    (ht : Mealy.Guarded (TaskState.step lib build) Timely { node := boot build nvs boardId mac } es) :
    Mealy.Guarded (TaskState.step lib build) NotEarly { node := boot build nvs boardId mac } es ↔
      Mealy.Guarded (TaskState.step lib build) NoLateStamp { node := boot build nvs boardId mac } es := by
  have hboot := boot_inv build nvs boardId mac
  constructor
  · intro h
    exact Mealy.guarded_of_inv TaskInv (fun s e hs _ => step_inv build e hs)
      (fun s e hs hg => (notEarly_iff e hs hg.1).1 hg.2) hboot (Mealy.guarded_and.2 ⟨ht, h⟩)
  · intro h
    exact Mealy.guarded_of_inv TaskInv (fun s e hs _ => step_inv build e hs)
      (fun s e hs hg => (notEarly_iff e hs hg.1).2 hg.2) hboot (Mealy.guarded_and.2 ⟨ht, h⟩)

/-! ## Two runs -/

/-- A slave that has just booted. -/
def bootedSlave : TaskState := { node := boot plainBuild {} 0 slaveMac }

/-- The beacon of `masterA`. -/
def beaconA : TaskEvent := .receive { millis := 0 } masterA [espnowMsgSenderBeacon]

/-- The task's next step. -/
def goOn : TaskEvent := .task { millis := 0 }

/-- A beacon, then six seconds of silence before the cleanup. -/
def silence : List TaskEvent := [.pass 1000, beaconA, .pass 6000, goOn, goOn, goOn]

/-- A beacon a second, the second one just after the cleanup has read the clock. -/
def lateBeacon : List TaskEvent := [.pass 1000, beaconA, .pass 1000, goOn, goOn, .pass 1, beaconA, goOn]

theorem silence_notEarly : Mealy.Guarded (TaskState.step noUpdate plainBuild) NotEarly bootedSlave silence :=
  (timeouts_iff noUpdate plainBuild {} 0 slaveMac (by decide +kernel)).2 (by decide +kernel)

/-- **A late stamp removes the sender** that has just been heard. -/
theorem lateStamp_removes :
    Mealy.Guarded (TaskState.step noUpdate plainBuild) Timely bootedSlave lateBeacon ∧
      ¬Mealy.Guarded (TaskState.step noUpdate plainBuild) NotEarly bootedSlave lateBeacon ∧
      .delPeer masterA ∈ (Mealy.run (TaskState.step noUpdate plainBuild) bootedSlave lateBeacon).2 := by
  decide +kernel

end Nowde
