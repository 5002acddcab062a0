import Nowde.Proof.ReceivePath
import Nowde.Proof.Timeouts

/-!
# Three generations in one frame

Both wire records grew at the end. A frame cut to an older generation's length is read for what it
carries: the fields that are there are the same, and what the missing ones would have written stays
as it was.

* `process_take31`, `process_take29`, `process_take27`, `process_take_short`: media frames.
* `handle_take29`, `handle_take27`, `handle_take26`, `handle_take_short`: receiver reports.
* `wire_generations`: both records.
-/

namespace Nowde

/-! ## Reading a frame cut short -/

section Cut

variable (data : List UInt8) {i k : ℕ}

/-- The oldest generation's fields are all there in 27 bytes. -/
theorem mediaSync_take27 (h : 27 ≤ k) : ∃ volume flags seq, MediaSyncPacket.ofFrame (data.take k) =
    { MediaSyncPacket.ofFrame data with volume := volume, flags := flags, seq := seq } := by
  refine ⟨byteAt (data.take k) 27, byteAt (data.take k) 28, le16 (data.take k) 29, ?_⟩
  unfold MediaSyncPacket.ofFrame
  rw [charBuf_take data (by omega), byteAt_take data (by omega : 17 < k), le32_take data (by omega : 18 + 3 < k),
    byteAt_take data (by omega : 22 < k), le32_take data (by omega : 23 + 3 < k)]

/-- With the volume in 29. -/
theorem mediaSync_take29 (h : 29 ≤ k) : ∃ seq, MediaSyncPacket.ofFrame (data.take k) =
    { MediaSyncPacket.ofFrame data with seq := seq } := by
  refine ⟨le16 (data.take k) 29, ?_⟩
  unfold MediaSyncPacket.ofFrame
  rw [charBuf_take data (by omega), byteAt_take data (by omega : 17 < k), le32_take data (by omega : 18 + 3 < k),
    byteAt_take data (by omega : 22 < k), le32_take data (by omega : 23 + 3 < k),
    byteAt_take data (by omega : 27 < k), byteAt_take data (by omega : 28 < k)]

/-- And all of it in 31. -/
theorem mediaSync_take31 (h : 31 ≤ k) : MediaSyncPacket.ofFrame (data.take k) = MediaSyncPacket.ofFrame data := by
  unfold MediaSyncPacket.ofFrame
  rw [charBuf_take data (by omega), byteAt_take data (by omega : 17 < k), le32_take data (by omega : 18 + 3 < k),
    byteAt_take data (by omega : 22 < k), le32_take data (by omega : 23 + 3 < k),
    byteAt_take data (by omega : 27 < k), byteAt_take data (by omega : 28 < k), le16_take data (by omega : 29 + 1 < k)]

end Cut

/-! ## What the trailers write -/

/-- The state without what `seq` writes. -/
def MediaSyncState.unnumbered (ms : MediaSyncState) : MediaSyncState :=
  { ms with lastSeq := 0, haveSeq := false, syncGaps := 0 }

/-- The state without what the volume writes. -/
def MediaSyncState.unvoiced (ms : MediaSyncState) : MediaSyncState :=
  { ms with currentVolume := 0, lastSentVolume := 0, lastCC7SendTime := 0 }

/-- A CC#7 message. -/
def HostMsg.isVolume : HostMsg → Bool
  | .cc number _ => number = 7
  | _ => false

section Follow

variable (env : Env) (hasVolume : Bool) (p : MediaSyncPacket) (ms : MediaSyncState)

theorem sendIndexChange_unnumbered : sendIndexChange env p ms.unnumbered =
    ((sendIndexChange env p ms).1.unnumbered, (sendIndexChange env p ms).2) := by
  unfold sendIndexChange MediaSyncState.unnumbered
  dsimp only
  split <;> rfl

theorem sendVolume_unnumbered : sendVolume env hasVolume p ms.unnumbered =
    ((sendVolume env hasVolume p ms).1.unnumbered, (sendVolume env hasVolume p ms).2) := by
  unfold sendVolume MediaSyncState.unnumbered
  dsimp only
  split_ifs <;> rfl

theorem sendTransition_unnumbered (a b : Bool) : sendTransition env p a b ms.unnumbered =
    ((sendTransition env p a b ms).1.unnumbered, (sendTransition env p a b ms).2) := by
  unfold sendTransition MediaSyncState.unnumbered
  dsimp only
  split_ifs <;> rfl

/-- **Following a packet neither reads nor writes** what `seq` writes. -/
theorem followPacket_unnumbered : followPacket env hasVolume p ms.unnumbered =
    ((followPacket env hasVolume p ms).1.unnumbered, (followPacket env hasVolume p ms).2) := by
  have hupdate : updateSyncState env p ms.unnumbered = (updateSyncState env p ms).unnumbered := rfl
  have hjumped : jumped env p ms.unnumbered = jumped env p ms := rfl
  have hcur : ms.unnumbered.currentState = ms.currentState := rfl
  have hsent : ms.unnumbered.lastSentIndex = ms.lastSentIndex := rfl
  unfold followPacket
  dsimp only
  rw [hupdate, hjumped, hcur, hsent, sendIndexChange_unnumbered, sendVolume_unnumbered, sendTransition_unnumbered]

theorem sendTransition_unvoiced (a b : Bool) : sendTransition env p a b ms.unvoiced =
    ((sendTransition env p a b ms).1.unvoiced, (sendTransition env p a b ms).2) := by
  unfold sendTransition MediaSyncState.unvoiced
  dsimp only
  split_ifs <;> rfl

theorem sendVolume_absent : sendVolume env false p ms = (ms, []) := by
  unfold sendVolume
  rw [if_neg (fun hc => Bool.false_ne_true hc.1)]

/-- The volume writes its own fields and sends CC#7 only. -/
theorem sendVolume_unvoiced : (sendVolume env hasVolume p ms).1.unvoiced = ms.unvoiced ∧
    ∀ m ∈ (sendVolume env hasVolume p ms).2, m.isVolume = true := by
  refine ⟨?_, ?_⟩
  · obtain ⟨v, w, t, h⟩ := sendVolume_eq env hasVolume p ms
    rw [h]
    rfl
  · unfold sendVolume
    dsimp only
    split_ifs <;> simp [HostMsg.isVolume]

theorem sendIndexChange_notVolume : ∀ m ∈ (sendIndexChange env p ms).2, m.isVolume = false := by
  unfold sendIndexChange
  split
  · intro m hm
    rw [List.mem_singleton.1 hm]
    rfl
  · simp

theorem sendTransition_notVolume (a b : Bool) : ∀ m ∈ (sendTransition env p a b ms).2, m.isVolume = false := by
  unfold sendTransition
  split_ifs <;> simp [HostMsg.isVolume]

/-- **The volume shows in its own fields and in CC#7 only.** -/
theorem followPacket_unvoiced :
    (followPacket env hasVolume p ms).1.unvoiced = (followPacket env false p ms).1.unvoiced ∧
      (followPacket env hasVolume p ms).2.filter (fun m => !m.isVolume) = (followPacket env false p ms).2 := by
  set ms₂ := (sendIndexChange env p (updateSyncState env p ms)).1 with hms₂
  obtain ⟨hfields, hcc⟩ := sendVolume_unvoiced env hasVolume p ms₂
  have hsame := sendTransition_unvoiced env p (sendVolume env hasVolume p ms₂).1
    (ms.currentState = 0 ∧ p.state = 1 : Bool)
    ((ms.currentState = 1 ∧ p.state = 0 : Bool) || (ms.lastSentIndex = 255 ∧ p.state = 0 ∧ p.mediaIndex = 0 : Bool))
  rw [hfields, sendTransition_unvoiced] at hsame
  obtain ⟨hstate, hout⟩ := Prod.mk.inj hsame
  have hkeep : ∀ l : List HostMsg, (∀ m ∈ l, m.isVolume = false) → l.filter (fun m => !m.isVolume) = l := by
    intro l hl
    exact List.filter_eq_self.2 fun m hm => by simp [hl m hm]
  have hdrop : (sendVolume env hasVolume p ms₂).2.filter (fun m => !m.isVolume) = [] :=
    List.filter_eq_nil_iff.2 fun m hm => by simp [hcc m hm]
  have hjump : ∀ m ∈ (if jumped env p ms then [HostMsg.fullFrame (compensatedPositionMs env p)] else []),
      m.isVolume = false := by
    split <;> simp [HostMsg.isVolume]
  unfold followPacket
  dsimp only
  rw [sendVolume_absent, ← hms₂]
  refine ⟨hstate.symm, ?_⟩
  simp only [List.filter_append, hdrop, List.append_nil]
  rw [hkeep _ (sendIndexChange_notVolume env p _), hkeep _ hjump, hkeep _ (sendTransition_notVolume env p _ _ _), hout]

/-- `seq` is read by the delivery counter only. -/
theorem followPacket_seq (seq : UInt16) :
    followPacket env hasVolume { p with seq := seq } ms = followPacket env hasVolume p ms := rfl

/-- Without a volume its bytes do not matter. -/
theorem followPacket_noVolume (volume flags : UInt8) (seq : UInt16) :
    followPacket env false { p with volume := volume, flags := flags, seq := seq } ms =
      followPacket env false p ms := by
  unfold followPacket
  dsimp only
  rw [sendVolume_absent, sendVolume_absent]
  rfl

theorem countGap_unnumbered (len : ℕ) : (countGap len p ms).unnumbered = ms.unnumbered := by
  obtain ⟨g, s, b, h⟩ := countGap_eq p ms len
  rw [h]
  rfl

theorem countGap_short {len : ℕ} (h : len < 31) : countGap len p ms = ms := by
  unfold countGap
  rw [if_pos (show len < mediaSyncSize from h)]

end Follow

/-! ## Media frames -/

/-- The receiver without what `seq` writes. -/
def Receiver.unnumbered (r : Receiver) : Receiver := { r with mediaSyncState := r.mediaSyncState.unnumbered }

/-- The receiver without what the volume writes. -/
def Receiver.unvoiced (r : Receiver) : Receiver := { r with mediaSyncState := r.mediaSyncState.unvoiced }

section MediaFrames

variable (env : Env) (r : Receiver) (origin : Mac) {data : List UInt8} {k : ℕ}

/-- The length of a frame cut to `k` bytes does not decide whether it is accepted, from 27 on. -/
theorem accepts_take (hk : 27 ≤ k) (hlen : 27 ≤ data.length) :
    Accepts env r origin (data.take k) ↔ Accepts env r origin data := by
  obtain ⟨v, w, s, hof⟩ := mediaSync_take27 data hk
  have hboth : mediaSyncMinLen ≤ (data.take k).length ∧ mediaSyncMinLen ≤ data.length := by
    rw [List.length_take]
    unfold mediaSyncMinLen
    omega
  unfold Accepts
  rw [hof]
  simp only [hboth.1, hboth.2, true_and]

/-- A rejected frame is rejected at any length. -/
theorem process_take_of_not_accepts (hk : 27 ≤ k) (hlen : 27 ≤ data.length) (h : ¬Accepts env r origin data) :
    processMediaSyncPacket env r origin (data.take k) = (r, []) ∧
      processMediaSyncPacket env r origin data = (r, []) := by
  refine ⟨processMediaSyncPacket_of_not_accepts ?_, processMediaSyncPacket_of_not_accepts h⟩
  rwa [accepts_take env r origin hk hlen]

theorem process_take31 (hlen : 31 ≤ data.length) :
    processMediaSyncPacket env r origin (data.take 31) = processMediaSyncPacket env r origin data := by
  by_cases h : Accepts env r origin data
  · have hcut := (accepts_take env r origin (by omega : 27 ≤ 31) (by omega)).2 h
    have hlen' : (data.take 31).length = 31 := List.length_take_of_le (by omega)
    have hcount : ∀ p ms, countGap data.length p ms = countGap 31 p ms := by
      intro p ms
      unfold countGap
      rw [if_neg (by unfold mediaSyncSize; omega), if_neg (by decide)]
    have hvolume : decide (data.length ≥ mediaSyncVolumeLen) = decide (31 ≥ mediaSyncVolumeLen) := by
      unfold mediaSyncVolumeLen
      simp
      omega
    rw [processMediaSyncPacket_of_accepts h, processMediaSyncPacket_of_accepts hcut, mediaSync_take31 data le_rfl]
    dsimp only
    rw [hlen', hcount, hvolume]
  · obtain ⟨h1, h2⟩ := process_take_of_not_accepts env r origin (by omega : 27 ≤ 31) (by omega) h
    rw [h1, h2]

/-- **A frame with the volume and no `seq`** does all but what `seq` does. -/
theorem process_take29 (hlen : 31 ≤ data.length) (hlo : 29 ≤ k) (hhi : k < 31) :
    (processMediaSyncPacket env r origin (data.take k)).1.unnumbered =
        (processMediaSyncPacket env r origin data).1.unnumbered ∧
      (processMediaSyncPacket env r origin (data.take k)).2 = (processMediaSyncPacket env r origin data).2 := by
  by_cases h : Accepts env r origin data
  · have hcut := (accepts_take env r origin (by omega : 27 ≤ k) (by omega)).2 h
    obtain ⟨seq, hof⟩ := mediaSync_take29 data hlo
    have hlen' : (data.take k).length = k := List.length_take_of_le (by omega)
    have hvolume : decide (k ≥ mediaSyncVolumeLen) = true ∧ decide (data.length ≥ mediaSyncVolumeLen) = true := by
      unfold mediaSyncVolumeLen
      simp
      omega
    rw [processMediaSyncPacket_of_accepts h, processMediaSyncPacket_of_accepts hcut, hof]
    dsimp only
    rw [hlen', hvolume.1, hvolume.2, countGap_short _ _ hhi, followPacket_seq]
    set ms := (originAccepts env.millis r origin).1.mediaSyncState
    set p := MediaSyncPacket.ofFrame data
    -- both runs are the run from the state without what `seq` writes
    have hshort := followPacket_unnumbered env true p ms
    have hlong := followPacket_unnumbered env true p (countGap data.length p ms)
    rw [countGap_unnumbered, hshort] at hlong
    obtain ⟨hstate, hout⟩ := Prod.mk.inj hlong
    refine ⟨?_, hout⟩
    unfold Receiver.unnumbered
    dsimp only
    rw [hstate]
  · obtain ⟨h1, h2⟩ := process_take_of_not_accepts env r origin (by omega : 27 ≤ k) (by omega) h
    rw [h1, h2]
    exact ⟨rfl, rfl⟩

/-- **A frame of the oldest generation** does all but what the volume does. -/
theorem process_take27 (hlen : 31 ≤ data.length) {j : ℕ} (hlo : 27 ≤ k) (hhi : k < 29) (hlo' : 29 ≤ j)
    (hhi' : j < 31) :
    (processMediaSyncPacket env r origin (data.take k)).1.unvoiced =
        (processMediaSyncPacket env r origin (data.take j)).1.unvoiced ∧
      (processMediaSyncPacket env r origin (data.take k)).2 =
        (processMediaSyncPacket env r origin (data.take j)).2.filter (fun m => !m.isVolume) := by
  by_cases h : Accepts env r origin data
  · have hcut := (accepts_take env r origin (by omega : 27 ≤ k) (by omega)).2 h
    have hcut' := (accepts_take env r origin (by omega : 27 ≤ j) (by omega)).2 h
    obtain ⟨v, w, s, hof⟩ := mediaSync_take27 data hlo
    obtain ⟨s', hof'⟩ := mediaSync_take29 data hlo'
    have hlenk : (data.take k).length = k := List.length_take_of_le (by omega)
    have hlenj : (data.take j).length = j := List.length_take_of_le (by omega)
    have hvolume : decide (k ≥ mediaSyncVolumeLen) = false ∧ decide (j ≥ mediaSyncVolumeLen) = true := by
      unfold mediaSyncVolumeLen
      simp
      omega
    rw [processMediaSyncPacket_of_accepts hcut, processMediaSyncPacket_of_accepts hcut', hof, hof']
    dsimp only
    rw [hlenk, hlenj, hvolume.1, hvolume.2, countGap_short _ _ (by omega : k < 31), countGap_short _ _ hhi',
      followPacket_noVolume, followPacket_seq]
    obtain ⟨hstate, hout⟩ := followPacket_unvoiced env true (MediaSyncPacket.ofFrame data)
      (originAccepts env.millis r origin).1.mediaSyncState
    refine ⟨?_, hout.symm⟩
    exact congrArg (fun st => { (originAccepts env.millis r origin).1 with mediaSyncState := st }) hstate.symm
  · obtain ⟨h1, -⟩ := process_take_of_not_accepts env r origin (by omega : 27 ≤ k) (by omega) h
    obtain ⟨h2, -⟩ := process_take_of_not_accepts env r origin (by omega : 27 ≤ j) (by omega) h
    rw [h1, h2]
    exact ⟨rfl, rfl⟩

theorem process_take_short (hk : k < 27) :
    processMediaSyncPacket env r origin (data.take k) = (r, []) := by
  apply processMediaSyncPacket_of_not_accepts
  intro hacc
  have hlen := hacc.1
  rw [List.length_take] at hlen
  unfold mediaSyncMinLen at hlen
  omega

end MediaFrames

/-! ## Receiver reports -/

/-- An entry without the loss report. -/
def ReceiverEntry.ungapped (e : ReceiverEntry) : ReceiverEntry := { e with syncGaps := 0 }

/-- An entry without the reported lock quality. -/
def ReceiverEntry.unrated (e : ReceiverEntry) : ReceiverEntry := { e with syncQuality := 0 }

section Reports

variable (env : Env) (t : Fin maxReceivers → ReceiverEntry) (src : Mac) {data : List UInt8} {k : ℕ}

/-- The oldest generation's fields, and what its missing trailers read as. -/
theorem rxReceiverInfo_take26 (hlen : 29 ≤ data.length) : rxReceiverInfo (data.take 26) =
    { rxReceiverInfo data with syncQuality := nowdeSyncUnknown, syncGaps := 0 } := by
  have hcut : (data.take 26).length = 26 := List.length_take_of_le (by omega)
  unfold rxReceiverInfo
  dsimp only
  rw [hcut, if_neg (by decide), if_neg (by decide)]
  unfold ReceiverInfo.ofFrame
  rw [charBuf_take data (by omega), charBuf_take data (by omega), byteAt_take data (by omega : 25 < 26)]

theorem rxReceiverInfo_take27 (hlen : 29 ≤ data.length) (hlo : 27 ≤ k) (hhi : k < 29) :
    rxReceiverInfo (data.take k) = { rxReceiverInfo data with syncGaps := 0 } := by
  have hcut : (data.take k).length = k := List.length_take_of_le (by omega)
  unfold rxReceiverInfo
  dsimp only
  rw [hcut, if_pos (show k ≥ receiverInfoQualityLen from hlo), if_neg (show ¬k ≥ receiverInfoSize by
    unfold receiverInfoSize; omega), if_pos (show data.length ≥ receiverInfoQualityLen by
    unfold receiverInfoQualityLen; omega)]
  unfold ReceiverInfo.ofFrame
  rw [charBuf_take data (by omega), charBuf_take data (by omega), byteAt_take data (by omega : 25 < k),
    byteAt_take data (by omega : 26 < k)]

theorem rxReceiverInfo_take29 (hlen : 29 ≤ data.length) : rxReceiverInfo (data.take 29) = rxReceiverInfo data := by
  have hcut : (data.take 29).length = 29 := List.length_take_of_le (by omega)
  unfold rxReceiverInfo
  dsimp only
  rw [hcut, if_pos (by decide), if_pos (by decide), if_pos (show data.length ≥ receiverInfoQualityLen by
    unfold receiverInfoQualityLen; omega), if_pos (show data.length ≥ receiverInfoSize from hlen)]
  unfold ReceiverInfo.ofFrame
  rw [charBuf_take data (by omega), charBuf_take data (by omega), byteAt_take data (by omega : 25 < 29),
    byteAt_take data (by omega : 26 < 29), le16_take data (by omega : 27 + 1 < 29)]

/-- **A report reaches the table through its record only**: two reports whose records write the same but
for `erase` leave the same table but for `erase`, and register the same peers. -/
theorem handleReceiverInfo_erase (erase : ReceiverEntry → ReceiverEntry) {data' : List UInt8}
    (hlen : receiverInfoMinLen ≤ data.length) (hlen' : receiverInfoMinLen ≤ data'.length)
    (hrefresh : ∀ e, erase (refreshReceiver env.millis (rxReceiverInfo data) e) =
      erase (refreshReceiver env.millis (rxReceiverInfo data') e))
    (hregister : erase (registerReceiver env.millis src (rxReceiverInfo data)) =
      erase (registerReceiver env.millis src (rxReceiverInfo data'))) :
    (∀ i, erase ((handleReceiverInfo env t src data).1 i) = erase ((handleReceiverInfo env t src data').1 i)) ∧
      (handleReceiverInfo env t src data).2 = (handleReceiverInfo env t src data').2 := by
  -- both reports pick the same slot, by MAC and by `active`
  have hwrite : ∀ (j : Fin maxReceivers) {e e' : ReceiverEntry}, erase e = erase e' →
      ∀ i, erase (Function.update t j e i) = erase (Function.update t j e' i) := by
    intro j e e' he i
    rw [Function.update_apply, Function.update_apply]
    split
    · exact he
    · rfl
  unfold handleReceiverInfo
  rw [if_neg (Nat.not_lt.2 hlen), if_neg (Nat.not_lt.2 hlen')]
  dsimp only
  cases Slots.find t fun e => e.active && e.mac == src with
  | some j => exact ⟨hwrite j (hrefresh (t j)), rfl⟩
  | none =>
    cases Slots.find t fun e => !e.active with
    | some j => exact ⟨hwrite j hregister, rfl⟩
    | none => exact ⟨fun i => rfl, rfl⟩

theorem handle_take29 (hlen : 29 ≤ data.length) :
    handleReceiverInfo env t src (data.take 29) = handleReceiverInfo env t src data := by
  have hcut : receiverInfoMinLen ≤ (data.take 29).length ∧ receiverInfoMinLen ≤ data.length := by
    rw [List.length_take]
    unfold receiverInfoMinLen
    omega
  have hread := rxReceiverInfo_take29 hlen
  obtain ⟨htable, hout⟩ := handleReceiverInfo_erase env t src id hcut.1 hcut.2
    (fun e => by rw [hread]) (by rw [hread])
  exact Prod.ext (funext htable) hout

/-- **A report without the loss count** writes all but the loss count. -/
theorem handle_take27 (hlen : 29 ≤ data.length) (hlo : 27 ≤ k) (hhi : k < 29) :
    (∀ i, ((handleReceiverInfo env t src (data.take k)).1 i).ungapped =
        ((handleReceiverInfo env t src data).1 i).ungapped) ∧
      (handleReceiverInfo env t src (data.take k)).2 = (handleReceiverInfo env t src data).2 := by
  have hcut : receiverInfoMinLen ≤ (data.take k).length ∧ receiverInfoMinLen ≤ data.length := by
    rw [List.length_take]
    unfold receiverInfoMinLen
    omega
  have hread := rxReceiverInfo_take27 hlen hlo hhi
  apply handleReceiverInfo_erase env t src ReceiverEntry.ungapped hcut.1 hcut.2
  · intro e
    rw [hread]
    rfl
  · rw [hread]
    rfl

/-- **A report without the lock quality** writes all but the lock quality. -/
theorem handle_take26 (hlen : 29 ≤ data.length) (hlo : 27 ≤ k) (hhi : k < 29) :
    (∀ i, ((handleReceiverInfo env t src (data.take 26)).1 i).unrated =
        ((handleReceiverInfo env t src (data.take k)).1 i).unrated) ∧
      (handleReceiverInfo env t src (data.take 26)).2 = (handleReceiverInfo env t src (data.take k)).2 := by
  have hcut : receiverInfoMinLen ≤ (data.take 26).length ∧ receiverInfoMinLen ≤ (data.take k).length := by
    rw [List.length_take, List.length_take]
    unfold receiverInfoMinLen
    omega
  have hread := rxReceiverInfo_take26 hlen
  have hread' := rxReceiverInfo_take27 hlen hlo hhi
  apply handleReceiverInfo_erase env t src ReceiverEntry.unrated hcut.1 hcut.2
  · intro e
    rw [hread, hread']
    rfl
  · rw [hread, hread']
    rfl

theorem handle_take_short (hk : k < 26) : handleReceiverInfo env t src (data.take k) = (t, []) := by
  have hcut : (data.take k).length < receiverInfoMinLen := by
    rw [List.length_take]
    unfold receiverInfoMinLen
    omega
  unfold handleReceiverInfo
  rw [if_pos hcut]

end Reports

/-! ## Both records -/

/-- What every cut of one media frame does, against the whole frame. -/
structure MediaGenerations (env : Env) (r : Receiver) (origin : Mac) (f : List UInt8) : Prop where
  /-- 31 bytes are the whole frame. -/
  whole : processMediaSyncPacket env r origin (f.take 31) = processMediaSyncPacket env r origin f
  /-- 29 or 30 bytes: all but `lastSeq`, `haveSeq` and `syncGaps`. -/
  unnumbered : ∀ k, 29 ≤ k → k < 31 →
    (processMediaSyncPacket env r origin (f.take k)).1.unnumbered =
        (processMediaSyncPacket env r origin f).1.unnumbered ∧
      (processMediaSyncPacket env r origin (f.take k)).2 = (processMediaSyncPacket env r origin f).2
  /-- 27 or 28 bytes: all but the volume fields and CC#7, against 29 or 30. -/
  unvoiced : ∀ j k, 27 ≤ k → k < 29 → 29 ≤ j → j < 31 →
    (processMediaSyncPacket env r origin (f.take k)).1.unvoiced =
        (processMediaSyncPacket env r origin (f.take j)).1.unvoiced ∧
      (processMediaSyncPacket env r origin (f.take k)).2 =
        (processMediaSyncPacket env r origin (f.take j)).2.filter (fun m => !m.isVolume)
  /-- Under 27 bytes: nothing. -/
  short : ∀ k < 27, processMediaSyncPacket env r origin (f.take k) = (r, [])

/-- What every cut of one receiver report does, against the whole report. -/
structure ReportGenerations (env : Env) (t : Fin maxReceivers → ReceiverEntry) (src : Mac) (g : List UInt8) :
    Prop where
  /-- 29 bytes are the whole report. -/
  whole : handleReceiverInfo env t src (g.take 29) = handleReceiverInfo env t src g
  /-- 27 or 28 bytes: all but `syncGaps`. -/
  ungapped : ∀ k, 27 ≤ k → k < 29 →
    (∀ i, ((handleReceiverInfo env t src (g.take k)).1 i).ungapped =
        ((handleReceiverInfo env t src g).1 i).ungapped) ∧
      (handleReceiverInfo env t src (g.take k)).2 = (handleReceiverInfo env t src g).2
  /-- 26 bytes: all but `syncQuality`, against 27 or 28. -/
  unrated : ∀ k, 27 ≤ k → k < 29 →
    (∀ i, ((handleReceiverInfo env t src (g.take 26)).1 i).unrated =
        ((handleReceiverInfo env t src (g.take k)).1 i).unrated) ∧
      (handleReceiverInfo env t src (g.take 26)).2 = (handleReceiverInfo env t src (g.take k)).2
  /-- Under 26 bytes: nothing. -/
  short : ∀ k < 26, handleReceiverInfo env t src (g.take k) = (t, [])

/-- **The generations agree**: a frame cut to an older length is read for what it carries. -/
theorem wire_generations (env : Env) (r : Receiver) (origin : Mac) (t : Fin maxReceivers → ReceiverEntry)
    (src : Mac) {f g : List UInt8} (hf : 31 ≤ f.length) (hg : 29 ≤ g.length) :
    MediaGenerations env r origin f ∧ ReportGenerations env t src g :=
  ⟨{ whole := process_take31 env r origin hf
     unnumbered := fun _ hlo hhi => process_take29 env r origin hf hlo hhi
     unvoiced := fun _ _ hlo hhi hlo' hhi' => process_take27 env r origin hf hlo hhi hlo' hhi'
     short := fun _ hk => process_take_short env r origin hk },
   { whole := handle_take29 env t src hg
     ungapped := fun _ hlo hhi => handle_take27 env t src hg hlo hhi
     unrated := fun _ hlo hhi => handle_take26 env t src hg hlo hhi
     short := fun _ hk => handle_take_short env t src hk }⟩

/-- A playing packet and a report of `lockedSlave`. -/
theorem wire_generations_clip :
    MediaGenerations { millis := 1000 } lockedSlave.receiver masterA (clip 5 1 1).toFrame ∧
      ReportGenerations { millis := 1000 } (fun _ => {}) masterA
        (receiverInfoFrame { millis := 1000 } lockedSlave) :=
  wire_generations _ _ _ _ _ (by decide +kernel) (by decide +kernel)

end Nowde
