import Nowde.Proof.Position
import Nowde.Proof.Transport

/-!
# Extra copies of a packet

Under flooding a slave hears each packet several times. A second copy finds what the first one left:
the same index and state, `lastSeq` already at its `seq`, the volume sent. What it adds to the
position by being older, the slave's own clock has added since.

* `second_played`: the position played is the same after both copies.
* `second_copy_iff`: a second copy is harmless exactly when the first was no stop edge that still
  names a clip; there the first copy sends CC#100 = 0 and the second sends the clip again.
-/

namespace Nowde

open WrapClock

/-! ## What the first copy leaves -/

/-- The volume a packet carries, at most 100. -/
def MediaSyncPacket.carriedVolume (p : MediaSyncPacket) : UInt8 := if p.volume > 100 then 100 else p.volume

/-- The state just after a full-size packet was followed at `env`. -/
structure JustFollowed (env : Env) (p : MediaSyncPacket) (ms : MediaSyncState) : Prop where
  index : ms.currentIndex = p.mediaIndex
  state : ms.currentState = p.state
  position : ms.currentPositionMs = compensatedPositionMs env p
  clock : p.state = 1 → ms.localClockStartTime = env.millis
  volume : p.flags &&& mediasyncFlagVolume ≠ 0 → ms.lastSentVolume = p.carriedVolume
  contact : p.state = 0 → p.mediaIndex = 0 → ms.lastSentIndex ≠ 255

section First

variable (env : Env) (p : MediaSyncPacket) (ms : MediaSyncState)

theorem sendVolume_lastSentVolume (hflag : p.flags &&& mediasyncFlagVolume ≠ 0) :
    (sendVolume env true p ms).1.lastSentVolume = p.carriedVolume := by
  unfold sendVolume
  rw [if_pos ⟨rfl, hflag⟩]
  dsimp only
  change (if p.carriedVolume ≠ ms.lastSentVolume then _ else _ : MediaSyncState × List HostMsg).1.lastSentVolume = _
  by_cases hsame : p.carriedVolume ≠ ms.lastSentVolume
  · rw [if_pos hsame]
    rfl
  · rw [if_neg hsame]
    have heq : ms.lastSentVolume = p.carriedVolume := (not_not.1 hsame).symm
    split <;> exact heq

theorem followPacket_lastSentVolume (hflag : p.flags &&& mediasyncFlagVolume ≠ 0) :
    (followPacket env true p ms).1.lastSentVolume = p.carriedVolume := by
  obtain ⟨i, t, h⟩ := sendTransition_eq env p
    (sendVolume env true p (sendIndexChange env p (updateSyncState env p ms)).1).1
    (ms.currentState = 0 ∧ p.state = 1 : Bool)
    ((ms.currentState = 1 ∧ p.state = 0 : Bool) || (ms.lastSentIndex = 255 ∧ p.state = 0 ∧ p.mediaIndex = 0 : Bool))
  unfold followPacket
  dsimp only
  rw [h]
  exact sendVolume_lastSentVolume env p _ hflag

/-- **A packet followed** leaves its own data behind. -/
theorem justFollowed : JustFollowed env p (followPacket env true p ms).1 := by
  obtain ⟨i, t, v, w, u, hf⟩ := followPacket_eq env true p ms
  refine ⟨?_, ?_, ?_, ?_, followPacket_lastSentVolume env p ms, ?_⟩
  · rw [hf]
    rfl
  · rw [hf]
    rfl
  · rw [hf]
    rfl
  · intro hplays
    rw [hf]
    simp [updateSyncState, hplays]
  · intro hstop hzero
    rw [followPacket_lastSentIndex]
    by_cases hst : toStopped p ms = true
    · rw [if_pos hst]
      decide
    · rw [if_neg hst, if_neg (by simp [hzero])]
      intro hfirst
      apply hst
      simp [toStopped, hstop, hzero, hfirst]

end First

/-! ## What the second copy does -/

/-- A message repeats what the host was last told, a second or more ago. -/
def RepeatsLast (now : UInt32) (ms : MediaSyncState) (m : HostMsg) : Prop :=
  m = .cc 100 ms.lastSentIndex ∧ now - ms.lastCC100SendTime ≥ cc100RepeatIntervalMs ∨
    m = .cc 7 ms.lastSentVolume ∧ now - ms.lastCC7SendTime ≥ cc7RepeatIntervalMs

section Second

variable {env₁ env₂ : Env} {p : MediaSyncPacket} {ms : MediaSyncState}

/-- A second copy within 200 ms is no jump, whatever the mesh clock did in between. -/
theorem second_not_jumped (h : JustFollowed env₁ p ms) (hsoon : env₂.millis - env₁.millis ≤ 200) :
    jumped env₂ p ms = false := by
  by_cases hplays : p.state = 1
  · obtain ⟨hlo₁, hhi₁⟩ := compensation_bounds env₁ p
    obtain ⟨hlo₂, hhi₂⟩ := compensation_bounds env₂ p
    obtain ⟨d, hd, hgap⟩ : ∃ d : ℕ, d ≤ 200 ∧ env₂.millis - env₁.millis = UInt32.ofInt d := by
      refine ⟨(env₂.millis - env₁.millis).toNat, UInt32.le_iff_toNat_le.1 hsoon, ?_⟩
      rw [ofInt_natCast, UInt32.ofNat_toNat]
    have hdiff : (compensatedPositionMs env₂ p -
        (ms.currentPositionMs + (env₂.millis - ms.localClockStartTime))).toInt32.toInt =
          compensation env₂ p - compensation env₁ p - d := by
      rw [h.position, h.clock hplays, compensatedPositionMs_eq, compensatedPositionMs_eq, hgap,
        ← ofInt_toInt p.positionMs, ← UInt32.ofInt_add, ← UInt32.ofInt_add, ← UInt32.ofInt_add, ← ofInt_sub]
      have hcancel : p.positionMs.toInt32.toInt + compensation env₂ p -
          (p.positionMs.toInt32.toInt + compensation env₁ p + d) =
            compensation env₂ p - compensation env₁ p - d := by
        omega
      rw [hcancel]
      apply toInt_toInt32_ofInt <;> omega
    have h1000 : jumpFullframeThresholdMs.toInt = 1000 := by decide
    have hneg : (-jumpFullframeThresholdMs).toInt = -1000 := by decide
    unfold jumped
    dsimp only
    simp only [decide_eq_false_iff_not, not_and, not_or, gt_iff_lt, Int32.lt_iff_toInt_lt, hdiff, h1000, hneg]
    omega
  · unfold jumped
    simp [hplays]

/-- The host has heard the index: a second copy sends no CC#100 for it. -/
def IndexTold (p : MediaSyncPacket) (ms : MediaSyncState) : Prop :=
  p.mediaIndex = 0 ∨ ms.lastSentIndex = p.mediaIndex

theorem second_index (htold : IndexTold p ms) :
    sendIndexChange env₂ p (updateSyncState env₂ p ms) = (updateSyncState env₂ p ms, []) := by
  have hsent : (updateSyncState env₂ p ms).lastSentIndex = ms.lastSentIndex := rfl
  unfold sendIndexChange
  rw [if_neg]
  rw [hsent]
  rcases htold with h | h <;> simp [h]

/-- The volume is at most repeated, and the CC#100 memory stays. -/
theorem second_volume (env₂ : Env) (h : JustFollowed env₁ p ms) :
    (∀ m ∈ (sendVolume env₂ true p (updateSyncState env₂ p ms)).2, RepeatsLast env₂.millis ms m) ∧
      (sendVolume env₂ true p (updateSyncState env₂ p ms)).1.lastCC100SendTime = ms.lastCC100SendTime ∧
      (sendVolume env₂ true p (updateSyncState env₂ p ms)).1.currentState = p.state ∧
      (sendVolume env₂ true p (updateSyncState env₂ p ms)).1.currentIndex = p.mediaIndex := by
  obtain ⟨v, w, t, hv⟩ := sendVolume_eq env₂ true p (updateSyncState env₂ p ms)
  refine ⟨?_, by rw [hv]; rfl, by rw [hv]; rfl, by rw [hv]; rfl⟩
  by_cases hflag : p.flags &&& mediasyncFlagVolume ≠ 0
  · have hsent : ms.lastSentVolume = p.carriedVolume := h.volume hflag
    unfold sendVolume
    rw [if_pos ⟨rfl, hflag⟩]
    change ∀ m ∈ (if p.carriedVolume ≠ ms.lastSentVolume then _ else
      if env₂.millis - ms.lastCC7SendTime ≥ cc7RepeatIntervalMs then _ else _ : MediaSyncState × List HostMsg).2, _
    rw [if_neg (not_not.2 hsent.symm)]
    split
    · next hlong =>
      intro m hm
      have hm' : m = .cc 7 p.carriedVolume := List.mem_singleton.1 hm
      exact Or.inr ⟨by rw [hm', hsent], hlong⟩
    · simp
  · unfold sendVolume
    rw [if_neg (fun hc => hflag hc.2)]
    simp

/-- No Start, no Stop: the second copy finds the state it brings. -/
theorem second_transition (h : JustFollowed env₁ p ms) :
    (ms.currentState = 0 ∧ p.state = 1 : Bool) = false ∧ toStopped p ms = false := by
  have hstate := h.state
  refine ⟨?_, ?_⟩
  · rw [hstate]
    simp only [decide_eq_false_iff_not, not_and]
    intro h0 h1
    rw [h0] at h1
    exact absurd h1 (by decide)
  · unfold toStopped
    rw [hstate]
    simp only [Bool.or_eq_false_iff, decide_eq_false_iff_not, not_and]
    refine ⟨?_, ?_⟩
    · intro h1 h0
      rw [h0] at h1
      exact absurd h1 (by decide)
    · intro hfirst h0 hzero
      exact h.contact h0 hzero hfirst

/-- **The second copy only repeats**, once the host has heard the index. -/
theorem second_repeats (h : JustFollowed env₁ p ms) (hsoon : env₂.millis - env₁.millis ≤ 200)
    (htold : IndexTold p ms) :
    ∀ m ∈ (followPacket env₂ true p ms).2, RepeatsLast env₂.millis ms m := by
  obtain ⟨hvolume, htime, hcur, hindex⟩ := second_volume env₂ h
  obtain ⟨hstart, hstop⟩ := second_transition h
  have hout : (followPacket env₂ true p ms).2 =
      (sendIndexChange env₂ p (updateSyncState env₂ p ms)).2 ++
        (if jumped env₂ p ms then [.fullFrame (compensatedPositionMs env₂ p)] else []) ++
        (sendVolume env₂ true p (sendIndexChange env₂ p (updateSyncState env₂ p ms)).1).2 ++
        (sendTransition env₂ p (ms.currentState = 0 ∧ p.state = 1 : Bool) (toStopped p ms)
          (sendVolume env₂ true p (sendIndexChange env₂ p (updateSyncState env₂ p ms)).1).1).2 := rfl
  rw [hout, second_index htold, second_not_jumped h hsoon, hstart, hstop]
  simp only [List.nil_append, Bool.false_eq_true, if_false]
  intro m hm
  rcases List.mem_append.1 hm with hm | hm
  · exact hvolume m hm
  · unfold sendTransition at hm
    rw [if_neg Bool.false_ne_true, if_neg Bool.false_ne_true] at hm
    split at hm
    · next hrepeat =>
      rw [hcur, hindex, htime] at hrepeat
      obtain ⟨hplays, hpos, hlong⟩ := hrepeat
      have hzero : p.mediaIndex ≠ 0 := by
        intro h0
        rw [h0] at hpos
        exact absurd hpos (by decide)
      have hm' := List.mem_singleton.1 hm
      rw [hindex] at hm'
      exact Or.inl ⟨by rw [hm', htold.resolve_left hzero], hlong⟩
    · cases hm

/-- An index the host has not heard is sent again. -/
theorem second_sends (env₂ : Env) (htold : ¬IndexTold p ms) :
    .cc 100 p.mediaIndex ∈ (followPacket env₂ true p ms).2 ∧
      ¬RepeatsLast env₂.millis ms (.cc 100 p.mediaIndex) := by
  obtain ⟨hzero, hne⟩ := not_or.1 htold
  have hsends : (sendIndexChange env₂ p (updateSyncState env₂ p ms)).2 = [.cc 100 p.mediaIndex] := by
    have hsent : (updateSyncState env₂ p ms).lastSentIndex = ms.lastSentIndex := rfl
    unfold sendIndexChange
    rw [if_pos ⟨by rw [hsent]; exact hne, hzero⟩]
  refine ⟨?_, ?_⟩
  · unfold followPacket
    dsimp only
    rw [hsends]
    simp
  · rintro (⟨hm, -⟩ | ⟨hm, -⟩)
    · injection hm with _ hvalue
      exact hne hvalue.symm
    · injection hm with hnumber _
      exact absurd hnumber (by decide)

/-- **The position played is the same after both copies**, each trusted and aged by at least 1 ms, as
long as the two clocks advanced alike between them. -/
theorem second_played (h : JustFollowed env₁ p ms)
    (hage₁ : 1 ≤ (timeDelta env₁ p).toInt ∧ (timeDelta env₁ p).toInt ≤ 200)
    (hage₂ : 1 ≤ (timeDelta env₂ p).toInt ∧ (timeDelta env₂ p).toInt ≤ 200)
    (halike : meshMillisStable env₂.meshMillis - meshMillisStable env₁.meshMillis = env₂.millis - env₁.millis)
    (now : UInt32) :
    (followPacket env₂ true p ms).1.playedPositionMs now = ms.playedPositionMs now := by
  obtain ⟨i, t, v, w, u, hf⟩ := followPacket_eq env₂ true p ms
  rw [hf]
  simp only [MediaSyncState.playedPositionMs, updateSyncState, h.position]
  have htrust : ∀ env : Env, 1 ≤ (timeDelta env p).toInt ∧ (timeDelta env p).toInt ≤ 200 →
      clockTrustworthy env p = true := by
    intro env hage
    exact (clockTrustworthy_iff env p).2 (Or.inl (abs_le.2 (by omega)))
  by_cases hplays : p.state = 1
  · have hcomp : ∀ env : Env, 1 ≤ (timeDelta env p).toInt ∧ (timeDelta env p).toInt ≤ 200 →
        compensatedPositionMs env p = p.positionMs + (meshMillisStable env.meshMillis - p.meshTimestamp) := by
      intro env hage
      rw [compensatedPositionMs_eq]
      unfold compensation
      rw [if_pos ⟨htrust env hage, hplays, by omega⟩]
      unfold timeDelta
      rw [ofInt_toInt]
    rw [hcomp env₁ hage₁, hcomp env₂ hage₂, if_pos hplays, h.clock hplays]
    -- the age gained is the time the local clock has run
    grind
  · have hplain : ∀ env : Env, compensatedPositionMs env p = p.positionMs := by
      intro env
      unfold compensatedPositionMs
      rw [if_neg (fun hc => hplays hc.2.1)]
    rw [hplain, hplain, if_neg hplays]

end Second

/-! ## Two copies on a slave -/

/-- The mesh age of a packet is between 1 and 200 ms. -/
def FreshlyAged (env : Env) (p : MediaSyncPacket) : Prop :=
  1 ≤ (timeDelta env p).toInt ∧ (timeDelta env p).toInt ≤ 200

/-- The mesh clock and `millis()` advanced alike. -/
def AdvancedAlike (env₁ env₂ : Env) : Prop :=
  meshMillisStable env₂.meshMillis - meshMillisStable env₁.meshMillis = env₂.millis - env₁.millis

/-- **A second copy is harmless**: it sends repeats only, leaves what is followed and counted, and, both
copies being fresh on clocks that agree, the position played at every instant. -/
structure CopyHarmless (env₁ env₂ : Env) (p : MediaSyncPacket) (before after : MediaSyncState) (out : List Out) :
    Prop where
  quiet : ∀ o ∈ out, ∃ m, o = .host m ∧ RepeatsLast env₂.millis before m
  gaps : after.syncGaps = before.syncGaps
  seq : after.lastSeq = before.lastSeq
  index : after.currentIndex = before.currentIndex
  state : after.currentState = before.currentState
  position : FreshlyAged env₁ p → FreshlyAged env₂ p → AdvancedAlike env₁ env₂ →
    ∀ now, after.playedPositionMs now = before.playedPositionMs now

/-- The packet stops a slave that plays, and still names a clip. -/
def StopsOnClip (r : Receiver) (p : MediaSyncPacket) : Prop :=
  layerMatches r.subscribedLayer.bytes p.layer.bytes = true ∧ r.mediaSyncState.currentState = 1 ∧ p.state = 0 ∧
    p.mediaIndex ≠ 0

/-- A packet of the locked origin, on the receive path. -/
theorem processMediaSyncPacket_locked (env : Env) {r : Receiver} {origin : Mac} (p : MediaSyncPacket)
    (hvalid : r.originLock.valid = true) (hmac : r.originLock.mac = origin) :
    processMediaSyncPacket env r origin p.toFrame =
      if layerMatches r.subscribedLayer.bytes p.layer.bytes = true then
        ({ r with
            originLock := { r.originLock with lastHeard := env.millis }
            mediaSyncState := (followPacket env true p (countGap mediaSyncSize p r.mediaSyncState)).1 },
          (followPacket env true p (countGap mediaSyncSize p r.mediaSyncState)).2)
      else (r, []) := by
  have hof := p.ofFrame_self
  by_cases hlayer : layerMatches r.subscribedLayer.bytes p.layer.bytes = true
  · have hacc : Accepts env r origin p.toFrame := by
      refine ⟨?_, by rw [hof]; exact hlayer, Or.inr (Or.inl hmac)⟩
      rw [MediaSyncPacket.length_toFrame]
      decide
    have hlong : decide (mediaSyncSize ≥ mediaSyncVolumeLen) = true := by decide
    rw [if_pos hlayer, processMediaSyncPacket_of_accepts hacc, hof, originAccepts_self hvalid hmac,
      MediaSyncPacket.length_toFrame, hlong]
  · rw [if_neg hlayer]
    apply processMediaSyncPacket_of_layer
    rw [hof]
    exact hlayer

/-- The second copy of a packet counts nothing. -/
theorem countGap_again (p : MediaSyncPacket) {ms : MediaSyncState} (hseq : ms.lastSeq = p.seq)
    (hhave : ms.haveSeq = true) : countGap mediaSyncSize p ms = ms := by
  have hgap : p.seq - ms.lastSeq - 1 = (0xFFFF : UInt16) := by
    rw [hseq, UInt16.sub_self]
    decide
  have hbig : ¬((0xFFFF : UInt16) ≤ mediasyncMaxGap) := by decide
  unfold countGap
  rw [if_neg (by decide), hgap]
  dsimp only
  rw [if_neg (fun hc => hbig hc.2.2)]
  cases ms
  simp_all

/-- After the first copy the host has heard the index, unless the copy stopped a clip it still names. -/
theorem first_indexTold (env : Env) (p : MediaSyncPacket) (ms : MediaSyncState) :
    IndexTold p (followPacket env true p ms).1 ↔ ¬(ms.currentState = 1 ∧ p.state = 0 ∧ p.mediaIndex ≠ 0) := by
  unfold IndexTold
  rw [followPacket_lastSentIndex]
  by_cases hzero : p.mediaIndex = 0
  · simp [hzero]
  · have hstop : toStopped p ms = true ↔ ms.currentState = 1 ∧ p.state = 0 := by
      simp [toStopped, hzero]
    by_cases hst : toStopped p ms = true
    · rw [if_pos hst]
      obtain ⟨hcur, hp⟩ := hstop.1 hst
      simp [hzero, hcur, hp, Ne.symm hzero]
    · rw [if_neg hst, if_pos hzero]
      refine iff_of_true (Or.inr rfl) ?_
      intro hc
      exact hst (hstop.2 ⟨hc.1, hc.2.1⟩)

/-- **Two copies, one after the other**, on the followed state. -/
theorem second_harmless_iff {env₁ env₂ : Env} (p : MediaSyncPacket) (ms : MediaSyncState)
    (hsoon : env₂.millis - env₁.millis ≤ 200) :
    let ms₁ := (followPacket env₁ true p (countGap mediaSyncSize p ms)).1
    CopyHarmless env₁ env₂ p ms₁ (followPacket env₂ true p (countGap mediaSyncSize p ms₁)).1
        ((followPacket env₂ true p (countGap mediaSyncSize p ms₁)).2.map .host) ↔
      ¬(ms.currentState = 1 ∧ p.state = 0 ∧ p.mediaIndex ≠ 0) := by
  intro ms₁
  have hjust : JustFollowed env₁ p ms₁ := justFollowed env₁ p _
  obtain ⟨i, t, v, w, u, hf⟩ := followPacket_eq env₁ true p (countGap mediaSyncSize p ms)
  have hcounted : (countGap mediaSyncSize p ms).lastSeq = p.seq ∧ (countGap mediaSyncSize p ms).haveSeq = true ∧
      (countGap mediaSyncSize p ms).currentState = ms.currentState := by
    unfold countGap
    rw [if_neg (by decide)]
    exact ⟨rfl, rfl, rfl⟩
  have hagain : countGap mediaSyncSize p ms₁ = ms₁ := by
    apply countGap_again
    · exact (congrArg MediaSyncState.lastSeq hf).trans hcounted.1
    · exact (congrArg MediaSyncState.haveSeq hf).trans hcounted.2.1
  have htold := first_indexTold env₁ p (countGap mediaSyncSize p ms)
  rw [hcounted.2.2] at htold
  rw [hagain, ← htold]
  constructor
  · intro h
    by_contra hnot
    obtain ⟨hmem, hnew⟩ := second_sends env₂ hnot
    obtain ⟨m, hm, hrepeat⟩ := h.quiet _ (List.mem_map_of_mem hmem)
    injection hm with hm
    exact hnew (hm ▸ hrepeat)
  · intro hindex
    obtain ⟨i', t', v', w', u', hf'⟩ := followPacket_eq env₂ true p ms₁
    refine ⟨?_, ?_, ?_, ?_, ?_, ?_⟩
    · intro o ho
      obtain ⟨m, hm, rfl⟩ := List.mem_map.1 ho
      exact ⟨m, rfl, second_repeats hjust hsoon hindex m hm⟩
    · rw [hf']
      rfl
    · rw [hf']
      rfl
    · rw [hf']
      exact hjust.index.symm
    · rw [hf']
      exact hjust.state.symm
    · intro hage₁ hage₂ halike now
      exact second_played hjust hage₁ hage₂ halike now

/-- **A second copy of a packet of the locked origin is harmless exactly when the first did not stop a
clip it still names.** -/
theorem second_copy_iff (lib : UpdateLib) {n : Node} {origin : Mac} (p : MediaSyncPacket) {env₁ env₂ : Env}
    (via₁ via₂ : Option (Mac × UInt8)) (hslave : n.follows) (hvalid : n.receiver.originLock.valid = true)
    (hmac : n.receiver.originLock.mac = origin) (hsoon : env₂.millis - env₁.millis ≤ 200) :
    let first := onDataRecv lib env₁ n (wire origin p via₁).1 (wire origin p via₁).2
    let second := onDataRecv lib env₂ first.1 (wire origin p via₂).1 (wire origin p via₂).2
    CopyHarmless env₁ env₂ p first.1.receiver.mediaSyncState second.1.receiver.mediaSyncState second.2 ↔
      ¬StopsOnClip n.receiver p := by
  intro first second
  have hslave' : first.1.follows := onDataRecv_wire_follows lib env₁ n origin p via₁ hslave
  have hfirst : first.1.receiver = (processMediaSyncPacket env₁ n.receiver origin p.toFrame).1 :=
    onDataRecv_wire_receiver lib env₁ n origin p via₁ hslave
  have hsecond : second.1.receiver = (processMediaSyncPacket env₂ first.1.receiver origin p.toFrame).1 :=
    onDataRecv_wire_receiver lib env₂ first.1 origin p via₂ hslave'
  have hout : second.2 = (processMediaSyncPacket env₂ first.1.receiver origin p.toFrame).2.map .host := by
    show (onDataRecv lib env₂ first.1 _ _).2 = _
    rw [onDataRecv_wire, receiveMedia_of_follows hslave']
  rw [processMediaSyncPacket_locked env₁ p hvalid hmac] at hfirst
  unfold StopsOnClip
  by_cases hlayer : layerMatches n.receiver.subscribedLayer.bytes p.layer.bytes = true
  · rw [if_pos hlayer] at hfirst
    -- the lock and the layer are as before
    have hvalid' : first.1.receiver.originLock.valid = true := by rw [hfirst]; exact hvalid
    have hmac' : first.1.receiver.originLock.mac = origin := by rw [hfirst]; exact hmac
    have hlayer' : layerMatches first.1.receiver.subscribedLayer.bytes p.layer.bytes = true := by
      rw [hfirst]
      exact hlayer
    rw [processMediaSyncPacket_locked env₂ p hvalid' hmac', if_pos hlayer'] at hsecond hout
    rw [hsecond, hout, hfirst]
    simp only [hlayer, true_and]
    exact second_harmless_iff p n.receiver.mediaSyncState hsoon
  · -- both copies are for another layer
    rw [if_neg hlayer] at hfirst
    rw [hfirst, processMediaSyncPacket_locked env₂ p hvalid hmac, if_neg hlayer] at hsecond hout
    refine iff_of_true ?_ (fun hstop => hlayer hstop.1)
    rw [hsecond, hfirst, hout]
    exact ⟨by simp, rfl, rfl, rfl, rfl, fun _ _ _ _ => rfl⟩

/-! ## A clip stopped by name -/

/-- `lockedSlave` playing clip 5. -/
def playingSlave : Node :=
  (onDataRecv noUpdate { millis := 1000 } lockedSlave masterA (clip 5 1 1).toFrame).1

theorem second_copy_playing :
    let first := onDataRecv noUpdate { millis := 1100 } playingSlave (wire masterA (clip 0 0 2) none).1
      (wire masterA (clip 0 0 2) none).2
    let second := onDataRecv noUpdate { millis := 1120 } first.1 (wire masterA (clip 0 0 2) (some (relayerMac, 1))).1
      (wire masterA (clip 0 0 2) (some (relayerMac, 1))).2
    CopyHarmless { millis := 1100 } { millis := 1120 } (clip 0 0 2) first.1.receiver.mediaSyncState
        second.1.receiver.mediaSyncState second.2 ↔
      ¬StopsOnClip playingSlave.receiver (clip 0 0 2) :=
  second_copy_iff noUpdate (clip 0 0 2) none (some (relayerMac, 1)) (by decide +kernel) (by decide +kernel)
    (by decide +kernel) (by decide +kernel)

/-- **The second copy starts the clip again.** Clip 5 plays and is stopped by a packet that names it;
the relayed copy of that packet sends CC#100 = 5 after the Stop. -/
theorem stoppedClip_sentAgain :
    ¬∀ (lib : UpdateLib) (n : Node) (origin : Mac) (p : MediaSyncPacket) (env₁ env₂ : Env)
      (via₁ via₂ : Option (Mac × UInt8)), n.follows → n.receiver.originLock.valid = true →
        n.receiver.originLock.mac = origin → p.state = 0 ∨ p.state = 1 → env₂.millis - env₁.millis ≤ 200 →
          let first := onDataRecv lib env₁ n (wire origin p via₁).1 (wire origin p via₁).2
          let second := onDataRecv lib env₂ first.1 (wire origin p via₂).1 (wire origin p via₂).2
          CopyHarmless env₁ env₂ p first.1.receiver.mediaSyncState second.1.receiver.mediaSyncState second.2 := by
  intro hall
  have hharmless := hall noUpdate playingSlave masterA (clip 5 0 2) { millis := 1100 } { millis := 1120 } none
    (some (relayerMac, 1)) (by decide +kernel) (by decide +kernel) (by decide +kernel) (by decide)
    (by decide +kernel)
  obtain ⟨m, hm, hrepeat⟩ := hharmless.quiet (.host (.cc 100 5)) (by decide +kernel)
  injection hm with hm
  rw [← hm] at hrepeat
  have hnot : ¬RepeatsLast 1120 (onDataRecv noUpdate { millis := 1100 } playingSlave masterA
      (clip 5 0 2).toFrame).1.receiver.mediaSyncState (.cc 100 5) := by
    unfold RepeatsLast
    decide +kernel
  exact hnot hrepeat

end Nowde
