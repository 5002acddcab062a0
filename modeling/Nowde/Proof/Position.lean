import Nowde.Lib.Clock
import Nowde.Proof.ReceivePath

/-!
# Age, compensation and the position played

A packet's age is a signed difference of two mesh clocks. It is trusted up to 200 ms and added to
the position when it is positive; between packets the position runs on the slave's own clock.

* `compensatedPositionMs_eq`: what is added is the age, or nothing.
* `position_error`: against the master's true position the slave is off by the skew of its mesh
  clock at most, and by the transit age when it follows coarsely.
-/

namespace Nowde

open WrapClock

/-! ## Age -/

section Age

variable (env : Env) (p : MediaSyncPacket)

/-- The age is trusted: at most 200 ms either way. (`abs` leaves the least `int32_t` as it is.) -/
theorem clockTrustworthy_iff : clockTrustworthy env p = true ↔
    |(timeDelta env p).toInt| ≤ 200 ∨ (timeDelta env p).toInt = -2 ^ 31 := by
  unfold clockTrustworthy
  rw [decide_eq_true_iff, Int32.le_iff_toInt_le, toInt_abs]
  have h200 : clockDesyncThresholdMs.toInt = 200 := by decide
  rw [h200]
  split_ifs with hmin
  · simp [hmin]
  · exact ⟨Or.inl, fun h => h.resolve_right hmin⟩

/-- What `processMediaSyncPacket` adds to the position. -/
def compensation : ℤ :=
  if clockTrustworthy env p = true ∧ p.state = 1 ∧ 0 < (timeDelta env p).toInt then (timeDelta env p).toInt else 0

theorem compensation_bounds : 0 ≤ compensation env p ∧ compensation env p ≤ 200 := by
  unfold compensation
  split_ifs with h
  · obtain ⟨htrust, -, hpos⟩ := h
    rcases (clockTrustworthy_iff env p).1 htrust with habs | hmin
    · have := abs_le.1 habs
      omega
    · omega
  · omega

/-- **The compensated position** is the packet's, plus its age if that is trusted and positive. -/
theorem compensatedPositionMs_eq :
    compensatedPositionMs env p = p.positionMs + UInt32.ofInt (compensation env p) := by
  have hpos : timeDelta env p > 0 ↔ 0 < (timeDelta env p).toInt := Int32.lt_iff_toInt_lt
  unfold compensatedPositionMs compensation
  simp only [hpos]
  split_ifs
  · rw [toUInt32_eq_ofInt]
  · have hzero : UInt32.ofInt 0 = 0 := by decide
    rw [hzero, UInt32.add_zero]

/-- The age of a packet stamped `age` earlier on a counter that wraps. -/
theorem timeDelta_toInt {stamp age : ℤ} (hstamp : p.meshTimestamp = UInt32.ofInt stamp)
    (hclock : meshMillisStable env.meshMillis = UInt32.ofInt (stamp + age)) (hlo : -2 ^ 31 ≤ age)
    (hhi : age < 2 ^ 31) : (timeDelta env p).toInt = age := by
  unfold timeDelta
  rw [hstamp, hclock, ← ofInt_sub, show stamp + age - stamp = age by omega]
  exact toInt_toInt32_ofInt hlo hhi

end Age

/-! ## Between packets -/

/-- The position played at an instant: what `espnowTask` hands to `midiSendTimeCode`. -/
def MediaSyncState.playedPositionMs (ms : MediaSyncState) (now : UInt32) : UInt32 :=
  ms.currentPositionMs + (now - ms.localClockStartTime)

/-- What following a playing packet leaves of the clock. -/
theorem followPacket_played (env : Env) (hasVolume : Bool) {p : MediaSyncPacket} (ms : MediaSyncState)
    (hplays : p.state = 1) (elapsed : ℕ) :
    (followPacket env hasVolume p ms).1.playedPositionMs (env.millis + UInt32.ofNat elapsed) =
      compensatedPositionMs env p + UInt32.ofNat elapsed := by
  obtain ⟨i, t, v, w, u, hf⟩ := followPacket_eq env hasVolume p ms
  rw [hf]
  simp only [MediaSyncState.playedPositionMs, updateSyncState, hplays, if_true]
  rw [UInt32.add_comm env.millis, UInt32.add_sub_cancel]

/-! ## Against the master -/

/-- A playing packet of a master at position `position`, stamped `stamp` on its mesh clock, as a slave
with mesh clock skew `skew` sees it `age` ms later. All counters wrap at 32 bits. -/
structure Sighting (env : Env) (p : MediaSyncPacket) (position stamp age skew : ℤ) : Prop where
  plays : p.state = 1
  atPosition : p.positionMs = UInt32.ofInt position
  stamped : p.meshTimestamp = UInt32.ofInt stamp
  clock : meshMillisStable env.meshMillis = UInt32.ofInt (stamp + age + skew)
  aged : 0 ≤ age
  low : -2 ^ 31 < age + skew
  high : age + skew < 2 ^ 31

/-- The slave plays `error` ms ahead of the master: at every instant after the packet, the master
having moved on by the packet's age and the time since. -/
def PlaysAhead (env : Env) (ms : MediaSyncState) (position age error : ℤ) : Prop :=
  ∀ elapsed : ℕ, ms.playedPositionMs (env.millis + UInt32.ofNat elapsed) =
    UInt32.ofInt (position + age + elapsed + error)

namespace Sighting

variable {env : Env} {p : MediaSyncPacket} {position stamp age skew : ℤ}

theorem delta (h : Sighting env p position stamp age skew) : (timeDelta env p).toInt = age + skew := by
  have hclock : meshMillisStable env.meshMillis = UInt32.ofInt (stamp + (age + skew)) := by
    rw [h.clock]
    congr 1
    omega
  exact timeDelta_toInt env p h.stamped hclock (by have := h.low; omega) h.high

theorem trusted (h : Sighting env p position stamp age skew) :
    clockTrustworthy env p = true ↔ |age + skew| ≤ 200 := by
  have hlow := h.low
  rw [clockTrustworthy_iff, h.delta]
  constructor
  · rintro (habs | hmin)
    · exact habs
    · omega
  · exact Or.inl

/-- The error is what was added, less the age. -/
theorem playsAhead (h : Sighting env p position stamp age skew) (hasVolume : Bool) (ms : MediaSyncState) :
    PlaysAhead env (followPacket env hasVolume p ms).1 position age (compensation env p - age) := by
  intro elapsed
  rw [followPacket_played env hasVolume ms h.plays, compensatedPositionMs_eq, h.atPosition, ← ofInt_natCast,
    ← UInt32.ofInt_add, ← UInt32.ofInt_add]
  congr 1
  omega

end Sighting

/-- **Position error is bounded by clock skew.** -/
theorem position_error (env : Env) (r : Receiver) (origin : Mac) (data : List UInt8)
    {position stamp age skew : ℤ} (haccepts : Accepts env r origin data)
    (h : Sighting env (MediaSyncPacket.ofFrame data) position stamp age skew) :
    let p := MediaSyncPacket.ofFrame data
    let ms := (processMediaSyncPacket env r origin data).1.mediaSyncState
    (ms.coarse = true ↔ |age + skew| > 200) ∧
      (∃ error, PlaysAhead env ms position age error ∧
        (ms.coarse = false → |error| ≤ |skew| ∧ (0 < age + skew → error = skew)) ∧
        (ms.coarse = true → error = -age)) ∧
      ms.currentIndex = p.mediaIndex ∧ ms.currentState = 1 ∧ ms.lastSyncTime = env.millis := by
  intro p ms
  obtain ⟨hms, hfollow⟩ : ∃ ms₀, ms = (followPacket env (data.length ≥ mediaSyncVolumeLen) p ms₀).1 := by
    refine ⟨countGap data.length p (originAccepts env.millis r origin).1.mediaSyncState, ?_⟩
    have hproc := processMediaSyncPacket_of_accepts haccepts
    exact congrArg (fun x => x.1.mediaSyncState) hproc
  obtain ⟨i, t, v, w, u, hf⟩ := followPacket_eq env (data.length ≥ mediaSyncVolumeLen) p hms
  have hcoarse : ms.coarse = !clockTrustworthy env p := by
    rw [hfollow, hf]
    rfl
  have haged := h.aged
  have htrust := h.trusted
  refine ⟨?_, ⟨compensation env p - age, ?_, ?_, ?_⟩, ?_⟩
  · rw [hcoarse, Bool.not_eq_true', ← Bool.not_eq_true, htrust]
    omega
  · rw [hfollow]
    exact h.playsAhead _ _
  · intro hfine
    have hyes : clockTrustworthy env p = true := by simpa [hcoarse] using hfine
    have hdelta := h.delta
    unfold compensation
    split_ifs with hcomp
    · -- the age is added as the slave measures it, skew included
      rw [hdelta]
      refine ⟨?_, ?_⟩
      · rw [show age + skew - age = skew by omega]
      · intro _
        omega
    · -- a packet that seems to come from the future gets nothing: the clock lags by its age at least
      have hneg : age + skew ≤ 0 := by
        by_contra hpos
        exact hcomp ⟨hyes, h.plays, by rw [hdelta]; omega⟩
      refine ⟨?_, fun hpos => absurd hpos (by omega)⟩
      rw [abs_of_nonpos (by omega : skew ≤ 0), abs_of_nonpos (by omega : 0 - age ≤ 0)]
      omega
  · intro hrough
    have hno : clockTrustworthy env p = false := by simpa [hcoarse] using hrough
    unfold compensation
    rw [if_neg (by simp [hno])]
    omega
  · rw [hfollow, hf]
    exact ⟨rfl, h.plays, rfl⟩

/-- A playing frame stamped 100 ms before the mesh clock wraps. -/
def lateFrame : List UInt8 :=
  ({ clip 5 1 1 with positionMs := 1000, meshTimestamp := 0xFFFFFF9C } : MediaSyncPacket).toFrame

/-- It arrives 150 ms later, where the mesh clock lags by 30 ms. -/
def afterWrap : Env := { millis := 7000, meshMillis := fun _ => 20 }

theorem lateFrame_sighted :
    Sighting afterWrap (MediaSyncPacket.ofFrame lateFrame) 1000 (2 ^ 32 - 100) 150 (-30) where
  plays := by decide +kernel
  atPosition := by decide +kernel
  stamped := by decide +kernel
  clock := by decide +kernel
  aged := by omega
  low := by omega
  high := by omega

theorem position_error_afterWrap :
    let ms := (processMediaSyncPacket afterWrap lockedSlave.receiver masterA lateFrame).1.mediaSyncState
    (ms.coarse = true ↔ |(150 : ℤ) + -30| > 200) ∧
      (∃ error, PlaysAhead afterWrap ms 1000 150 error ∧
        (ms.coarse = false → |error| ≤ |(-30 : ℤ)| ∧ (0 < (150 : ℤ) + -30 → error = -30)) ∧
        (ms.coarse = true → error = -150)) ∧
      ms.currentIndex = (MediaSyncPacket.ofFrame lateFrame).mediaIndex ∧ ms.currentState = 1 ∧
      ms.lastSyncTime = afterWrap.millis :=
  position_error afterWrap lockedSlave.receiver masterA lateFrame (by decide +kernel) lateFrame_sighted

end Nowde
