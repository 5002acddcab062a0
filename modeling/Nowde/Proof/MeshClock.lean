import Nowde.Lib.Clock
import Nowde.Lib.Gossip
import Nowde.Spec.MeshClock

/-!
# One mesh clock

* `le56_meshClockPacket`: a stamp survives its packet modulo `2 ^ 56`.
* `adjust_reading`: in whole microseconds, a clock that is not synced moves to the later of the two times,
  and a synced one is damped.
* `adjust_offset_lt`: no packet pushes the offset to `2 ^ 56`, so the sum with a timer never wraps.
-/

namespace Nowde

open WrapClock

/-! ## Packets -/

theorem le56_toNat_lt (data : List UInt8) (i : ℕ) : (le56 data i).toNat < 2 ^ 56 := by
  have hlen : (slice data i 7).length ≤ 7 := by
    unfold slice
    rw [List.length_take]
    exact Nat.min_le_left _ _
  have hlt : Nat.ofDigits 256 ((slice data i 7).map UInt8.toNat) < 256 ^ 7 := by
    refine lt_of_lt_of_le (Nat.ofDigits_lt_base_pow_length (by decide) ?_) (Nat.pow_le_pow_right (by decide) ?_)
    · intro x hx
      obtain ⟨b, -, rfl⟩ := List.mem_map.1 hx
      exact b.toNat_lt
    · rw [List.length_map]
      exact hlen
  unfold le56
  rw [UInt64.toNat_ofNat']
  exact lt_of_le_of_lt (Nat.mod_le _ _) hlt

@[simp] theorem isMeshClockPacket_meshClockPacket (x : UInt64) : isMeshClockPacket (meshClockPacket x) = true := by
  simp [isMeshClockPacket, meshClockPacket, le56Bytes, List.range_succ]

/-- **A stamp survives its packet** modulo `2 ^ 56`. -/
theorem le56_meshClockPacket (x : UInt64) : (le56 (meshClockPacket x) 3).toNat = x.toNat % 2 ^ 56 := by
  have hx := x.toNat_lt
  have hslice : slice (meshClockPacket x) 3 7 = le56Bytes x := by
    unfold slice meshClockPacket le56Bytes
    simp [List.range_succ]
  unfold le56
  rw [hslice, UInt64.toNat_ofNat']
  simp only [le56Bytes, List.range_succ, List.range_zero, List.map_nil, List.map_cons, List.nil_append,
    List.cons_append, Nat.ofDigits_cons, Nat.ofDigits_nil, UInt8.toNat_ofNat', Nat.reducePow]
  omega

namespace MeshClock

variable (c : MeshClock)

/-! ## An adjustment -/

/-- The time in whole microseconds, at a timer that has counted `micros`. -/
def reading (micros : ℕ) : ℕ := micros + c.offset.toNat

/-- Where a clock at `m` moves when it hears `r`. -/
def follow (synced : Bool) (m r : ℕ) : ℕ := if synced then Gossip.damp 10000 4 m r else max m r

section Follow

variable (synced : Bool) (m r : ℕ)

theorem le_follow : m ≤ follow synced m r := by
  unfold follow
  split
  · exact Gossip.le_damp
  · exact le_max_left _ _

theorem follow_le_max : follow synced m r ≤ max m r := by
  unfold follow
  split
  · exact Gossip.damp_le_max
  · exact le_rfl

variable {m r}

theorem follow_of_le (h : r ≤ m) : follow synced m r = m := by
  unfold follow
  rw [Gossip.damp_of_le h, max_eq_left h, ite_self]

end Follow

variable {c} {micros remoteMicros : UInt64} {now : UInt32}

@[simp] theorem adjust_synced : (c.adjust micros now remoteMicros).synced = true := by
  unfold adjust
  dsimp only
  split_ifs <;> simp_all

@[simp] theorem adjust_lastSync : (c.adjust micros now remoteMicros).lastSync = now := by
  unfold adjust
  dsimp only
  split_ifs <;> rfl

@[simp] theorem adjust_lastBroadcast : (c.adjust micros now remoteMicros).lastBroadcast = c.lastBroadcast ∧
    (c.adjust micros now remoteMicros).nextBroadcastDelay = c.nextBroadcastDelay := by
  unfold adjust
  dsimp only
  split_ifs <;> exact ⟨rfl, rfl⟩

/-- **An adjustment in whole microseconds**: to the later time when the clock is not synced, damped when it is. -/
theorem adjust_reading (hsum : micros.toNat + c.offset.toNat < 2 ^ 62) (hremote : remoteMicros.toNat < 2 ^ 62) :
    (c.adjust micros now remoteMicros).reading micros.toNat =
      follow c.synced (c.reading micros.toNat) remoteMicros.toNat := by
  have hlocal : (micros + c.offset).toNat = micros.toNat + c.offset.toNat := by
    rw [UInt64.toNat_add]
    omega
  have hdelta : (remoteMicros - (micros + c.offset)).toInt64.toInt =
      (remoteMicros.toNat : ℤ) - (micros.toNat + c.offset.toNat : ℕ) := by
    rw [toInt_toInt64_sub (by omega) (by omega), hlocal]
  have hpos : (remoteMicros - (micros + c.offset)).toInt64 > 0 ↔ micros.toNat + c.offset.toNat < remoteMicros.toNat := by
    rw [gt_iff_lt, Int64.lt_iff_toInt_lt, hdelta]
    have hzero : (0 : Int64).toInt = 0 := rfl
    omega
  have hlarge : (remoteMicros - (micros + c.offset)).toInt64.abs > meshClockLargeStepUs ↔
      10000 < |(remoteMicros.toNat : ℤ) - (micros.toNat + c.offset.toNat : ℕ)| := by
    rw [gt_iff_lt, Int64.lt_iff_toInt_lt, toInt_abs64 (by omega), hdelta]
    rfl
  -- the step, when there is one
  have hstep (hahead : micros.toNat + c.offset.toNat < remoteMicros.toNat) :
      (remoteMicros - (micros + c.offset)).toInt64.toUInt64.toNat =
        remoteMicros.toNat - (micros.toNat + c.offset.toNat) := by
    rw [toNat_toUInt64_of_nonneg (by omega), hdelta]
    omega
  unfold adjust reading follow Gossip.damp
  simp only [hpos, hlarge]
  by_cases hahead : micros.toNat + c.offset.toNat < remoteMicros.toNat
  · rw [if_pos hahead, if_pos hahead]
    cases hsynced : c.synced with
    | false =>
      rw [if_pos (Or.inl rfl), if_neg Bool.false_ne_true]
      dsimp only
      rw [UInt64.toNat_add, hstep hahead]
      omega
    | true =>
      rw [abs_of_pos (by omega), if_pos rfl]
      by_cases hbig : micros.toNat + c.offset.toNat + 10000 < remoteMicros.toNat
      · rw [if_pos (Or.inr (by omega)), if_pos hbig]
        dsimp only
        rw [UInt64.toNat_add, hstep hahead]
        omega
      · rw [if_neg (by simp; omega), if_neg hbig]
        dsimp only
        have hquarter : (4 : UInt64).toNat = 4 := rfl
        rw [UInt64.toNat_add, UInt64.toNat_div, hstep hahead, hquarter]
        omega
  · have hdamp : Gossip.damp 10000 4 (micros.toNat + c.offset.toNat) remoteMicros.toNat =
        micros.toNat + c.offset.toNat := Gossip.damp_of_le (by omega)
    unfold Gossip.damp at hdamp
    rw [if_neg hahead, if_neg hahead, max_eq_left (by omega), hdamp, ite_self]
    split_ifs <;> rfl

/-- **No packet pushes the offset to `2 ^ 56`.** -/
theorem adjust_offset_lt (hmicros : micros.toNat < 2 ^ 61) (hoffset : c.offset.toNat < 2 ^ 56)
    (hremote : remoteMicros.toNat < 2 ^ 56) : (c.adjust micros now remoteMicros).offset.toNat < 2 ^ 56 := by
  have hreading : (c.adjust micros now remoteMicros).reading micros.toNat =
      follow c.synced (c.reading micros.toNat) remoteMicros.toNat := adjust_reading (by omega) (by omega)
  have hmax := follow_le_max c.synced (c.reading micros.toNat) remoteMicros.toNat
  unfold reading at hreading hmax
  omega

/-! ## The loop -/

/-- Reads that do not change agree at once. -/
@[simp] theorem meshMicrosStable_const (v : UInt64) : meshMicrosStable (fun _ => v) = v := by
  unfold meshMicrosStable meshMicrosStable.go
  simp

variable (c now) in
/-- The loop leaves the time alone, and sends the beacon of that moment at most. -/
theorem loop_spec (entropy : ℕ) (read : ℕ → UInt64) :
    (c.loop now entropy read).1.offset = c.offset ∧ (c.loop now entropy read).1.synced = c.synced ∧
      (c.loop now entropy read).1.lastSync = c.lastSync ∧
      ∀ frame ∈ (c.loop now entropy read).2, frame = broadcast read := by
  unfold loop
  dsimp only
  split_ifs <;> refine ⟨rfl, rfl, rfl, fun frame h => ?_⟩ <;> simp_all

/-- **The stamp of a beacon** is the reading and the way it goes, modulo `2 ^ 56`. -/
theorem broadcast_stamp :
    (le56 (broadcast fun _ => c.meshMicros micros) 3).toNat =
      (c.reading micros.toNat + transmissionDelayUs.toNat) % 2 ^ 56 := by
  have hdelay : transmissionDelayUs.toNat = 1000 := rfl
  unfold broadcast
  rw [le56_meshClockPacket, meshMicrosStable_const]
  unfold meshMicros reading
  rw [UInt64.toNat_add, UInt64.toNat_add, hdelay]
  omega

theorem handleReceive_of_packet {data : List UInt8} (h : isMeshClockPacket data = true) :
    (c.handleReceive micros now data).1 = c.adjust micros now (le56 data 3) := by
  unfold handleReceive
  rw [if_pos h]

end MeshClock

end Nowde
