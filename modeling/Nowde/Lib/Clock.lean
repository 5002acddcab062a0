import Mathlib.Algebra.Order.Ring.Int
import Mathlib.Data.Nat.Basic
import Mathlib.Tactic.Common

/-!
# Clocks that wrap

A free-running counter modulo `M` is compared by unsigned subtraction. `wrapDiff` is that
subtraction on two readings of unbounded true times, and the lemmas say what it measures:
the elapsed time when the past reading really is in the past (`wrapDiff_of_le`), and a value
close to `M` when it is not (`wrapDiff_of_lt`). `fires_imp_old_iff` is what that means for a
timeout. Readings compared as they are tell the truth within one turn of the clock only
(`mod_le_mod_iff_iff`). A difference read as a signed number is the true one on either side of
zero (`toInt_toInt32_ofInt`).
-/

namespace WrapClock

/-- The unsigned difference `now - past` of two readings modulo `M`. -/
def wrapDiff (M now past : ℕ) : ℕ := (M - past % M + now % M) % M

variable {M now past d : ℕ}

theorem wrapDiff_add (hM : 0 < M) (past d : ℕ) : wrapDiff M (past + d) past = d % M := by
  unfold wrapDiff
  have hp := Nat.mod_lt past hM
  have hd := Nat.mod_lt d hM
  rw [Nat.add_mod past d M]
  rcases Nat.lt_or_ge (past % M + d % M) M with h | h
  · rw [Nat.mod_eq_of_lt h, show M - past % M + (past % M + d % M) = d % M + M by omega,
      Nat.add_mod_right, Nat.mod_mod]
  · rw [Nat.mod_eq_sub_mod h, Nat.mod_eq_of_lt (by omega : past % M + d % M - M < M),
      show M - past % M + (past % M + d % M - M) = d % M by omega, Nat.mod_mod]

/-- A reading from the past is as old as the wrapped clock can tell. -/
theorem wrapDiff_of_le (hM : 0 < M) (h : past ≤ now) : wrapDiff M now past = (now - past) % M := by
  obtain ⟨d, rfl⟩ := Nat.exists_eq_add_of_le h
  rw [wrapDiff_add hM, Nat.add_sub_cancel_left]

/-- The measured age of a past reading is never more than its true age. -/
theorem wrapDiff_le (hM : 0 < M) (h : past ≤ now) : wrapDiff M now past ≤ now - past := by
  rw [wrapDiff_of_le hM h]
  exact Nat.mod_le _ _

/-- **A reading from the future looks almost one turn old.** -/
theorem wrapDiff_of_lt (h : now < past) (hlt : past < now + M) :
    wrapDiff M now past = M - (past - now) := by
  unfold wrapDiff
  obtain ⟨d, rfl⟩ := Nat.exists_eq_add_of_lt h
  have hM : 0 < M := by omega
  have hn := Nat.mod_lt now hM
  have hd : d + 1 < M := by omega
  rw [show now + d + 1 = now + (d + 1) by omega, Nat.add_mod now (d + 1) M, Nat.mod_eq_of_lt hd]
  rcases Nat.lt_or_ge (now % M + (d + 1)) M with h1 | h1
  · rw [Nat.mod_eq_of_lt h1, show M - (now % M + (d + 1)) + now % M = M - (d + 1) by omega,
      Nat.mod_eq_of_lt (by omega)]
    omega
  · rw [Nat.mod_eq_sub_mod h1, Nat.mod_eq_of_lt (by omega : now % M + (d + 1) - M < M),
      show M - (now % M + (d + 1) - M) + now % M = M - (d + 1) + M by omega, Nat.add_mod_right,
      Nat.mod_eq_of_lt (by omega)]
    omega

/-- A stamp later than the sample it is compared with, made at most `T` ago. -/
def LateStamp (M T sample stamp now : ℕ) : Prop := sample < stamp ∧ now ≤ stamp + T ∧ stamp + T < sample + M

instance (M T sample stamp now : ℕ) : Decidable (LateStamp M T sample stamp now) :=
  inferInstanceAs (Decidable (_ ∧ _ ∧ _))

/-- **A timeout is not early exactly when its stamp is not late**: a comparison of a stamp with a
sample taken earlier than now fires only when the stamp is older than `T`, unless the stamp was
made after the sample. -/
theorem fires_imp_old_iff {T sample stamp now : ℕ} (hsample : sample ≤ now) (hgap : now < sample + M)
    (hstamp : stamp ≤ now) :
    (T < wrapDiff M sample stamp → T < now - stamp) ↔ ¬LateStamp M T sample stamp now := by
  have hM : 0 < M := by omega
  unfold LateStamp
  rcases Nat.lt_or_ge sample stamp with hlate | hpast
  · rw [wrapDiff_of_lt hlate (by omega)]
    omega
  · have hle := wrapDiff_le hM hpast
    omega

/-- Readings of one turn compare as their times do. -/
theorem mod_le_mod_iff_of_div_eq {s t : ℕ} (h : s / M = t / M) : s % M ≤ t % M ↔ s ≤ t := by
  have hs := Nat.div_add_mod s M
  have ht := Nat.div_add_mod t M
  rw [h] at hs
  omega

/-- **Readings compared as they are** compare the times exactly when these lie in the same turn. -/
theorem mod_le_mod_iff_iff {s t : ℕ} (hst : s < t + M) (hts : t < s + M) :
    (s % M ≤ t % M ↔ s ≤ t) ↔ s / M = t / M := by
  refine ⟨fun h => ?_, mod_le_mod_iff_of_div_eq⟩
  have hs := Nat.div_add_mod s M
  have ht := Nat.div_add_mod t M
  have hM : 0 < M := by omega
  have hsM := Nat.mod_lt s hM
  have htM := Nat.mod_lt t hM
  rcases Nat.lt_trichotomy (s / M) (t / M) with hlt | heq | hgt
  · have hle := Nat.mul_le_mul_left M (Nat.succ_le_of_lt hlt)
    rw [Nat.mul_succ] at hle
    omega
  · exact heq
  · have hle := Nat.mul_le_mul_left M (Nat.succ_le_of_lt hgt)
    rw [Nat.mul_succ] at hle
    omega

/-- Subtraction of two 32-bit readings is `wrapDiff` at `2 ^ 32`. -/
theorem toNat_ofNat_sub_ofNat (now past : ℕ) :
    (UInt32.ofNat now - UInt32.ofNat past).toNat = wrapDiff (2 ^ 32) now past := by
  rw [UInt32.toNat_sub, UInt32.toNat_ofNat', UInt32.toNat_ofNat']
  rfl

/-- **The age of a past reading** is its true age, modulo one turn. -/
theorem toNat_ofNat_sub_ofNat_of_le (h : past ≤ now) :
    (UInt32.ofNat now - UInt32.ofNat past).toNat = (now - past) % 2 ^ 32 := by
  rw [toNat_ofNat_sub_ofNat, wrapDiff_of_le (by decide) h]

/-! ## Signed differences -/

section Signed

/-- The reading of a 32-bit counter at an integer time, as bits. -/
theorem toBitVec_ofInt (t : ℤ) : (UInt32.ofInt t).toBitVec = BitVec.ofInt 32 t := by
  apply BitVec.eq_of_toNat_eq
  rw [BitVec.toNat_ofInt, UInt32.toNat_toBitVec]
  unfold UInt32.ofInt
  rw [UInt32.toNat_ofNat']
  omega

theorem ofInt_natCast (n : ℕ) : UInt32.ofInt n = UInt32.ofNat n := by
  apply UInt32.eq_of_toBitVec_eq
  rw [toBitVec_ofInt, BitVec.ofInt_natCast]
  rfl

theorem ofInt_sub (s t : ℤ) : UInt32.ofInt (s - t) = UInt32.ofInt s - UInt32.ofInt t := by
  rw [Int.sub_eq_add_neg, UInt32.ofInt_add, UInt32.ofInt_neg, UInt32.sub_eq_add_neg]

/-- A signed value turned back into a reading. -/
theorem toUInt32_eq_ofInt (x : Int32) : x.toUInt32 = UInt32.ofInt x.toInt := by
  apply UInt32.eq_of_toBitVec_eq
  rw [toBitVec_ofInt, ← Int32.toInt_toBitVec, BitVec.ofInt_toInt]
  rfl

/-- Every reading is that of its signed value. -/
theorem ofInt_toInt (x : UInt32) : UInt32.ofInt x.toInt32.toInt = x := by
  rw [← toUInt32_eq_ofInt]
  rfl

/-- **A signed difference is the true one** as long as it fits into 31 bits and a sign. -/
theorem toInt_toInt32_ofInt {t : ℤ} (hlo : -2 ^ 31 ≤ t) (hhi : t < 2 ^ 31) :
    (UInt32.ofInt t).toInt32.toInt = t := by
  rw [← Int32.toInt_toBitVec, UInt32.toBitVec_toInt32, toBitVec_ofInt, BitVec.toInt_ofInt]
  apply Int.bmod_eq_of_le_mul_two <;> push_cast <;> omega

/-- Two readings are told apart as long as their times are. -/
theorem ofInt_ne {s t : ℤ} (hne : s ≠ t) (hlo : -2 ^ 31 ≤ s - t) (hhi : s - t < 2 ^ 31) :
    UInt32.ofInt s ≠ UInt32.ofInt t := by
  intro h
  have hzero : UInt32.ofInt (s - t) = UInt32.ofInt 0 := by
    rw [ofInt_sub, h, UInt32.sub_self]
    rfl
  have htoInt := congrArg (fun x : UInt32 => x.toInt32.toInt) hzero
  simp only [toInt_toInt32_ofInt hlo hhi, toInt_toInt32_ofInt (by omega : -2 ^ 31 ≤ (0 : ℤ)) (by omega)] at htoInt
  omega

/-- A comparison of a signed difference is one of the true times. -/
theorem toInt32_sub_lt_iff {s t : ℤ} (c : Int32) (hlo : -2 ^ 31 ≤ s - t) (hhi : s - t < 2 ^ 31) :
    (UInt32.ofInt s - UInt32.ofInt t).toInt32 < c ↔ s - t < c.toInt := by
  rw [← ofInt_sub, Int32.lt_iff_toInt_lt, toInt_toInt32_ofInt hlo hhi]

/-- A signed difference of 64-bit readings is the true one, away from the sign bit. -/
theorem toInt_toInt64_sub {a b : UInt64} (ha : a.toNat < 2 ^ 63) (hb : b.toNat < 2 ^ 63) :
    (a - b).toInt64.toInt = (a.toNat : ℤ) - b.toNat := by
  rw [← Int64.toInt_toBitVec, UInt64.toBitVec_toInt64, UInt64.toBitVec_sub, BitVec.toInt_sub,
    BitVec.toInt_eq_toNat_of_lt (by rw [UInt64.toNat_toBitVec]; omega),
    BitVec.toInt_eq_toNat_of_lt (by rw [UInt64.toNat_toBitVec]; omega), UInt64.toNat_toBitVec, UInt64.toNat_toBitVec]
  apply Int.bmod_eq_of_le_mul_two <;> push_cast <;> omega

theorem toNat_toUInt64_of_nonneg {x : Int64} (h : 0 ≤ x.toInt) : x.toUInt64.toNat = x.toInt.toNat := by
  have hcond := BitVec.toInt_eq_toNat_cond x.toBitVec
  have hx : x.toUInt64.toNat = x.toBitVec.toNat := rfl
  have hlt := x.toBitVec.isLt
  rw [Int64.toInt_toBitVec] at hcond
  rw [hx]
  split_ifs at hcond <;> omega

theorem toInt_abs64 {x : Int64} (h : x.toInt ≠ -2 ^ 63) : x.abs.toInt = |x.toInt| := by
  rw [← Int64.toInt_toBitVec, Int64.toBitVec_abs, BitVec.toInt_abs_eq_ite, ← Int64.toInt_toBitVec]
  have hmin : x.toBitVec = BitVec.intMin 64 ↔ x.toBitVec.toInt = -2 ^ 63 := by
    rw [← BitVec.toInt_inj]
    rfl
  have hsign : x.toBitVec.msb = decide (x.toBitVec.toInt < 0) := BitVec.msb_eq_toInt
  rw [← Int64.toInt_toBitVec] at h
  simp only [hmin, hsign, decide_eq_true_eq]
  split_ifs with h1 h2
  · exact absurd h1 h
  · rw [abs_of_neg h2]
  · rw [abs_of_nonneg (by omega)]

theorem toInt_abs (x : Int32) : x.abs.toInt = if x.toInt = -2 ^ 31 then -2 ^ 31 else |x.toInt| := by
  rw [← Int32.toInt_toBitVec, Int32.toBitVec_abs, BitVec.toInt_abs_eq_ite, ← Int32.toInt_toBitVec]
  have hmin : x.toBitVec = BitVec.intMin 32 ↔ x.toBitVec.toInt = -2 ^ 31 := by
    rw [← BitVec.toInt_inj]
    rfl
  have hsign : x.toBitVec.msb = decide (x.toBitVec.toInt < 0) := BitVec.msb_eq_toInt
  simp only [hmin, hsign, decide_eq_true_eq]
  split_ifs with h1 h2
  · rfl
  · rw [abs_of_neg h2]
  · rw [abs_of_nonneg (by omega)]

end Signed

end WrapClock
