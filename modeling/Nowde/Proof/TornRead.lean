import Nowde.Lib.Clock
import Nowde.Spec.Receiver

/-!
# The torn-read guard

`meshMillisStable()` takes the first read that is less than 100 ms ahead of the one before it, as a
signed number. A read torn downwards is far behind the one before it, so it passes the test:

* `meshMillisStable_untorn_iff`: the value returned is an untorn read's exactly when the second read
  is not torn downwards, and the first and third are not both torn downwards.
-/

namespace Nowde

open WrapClock

/-- **The reads of one call**: each shows a mesh time, or one off by 2^32 µs, and no two in a row
are off. -/
structure ClockReads (time tear : ℕ → ℤ) (read : ℕ → UInt32) : Prop where
  reading : ∀ i < 5, read i = UInt32.ofInt (time i + tear i)
  mono : ∀ i < 4, time i ≤ time (i + 1)
  close : ∀ i < 4, time (i + 1) < time i + 100
  torn : ∀ i < 5, tear i = 0 ∨ 4294966 ≤ |tear i| ∧ |tear i| ≤ 4294968
  apart : ∀ i < 4, tear i = 0 ∨ tear (i + 1) = 0

/-- The value `v` is that of an untorn read of the call. -/
def Untorn (tear : ℕ → ℤ) (read : ℕ → UInt32) (v : UInt32) : Prop := ∃ i < 5, tear i = 0 ∧ v = read i

/-- `static_cast<int32_t>(b - a) < 100`, of read `i` and the next. -/
def agrees (read : ℕ → UInt32) (i : ℕ) : Prop := (read (i + 1) - read i).toInt32 < 100

instance (read : ℕ → UInt32) (i : ℕ) : Decidable (agrees read i) :=
  inferInstanceAs (Decidable ((read (i + 1) - read i).toInt32 < 100))

theorem meshMillisStable_eq (read : ℕ → UInt32) :
    meshMillisStable read =
      if agrees read 0 then read 1 else if agrees read 1 then read 2
      else if agrees read 2 then read 3 else read 4 := by
  simp only [meshMillisStable, meshMillisStable.go, ite_self, Nat.reduceAdd]
  rfl

section Reads

variable {time tear : ℕ → ℤ} {read : ℕ → UInt32} (h : ClockReads time tear read)

include h

/-- The tear of a read, with its sign. -/
theorem ClockReads.tear_cases {i : ℕ} (hi : i < 5) :
    tear i = 0 ∨ (4294966 ≤ tear i ∧ tear i ≤ 4294968) ∨ -4294968 ≤ tear i ∧ tear i ≤ -4294966 := by
  have := h.torn i hi
  rcases abs_cases (tear i) with ⟨habs, _⟩ | ⟨habs, _⟩ <;> omega

theorem ClockReads.time_le {i : ℕ} (hi : i < 5) : time 0 ≤ time i ∧ time i < time 0 + 500 := by
  suffices time 0 ≤ time i ∧ time i ≤ time 0 + 100 * i by omega
  induction i with
  | zero => simp
  | succ i ih =>
    have hmono := h.mono i (by omega)
    have hclose := h.close i (by omega)
    have := ih (by omega)
    push_cast
    omega

/-- **Two reads agree exactly when the second is not torn upwards against the first.** -/
theorem ClockReads.agrees_iff {i : ℕ} (hi : i < 4) : agrees read i ↔ tear (i + 1) ≤ tear i := by
  have hmono := h.mono i hi
  have hclose := h.close i hi
  have hapart := h.apart i hi
  have hfst := h.tear_cases (by omega : i < 5)
  have hsnd := h.tear_cases (by omega : i + 1 < 5)
  unfold agrees
  rw [h.reading i (by omega), h.reading (i + 1) (by omega),
    toInt32_sub_lt_iff 100 (by omega) (by omega), show (100 : Int32).toInt = 100 from rfl]
  omega

/-- A torn read shows no untorn read's value. -/
theorem ClockReads.untorn_read_iff {i : ℕ} (hi : i < 5) : Untorn tear read (read i) ↔ tear i = 0 := by
  refine ⟨?_, fun hz => ⟨i, hi, hz, rfl⟩⟩
  rintro ⟨j, hj, hz, heq⟩
  by_contra hne
  have hti := h.time_le hi
  have htj := h.time_le hj
  have hcases := h.tear_cases hi
  rw [h.reading i hi, h.reading j hj, hz] at heq
  exact ofInt_ne (by omega) (by omega) (by omega) heq

/-- **The guard holds exactly when no downward tear passes it**: not in the second read, and not in
the third behind one in the first. -/
theorem meshMillisStable_untorn_iff :
    Untorn tear read (meshMillisStable read) ↔ ¬tear 1 < 0 ∧ ¬(tear 0 < 0 ∧ tear 2 < 0) := by
  have a0 : tear 0 = 0 ∨ tear 1 = 0 := h.apart 0 (by omega)
  have a1 : tear 1 = 0 ∨ tear 2 = 0 := h.apart 1 (by omega)
  have a2 : tear 2 = 0 ∨ tear 3 = 0 := h.apart 2 (by omega)
  have t0 := h.tear_cases (by omega : 0 < 5)
  have t1 := h.tear_cases (by omega : 1 < 5)
  have t2 := h.tear_cases (by omega : 2 < 5)
  rw [meshMillisStable_eq]
  simp only [h.agrees_iff (by omega : 0 < 4), h.agrees_iff (by omega : 1 < 4), h.agrees_iff (by omega : 2 < 4),
    Nat.zero_add, Nat.reduceAdd]
  -- the read returned is the first that is not torn upwards against the one before it
  split_ifs with h01 h12 h23
  · rw [h.untorn_read_iff (by omega)]
    omega
  · rw [h.untorn_read_iff (by omega)]
    omega
  · rw [h.untorn_read_iff (by omega)]
    omega
  · omega

end Reads

/-- Reads a millisecond apart from ten seconds on, the one at `k` off by `d`. -/
def readsFrom (k : ℕ) (d : ℤ) (i : ℕ) : UInt32 := UInt32.ofInt (10000 + i + if i = k then d else 0)

theorem clockReads_readsFrom (k : ℕ) {d : ℤ} (hd : d = 4294967 ∨ d = -4294967) :
    ClockReads (fun i => 10000 + i) (fun i => if i = k then d else 0) (readsFrom k d) where
  reading _ _ := rfl
  mono _ _ := by simp
  close i _ := by
    push_cast
    omega
  torn i _ := by
    rcases hd with rfl | rfl <;> by_cases hik : i = k <;> simp [hik]
  apart i _ := by
    by_cases hik : i = k
    · right
      simp [hik]
    · left
      simp [hik]

/-- A second read torn upwards is passed over. -/
theorem meshMillisStable_untorn_upwards :
    Untorn (fun i => if i = 1 then 4294967 else 0) (readsFrom 1 4294967)
      (meshMillisStable (readsFrom 1 4294967)) :=
  (meshMillisStable_untorn_iff (clockReads_readsFrom 1 (Or.inl rfl))).2 (by decide)

/-- A second read torn downwards is returned. -/
theorem meshMillisStable_torn_downwards :
    ClockReads (fun i => 10000 + i) (fun i => if i = 1 then -4294967 else 0) (readsFrom 1 (-4294967)) ∧
      ¬Untorn (fun i => if i = 1 then -4294967 else 0) (readsFrom 1 (-4294967))
        (meshMillisStable (readsFrom 1 (-4294967))) := by
  have h := clockReads_readsFrom 1 (d := -4294967) (Or.inr rfl)
  refine ⟨h, ?_⟩
  have hread : meshMillisStable (readsFrom 1 (-4294967)) = readsFrom 1 (-4294967) 1 := by decide +kernel
  rw [hread, h.untorn_read_iff (by omega)]
  decide

end Nowde
