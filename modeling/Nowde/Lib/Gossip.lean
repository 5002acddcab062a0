import Mathlib.Algebra.BigOperators.Group.List.Basic
import Mathlib.Algebra.Order.Group.Nat
import Mathlib.Logic.Function.Basic
import Mathlib.Tactic.Linarith
import Mathlib.Tactic.Ring
import Nowde.Lib.Run

/-!
# Clocks that follow the fastest

A party that hears a later time than its own moves its clock forward, never past what it heard, and
nothing else moves it but its own running. A party that passes its time on adds `delay` to it, for the
way; a stamp that was faster than that is ahead of the clock it came from.

* `damp`: forward by the whole step when it is large, by one part in `q` otherwise.
* `damp_lag`, `shrink_succ`: a lag that shrinks by a factor with every step, down to what rounding leaves.
* `Bound.run`: against a reference that no clock outruns, the clocks gain no more than the stamps did
  that arrived too early.
-/

namespace Gossip

/-! ## A step forward -/

/-- Forward from `m` to `r` when it is more than `large` away, and by one part in `q` otherwise. -/
def damp (large q m r : ℕ) : ℕ := if m + large < r then r else m + (r - m) / q

section Damp

variable {large q m r : ℕ}

theorem le_damp : m ≤ damp large q m r := by
  unfold damp
  split_ifs
  · omega
  · exact Nat.le_add_right _ _

theorem damp_le_max : damp large q m r ≤ max m r := by
  unfold damp
  split_ifs with h
  · exact le_max_right _ _
  · have hdiv := Nat.div_le_self (r - m) q
    omega

theorem damp_of_le (h : r ≤ m) : damp large q m r = m := by
  unfold damp
  rw [if_neg (by omega), Nat.sub_eq_zero_of_le h, Nat.zero_div, Nat.add_zero]

/-- **One part in `q` is made up**, but for the `q - 1` that rounding leaves. -/
theorem damp_lag (hq : 0 < q) : q * (r - damp large q m r - (q - 1)) ≤ (q - 1) * (r - m - (q - 1)) := by
  obtain ⟨k, rfl⟩ : ∃ k, q = k + 1 := ⟨q - 1, by omega⟩
  have hk : k + 1 - 1 = k := rfl
  rw [hk]
  unfold damp
  split_ifs
  · rw [Nat.sub_self, Nat.zero_sub, Nat.mul_zero]
    exact Nat.zero_le _
  · -- `l - d` is left of a lag `l`, where `(k + 1) * d` is within `k` of `l`
    have hdiv := Nat.div_add_mod (r - m) (k + 1)
    have hmod := Nat.mod_lt (r - m) hq
    rw [Nat.sub_add_eq]
    generalize r - m = l at *
    generalize l / (k + 1) = d at *
    rcases Nat.lt_or_ge l (d + k) with hsmall | hbig
    · rw [Nat.sub_eq_zero_of_le (by omega : l - d ≤ k), Nat.mul_zero]
      exact Nat.zero_le _
    · obtain ⟨e, rfl⟩ := Nat.exists_eq_add_of_le hbig
      rw [show d + k + e - d - k = e by omega, show d + k + e - k = d + e by omega]
      have hexp : (k + 1) * e = k * e + e := by ring
      have hexp' : (k + 1) * d = k * d + d := by ring
      rw [Nat.mul_add]
      omega

end Damp

/-! ## A lag that shrinks -/

/-- A lag that loses one part in `q` of what is above the floor with every step, `p` parts being left. -/
theorem shrink_succ {p q lag lag' first n : ℕ} (hstep : q * lag' ≤ p * lag) (h : q ^ n * lag ≤ p ^ n * first) :
    q ^ (n + 1) * lag' ≤ p ^ (n + 1) * first :=
  calc q ^ (n + 1) * lag' = q ^ n * (q * lag') := by ring
    _ ≤ q ^ n * (p * lag) := Nat.mul_le_mul_left _ hstep
    _ = p * (q ^ n * lag) := by ring
    _ ≤ p * (p ^ n * first) := Nat.mul_le_mul_left _ h
    _ = p ^ (n + 1) * first := by ring

/-! ## A network of clocks -/

/-- A time passed on, and the reference time at which it left. -/
structure Stamp where
  value : ℕ
  sent : ℕ

/-- The clocks of a network and the stamps sent so far, beside the reference time. -/
structure State (ι : Type*) where
  now : ℕ
  reading : ι → ℕ
  sent : List Stamp

/-- How far a stamp that arrives at `now` can be ahead of the clock it came from. -/
def Stamp.early (delay now : ℕ) (t : Stamp) : ℕ := delay - (now - t.sent)

variable {ι : Type*} {delay lead gain : ℕ} {s s' : State ι}

/-- One step of the network, and what the stamp in it gains. -/
inductive Step [DecidableEq ι] (delay : ℕ) (s : State ι) : State ι → ℕ → Prop
  /-- Time passes, and no clock outruns the reference. -/
  | pass (δ : ℕ) (reading : ι → ℕ) (hreading : ∀ i, reading i ≤ s.reading i + δ) :
      Step delay s { s with now := s.now + δ, reading := reading } 0
  /-- A clock is passed on, `delay` ahead at most. -/
  | send (i : ι) (value : ℕ) (hvalue : value ≤ s.reading i + delay) :
      Step delay s { s with sent := s.sent ++ [⟨value, s.now⟩] } 0
  /-- A clock follows a stamp. -/
  | hear (i : ι) (t : Stamp) (ht : t ∈ s.sent) (m : ℕ) (hm : m ≤ max (s.reading i) t.value) :
      Step delay s { s with reading := Function.update s.reading i m } (t.early delay s.now)
  /-- A clock falls back. -/
  | fall (i : ι) (m : ℕ) (hm : m ≤ s.reading i) : Step delay s { s with reading := Function.update s.reading i m } 0
  | idle : Step delay s s 0

/-- No clock is ahead of the reference by more than `lead`, nor was any that a stamp came from. -/
structure Bound (delay lead : ℕ) (s : State ι) : Prop where
  reading : ∀ i, s.reading i ≤ s.now + lead
  value : ∀ t ∈ s.sent, t.value ≤ t.sent + lead + delay
  past : ∀ t ∈ s.sent, t.sent ≤ s.now

/-- What a stamp shows on arrival. -/
theorem Bound.arrived (h : Bound delay lead s) {t : Stamp} (ht : t ∈ s.sent) :
    t.value ≤ s.now + lead + t.early delay s.now := by
  have hvalue := h.value t ht
  have hpast := h.past t ht
  unfold Stamp.early
  omega

theorem Bound.mono (h : Bound delay lead s) {lead' : ℕ} (hle : lead ≤ lead') : Bound delay lead' s where
  reading i := (h.reading i).trans (by omega)
  value t ht := (h.value t ht).trans (by omega)
  past := h.past

variable [DecidableEq ι]

/-- **One step** puts no clock further ahead than its stamp gains. -/
theorem Bound.step (h : Bound delay lead s) (hstep : Step delay s s' gain) : Bound delay (lead + gain) s' := by
  cases hstep with
  | pass δ reading hreading =>
    refine ⟨fun i => ?_, h.value, fun t ht => (h.past t ht).trans (Nat.le_add_right _ _)⟩
    have hold := h.reading i
    have hnew := hreading i
    dsimp only
    omega
  | send i value hvalue =>
    refine ⟨h.reading, fun t ht => ?_, fun t ht => ?_⟩
    · rcases List.mem_append.1 ht with hold | hnew
      · exact h.value t hold
      · rw [List.mem_singleton.1 hnew]
        have hreading := h.reading i
        dsimp only
        omega
    · rcases List.mem_append.1 ht with hold | hnew
      · exact h.past t hold
      · rw [List.mem_singleton.1 hnew]
  | hear i t ht m hm =>
    have harrived := h.arrived ht
    have hmono := h.mono (Nat.le_add_right lead (t.early delay s.now))
    refine ⟨fun j => ?_, hmono.value, hmono.past⟩
    by_cases hj : j = i
    · subst hj
      have hreading := h.reading j
      simp only [Function.update_self]
      omega
    · simp only [Function.update_of_ne hj]
      exact hmono.reading j
  | fall i m hm =>
    refine ⟨fun j => ?_, h.value, h.past⟩
    by_cases hj : j = i
    · subst hj
      simp only [Function.update_self]
      exact hm.trans (h.reading j)
    · simp only [Function.update_of_ne hj]
      exact h.reading j
  | idle => exact h

/-- **A run** of a machine whose steps are the network's: what the clocks gain is what its stamps do. -/
theorem Bound.run {σ ε : Type*} {step : σ → ε → σ × List ℕ} {image : σ → State ι} {G : σ → ε → Prop} (I : σ → Prop)
    (hstep : ∀ s e, I s → G s e → I (step s e).1 ∧ Step delay (image s) (image (step s e).1) (step s e).2.sum)
    {s : σ} (hI : I s) (h : Bound delay lead (image s)) {es : List ε} (hguard : Mealy.Guarded step G s es) :
    Bound delay (lead + (Mealy.run step s es).2.sum) (image (Mealy.run step s es).1) := by
  have hinv : I (Mealy.run step s es).1 ∧
      Bound delay (lead + ([] ++ (Mealy.run step s es).2).sum) (image (Mealy.run step s es).1) := by
    refine Mealy.trace_inv (fun s out => I s ∧ Bound delay (lead + out.sum) (image s)) ?_
      ⟨hI, h.mono (Nat.le_add_right _ _)⟩ hguard
    intro s out e hs hG
    obtain ⟨hI', hmove⟩ := hstep s e hs.1 hG
    rw [List.sum_append, ← Nat.add_assoc]
    exact ⟨hI', hs.2.step hmove⟩
  exact hinv.2

end Gossip
