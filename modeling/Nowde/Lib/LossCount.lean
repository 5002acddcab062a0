import Nowde.Lib.Clock
import Mathlib.Order.Interval.Finset.Nat
import Mathlib.Data.Finset.Card

/-!
# Counting losses in a numbered stream

A receiver sees the numbers of a stream modulo `M` and charges the gap between two numbers it
counts one after the other, if the gap is not too large. `Tally` keeps what really happened:
which numbers were heard, counted or not, and which were skipped by a charged gap.

* `Sound`: no more was charged than skipped, and nothing skipped was heard.
* `Sound.charged_le_missed`: then no more was charged than missed.
-/

namespace LossCount

/-- The charge for counting `k` after `l`, by unsigned subtraction modulo `M`. -/
def charge (M maxGap l k : ℕ) : ℕ :=
  let gap := WrapClock.wrapDiff M k (l + 1)
  if 0 < gap ∧ gap ≤ maxGap then gap else 0

structure Tally where
  first : Option ℕ := none
  last : Option ℕ := none
  heard : Finset ℕ := ∅
  skipped : Finset ℕ := ∅
  charged : ℕ := 0

namespace Tally

variable (M maxGap : ℕ) (t : Tally) (k : ℕ)

/-- A number that is heard but not counted. -/
def hear : Tally := { t with heard := insert k t.heard }

/-- A number that is counted. -/
def count : Tally :=
  match t.last with
  | none => { t.hear k with first := some k, last := some k }
  | some l =>
    { t.hear k with
      last := some k
      charged := t.charged + charge M maxGap l k
      skipped := if charge M maxGap l k = 0 then t.skipped else t.skipped ∪ Finset.Ioo l k }

/-- What is counted comes in order, and a charged gap skips nothing that was heard. -/
def Orderly : Prop :=
  ∀ l ∈ t.last, l ≤ k ∧ (charge M maxGap l k ≠ 0 → ∀ j ∈ Finset.Ioo l k, j ∉ t.heard)

/-- The numbers below `n` that were missed since the first one counted. -/
def missed (n : ℕ) : Finset ℕ :=
  match t.first with
  | none => ∅
  | some f => (Finset.Ioo f n).filter (· ∉ t.heard)

instance : Decidable (t.Orderly M maxGap k) :=
  match h : t.last with
  | none => isTrue (by intro l hl; rw [h] at hl; cases hl)
  | some l =>
    decidable_of_iff (l ≤ k ∧ (charge M maxGap l k ≠ 0 → ∀ j ∈ Finset.Ioo l k, j ∉ t.heard)) (by
      unfold Orderly
      rw [h]
      simp only [Option.mem_some_iff, forall_eq'])

structure Sound : Prop where
  charged_le : t.charged ≤ t.skipped.card
  unheard : ∀ j ∈ t.skipped, j ∉ t.heard
  between : ∀ j ∈ t.skipped, (∃ f ∈ t.first, f < j) ∧ ∃ l ∈ t.last, j < l
  order : ∀ l ∈ t.last, ∃ f ∈ t.first, f ≤ l

end Tally

variable {M maxGap : ℕ} {t : Tally} {k l : ℕ}

/-- Only a gap of that size, or of that size and some turns, is charged. -/
theorem charge_le (hM : 0 < M) (h : l < k) : charge M maxGap l k ≤ k - l - 1 := by
  unfold charge
  dsimp only
  split
  · have hle := WrapClock.wrapDiff_le hM (show l + 1 ≤ k by omega)
    omega
  · omega

/-- A duplicate is not charged. -/
theorem charge_self (hM : 1 < M) (hmax : maxGap < M - 1) : charge M maxGap l l = 0 := by
  unfold charge
  dsimp only
  rw [WrapClock.wrapDiff_of_lt (show l < l + 1 by omega) (by omega)]
  rw [if_neg (by omega)]

/-- Nothing counted yet. -/
theorem sound_empty : Tally.Sound {} where
  charged_le := Nat.zero_le _
  unheard j hj := absurd hj (Finset.notMem_empty j)
  between j hj := absurd hj (Finset.notMem_empty j)
  order l hl := by cases hl

namespace Tally.Sound

/-- Hearing a number that no charged gap has skipped. -/
theorem hear (h : t.Sound) (hk : k ∉ t.skipped) : (t.hear k).Sound where
  charged_le := h.charged_le
  unheard j hj := by
    have hne : j ≠ k := fun hjk => hk (hjk ▸ hj)
    simp only [Tally.hear, Finset.mem_insert, not_or]
    exact ⟨hne, h.unheard j hj⟩
  between := h.between
  order := h.order

/-- Counting a number in order. -/
theorem count (hM : 1 < M) (hmax : maxGap < M - 1) (h : t.Sound) (hk : t.Orderly M maxGap k) :
    (t.count M maxGap k).Sound := by
  unfold Tally.count
  cases hlast : t.last with
  | none =>
    -- nothing is skipped before the first number
    have hnone : ∀ j, j ∉ t.skipped := by
      intro j hj
      obtain ⟨-, l, hl, -⟩ := h.between j hj
      rw [hlast] at hl
      cases hl
    exact
      { charged_le := h.charged_le
        unheard := fun j hj => absurd hj (hnone j)
        between := fun j hj => absurd hj (hnone j)
        order := fun l hl => ⟨k, rfl, by cases hl; exact le_refl _⟩ }
  | some l =>
    obtain ⟨hlk, hclear⟩ := hk l hlast
    obtain ⟨f, hf, hfl⟩ := h.order l hlast
    have hold : ∀ j ∈ t.skipped, j < l := by
      intro j hj
      obtain ⟨-, l', hl', hjl⟩ := h.between j hj
      rw [hlast] at hl'
      cases hl'
      exact hjl
    have hfirst : ∀ j ∈ t.skipped, ∃ f ∈ t.first, f < j := fun j hj => (h.between j hj).1
    have hheard : ∀ j, j ≠ k → j ∉ t.heard → j ∉ (t.hear k).heard := by
      intro j hjk hj
      simp only [Tally.hear, Finset.mem_insert, not_or]
      exact ⟨hjk, hj⟩
    by_cases hc : charge M maxGap l k = 0
    · simp only [hc, if_true, Nat.add_zero]
      exact
        { charged_le := h.charged_le
          unheard := fun j hj => hheard j (by have := hold j hj; omega) (h.unheard j hj)
          between := fun j hj => ⟨hfirst j hj, k, rfl, by have := hold j hj; omega⟩
          order := fun l' hl' => ⟨f, hf, by cases hl'; omega⟩ }
    · have hlt : l < k := by
        rcases Nat.lt_or_ge l k with hlt | hge
        · exact hlt
        · have heq : l = k := by omega
          exact absurd (heq ▸ charge_self hM hmax) hc
      simp only [hc, if_false]
      exact
        { charged_le := by
            have hdisj : Disjoint t.skipped (Finset.Ioo l k) := by
              rw [Finset.disjoint_left]
              intro j hj hio
              have := hold j hj
              rw [Finset.mem_Ioo] at hio
              omega
            have hcharge : charge M maxGap l k ≤ k - l - 1 := charge_le (by omega) hlt
            have hle := h.charged_le
            rw [Finset.card_union_of_disjoint hdisj, Nat.card_Ioo]
            show t.charged + _ ≤ _
            omega
          unheard := by
            intro j hj
            rcases Finset.mem_union.1 hj with hj | hj
            · exact hheard j (by have := hold j hj; omega) (h.unheard j hj)
            · have hjk := Finset.mem_Ioo.1 hj
              exact hheard j (by omega) (hclear hc j hj)
          between := by
            intro j hj
            rcases Finset.mem_union.1 hj with hj | hj
            · exact ⟨hfirst j hj, k, rfl, by have := hold j hj; omega⟩
            · have hjk := Finset.mem_Ioo.1 hj
              exact ⟨⟨f, hf, by omega⟩, k, rfl, by omega⟩
          order := fun l' hl' => ⟨f, hf, by cases hl'; omega⟩ }

/-- **No more is charged than missed.** -/
theorem charged_le_missed (h : t.Sound) {n : ℕ} (hn : ∀ l ∈ t.last, l < n) :
    t.charged ≤ (t.missed n).card := by
  refine le_trans h.charged_le (Finset.card_le_card ?_)
  intro j hj
  obtain ⟨⟨f, hf, hfj⟩, l, hl, hjl⟩ := h.between j hj
  unfold Tally.missed
  rw [hf]
  have := hn l hl
  exact Finset.mem_filter.2 ⟨Finset.mem_Ioo.2 ⟨hfj, by omega⟩, h.unheard j hj⟩

end Tally.Sound

end LossCount
