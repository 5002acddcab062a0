import Mathlib.Data.Finset.Card
import Mathlib.Data.Fintype.Card
import Mathlib.Algebra.BigOperators.Group.Finset.Basic
import Mathlib.Algebra.Order.BigOperators.Group.Finset
import Mathlib.Algebra.Order.BigOperators.Ring.Finset

/-!
# Cascades

Some items bring about others: an item may have a parent, and each is the work of an actor. When
no actor answers the same parent twice, and none answers itself, an item has fewer children than
there are actors, so `h` generations on it has at most `(n - 1) ^ h` descendants among `n` actors.

* `card_generation_le`: the size of one generation.
* `card_descendants_le`: the size of all generations up to a depth.
-/

namespace Cascade

variable {κ ι : Type*} [DecidableEq κ] {items : Finset κ} {parent : κ → Option κ} {actor : κ → ι}

/-- No actor answers itself, or one parent twice. -/
structure Spreads (items : Finset κ) (parent : κ → Option κ) (actor : κ → ι) : Prop where
  once : ∀ x ∈ items, ∀ y ∈ items, ∀ z, parent x = some z → parent y = some z → actor x = actor y → x = y
  other : ∀ x ∈ items, ∀ z, parent x = some z → actor x ≠ actor z

/-- The items `h` generations after a root. -/
def generation (items : Finset κ) (parent : κ → Option κ) (root : κ) : ℕ → Finset κ
  | 0 => {root}
  | h + 1 => items.filter fun x => ∃ z ∈ generation items parent root h, parent x = some z

/-- The items from the first to the `depth`-th generation after a root. -/
def descendants (items : Finset κ) (parent : κ → Option κ) (root : κ) (depth : ℕ) : Finset κ :=
  (Finset.range depth).biUnion fun h => generation items parent root (h + 1)

theorem mem_generation_succ {root x : κ} {h : ℕ} : x ∈ generation items parent root (h + 1) ↔
    x ∈ items ∧ ∃ z ∈ generation items parent root h, parent x = some z := by
  rw [generation, Finset.mem_filter]

variable [Fintype ι]

/-- An item has fewer children than there are actors. -/
theorem Spreads.card_children_le (hs : Spreads items parent actor) (z : κ) :
    (items.filter fun x => parent x = some z).card ≤ Fintype.card ι - 1 := by
  classical
  have hinto : ∀ x ∈ items.filter fun x => parent x = some z, actor x ∈ Finset.univ.erase (actor z) := by
    intro x hx
    obtain ⟨hitem, hparent⟩ := Finset.mem_filter.1 hx
    exact Finset.mem_erase.2 ⟨hs.other x hitem z hparent, Finset.mem_univ _⟩
  have hinj : Set.InjOn actor (items.filter fun x => parent x = some z : Finset κ) := by
    intro x hx y hy hxy
    obtain ⟨hx, hpx⟩ := Finset.mem_filter.1 (Finset.mem_coe.1 hx)
    obtain ⟨hy, hpy⟩ := Finset.mem_filter.1 (Finset.mem_coe.1 hy)
    exact hs.once x hx y hy z hpx hpy hxy
  have hle := Finset.card_le_card_of_injOn actor hinto hinj
  rwa [Finset.card_erase_of_mem (Finset.mem_univ _), Finset.card_univ] at hle

/-- **One generation.** -/
theorem Spreads.card_generation_le (hs : Spreads items parent actor) (root : κ) (h : ℕ) :
    (generation items parent root h).card ≤ (Fintype.card ι - 1) ^ h := by
  induction h with
  | zero => simp [generation]
  | succ h ih =>
    have hcover : generation items parent root (h + 1) ⊆
        (generation items parent root h).biUnion fun z => items.filter fun x => parent x = some z := by
      intro x hx
      obtain ⟨hitem, z, hz, hparent⟩ := mem_generation_succ.1 hx
      exact Finset.mem_biUnion.2 ⟨z, hz, Finset.mem_filter.2 ⟨hitem, hparent⟩⟩
    calc (generation items parent root (h + 1)).card
        ≤ ((generation items parent root h).biUnion fun z => items.filter fun x => parent x = some z).card :=
          Finset.card_le_card hcover
      _ ≤ (generation items parent root h).card * (Fintype.card ι - 1) :=
          Finset.card_biUnion_le_card_mul _ _ _ fun z _ => hs.card_children_le z
      _ ≤ (Fintype.card ι - 1) ^ h * (Fintype.card ι - 1) := Nat.mul_le_mul_right _ ih
      _ = (Fintype.card ι - 1) ^ (h + 1) := (pow_succ _ _).symm

/-- **All generations up to a depth.** -/
theorem Spreads.card_descendants_le (hs : Spreads items parent actor) (root : κ) (depth : ℕ) :
    (descendants items parent root depth).card ≤
      ∑ h ∈ Finset.range depth, (Fintype.card ι - 1) ^ (h + 1) := by
  calc (descendants items parent root depth).card
      ≤ ∑ h ∈ Finset.range depth, (generation items parent root (h + 1)).card := Finset.card_biUnion_le
    _ ≤ ∑ h ∈ Finset.range depth, (Fintype.card ι - 1) ^ (h + 1) :=
        Finset.sum_le_sum fun h _ => hs.card_generation_le root (h + 1)

end Cascade
