import Mathlib

/-!
# Two holders of one registry

Two parties each hold keys, and register what they hold in one registry. A key is registered when a
party first holds it, and struck off when a party drops it, whether or not the other holds it still.

* `matched_step_iff`: every key held stays registered exactly when no party drops a key that the other
  one holds.
-/

namespace Registry

variable {κ : Type*}

/-- The keys each party holds, and those in the registry. -/
@[ext]
structure Holders (κ : Type*) where
  first : Set κ
  second : Set κ
  registered : Set κ

/-- What can happen: a party takes a key, or drops some; or all starts over. -/
inductive Op (κ : Type*)
  | keep
  | hold₁ (k : κ)
  | hold₂ (k : κ)
  | drop₁ (ks : Set κ)
  | drop₂ (ks : Set κ)
  | restart (registered : Set κ)

namespace Holders

/-- One operation; a drop strikes the keys off. -/
def step (h : Holders κ) : Op κ → Holders κ
  | .keep => h
  | .hold₁ k => ⟨insert k h.first, h.second, insert k h.registered⟩
  | .hold₂ k => ⟨h.first, insert k h.second, insert k h.registered⟩
  | .drop₁ ks => ⟨h.first \ ks, h.second, h.registered \ ks⟩
  | .drop₂ ks => ⟨h.first, h.second \ ks, h.registered \ ks⟩
  | .restart registered => ⟨∅, ∅, registered⟩

/-- Every key held is registered. -/
def Matched (h : Holders κ) : Prop := h.first ⊆ h.registered ∧ h.second ⊆ h.registered

/-- The operation drops no key that the other party holds. -/
def Spares (h : Holders κ) : Op κ → Prop
  | .drop₁ ks => Disjoint ks h.second
  | .drop₂ ks => Disjoint ks h.first
  | _ => True

variable {h : Holders κ}

/-- A party that keeps its keys keeps them registered exactly when none is struck off. -/
theorem subset_diff_iff {held registered ks : Set κ} (h : held ⊆ registered) :
    held ⊆ registered \ ks ↔ Disjoint ks held := by
  rw [Set.subset_sdiff]
  constructor
  · rintro ⟨-, hdisj⟩
    exact hdisj.symm
  · exact fun hdisj => ⟨h, hdisj.symm⟩

/-- **One operation** keeps every held key registered exactly when it spares the other party's. -/
theorem matched_step_iff (h₀ : h.Matched) (op : Op κ) : (h.step op).Matched ↔ h.Spares op := by
  obtain ⟨hfirst, hsecond⟩ := h₀
  cases op with
  | keep => exact iff_of_true ⟨hfirst, hsecond⟩ trivial
  | hold₁ k =>
    refine iff_of_true ⟨Set.insert_subset_insert hfirst, ?_⟩ trivial
    exact hsecond.trans (Set.subset_insert k _)
  | hold₂ k =>
    refine iff_of_true ⟨?_, Set.insert_subset_insert hsecond⟩ trivial
    exact hfirst.trans (Set.subset_insert k _)
  | drop₁ ks =>
    have hown : h.first \ ks ⊆ h.registered \ ks := Set.sdiff_subset_sdiff_left hfirst
    constructor
    · exact fun hm => (subset_diff_iff hsecond).1 hm.2
    · exact fun hs => ⟨hown, (subset_diff_iff hsecond).2 hs⟩
  | drop₂ ks =>
    have hown : h.second \ ks ⊆ h.registered \ ks := Set.sdiff_subset_sdiff_left hsecond
    constructor
    · exact fun hm => (subset_diff_iff hfirst).1 hm.1
    · exact fun hs => ⟨(subset_diff_iff hfirst).2 hs, hown⟩
  | restart registered => exact iff_of_true ⟨Set.empty_subset _, Set.empty_subset _⟩ trivial

end Holders

end Registry
