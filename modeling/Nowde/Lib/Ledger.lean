import Mathlib.Data.List.FinRange
import Mathlib.Data.List.Nodup
import Mathlib.Logic.Function.Basic
import Mathlib.Tactic.Common

/-!
# Ledgers of slots

A table of `n` slots passes items on: `put` places a new item in a slot, `take` hands it over, `cancel`
gives it up where it is. Items are told apart by the order they came in, whatever they are worth. A
`Ledger` notes which item each slot holds and what became of the others.

* `WF`: an item sits in one slot at most, is taken once at most, and none is lost.
* `put_wf`, `take_wf`, `cancel_wf`, `clear_wf`: every operation keeps that, if `put` spares what nobody gave up.
* `takeAll_taken`: what several slots hand over, in their order.
-/

/-- `issued` are the items put so far, by number; `holder` is the number a slot was last given. -/
structure Ledger (n : ℕ) (T : Type*) where
  issued : List T := []
  holder : Fin n → Option ℕ := fun _ => none
  taken : List ℕ := []
  cancelled : List ℕ := []

namespace Ledger

variable {n : ℕ} {T : Type*}

/-- A new item for slot `i`. -/
def put (L : Ledger n T) (i : Fin n) (x : T) : Ledger n T :=
  { L with issued := L.issued ++ [x], holder := Function.update L.holder i (some L.issued.length) }

/-- Slot `i` hands over what it holds. -/
def take (L : Ledger n T) (i : Fin n) : Ledger n T :=
  { L with holder := Function.update L.holder i none, taken := L.taken ++ (L.holder i).toList }

/-- What slot `i` holds is given up; the slot still has it. -/
def cancel (L : Ledger n T) (i : Fin n) : Ledger n T := { L with cancelled := L.cancelled ++ (L.holder i).toList }

/-- Several slots hand over, one after the other. -/
def takeAll (L : Ledger n T) (slots : List (Fin n)) : Ledger n T := slots.foldl take L

/-- Everything held is given up, and the slots are empty. -/
def clear (L : Ledger n T) : Ledger n T :=
  { L with holder := fun _ => none, cancelled := L.cancelled ++ (List.finRange n).filterMap L.holder }

/-- The item slot `i` holds. -/
def item (L : Ledger n T) (i : Fin n) : Option T := (L.holder i).bind fun a => L.issued[a]?

theorem mem_item {L : Ledger n T} {i : Fin n} {x : T} : x ∈ L.item i ↔ ∃ a ∈ L.holder i, x ∈ L.issued[a]? := by
  unfold item
  rw [Option.mem_def, Option.bind_eq_some_iff]
  rfl

/-- Every item is in one place. -/
structure WF (L : Ledger n T) : Prop where
  held_lt : ∀ i, ∀ a ∈ L.holder i, a < L.issued.length
  held_new : ∀ i, ∀ a ∈ L.holder i, a ∉ L.taken
  apart : ∀ i j, ∀ a ∈ L.holder i, a ∈ L.holder j → i = j
  taken_lt : ∀ a ∈ L.taken, a < L.issued.length
  once : L.taken.Nodup
  accounted : ∀ a < L.issued.length, (∃ i, a ∈ L.holder i) ∨ a ∈ L.taken ∨ a ∈ L.cancelled

theorem wf_empty : WF ({} : Ledger n T) where
  held_lt := fun _ _ h => by cases h
  held_new := fun _ _ h => by cases h
  apart := fun _ _ _ h => by cases h
  taken_lt := fun _ h => by cases h
  once := List.nodup_nil
  accounted := fun _ h => by cases h

section Put

variable {L : Ledger n T} {i : Fin n} {x : T}

@[simp] theorem put_issued : (L.put i x).issued = L.issued ++ [x] := rfl

@[simp] theorem put_holder_self : (L.put i x).holder i = some L.issued.length := Function.update_self ..

theorem put_holder_of_ne {j : Fin n} (h : j ≠ i) : (L.put i x).holder j = L.holder j := Function.update_of_ne h _ _

/-- The items before it keep their numbers. -/
theorem mem_put_issued {a : ℕ} {y : T} (h : y ∈ L.issued[a]?) : y ∈ (L.put i x).issued[a]? := by
  have hlt : a < L.issued.length := (List.getElem?_eq_some_iff.1 h).1
  rw [put_issued, List.getElem?_append_left hlt]
  exact h

/-- The new item is the one put. -/
theorem put_item_self : (L.put i x).item i = some x := by simp [item]

/-- The other slots hold what they held. -/
theorem put_item_of_ne (h : WF L) {j : Fin n} (hj : j ≠ i) : (L.put i x).item j = L.item j := by
  unfold item
  rw [put_holder_of_ne hj]
  cases hheld : L.holder j with
  | none => rfl
  | some a =>
    have hlt := h.held_lt j a (by rw [hheld]; rfl)
    simp only [Option.bind_some, put_issued, List.getElem?_append_left hlt]

/-- **A new item** may replace one that was given up, and no other. -/
theorem put_wf (h : WF L) (hfree : ∀ a ∈ L.holder i, a ∈ L.cancelled) : WF (L.put i x) := by
  have hheld : ∀ j, ∀ a ∈ (L.put i x).holder j, j = i ∧ a = L.issued.length ∨ j ≠ i ∧ a ∈ L.holder j := by
    intro j a ha
    by_cases hj : j = i
    · subst hj
      rw [put_holder_self] at ha
      exact Or.inl ⟨rfl, (Option.some.inj ha).symm⟩
    · rw [put_holder_of_ne hj] at ha
      exact Or.inr ⟨hj, ha⟩
  have hlen : (L.put i x).issued.length = L.issued.length + 1 := by simp
  refine ⟨?_, ?_, ?_, ?_, h.once, ?_⟩
  · intro j a ha
    rcases hheld j a ha with ⟨-, rfl⟩ | ⟨-, hold⟩
    · omega
    · have := h.held_lt j a hold
      omega
  · intro j a ha
    rcases hheld j a ha with ⟨-, rfl⟩ | ⟨-, hold⟩
    · exact fun htaken => Nat.lt_irrefl _ (h.taken_lt _ htaken)
    · exact h.held_new j a hold
  · intro j k a ha hk
    rcases hheld j a ha with ⟨hj, hlast⟩ | ⟨-, hold⟩
    · rcases hheld k a hk with ⟨hk, -⟩ | ⟨-, hold⟩
      · rw [hj, hk]
      · exact absurd (h.held_lt k a hold) (by omega)
    · rcases hheld k a hk with ⟨-, hlast⟩ | ⟨-, hold'⟩
      · exact absurd (h.held_lt j a hold) (by omega)
      · exact h.apart j k a hold hold'
  · intro a ha
    have := h.taken_lt a ha
    omega
  · intro a ha
    by_cases hlast : a = L.issued.length
    · exact Or.inl ⟨i, by rw [put_holder_self, hlast]; rfl⟩
    · rcases h.accounted a (by omega) with ⟨j, hj⟩ | hgone
      · by_cases hji : j = i
        · subst hji
          exact Or.inr (Or.inr (hfree a hj))
        · exact Or.inl ⟨j, by rw [put_holder_of_ne hji]; exact hj⟩
      · exact Or.inr hgone

end Put

section Take

variable {L : Ledger n T} {i j : Fin n}

@[simp] theorem take_issued : (L.take i).issued = L.issued := rfl

@[simp] theorem take_taken : (L.take i).taken = L.taken ++ (L.holder i).toList := rfl

@[simp] theorem take_holder_self : (L.take i).holder i = none := Function.update_self ..

theorem take_holder_of_ne (h : j ≠ i) : (L.take i).holder j = L.holder j := Function.update_of_ne h _ _

theorem take_item_of_ne (h : j ≠ i) : (L.take i).item j = L.item j := by
  unfold item
  rw [take_holder_of_ne h, take_issued]

/-- What a slot still holds after another handed over, it held before. -/
theorem mem_take_holder {a : ℕ} (h : a ∈ (L.take i).holder j) : j ≠ i ∧ a ∈ L.holder j := by
  by_cases hj : j = i
  · subst hj
    rw [take_holder_self] at h
    cases h
  · rw [take_holder_of_ne hj] at h
    exact ⟨hj, h⟩

/-- **What is handed over** was not before, and is not held any more. -/
theorem take_wf (h : WF L) (i : Fin n) : WF (L.take i) := by
  have hmem : ∀ a, a ∈ (L.take i).taken ↔ a ∈ L.taken ∨ a ∈ L.holder i := by
    intro a
    rw [take_taken, List.mem_append, Option.mem_toList]
    rfl
  refine ⟨?_, ?_, ?_, ?_, ?_, ?_⟩
  · intro j a ha
    exact h.held_lt j a (mem_take_holder ha).2
  · intro j a ha htaken
    obtain ⟨hj, hold⟩ := mem_take_holder ha
    rcases (hmem a).1 htaken with hbefore | hnow
    · exact h.held_new j a hold hbefore
    · exact hj (h.apart j i a hold hnow)
  · intro j k a ha hk
    exact h.apart j k a (mem_take_holder ha).2 (mem_take_holder hk).2
  · intro a ha
    rcases (hmem a).1 ha with hbefore | hnow
    · exact h.taken_lt a hbefore
    · exact h.held_lt i a hnow
  · rw [take_taken, List.nodup_append]
    refine ⟨h.once, ?_, ?_⟩
    · cases L.holder i with
      | none => exact List.nodup_nil
      | some a => exact List.nodup_singleton a
    · rintro a ha b hb rfl
      exact h.held_new i a (Option.mem_toList.1 hb) ha
  · intro a ha
    rcases h.accounted a ha with ⟨j, hj⟩ | htaken | hcancelled
    · by_cases hji : j = i
      · subst hji
        exact Or.inr (Or.inl ((hmem a).2 (Or.inr hj)))
      · exact Or.inl ⟨j, by rw [take_holder_of_ne hji]; exact hj⟩
    · exact Or.inr (Or.inl ((hmem a).2 (Or.inl htaken)))
    · exact Or.inr (Or.inr hcancelled)

theorem cancel_wf (h : WF L) (i : Fin n) : WF (L.cancel i) where
  held_lt := h.held_lt
  held_new := h.held_new
  apart := h.apart
  taken_lt := h.taken_lt
  once := h.once
  accounted := by
    intro a ha
    rcases h.accounted a ha with hheld | htaken | hcancelled
    · exact Or.inl hheld
    · exact Or.inr (Or.inl htaken)
    · exact Or.inr (Or.inr (List.mem_append_left _ hcancelled))

end Take

section Clear

variable {L : Ledger n T}

theorem clear_wf (h : WF L) : WF L.clear where
  held_lt := fun _ _ hheld => by cases hheld
  held_new := fun _ _ hheld => by cases hheld
  apart := fun _ _ _ hheld => by cases hheld
  taken_lt := h.taken_lt
  once := h.once
  accounted := by
    intro a ha
    rcases h.accounted a ha with ⟨i, hi⟩ | htaken | hcancelled
    · exact Or.inr (Or.inr (List.mem_append_right _ (List.mem_filterMap.2 ⟨i, List.mem_finRange i, hi⟩)))
    · exact Or.inr (Or.inl htaken)
    · exact Or.inr (Or.inr (List.mem_append_left _ hcancelled))

end Clear

section TakeAll

variable {L : Ledger n T} {slots : List (Fin n)}

theorem takeAll_wf (h : WF L) (slots : List (Fin n)) : WF (L.takeAll slots) := by
  induction slots generalizing L with
  | nil => exact h
  | cons i slots ih => exact ih (take_wf h i)

@[simp] theorem takeAll_issued : (L.takeAll slots).issued = L.issued := by
  induction slots generalizing L with
  | nil => rfl
  | cons i slots ih => exact ih.trans take_issued

theorem takeAll_holder (j : Fin n) :
    (L.takeAll slots).holder j = if j ∈ slots then none else L.holder j := by
  induction slots generalizing L with
  | nil => simp [takeAll]
  | cons i slots ih =>
    have hrest : (L.takeAll (i :: slots)).holder j = ((L.take i).takeAll slots).holder j := rfl
    rw [hrest, ih]
    by_cases hj : j = i
    · subst hj
      simp
    · rw [take_holder_of_ne hj]
      simp [hj]

theorem takeAll_item {j : Fin n} (h : j ∉ slots) : (L.takeAll slots).item j = L.item j := by
  unfold item
  rw [takeAll_holder, if_neg h, takeAll_issued]

/-- **The items taken**, in the order of the slots. -/
theorem takeAll_taken (hslots : slots.Nodup) :
    (L.takeAll slots).taken = L.taken ++ slots.filterMap L.holder := by
  induction slots generalizing L with
  | nil => simp [takeAll]
  | cons i slots ih =>
    obtain ⟨hi, hslots⟩ := List.nodup_cons.1 hslots
    have hrest : (L.takeAll (i :: slots)).taken = ((L.take i).takeAll slots).taken := rfl
    have hothers : slots.filterMap (L.take i).holder = slots.filterMap L.holder :=
      List.filterMap_congr fun j hj => take_holder_of_ne fun hji => hi (hji ▸ hj)
    rw [hrest, ih hslots, hothers, take_taken, List.append_assoc]
    cases hheld : L.holder i with
    | none => rw [List.filterMap_cons_none hheld]; rfl
    | some a => rw [List.filterMap_cons_some hheld]; rfl

end TakeAll

end Ledger
