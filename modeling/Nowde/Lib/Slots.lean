import Mathlib.Data.List.FinRange
import Mathlib.Tactic

/-!
# Fixed tables of slots

A C array of `n` records is a function `Fin n → α`. `find` is the usual scan for the first
slot that satisfies a test, `collect` gathers what a loop over all slots produces, in index
order. Overwriting one slot is `Function.update`.
-/

namespace Slots

variable {n : ℕ} {α β : Type*}

/-- The first slot whose entry passes the test. -/
def find (t : Fin n → α) (p : α → Bool) : Option (Fin n) :=
  (List.finRange n).find? fun i => p (t i)

/-- What a loop over the slots emits, in index order. -/
def collect (t : Fin n → α) (f : α → Option β) : List β :=
  (List.finRange n).filterMap fun i => f (t i)

/-- The table after a loop that starts at slot `i` has changed every entry. -/
def mapFrom (i : ℕ) (f : α → α) (t : Fin n → α) : Fin n → α := fun j => if i ≤ j.val then f (t j) else t j

/-- What a loop that starts at slot `i` emits. -/
def collectFrom (i : ℕ) (t : Fin n → α) (f : α → Option β) : List β :=
  ((List.finRange n).drop i).filterMap fun j => f (t j)

theorem find_eq_some {t : Fin n → α} {p : α → Bool} {i : Fin n} (h : find t p = some i) :
    p (t i) = true := by
  unfold find at h
  simpa using List.find?_some h

theorem find_eq_none {t : Fin n → α} {p : α → Bool} : find t p = none ↔ ∀ i, p (t i) = false := by
  simp [find]

theorem find_isSome {t : Fin n → α} {p : α → Bool} {i : Fin n} (h : p (t i) = true) :
    ∃ j, find t p = some j := by
  cases hf : find t p with
  | some j => exact ⟨j, rfl⟩
  | none => rw [find_eq_none] at hf; simp [hf i] at h

theorem mem_collect {t : Fin n → α} {f : α → Option β} {b : β} :
    b ∈ collect t f ↔ ∃ i, f (t i) = some b := by
  simp [collect]

theorem mem_collect_ite {t : Fin n → α} {c : α → Prop} [DecidablePred c] {f : α → β} {b : β} :
    (b ∈ collect t fun a => if c a then some (f a) else none) ↔ ∃ i, c (t i) ∧ b = f (t i) := by
  simp [mem_collect, eq_comm]

theorem length_collect_le (t : Fin n → α) (f : α → Option β) : (collect t f).length ≤ n := by
  unfold collect
  exact (List.length_filterMap_le _ _).trans_eq List.length_finRange

/-- **Room for one more key**: while the keys in use are distinct and among as many as there are slots,
a key that is not in use leaves a slot free. -/
theorem exists_free (used : α → Prop) (key : α → β) {t : Fin n → α} {keys : Finset β} {k : β}
    (hdistinct : ∀ i j, used (t i) → used (t j) → key (t i) = key (t j) → i = j)
    (hkeys : ∀ i, used (t i) → key (t i) ∈ keys) (hcard : keys.card ≤ n) (hk : k ∈ keys)
    (hnew : ∀ i, used (t i) → key (t i) ≠ k) : ∃ i, ¬used (t i) := by
  classical
  by_contra hfull
  push Not at hfull
  have hinj : Function.Injective fun i => key (t i) := fun i j hij => hdistinct i j (hfull i) (hfull j) hij
  have hsub : Finset.univ.image (fun i => key (t i)) ⊆ keys.erase k := by
    intro m hm
    obtain ⟨i, -, rfl⟩ := Finset.mem_image.1 hm
    exact Finset.mem_erase.2 ⟨hnew i (hfull i), hkeys i (hfull i)⟩
  have hle := Finset.card_le_card hsub
  rw [Finset.card_image_of_injective _ hinj, Finset.card_univ, Fintype.card_fin, Finset.card_erase_of_mem hk] at hle
  have hpos := Finset.card_pos.2 ⟨k, hk⟩
  omega

/-- A slot that gets a key no other slot in use has keeps the keys in use apart. -/
theorem distinct_update (used : α → Prop) (key : α → β) {t : Fin n → α} {i : Fin n} {a : α}
    (h : ∀ j k, used (t j) → used (t k) → key (t j) = key (t k) → j = k)
    (hother : ∀ j, j ≠ i → used (t j) → key (t j) ≠ key a) (j k : Fin n)
    (hj : used (Function.update t i a j)) (hk : used (Function.update t i a k))
    (hjk : key (Function.update t i a j) = key (Function.update t i a k)) : j = k := by
  by_cases hji : j = i
  · by_cases hki : k = i
    · rw [hji, hki]
    · rw [hji, Function.update_self, Function.update_of_ne hki] at hjk
      rw [Function.update_of_ne hki] at hk
      exact absurd hjk.symm (hother k hki hk)
  · rw [Function.update_of_ne hji] at hj
    by_cases hki : k = i
    · rw [hki, Function.update_self, Function.update_of_ne hji] at hjk
      exact absurd hjk (hother j hji hj)
    · rw [Function.update_of_ne hki] at hk
      rw [Function.update_of_ne hji, Function.update_of_ne hki] at hjk
      exact h j k hj hk hjk

/-! ## Counting -/

/-- How many slots pass the test. -/
def count (t : Fin n → α) (p : α → Bool) : ℕ := (List.finRange n).countP fun i => p (t i)

/-- Overwriting one slot adds at most one. -/
theorem count_update_le (t : Fin n → α) (p : α → Bool) (i : Fin n) (a : α) :
    count (Function.update t i a) p ≤ count t p + 1 := by
  unfold count
  have hnodup : (List.finRange n).Nodup := List.nodup_finRange n
  generalize List.finRange n = slots at hnodup
  induction slots with
  | nil => simp
  | cons j js ih =>
    obtain ⟨hj, hjs⟩ := List.nodup_cons.1 hnodup
    by_cases hji : j = i
    · subst hji
      have hsame : js.countP (fun k => p (Function.update t j a k)) = js.countP fun k => p (t k) := by
        refine List.countP_congr fun k hk => ?_
        have hne : k ≠ j := fun hkj => hj (hkj ▸ hk)
        rw [Function.update_of_ne hne]
      rw [List.countP_cons, List.countP_cons, hsame]
      split <;> split <;> omega
    · have hle := ih hjs
      rw [List.countP_cons, List.countP_cons, Function.update_of_ne hji]
      split <;> omega

/-- **A narrower test that passes as many** passes wherever the wider one does. -/
theorem of_count_le {t : Fin n → α} {p q : α → Bool} (hpq : ∀ a, p a = true → q a = true)
    (hle : count t q ≤ count t p) (i : Fin n) (hi : q (t i) = true) : p (t i) = true := by
  unfold count at hle
  have hsub : ((List.finRange n).filter fun j => p (t j)).Sublist ((List.finRange n).filter fun j => q (t j)) := by
    have hboth : ((List.finRange n).filter fun j => p (t j)) =
        (((List.finRange n).filter fun j => q (t j)).filter fun j => p (t j)) := by
      rw [List.filter_filter]
      refine List.filter_congr fun j _ => ?_
      cases hp : p (t j) with
      | true => simp [hpq _ hp]
      | false => simp
    rw [hboth]
    exact List.filter_sublist
  rw [List.countP_eq_length_filter, List.countP_eq_length_filter] at hle
  have heq := hsub.eq_of_length_le hle
  have hmem : i ∈ (List.finRange n).filter fun j => q (t j) := List.mem_filter.2 ⟨List.mem_finRange i, hi⟩
  rw [← heq] at hmem
  exact (List.mem_filter.1 hmem).2

theorem exists_of_count_ne {t : Fin n → α} {p : α → Bool} (h : count t p ≠ 0) : ∃ i, p (t i) = true := by
  by_contra hno
  push Not at hno
  exact h (List.countP_eq_zero.2 fun i _ => hno i)

/-- A loop that emits only for slots that pass the test, and changes those so that they do not. -/
theorem length_collect_add_count_le (t : Fin n → α) {p : α → Bool} {f : α → Option β} {g : α → α}
    (hemit : ∀ a, f a ≠ none → p a = true ∧ p (g a) = false) (hkeep : ∀ a, p (g a) = true → p a = true) :
    (collect t f).length + count (fun i => g (t i)) p ≤ count t p := by
  unfold collect count
  induction List.finRange n with
  | nil => simp
  | cons i is ih =>
    rw [List.countP_cons, List.countP_cons]
    cases hf : f (t i) with
    | none =>
      have hskip : (i :: is).filterMap (fun j => f (t j)) = is.filterMap fun j => f (t j) :=
        List.filterMap_cons_none hf
      rw [hskip]
      dsimp only at ih ⊢
      by_cases hg : p (g (t i)) = true
      · rw [if_pos hg, if_pos (hkeep (t i) hg)]
        omega
      · rw [if_neg hg]
        omega
    | some b =>
      obtain ⟨hp, hg⟩ := hemit (t i) (by simp [hf])
      have hno : ¬p (g (t i)) = true := by simp [hg]
      have hemits : (i :: is).filterMap (fun j => f (t j)) = b :: is.filterMap fun j => f (t j) :=
        List.filterMap_cons_some hf
      rw [hemits, List.length_cons]
      dsimp only at ih ⊢
      rw [if_pos hp, if_neg hno]
      omega

/-! ## Loops, one slot at a time -/

section Loop

variable {t : Fin n → α} {f : α → α} {g : α → Option β} {i : ℕ}

@[simp] theorem mapFrom_zero : mapFrom 0 f t = fun j => f (t j) := by
  funext j
  simp [mapFrom]

theorem mapFrom_of_le (h : n ≤ i) : mapFrom i f t = t := by
  funext j
  have hj : ¬i ≤ j.val := by omega
  simp [mapFrom, hj]

/-- The loop changes slot `i`, then goes on with the next. -/
theorem mapFrom_update (hi : i < n) :
    mapFrom (i + 1) f (Function.update t ⟨i, hi⟩ (f (t ⟨i, hi⟩))) = mapFrom i f t := by
  funext j
  unfold mapFrom
  by_cases hj : j = ⟨i, hi⟩
  · subst hj
    simp
  · have hne : j.val ≠ i := fun h => hj (Fin.ext h)
    rw [Function.update_of_ne hj]
    by_cases hle : i ≤ j.val
    · rw [if_pos hle, if_pos (by omega)]
    · rw [if_neg hle, if_neg (by omega)]

@[simp] theorem collectFrom_zero : collectFrom 0 t g = collect t g := rfl

theorem collectFrom_of_le (h : n ≤ i) : collectFrom i t g = [] := by
  unfold collectFrom
  rw [List.drop_eq_nil_of_le (by simpa using h), List.filterMap_nil]

/-- The loop emits for slot `i`, then for the later ones. -/
theorem collectFrom_of_lt (hi : i < n) :
    collectFrom i t g = (g (t ⟨i, hi⟩)).toList ++ collectFrom (i + 1) t g := by
  unfold collectFrom
  rw [List.drop_eq_getElem_cons (by simpa using hi), List.filterMap_cons, List.getElem_finRange]
  have hcast : Fin.cast (List.length_finRange (n := n)) ⟨i, by simpa using hi⟩ = ⟨i, hi⟩ := rfl
  rw [hcast]
  cases g (t ⟨i, hi⟩) <;> rfl

/-- A changed slot is not looked at again. -/
theorem collectFrom_update {a : α} (hi : i < n) :
    collectFrom (i + 1) (Function.update t ⟨i, hi⟩ a) g = collectFrom (i + 1) t g := by
  unfold collectFrom
  refine List.filterMap_congr fun j hj => ?_
  obtain ⟨k, hk, rfl⟩ := List.mem_iff_getElem.1 hj
  rw [Function.update_of_ne]
  intro h
  have := congrArg Fin.val h
  simp at this
  omega

end Loop

end Slots
