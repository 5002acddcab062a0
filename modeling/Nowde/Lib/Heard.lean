import Nowde.Lib.Slots

/-!
# Tables of who was heard when

A table of slots, some of them live, each with a key and a stamp. `Tracks` says that the stamp of
a live slot is the reading, on some clock, of the true time its key was last heard, and that no
key has two live slots. Hearing a key keeps that, whether it has a slot (`refresh`), gets one
(`insert`) or finds none (`miss`), and so does giving slots up (`expire`).
-/

namespace Heard

variable {n : ℕ} {α κ τ : Type*}

structure Tracks (t : Fin n → α) (live : α → Bool) (key : α → κ) (stamp : α → τ) (clock : ℕ → τ)
    (heard : κ → ℕ) : Prop where
  stamped : ∀ i, live (t i) = true → stamp (t i) = clock (heard (key (t i)))
  unique : ∀ i j, live (t i) = true → live (t j) = true → key (t i) = key (t j) → i = j

variable {t : Fin n → α} {live : α → Bool} {key : α → κ} {stamp : α → τ} {clock : ℕ → τ} {heard : κ → ℕ}

/-- A table without live slots. -/
theorem Tracks.of_idle (h : ∀ i, live (t i) = false) : Tracks t live key stamp clock heard where
  stamped i hi := by rw [h i] at hi; cases hi
  unique i j hi := by rw [h i] at hi; cases hi

/-- Slots that are given up or changed in other fields. -/
theorem Tracks.expire (h : Tracks t live key stamp clock heard) {t' : Fin n → α}
    (hsame : ∀ i, live (t' i) = true → live (t i) = true ∧ key (t' i) = key (t i) ∧ stamp (t' i) = stamp (t i)) :
    Tracks t' live key stamp clock heard where
  stamped i hi := by
    obtain ⟨hlive, hkey, hstamp⟩ := hsame i hi
    rw [hstamp, hkey]
    exact h.stamped i hlive
  unique i j hi hj hij := by
    obtain ⟨hli, hki, -⟩ := hsame i hi
    obtain ⟨hlj, hkj, -⟩ := hsame j hj
    exact h.unique i j hli hlj (by rw [← hki, ← hkj, hij])

/-- One slot that is. -/
theorem Tracks.expire_slot (h : Tracks t live key stamp clock heard) {e : α} {i : Fin n}
    (hsame : live e = true → live (t i) = true ∧ key e = key (t i) ∧ stamp e = stamp (t i)) :
    Tracks (Function.update t i e) live key stamp clock heard := by
  refine h.expire ?_
  intro j hj
  by_cases hji : j = i
  · subst hji
    rw [Function.update_self] at hj ⊢
    exact hsame hj
  · rw [Function.update_of_ne hji] at hj ⊢
    exact ⟨hj, rfl, rfl⟩

variable [DecidableEq κ] {k : κ} {now : ℕ} {e : α} {i : Fin n}

/-- A key without a slot is heard, and gets none. -/
theorem Tracks.miss (h : Tracks t live key stamp clock heard) (hno : ∀ j, live (t j) = true → key (t j) ≠ k) :
    Tracks t live key stamp clock (Function.update heard k now) where
  stamped j hj := by
    rw [Function.update_of_ne (hno j hj)]
    exact h.stamped j hj
  unique := h.unique

/-- A slot is written for a key that has no other. -/
theorem Tracks.write (h : Tracks t live key stamp clock heard)
    (hno : ∀ j, j ≠ i → live (t j) = true → key (t j) ≠ k) (hkey : key e = k) (hstamp : stamp e = clock now) :
    Tracks (Function.update t i e) live key stamp clock (Function.update heard k now) where
  stamped j hj := by
    by_cases hji : j = i
    · subst hji
      rw [Function.update_self, hkey, Function.update_self, hstamp]
    · rw [Function.update_of_ne hji] at hj ⊢
      rw [Function.update_of_ne (hno j hji hj)]
      exact h.stamped j hj
  unique := by
    refine Slots.distinct_update (fun e => live e = true) key h.unique ?_
    intro j hj hlive
    rw [hkey]
    exact hno j hj hlive

/-- A key with a slot is heard again. -/
theorem Tracks.refresh (h : Tracks t live key stamp clock heard) (hi : live (t i) = true) (hik : key (t i) = k)
    (hkey : key e = k) (hstamp : stamp e = clock now) :
    Tracks (Function.update t i e) live key stamp clock (Function.update heard k now) :=
  h.write (fun j hji hj hjk => hji (h.unique j i hj hi (hjk.trans hik.symm))) hkey hstamp

/-- A key without a slot is heard, and gets one. -/
theorem Tracks.insert (h : Tracks t live key stamp clock heard) (hno : ∀ j, live (t j) = true → key (t j) ≠ k)
    (hkey : key e = k) (hstamp : stamp e = clock now) :
    Tracks (Function.update t i e) live key stamp clock (Function.update heard k now) :=
  h.write (fun j _ hj => hno j hj) hkey hstamp

/-- What hearing a key does to a table: its slot is refreshed, or the first idle one takes a fresh
entry, if there is one. -/
def note (live : α → Bool) (key : α → κ) (k : κ) (refresh : α → α) (fresh : α) (t : Fin n → α) : Fin n → α :=
  match Slots.find t fun e => live e && key e == k with
  | some i => Function.update t i (refresh (t i))
  | none =>
    match Slots.find t fun e => !live e with
    | some i => Function.update t i fresh
    | none => t

/-- **Hearing a key** keeps the table true. -/
theorem Tracks.note (h : Tracks t live key stamp clock heard) {refresh : α → α} {fresh : α}
    (hrefresh : ∀ e, key (refresh e) = key e ∧ stamp (refresh e) = clock now) (hkey : key fresh = k)
    (hstamp : stamp fresh = clock now) :
    Tracks (note live key k refresh fresh t) live key stamp clock (Function.update heard k now) := by
  unfold Heard.note
  cases hown : Slots.find t fun e => live e && key e == k with
  | some i =>
    have hi : live (t i) = true ∧ key (t i) = k := by simpa using Slots.find_eq_some hown
    exact h.refresh hi.1 hi.2 ((hrefresh _).1.trans hi.2) (hrefresh _).2
  | none =>
    have hno : ∀ j, live (t j) = true → key (t j) ≠ k := by
      intro j hj hjk
      have := Slots.find_eq_none.1 hown j
      simp [hj, hjk] at this
    cases hfree : Slots.find t fun e => !live e with
    | some i => exact h.insert hno hkey hstamp
    | none => exact h.miss hno

/-! ## The keys with a live slot -/

section Keys

/-- The keys that have a live slot. -/
def keys (live : α → Bool) (key : α → κ) (t : Fin n → α) : Set κ := {k | ∃ i, live (t i) = true ∧ key (t i) = k}

omit [DecidableEq κ] in
/-- Slots that keep their keys, or are given up. -/
theorem keys_expire (hunique : ∀ i j, live (t i) = true → live (t j) = true → key (t i) = key (t j) → i = j)
    {f : α → α} (hsame : ∀ e, live (f e) = true → live e = true ∧ key (f e) = key e) :
    keys live key (fun i => f (t i)) =
      keys live key t \ {k | ∃ i, (live (t i) = true ∧ live (f (t i)) = false) ∧ key (t i) = k} := by
  ext k
  constructor
  · rintro ⟨i, hi, hk⟩
    obtain ⟨hlive, hkey⟩ := hsame _ hi
    refine ⟨⟨i, hlive, hkey.symm.trans hk⟩, ?_⟩
    rintro ⟨j, ⟨hj, hgone⟩, hjk⟩
    -- the key has no second slot
    have hij : i = j := hunique i j hlive hj (by rw [← hkey, hk, hjk])
    rw [← hij, hi] at hgone
    cases hgone
  · rintro ⟨⟨i, hi, hk⟩, hkept⟩
    have hlive : live (f (t i)) = true := by
      by_contra hgone
      exact hkept ⟨i, ⟨hi, by simpa using hgone⟩, hk⟩
    exact ⟨i, hlive, (hsame _ hlive).2.trans hk⟩

/-- A key that is heard has its slot refreshed, or gets the first idle one, or finds none. -/
theorem keys_note {refresh : α → α} {fresh : α} (hrefresh : ∀ e, live (refresh e) = live e ∧ key (refresh e) = key e)
    (hfresh : live fresh = true ∧ key fresh = k) :
    keys live key (Heard.note live key k refresh fresh t) =
      if (Slots.find t fun e => live e && key e == k).isNone ∧ (Slots.find t fun e => !live e).isSome then
        insert k (keys live key t)
      else keys live key t := by
  unfold Heard.note
  cases hown : Slots.find t fun e => live e && key e == k with
  | some i =>
    rw [if_neg (by simp)]
    ext m
    have hsame : ∀ j, live (Function.update t i (refresh (t i)) j) = live (t j) ∧
        key (Function.update t i (refresh (t i)) j) = key (t j) := by
      intro j
      by_cases hji : j = i
      · subst hji
        rw [Function.update_self]
        exact hrefresh _
      · rw [Function.update_of_ne hji]
        exact ⟨rfl, rfl⟩
    simp only [keys, Set.mem_ofPred_eq, hsame]
  | none =>
    cases hfree : Slots.find t fun e => !live e with
    | none => rw [if_neg (by simp)]
    | some i =>
      rw [if_pos (by simp)]
      have hidle : live (t i) = false := by simpa using Slots.find_eq_some hfree
      ext m
      simp only [keys, Set.mem_ofPred_eq, Set.mem_insert_iff]
      constructor
      · rintro ⟨j, hj, hm⟩
        by_cases hji : j = i
        · rw [hji, Function.update_self] at hm
          exact Or.inl (hm.symm.trans hfresh.2)
        · rw [Function.update_of_ne hji] at hj hm
          exact Or.inr ⟨j, hj, hm⟩
      · rintro (rfl | ⟨j, hj, hm⟩)
        · exact ⟨i, by rw [Function.update_self]; exact hfresh.1, by rw [Function.update_self]; exact hfresh.2⟩
        · have hji : j ≠ i := fun h => by rw [h, hidle] at hj; cases hj
          exact ⟨j, by rw [Function.update_of_ne hji]; exact hj, by rw [Function.update_of_ne hji]; exact hm⟩

end Keys

end Heard
