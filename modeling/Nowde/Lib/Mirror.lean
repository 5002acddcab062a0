import Nowde.Lib.Heard

/-!
# Tables that mirror a map of last reports

A table of slots, some of them live, each with a key, against the map of what was last reported of each
key. `Mirrors` says that live slots have distinct keys and agree with the last report of their key, and
that every key whose last report is not stale has a live slot.

* `Mirrors.note`: a report keeps that, if there is room for its key.
* `Mirrors.expire`: so does giving up slots whose report is stale.
-/

namespace Heard

variable {n : ℕ} {α κ ρ : Type*}

structure Mirrors (t : Fin n → α) (live : α → Bool) (key : α → κ) (last : κ → Option ρ) (agrees : α → ρ → Prop)
    (stale : ρ → Prop) : Prop where
  unique : ∀ i j, live (t i) = true → live (t j) = true → key (t i) = key (t j) → i = j
  agrees : ∀ i, live (t i) = true → ∃ r, last (key (t i)) = some r ∧ agrees (t i) r
  complete : ∀ k r, last k = some r → stale r ∨ ∃ i, live (t i) = true ∧ key (t i) = k

variable {t : Fin n → α} {live : α → Bool} {key : α → κ} {last : κ → Option ρ} {agrees agrees' : α → ρ → Prop}
  {stale stale' : ρ → Prop}

/-- Nothing reported, nothing in the table. -/
theorem Mirrors.of_idle (h : ∀ i, live (t i) = false) : Mirrors t live key (fun _ => none) agrees stale where
  unique i j hi := by rw [h i] at hi; cases hi
  agrees i hi := by rw [h i] at hi; cases hi
  complete k r hr := by cases hr

/-- Other standards of agreement and staleness. -/
theorem Mirrors.mono (h : Mirrors t live key last agrees stale) (hagrees : ∀ e r, agrees e r → agrees' e r)
    (hstale : ∀ r, stale r → stale' r) : Mirrors t live key last agrees' stale' where
  unique := h.unique
  agrees i hi := by
    obtain ⟨r, hr, hag⟩ := h.agrees i hi
    exact ⟨r, hr, hagrees _ _ hag⟩
  complete k r hr := (h.complete k r hr).imp_left (hstale r)

/-- **Giving up slots** whose report is stale, and changing the others within what agrees. -/
theorem Mirrors.expire (h : Mirrors t live key last agrees stale) {f : α → α}
    (hlive : ∀ e r, live e = true → agrees e r → live (f e) = true → key (f e) = key e ∧ agrees' (f e) r)
    (hgone : ∀ e r, live e = true → agrees e r → live (f e) = false → stale r)
    (hback : ∀ e, live (f e) = true → live e = true) :
    Mirrors (fun i => f (t i)) live key last agrees' stale where
  unique i j hi hj hij := by
    obtain ⟨r, -, hr⟩ := h.agrees i (hback _ hi)
    obtain ⟨r', -, hr'⟩ := h.agrees j (hback _ hj)
    refine h.unique i j (hback _ hi) (hback _ hj) ?_
    rw [← (hlive _ r (hback _ hi) hr hi).1, ← (hlive _ r' (hback _ hj) hr' hj).1, hij]
  agrees i hi := by
    obtain ⟨r, hlast, hr⟩ := h.agrees i (hback _ hi)
    obtain ⟨hkey, hagrees⟩ := hlive _ r (hback _ hi) hr hi
    exact ⟨r, by rw [hkey]; exact hlast, hagrees⟩
  complete k r hr := by
    rcases h.complete k r hr with hstale | ⟨i, hi, hk⟩
    · exact Or.inl hstale
    · obtain ⟨r', hlast, hag⟩ := h.agrees i hi
      rw [hk, hr] at hlast
      cases hlast
      cases hf : live (f (t i)) with
      | true => exact Or.inr ⟨i, hf, (hlive _ r hi hag hf).1.trans hk⟩
      | false => exact Or.inl (hgone _ r hi hag hf)

variable [DecidableEq κ] {k : κ} {r : ρ} {i : Fin n} {e : α}

/-- A slot is written for a key that has no other. -/
theorem Mirrors.write (h : Mirrors t live key last agrees stale) (hidle : live (t i) = true → key (t i) = k)
    (hother : ∀ j, j ≠ i → live (t j) = true → key (t j) ≠ k) (hlive : live e = true) (hkey : key e = k)
    (hagrees : agrees e r) :
    Mirrors (Function.update t i e) live key (Function.update last k (some r)) agrees stale where
  unique := by
    refine Slots.distinct_update (fun e => live e = true) key h.unique ?_
    intro j hj hl
    rw [hkey]
    exact hother j hj hl
  agrees j hj := by
    by_cases hji : j = i
    · subst hji
      rw [Function.update_self, hkey, Function.update_self]
      exact ⟨r, rfl, hagrees⟩
    · rw [Function.update_of_ne hji] at hj ⊢
      rw [Function.update_of_ne (hother j hji hj)]
      exact h.agrees j hj
  complete m r' hr' := by
    by_cases hm : m = k
    · exact Or.inr ⟨i, by rw [Function.update_self]; exact hlive, by rw [Function.update_self, hm]; exact hkey⟩
    · rw [Function.update_of_ne hm] at hr'
      refine (h.complete m r' hr').imp_right ?_
      rintro ⟨j, hj, hjm⟩
      have hji : j ≠ i := by
        rintro rfl
        exact hm (hjm.symm.trans (hidle hj))
      exact ⟨j, by rw [Function.update_of_ne hji]; exact hj, by rw [Function.update_of_ne hji]; exact hjm⟩

/-- **A report**: the key's slot is refreshed, or a free one taken. There is one, as long as no more keys
report than there are slots. -/
theorem Mirrors.note (h : Mirrors t live key last agrees stale) {refresh : α → α} {fresh : α} {keys : Finset κ}
    (hkeys : ∀ i, live (t i) = true → key (t i) ∈ keys) (hcard : keys.card ≤ n) (hk : k ∈ keys)
    (hrefresh : ∀ i, live (t i) = true → key (t i) = k →
      live (refresh (t i)) = true ∧ key (refresh (t i)) = k ∧ agrees (refresh (t i)) r)
    (hfresh : live fresh = true ∧ key fresh = k ∧ agrees fresh r) :
    Mirrors (note live key k refresh fresh t) live key (Function.update last k (some r)) agrees stale := by
  unfold Heard.note
  cases hown : Slots.find t fun e => live e && key e == k with
  | some i =>
    have hi : live (t i) = true ∧ key (t i) = k := by simpa using Slots.find_eq_some hown
    obtain ⟨hl, hkey, hag⟩ := hrefresh i hi.1 hi.2
    refine h.write (fun _ => hi.2) ?_ hl hkey hag
    intro j hji hj hjk
    exact hji (h.unique j i hj hi.1 (hjk.trans hi.2.symm))
  | none =>
    have hno : ∀ j, live (t j) = true → key (t j) ≠ k := by
      intro j hj hjk
      have := Slots.find_eq_none.1 hown j
      simp [hj, hjk] at this
    obtain ⟨j, hj⟩ := Slots.exists_free (fun e => live e = true) key h.unique hkeys hcard hk hno
    obtain ⟨i, hfree⟩ := Slots.find_isSome (t := t) (p := fun e => !live e) (i := j) (by simpa using hj)
    rw [hfree]
    have hidle : live (t i) = false := by simpa using Slots.find_eq_some hfree
    exact h.write (fun hl => absurd (hl.symm.trans hidle) (by decide)) (fun j _ hj => hno j hj) hfresh.1 hfresh.2.1
      hfresh.2.2

end Heard
