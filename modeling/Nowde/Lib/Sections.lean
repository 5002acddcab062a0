import Mathlib.Data.List.Basic
import Mathlib.Tactic.Common
import Nowde.Lib.Run

/-!
# Messages from several contexts in one queue

Each context sends its messages in order, packet by packet, into one queue. Some senders hold a
lock from the first packet of a message to the last, others do not take it. Contexts take their
steps in any order; a step at a taken lock waits.

* `Ordered.moved`: who holds the lock, and which packets of a message are in the queue.
* `Unbroken.moved`: a message stays in one piece while no sender without the lock meets it.
* `contiguous_iff`: over a run to the end, all messages are in one piece **exactly** when none does.
* `contiguous_forall_iff`: they are in every order of the contexts exactly when no two messages can meet so.
-/

namespace Sections

variable {κ π : Type*} [DecidableEq κ]

/-- A message on its way: what is in the queue, and what is to come. -/
structure Message (π : Type*) where
  locked : Bool
  sent : List π := []
  ahead : List π

/-- A packet in the queue. How many messages its context had left tells them apart. -/
structure Entry (κ π : Type*) where
  context : κ
  left : ℕ
  packet : π

/-- Two packets of one message. -/
def Entry.SameMessage (a b : Entry κ π) : Prop := a.context = b.context ∧ a.left = b.left

structure State (κ π : Type*) where
  todo : κ → List (Message π)
  holder : Option κ := none

/-- One step of a context: take the lock, put a packet, or finish a message. -/
def step (s : State κ π) (k : κ) : State κ π × List (Entry κ π) :=
  match s.todo k with
  | [] => (s, [])
  | m :: rest =>
    if m.locked = true ∧ s.holder ≠ some k then
      (if s.holder = none then { s with holder := some k } else s, [])
    else
      match m.ahead with
      | p :: ps =>
        ({ s with todo := Function.update s.todo k ({ m with sent := m.sent ++ [p], ahead := ps } :: rest) },
          [⟨k, rest.length + 1, p⟩])
      | [] =>
        ({ todo := Function.update s.todo k rest, holder := if m.locked then none else s.holder }, [])

/-- **Contiguous**: between two packets of a message that `binds`, all that is not its own `slips`. -/
def Contiguous (binds slips : π → Prop) (queue : List (Entry κ π)) : Prop :=
  ∀ l₁ a l₂ b l₃, queue = l₁ ++ a :: l₂ ++ b :: l₃ → b.SameMessage a → binds a.packet →
    ∀ x ∈ l₂, x.SameMessage a ∨ slips x.packet

/-- The packet a context would put next. -/
def Puts (s : State κ π) (k : κ) (m : Message π) (p : π) : Prop :=
  ¬(m.locked = true ∧ s.holder ≠ some k) ∧ ∃ rest ps, s.todo k = m :: rest ∧ m.ahead = p :: ps

/-- A context is in the middle of a message that `binds`. -/
def Underway (binds : π → Prop) (s : State κ π) (k : κ) (m : Message π) : Prop :=
  m.ahead ≠ [] ∧ (∃ a ∈ m.sent, binds a) ∧ ∃ rest, s.todo k = m :: rest

/-- A context's next packet meets no message underway elsewhere, unless both senders take the lock. -/
def Clear (binds slips : π → Prop) (s : State κ π) (k : κ) : Prop :=
  ∀ m p, Puts s k m p → ¬slips p → ∀ k' m', k' ≠ k → Underway binds s k' m' → m.locked = true ∧ m'.locked = true

/-! ## The queue and the lock -/

/-- **What a queue `out` tells of the contexts**, and the lock's holder. -/
structure Ordered (s : State κ π) (out : List (Entry κ π)) : Prop where
  holder : ∀ k, s.holder = some k → ∃ m rest, s.todo k = m :: rest ∧ m.locked = true
  begun : ∀ k m rest, s.todo k = m :: rest → m.sent ≠ [] → m.locked = true → s.holder = some k
  fresh : ∀ k m rest, s.todo k = m :: rest → ∀ m' ∈ rest, m'.sent = []
  sent : ∀ k m rest, s.todo k = m :: rest → ∀ p ∈ m.sent, ⟨k, rest.length + 1, p⟩ ∈ out
  past : ∀ e ∈ out, (s.todo e.context).length ≤ e.left
  current : ∀ e ∈ out, ∀ m rest, s.todo e.context = m :: rest → e.left = rest.length + 1 → e.packet ∈ m.sent

section Order

variable {s : State κ π} {out : List (Entry κ π)} {k : κ}

/-- **What a step can be.** -/
inductive Moved (s : State κ π) (k : κ) : State κ π → List (Entry κ π) → Prop
  | wait : Moved s k s []
  | lock {m : Message π} {rest : List (Message π)} : s.todo k = m :: rest → m.locked = true → s.holder = none →
    Moved s k { s with holder := some k } []
  | put {t : State κ π} {m : Message π} {rest : List (Message π)} {p : π} {ps : List π} :
    s.todo k = m :: rest → m.ahead = p :: ps → ¬(m.locked = true ∧ s.holder ≠ some k) →
    t.todo k = { m with sent := m.sent ++ [p], ahead := ps } :: rest → (∀ k', k' ≠ k → t.todo k' = s.todo k') →
    t.holder = s.holder → Moved s k t [⟨k, rest.length + 1, p⟩]
  | finish {t : State κ π} {m : Message π} {rest : List (Message π)} :
    s.todo k = m :: rest → m.ahead = [] → ¬(m.locked = true ∧ s.holder ≠ some k) →
    t.todo k = rest → (∀ k', k' ≠ k → t.todo k' = s.todo k') → t.holder = (if m.locked then none else s.holder) →
    Moved s k t []

theorem step_moved (s : State κ π) (k : κ) : Moved s k (step s k).1 (step s k).2 := by
  unfold step
  cases htodo : s.todo k with
  | nil => exact .wait
  | cons m rest =>
    dsimp only
    by_cases hblocked : m.locked = true ∧ s.holder ≠ some k
    · rw [if_pos hblocked]
      by_cases hfree : s.holder = none
      · rw [if_pos hfree]
        exact .lock htodo hblocked.1 hfree
      · rw [if_neg hfree]
        exact .wait
    · rw [if_neg hblocked]
      cases hahead : m.ahead with
      | cons p ps =>
        exact .put htodo hahead hblocked (Function.update_self _ _ _) (fun k' hk => Function.update_of_ne hk _ _) rfl
      | nil =>
        exact .finish htodo hahead hblocked (Function.update_self _ _ _) (fun k' hk => Function.update_of_ne hk _ _) rfl

variable {t : State κ π} {m : Message π} {rest : List (Message π)} {p : π} {ps : List π}

/-- A packet is put. -/
theorem Ordered.put (h : Ordered s out) (htodo : s.todo k = m :: rest)
    (hgo : ¬(m.locked = true ∧ s.holder ≠ some k))
    (hself : t.todo k = { m with sent := m.sent ++ [p], ahead := ps } :: rest)
    (hother : ∀ k', k' ≠ k → t.todo k' = s.todo k') (hholder : t.holder = s.holder) :
    Ordered t (out ++ [⟨k, rest.length + 1, p⟩]) where
  holder k' hk' := by
    rw [hholder] at hk'
    obtain ⟨m', rest', htodo', hlocked⟩ := h.holder k' hk'
    by_cases hk : k' = k
    · subst hk
      rw [htodo] at htodo'
      cases htodo'
      exact ⟨_, _, hself, hlocked⟩
    · exact ⟨m', rest', (hother k' hk).trans htodo', hlocked⟩
  begun k' m' rest' htodo' hsent hlocked := by
    rw [hholder]
    by_cases hk : k' = k
    · subst hk
      rw [hself] at htodo'
      cases htodo'
      by_contra hne
      exact hgo ⟨hlocked, hne⟩
    · exact h.begun k' m' rest' ((hother k' hk).symm.trans htodo') hsent hlocked
  fresh k' m' rest' htodo' := by
    by_cases hk : k' = k
    · subst hk
      rw [hself] at htodo'
      cases htodo'
      exact h.fresh k' m rest htodo
    · exact h.fresh k' m' rest' ((hother k' hk).symm.trans htodo')
  sent k' m' rest' htodo' q hq := by
    rw [List.mem_append, List.mem_singleton]
    by_cases hk : k' = k
    · subst hk
      rw [hself] at htodo'
      cases htodo'
      rcases List.mem_append.1 hq with hq | hq
      · exact Or.inl (h.sent k' m rest htodo q hq)
      · rw [List.mem_singleton.1 hq]
        exact Or.inr rfl
    · exact Or.inl (h.sent k' m' rest' ((hother k' hk).symm.trans htodo') q hq)
  past e he := by
    rw [List.mem_append, List.mem_singleton] at he
    rcases he with he | rfl
    · have hpast := h.past e he
      by_cases hk : e.context = k
      · rw [hk, htodo] at hpast
        rw [hk, hself]
        exact hpast
      · rw [hother _ hk]
        exact hpast
    · rw [hself]
      exact Nat.le_refl _
  current e he m' rest' htodo' hleft := by
    rw [List.mem_append, List.mem_singleton] at he
    rcases he with he | rfl
    · by_cases hk : e.context = k
      · rw [hk, hself] at htodo'
        cases htodo'
        exact List.mem_append_left _ (h.current e he m rest (by rw [hk, htodo]) hleft)
      · exact h.current e he m' rest' ((hother _ hk).symm.trans htodo') hleft
    · rw [hself] at htodo'
      cases htodo'
      exact List.mem_append_right _ (List.mem_singleton_self _)

/-- A message is finished. -/
theorem Ordered.finish (h : Ordered s out) (htodo : s.todo k = m :: rest)
    (hgo : ¬(m.locked = true ∧ s.holder ≠ some k)) (hself : t.todo k = rest)
    (hother : ∀ k', k' ≠ k → t.todo k' = s.todo k') (hholder : t.holder = (if m.locked then none else s.holder)) :
    Ordered t out where
  holder k' hk' := by
    rw [hholder] at hk'
    split at hk'
    · cases hk'
    · next hunlocked =>
      obtain ⟨m', rest', htodo', hlocked⟩ := h.holder k' hk'
      have hk : k' ≠ k := by
        rintro rfl
        rw [htodo] at htodo'
        cases htodo'
        exact hunlocked hlocked
      exact ⟨m', rest', (hother k' hk).trans htodo', hlocked⟩
  begun k' m' rest' htodo' hsent hlocked := by
    rw [hholder]
    by_cases hk : k' = k
    · subst hk
      rw [hself] at htodo'
      exact absurd (h.fresh k' m rest htodo m' (by rw [htodo']; exact List.mem_cons_self)) hsent
    · have hmine := h.begun k' m' rest' ((hother k' hk).symm.trans htodo') hsent hlocked
      split
      · next hm =>
        -- the lock is not another's
        exact absurd ⟨hm, fun hk' => hk (Option.some.inj (hmine.symm.trans hk'))⟩ hgo
      · exact hmine
  fresh k' m' rest' htodo' m'' hm'' := by
    by_cases hk : k' = k
    · subst hk
      rw [hself] at htodo'
      exact h.fresh k' m rest htodo m'' (by rw [htodo']; exact List.mem_cons_of_mem _ hm'')
    · exact h.fresh k' m' rest' ((hother k' hk).symm.trans htodo') m'' hm''
  sent k' m' rest' htodo' p hp := by
    by_cases hk : k' = k
    · subst hk
      rw [hself] at htodo'
      have hnil := h.fresh k' m rest htodo m' (by rw [htodo']; exact List.mem_cons_self)
      rw [hnil] at hp
      cases hp
    · exact h.sent k' m' rest' ((hother k' hk).symm.trans htodo') p hp
  past e he := by
    have hpast := h.past e he
    by_cases hk : e.context = k
    · rw [hk, htodo, List.length_cons] at hpast
      rw [hk, hself]
      omega
    · rw [hother _ hk]
      exact hpast
  current e he m' rest' htodo' hleft := by
    by_cases hk : e.context = k
    · -- its packets were of an earlier message
      have hpast := h.past e he
      rw [hk, htodo, List.length_cons] at hpast
      rw [hk, hself] at htodo'
      have hrest : rest.length = rest'.length + 1 := by rw [htodo', List.length_cons]
      omega
    · exact h.current e he m' rest' ((hother _ hk).symm.trans htodo') hleft

/-- **One step** keeps the order. -/
theorem Ordered.moved {o : List (Entry κ π)} (h : Ordered s out) (hmoved : Moved s k t o) : Ordered t (out ++ o) := by
  cases hmoved with
  | wait =>
    rw [List.append_nil]
    exact h
  | lock htodo hlocked hfree =>
    rw [List.append_nil]
    refine ⟨?_, ?_, h.fresh, h.sent, h.past, h.current⟩
    · rintro k' ⟨⟩
      exact ⟨_, _, htodo, hlocked⟩
    · intro k' m' rest' htodo' hsent hlocked'
      have hholder := h.begun k' m' rest' htodo' hsent hlocked'
      rw [hfree] at hholder
      cases hholder
  | put htodo hahead hgo hself hother hholder => exact h.put htodo hgo hself hother hholder
  | finish htodo hahead hgo hself hother hholder =>
    rw [List.append_nil]
    exact h.finish htodo hgo hself hother hholder

end Order

/-! ## Messages in one piece -/

section Pieces

variable {binds slips : π → Prop} {s t : State κ π} {out o : List (Entry κ π)} {k : κ}

/-- Nothing that does not slip came between the packets of a message, nor since the first of one underway. -/
structure Unbroken (binds slips : π → Prop) (s : State κ π) (out : List (Entry κ π)) : Prop where
  contiguous : Contiguous binds slips out
  underway : ∀ k m rest, s.todo k = m :: rest → m.ahead ≠ [] → ∀ l₁ a l₂, out = l₁ ++ a :: l₂ →
    a.context = k → a.left = rest.length + 1 → binds a.packet → ∀ x ∈ l₂, x.SameMessage a ∨ slips x.packet

/-- A context that may put a packet meets no message underway: two senders with the lock exclude each other. -/
theorem Ordered.slips_of_clear (h : Ordered s out) (hclear : Clear binds slips s k) {m m' : Message π} {p : π}
    (hputs : Puts s k m p) {k' : κ} (hk : k' ≠ k) (hunder : Underway binds s k' m') : slips p := by
  by_contra hp
  obtain ⟨hm, hm'⟩ := hclear m p hputs hp k' m' hk hunder
  obtain ⟨-, ⟨a, ha, -⟩, rest', htodo'⟩ := hunder
  have hmine : s.holder = some k := by
    by_contra hne
    exact hputs.1 ⟨hm, hne⟩
  have hother : s.holder = some k' := h.begun k' m' rest' htodo' (List.ne_nil_of_mem ha) hm'
  exact hk (Option.some.inj (hother.symm.trans hmine))

/-- Appending one packet splits at its end or before. -/
theorem eq_append_singleton {α : Type*} {l l₁ l₂ : List α} {a e : α} (h : l ++ [e] = l₁ ++ a :: l₂) :
    (l₂ = [] ∧ a = e ∧ l = l₁) ∨ ∃ l₂', l₂ = l₂' ++ [e] ∧ l = l₁ ++ a :: l₂' := by
  rcases List.eq_nil_or_concat l₂ with rfl | ⟨l₂', z, rfl⟩
  · obtain ⟨hl, he⟩ := List.append_inj' h rfl
    exact Or.inl ⟨rfl, (List.cons.inj he).1.symm, hl⟩
  · rw [List.concat_eq_append, ← List.cons_append, ← List.append_assoc] at h
    obtain ⟨hl, he⟩ := List.append_inj' h rfl
    exact Or.inr ⟨l₂', by rw [List.concat_eq_append, (List.cons.inj he).1], hl⟩

/-- **A packet that meets no message underway** leaves all messages in one piece. -/
theorem Unbroken.moved (h : Unbroken binds slips s out) (hord : Ordered s out) (hclear : Clear binds slips s k)
    (hmoved : Moved s k t o) : Unbroken binds slips t (out ++ o) := by
  cases hmoved with
  | wait =>
    rw [List.append_nil]
    exact h
  | lock =>
    rw [List.append_nil]
    exact ⟨h.contiguous, h.underway⟩
  | @finish t m rest htodo hahead hgo hself hother hholder =>
    rw [List.append_nil]
    refine ⟨h.contiguous, ?_⟩
    intro k' m' rest' htodo' hne l₁ a l₂ hsplit hctx hleft
    by_cases hk : k' = k
    · -- nothing of the next message is in the queue
      have ha : a ∈ out := by rw [hsplit]; simp
      have hpast := hord.past a ha
      rw [hctx, hk, htodo, List.length_cons] at hpast
      rw [hk, hself] at htodo'
      have hrest : rest.length = rest'.length + 1 := by rw [htodo', List.length_cons]
      omega
    · exact h.underway k' m' rest' ((hother k' hk).symm.trans htodo') hne l₁ a l₂ hsplit hctx hleft
  | @put t m rest p ps htodo hahead hgo hself hother hholder =>
    have hputs : Puts s k m p := ⟨hgo, rest, ps, htodo, hahead⟩
    have hne : m.ahead ≠ [] := by rw [hahead]; exact List.cons_ne_nil _ _
    refine ⟨?_, ?_⟩
    · intro l₁ a l₂ b l₃ hsplit hsame hbinds x hx
      rw [List.append_assoc, List.cons_append] at hsplit
      rcases eq_append_singleton hsplit with ⟨hnil, -, -⟩ | ⟨tail, htail, hout⟩
      · exact absurd hnil (by simp)
      · rcases eq_append_singleton htail.symm with ⟨-, rfl, rfl⟩ | ⟨l₃', rfl, rfl⟩
        · -- the packet is of the message's own
          exact h.underway k m rest htodo hne l₁ a tail hout hsame.1.symm hsame.2.symm hbinds x hx
        · refine h.contiguous l₁ a l₂ b l₃' ?_ hsame hbinds x hx
          rw [hout, List.append_assoc, List.cons_append]
    · intro k' m' rest' htodo' hne' l₁ a l₂ hsplit hctx hleft hbinds x hx
      rcases eq_append_singleton hsplit with ⟨rfl, -, -⟩ | ⟨l₂', rfl, hout⟩
      · cases hx
      · have ha : a ∈ out := by rw [hout]; simp
        rw [List.mem_append, List.mem_singleton] at hx
        by_cases hk : k' = k
        · rw [hk, hself] at htodo'
          cases htodo'
          rcases hx with hx | rfl
          · exact h.underway k m rest htodo hne l₁ a l₂' hout (hctx.trans hk) hleft hbinds x hx
          · exact Or.inl ⟨hk.symm.trans hctx.symm, hleft.symm⟩
        · have hsame := (hother k' hk).symm.trans htodo'
          rcases hx with hx | rfl
          · exact h.underway k' m' rest' hsame hne' l₁ a l₂' hout hctx hleft hbinds x hx
          · have hsent : a.packet ∈ m'.sent := hord.current a ha m' rest' (by rw [hctx]; exact hsame) hleft
            exact Or.inr (hord.slips_of_clear hclear hputs hk ⟨hne', ⟨_, hsent, hbinds⟩, rest', hsame⟩)

omit [DecidableEq κ] in
/-- **A packet that meets a message underway** breaks it, once the message goes on. -/
theorem not_contiguous_of_met (hord : Ordered s out) {m' : Message π} {p : π} (hp : ¬slips p) {k' : κ} (hk : k' ≠ k)
    (hunder : Underway binds s k' m') {later : List (Entry κ π)}
    (hlater : ∃ b ∈ later, b.context = k' ∧ b.left = (s.todo k').length) :
    ¬Contiguous binds slips (out ++ ⟨k, (s.todo k).length, p⟩ :: later) := by
  intro hcont
  obtain ⟨hne, ⟨q, hq, hbinds⟩, rest', htodo'⟩ := hunder
  obtain ⟨b, hb, hctx, hleft⟩ := hlater
  obtain ⟨l₁, l₂, hout⟩ := List.append_of_mem (hord.sent k' m' rest' htodo' q hq)
  obtain ⟨r₁, r₂, hlater⟩ := List.append_of_mem hb
  have hsplit : out ++ ⟨k, (s.todo k).length, p⟩ :: later =
      l₁ ++ ⟨k', rest'.length + 1, q⟩ :: (l₂ ++ ⟨k, (s.todo k).length, p⟩ :: r₁) ++ b :: r₂ := by
    rw [hout, hlater]
    simp
  have hsame : b.SameMessage ⟨k', rest'.length + 1, q⟩ := by
    refine ⟨hctx, ?_⟩
    rw [hleft, htodo', List.length_cons]
  rcases hcont _ _ _ _ _ hsplit hsame hbinds ⟨k, (s.todo k).length, p⟩ (by simp) with hmine | hslips
  · exact hk hmine.1.symm
  · exact hp hslips

/-- A message underway goes on in a run to the end. -/
theorem goes_on {ks : List κ} {k' : κ} {m' : Message π} {rest' : List (Message π)}
    (htodo : s.todo k' = m' :: rest') (hne : m'.ahead ≠ []) (hdone : (Mealy.run step s ks).1.todo k' = []) :
    ∃ b ∈ (Mealy.run step s ks).2, b.context = k' ∧ b.left = (s.todo k').length := by
  induction ks generalizing s with
  | nil =>
    rw [Mealy.run_nil, htodo] at hdone
    cases hdone
  | cons k ks ih =>
    rw [Mealy.run_cons] at hdone ⊢
    dsimp only at hdone ⊢
    have hmoved := step_moved s k
    have hstays : (step s k).1.todo k' = s.todo k' →
        ∃ b ∈ (step s k).2 ++ (Mealy.run step (step s k).1 ks).2, b.context = k' ∧ b.left = (s.todo k').length := by
      intro hsame
      obtain ⟨b, hb, hctx, hleft⟩ := ih (hsame.trans htodo) hdone
      exact ⟨b, List.mem_append_right _ hb, hctx, hleft.trans (congrArg _ hsame)⟩
    generalize step s k = r at hmoved hstays
    obtain ⟨t, o⟩ := r
    cases hmoved with
    | wait => exact hstays rfl
    | lock => exact hstays rfl
    | put htodo' hahead hgo hself hother hholder =>
      by_cases hk : k' = k
      · subst hk
        exact ⟨_, List.mem_append_left _ (List.mem_singleton_self _), rfl, by rw [htodo']; rfl⟩
      · exact hstays (hother k' hk)
    | finish htodo' hahead hgo hself hother hholder =>
      by_cases hk : k' = k
      · subst hk
        rw [htodo] at htodo'
        cases htodo'
        exact absurd hahead hne
      · exact hstays (hother k' hk)

/-- The step that puts a packet. -/
theorem step_of_puts {m : Message π} {p : π} (hputs : Puts s k m p) :
    (step s k).2 = [⟨k, (s.todo k).length, p⟩] ∧ (∀ k', k' ≠ k → (step s k).1.todo k' = s.todo k') ∧
      (step s k).1.holder = s.holder := by
  obtain ⟨hgo, rest, ps, htodo, hahead⟩ := hputs
  unfold step
  simp only [htodo, hahead, if_neg hgo]
  exact ⟨rfl, fun k' hk => Function.update_of_ne hk _ _, trivial⟩

/-- Nothing is sent yet. -/
def Fresh (s : State κ π) : Prop := s.holder = none ∧ ∀ k, ∀ m ∈ s.todo k, m.sent = []

omit [DecidableEq κ] in
theorem Fresh.ordered (h : Fresh s) : Ordered s [] where
  holder k hk := by
    rw [h.1] at hk
    cases hk
  begun k m rest htodo hsent := absurd (h.2 k m (by rw [htodo]; exact List.mem_cons_self)) hsent
  fresh k m rest htodo m' hm' := h.2 k m' (by rw [htodo]; exact List.mem_cons_of_mem _ hm')
  sent k m rest htodo p hp := by
    rw [h.2 k m (by rw [htodo]; exact List.mem_cons_self)] at hp
    cases hp
  past e he := absurd he (by simp)
  current e he := absurd he (by simp)

/-- **While every packet is clear**, the queue is contiguous. -/
theorem contiguous_of_clear (h : Fresh s) {ks : List κ} (hclear : Mealy.Guarded step (Clear binds slips) s ks) :
    Contiguous binds slips (Mealy.run step s ks).2 := by
  have hempty : Contiguous binds slips ([] : List (Entry κ π)) := by
    intro l₁ a l₂ b l₃ hsplit
    simp at hsplit
  have hstart : Unbroken binds slips s [] := ⟨hempty, fun k m rest _ _ l₁ a l₂ hsplit => by simp at hsplit⟩
  have hinv := Mealy.trace_inv (fun s out => Ordered s out ∧ Unbroken binds slips s out)
    (fun s out k hI hk => ⟨hI.1.moved (step_moved s k), hI.2.moved hI.1 hk (step_moved s k)⟩) ⟨h.ordered, hstart⟩ hclear
  exact hinv.2.contiguous

/-- A contiguous run to the end was clear all along. -/
theorem Ordered.guarded_of_contiguous (h : Ordered s out) {ks : List κ}
    (hdone : ∀ k, (Mealy.run step s ks).1.todo k = [])
    (hcont : Contiguous binds slips (out ++ (Mealy.run step s ks).2)) :
    Mealy.Guarded step (Clear binds slips) s ks := by
  induction ks generalizing s out with
  | nil => trivial
  | cons k ks ih =>
    rw [Mealy.run_cons] at hdone hcont
    refine ⟨?_, ?_⟩
    · intro m p hputs hp k' m' hk hunder
      obtain ⟨hout, hother, -⟩ := step_of_puts hputs
      obtain ⟨rest', htodo'⟩ := hunder.2.2
      -- the message met goes on later, as the run comes to its end
      have hlater := goes_on ((hother k' hk).trans htodo') hunder.1 (hdone k')
      rw [hother k' hk] at hlater
      rw [hout, List.singleton_append] at hcont
      exact absurd hcont (not_contiguous_of_met h hp hk hunder hlater)
    · refine ih (h.moved (step_moved s k)) hdone ?_
      rw [List.append_assoc]
      exact hcont

/-- **All messages of a run to the end are in one piece exactly when** every packet was clear. -/
theorem contiguous_iff (h : Fresh s) {ks : List κ} (hdone : ∀ k, (Mealy.run step s ks).1.todo k = []) :
    Contiguous binds slips (Mealy.run step s ks).2 ↔ Mealy.Guarded step (Clear binds slips) s ks := by
  constructor
  · intro hcont
    exact h.ordered.guarded_of_contiguous hdone hcont
  · exact contiguous_of_clear h

end Pieces

/-! ## Every order of the contexts -/

section Orders

variable {binds slips : π → Prop} {s t : State κ π} {o : List (Entry κ π)} {k : κ} {m m' : Message π}

/-- A message with a packet that does not slip. -/
def Message.Interrupts (slips : π → Prop) (m : Message π) : Prop := ∃ p ∈ m.sent ++ m.ahead, ¬slips p

/-- A message with a packet that binds, and not as its last. -/
def Message.Breakable (binds : π → Prop) (m : Message π) : Prop :=
  ∃ l₁ a b l₂, m.sent ++ m.ahead = l₁ ++ a :: b :: l₂ ∧ binds a

/-- Of two contexts' messages, one that interrupts and one that can be broken, both are under the lock. -/
def Excluded (binds slips : π → Prop) (s : State κ π) : Prop :=
  ∀ k k', k' ≠ k → ∀ m ∈ s.todo k, ∀ m' ∈ s.todo k', m.Interrupts slips → m'.Breakable binds →
    m.locked = true ∧ m'.locked = true

omit [DecidableEq κ] in
/-- A step makes no new messages. -/
theorem Moved.same (hmoved : Moved s k t o) {k' : κ} {m' : Message π} (hm' : m' ∈ t.todo k') :
    ∃ m ∈ s.todo k', m'.sent ++ m'.ahead = m.sent ++ m.ahead ∧ m'.locked = m.locked := by
  cases hmoved with
  | wait => exact ⟨m', hm', rfl, rfl⟩
  | lock => exact ⟨m', hm', rfl, rfl⟩
  | @put t m rest p ps htodo hahead hgo hself hother hholder =>
    by_cases hk : k' = k
    · subst hk
      rw [hself] at hm'
      rw [htodo]
      rcases List.mem_cons.1 hm' with rfl | hm'
      · exact ⟨m, List.mem_cons_self, by rw [hahead]; simp, rfl⟩
      · exact ⟨m', List.mem_cons_of_mem _ hm', rfl, rfl⟩
    · rw [hother k' hk] at hm'
      exact ⟨m', hm', rfl, rfl⟩
  | finish htodo hahead hgo hself hother hholder =>
    by_cases hk : k' = k
    · subst hk
      rw [hself] at hm'
      rw [htodo]
      exact ⟨m', List.mem_cons_of_mem _ hm', rfl, rfl⟩
    · rw [hother k' hk] at hm'
      exact ⟨m', hm', rfl, rfl⟩

omit [DecidableEq κ] in
theorem Moved.excluded (hmoved : Moved s k t o) (h : Excluded binds slips s) : Excluded binds slips t := by
  intro k₁ k₂ hk m₁ hm₁ m₂ hm₂ hinterrupts hbreakable
  obtain ⟨m, hm, hpackets, hlocked⟩ := hmoved.same hm₁
  obtain ⟨m', hm', hpackets', hlocked'⟩ := hmoved.same hm₂
  unfold Message.Interrupts at hinterrupts
  unfold Message.Breakable at hbreakable
  rw [hpackets] at hinterrupts
  rw [hpackets'] at hbreakable
  rw [hlocked, hlocked']
  exact h k₁ k₂ hk m hm m' hm' hinterrupts hbreakable

omit [DecidableEq κ] in
theorem Excluded.clear (h : Excluded binds slips s) (k : κ) : Clear binds slips s k := by
  rintro m p ⟨-, rest, ps, htodo, hahead⟩ hp k' m' hk ⟨hne, ⟨a, ha, hbinds⟩, rest', htodo'⟩
  refine h k k' hk m (by rw [htodo]; exact List.mem_cons_self) m' (by rw [htodo']; exact List.mem_cons_self)
    ⟨p, by rw [hahead]; simp, hp⟩ ?_
  obtain ⟨l₁, l₂, hsent⟩ := List.append_of_mem ha
  obtain ⟨b, later, hahead'⟩ := List.exists_cons_of_ne_nil hne
  cases l₂ with
  | nil => exact ⟨l₁, a, b, later, by rw [hsent, hahead']; simp, hbinds⟩
  | cons c l₂ => exact ⟨l₁, a, c, l₂ ++ b :: later, by rw [hsent, hahead']; simp, hbinds⟩

/-! ## A context alone -/

/-- Some steps of the contexts lead from one state to the other. -/
def Reaches (s t : State κ π) : Prop := ∃ ks, (Mealy.run step s ks).1 = t

theorem Reaches.refl : Reaches s s := ⟨[], rfl⟩

theorem Reaches.trans {u : State κ π} (h : Reaches s t) (h' : Reaches t u) : Reaches s u := by
  obtain ⟨ks, rfl⟩ := h
  obtain ⟨ks', rfl⟩ := h'
  exact ⟨ks ++ ks', by rw [Mealy.run_append]⟩

theorem Reaches.step (k : κ) : Reaches s (Sections.step s k).1 := ⟨[k], rfl⟩

variable {rest : List (Message π)}

/-- It takes the lock if its message needs it. -/
theorem alone_locks (htodo : s.todo k = m :: rest) (hfree : m.locked = true → s.holder = none) :
    ∃ t, Reaches s t ∧ t.todo = s.todo ∧ t.holder = if m.locked then some k else s.holder := by
  by_cases hlocked : m.locked = true
  · have hblocked : m.locked = true ∧ s.holder ≠ some k := ⟨hlocked, by rw [hfree hlocked]; simp⟩
    have hstep : (step s k).1 = { s with holder := some k } := by
      unfold step
      simp only [htodo, if_pos hblocked, if_pos (hfree hlocked)]
    exact ⟨_, .step k, by rw [hstep], by rw [hstep, if_pos hlocked]⟩
  · exact ⟨s, .refl, rfl, by rw [if_neg hlocked]⟩

/-- It puts its next packets. -/
theorem alone_puts (htodo : s.todo k = m :: rest) (hgo : m.locked = true → s.holder = some k) {ps later : List π}
    (hahead : m.ahead = ps ++ later) :
    ∃ t, Reaches s t ∧ t.todo k = { m with sent := m.sent ++ ps, ahead := later } :: rest ∧
      (∀ k', k' ≠ k → t.todo k' = s.todo k') ∧ t.holder = s.holder := by
  induction ps generalizing s m with
  | nil =>
    refine ⟨s, .refl, ?_, fun _ _ => rfl, rfl⟩
    rw [htodo, List.append_nil, ← (show m.ahead = later from hahead)]
  | cons p ps ih =>
    have hstep : (step s k).1 =
        { s with todo := Function.update s.todo k ({ m with sent := m.sent ++ [p], ahead := ps ++ later } :: rest) } := by
      unfold step
      simp only [htodo, hahead, List.cons_append, if_neg fun h : m.locked = true ∧ s.holder ≠ some k => h.2 (hgo h.1)]
    obtain ⟨t, hreaches, hself, hother, hholder⟩ :=
      ih (s := (step s k).1) (m := { m with sent := m.sent ++ [p], ahead := ps ++ later })
        (by rw [hstep]; exact Function.update_self _ _ _) (by rw [hstep]; exact hgo) rfl
    refine ⟨t, (Reaches.step k).trans hreaches, ?_, fun k' hk => ?_, ?_⟩
    · rw [hself]
      simp
    · rw [hother k' hk, hstep]
      exact Function.update_of_ne hk _ _
    · rw [hholder, hstep]

/-- It gets its messages done, as long as nobody else holds the lock. -/
theorem alone_passes {pre : List (Message π)} (htodo : s.todo k = pre ++ rest) (hfree : s.holder = none) :
    ∃ t, Reaches s t ∧ t.todo k = rest ∧ (∀ k', k' ≠ k → t.todo k' = s.todo k') ∧ t.holder = none := by
  induction pre generalizing s with
  | nil => exact ⟨s, .refl, htodo, fun _ _ => rfl, hfree⟩
  | cons m pre ih =>
    obtain ⟨s₁, hreach₁, htodo₁, hholder₁⟩ := alone_locks htodo fun _ => hfree
    rw [hfree] at hholder₁
    have hgo : m.locked = true → s₁.holder = some k := fun h => by rw [hholder₁, if_pos h]
    have hnext : s₁.todo k = m :: (pre ++ rest) := by rw [htodo₁]; exact htodo
    obtain ⟨s₂, hreach₂, hself₂, hother₂, hholder₂⟩ := alone_puts hnext hgo (List.append_nil m.ahead).symm
    have hstep : (step s₂ k).1 =
        { todo := Function.update s₂.todo k (pre ++ rest), holder := if m.locked then none else s₂.holder } := by
      unfold step
      simp only [hself₂, if_neg fun h : m.locked = true ∧ s₂.holder ≠ some k => h.2 (hholder₂.trans (hgo h.1))]
    have hnone : (step s₂ k).1.holder = none := by
      rw [hstep, hholder₂, hholder₁]
      cases m.locked <;> rfl
    obtain ⟨t, hreach, hself, hother, hholder⟩ :=
      ih (s := (step s₂ k).1) (by rw [hstep]; exact Function.update_self _ _ _) hnone
    refine ⟨t, ((hreach₁.trans hreach₂).trans (.step k)).trans hreach, hself, fun k' hk => ?_, hholder⟩
    rw [hother k' hk, hstep, ← congrFun htodo₁ k', ← hother₂ k' hk]
    exact Function.update_of_ne hk _ _

/-- **A message that interrupts meets one that can be broken**, unless both are under the lock. -/
theorem exists_broken (h : Fresh s) {k' : κ} (hk : k' ≠ k) (hm : m ∈ s.todo k) (hm' : m' ∈ s.todo k')
    (hinterrupts : m.Interrupts slips) (hbreakable : m'.Breakable binds)
    (hunlocked : ¬(m.locked = true ∧ m'.locked = true)) : ∃ ks, ¬Contiguous binds slips (Mealy.run step s ks).2 := by
  obtain ⟨pre, rest, htodo⟩ := List.append_of_mem hm
  obtain ⟨pre', rest', htodo'⟩ := List.append_of_mem hm'
  obtain ⟨p, hp, hslips⟩ := hinterrupts
  obtain ⟨l₁, a, b, l₂, hpackets', hbinds⟩ := hbreakable
  rw [h.2 k m hm, List.nil_append] at hp
  rw [h.2 k' m' hm', List.nil_append] at hpackets'
  obtain ⟨ps, later, hahead⟩ := List.append_of_mem hp
  -- both contexts come to their message, and the one that can be broken begins
  obtain ⟨s₁, hreach₁, hself₁, hother₁, hholder₁⟩ := alone_passes htodo h.1
  obtain ⟨s₂, hreach₂, hself₂, hother₂, hholder₂⟩ := alone_passes ((hother₁ k' hk).trans htodo') hholder₁
  obtain ⟨s₃, hreach₃, htodo₃, hholder₃⟩ := alone_locks hself₂ fun _ => hholder₂
  rw [hholder₂] at hholder₃
  obtain ⟨s₄, hreach₄, hself₄, hother₄, hholder₄⟩ := alone_puts ((congrFun htodo₃ k').trans hself₂)
    (fun hlocked => by rw [hholder₃, if_pos hlocked]) (hpackets'.trans (List.append_cons l₁ a (b :: l₂)))
  -- the other goes on up to the packet that does not slip
  have hmine₄ : s₄.todo k = m :: rest := by
    rw [hother₄ k hk.symm, htodo₃, hother₂ k hk.symm]
    exact hself₁
  obtain ⟨s₅, hreach₅, htodo₅, hholder₅⟩ := alone_locks hmine₄ fun hlocked => by
    rw [hholder₄, hholder₃, if_neg fun hlocked' => hunlocked ⟨hlocked, hlocked'⟩]
  have hgo₅ : m.locked = true → s₅.holder = some k := fun hlocked => by rw [hholder₅, if_pos hlocked]
  obtain ⟨s₆, hreach₆, hself₆, hother₆, hholder₆⟩ := alone_puts ((congrFun htodo₅ k).trans hmine₄) hgo₅ hahead
  have hputs : Puts s₆ k { m with sent := m.sent ++ ps, ahead := p :: later } p :=
    ⟨fun hblocked => hblocked.2 (hholder₆.trans (hgo₅ hblocked.1)), rest, later, hself₆, rfl⟩
  have htheirs : s₆.todo k' = { m' with sent := m'.sent ++ (l₁ ++ [a]), ahead := b :: l₂ } :: rest' := by
    rw [hother₆ k' hk, htodo₅]
    exact hself₄
  have hunder : Underway binds s₆ k' { m' with sent := m'.sent ++ (l₁ ++ [a]), ahead := b :: l₂ } :=
    ⟨List.cons_ne_nil _ _, ⟨a, by simp, hbinds⟩, rest', htheirs⟩
  -- that packet is put, and then the next of the message it broke
  obtain ⟨hout, hother, hholder⟩ := step_of_puts hputs
  have hputs' : Puts (step s₆ k).1 k' { m' with sent := m'.sent ++ (l₁ ++ [a]), ahead := b :: l₂ } b := by
    refine ⟨fun hblocked => hblocked.2 ?_, rest', l₂, (hother k' hk).trans htheirs, rfl⟩
    have hlocked' : m'.locked = true := hblocked.1
    rw [hholder, hholder₆, hholder₅, if_neg fun hlocked => hunlocked ⟨hlocked, hlocked'⟩, hholder₄, hholder₃,
      if_pos hlocked']
  have hreach : Reaches s s₆ :=
    ((((hreach₁.trans hreach₂).trans hreach₃).trans hreach₄).trans hreach₅).trans hreach₆
  obtain ⟨ks, rfl⟩ := hreach
  refine ⟨ks ++ [k, k'], ?_⟩
  have hord : Ordered (Mealy.run step s ks).1 (Mealy.run step s ks).2 :=
    Mealy.trace_inv Ordered (G := fun _ _ => True) (fun _ _ e ho _ => ho.moved (step_moved _ e)) h.ordered
      (Mealy.guarded_of_forall (fun _ _ => trivial) s ks)
  rw [Mealy.run_append]
  simp only [Mealy.run_cons, Mealy.run_nil, List.append_nil]
  rw [hout, (step_of_puts hputs').1, List.singleton_append]
  exact not_contiguous_of_met hord hslips hk hunder ⟨_, List.mem_singleton_self _, rfl, by rw [hother k' hk]⟩

/-- **All orders of the contexts leave every message in one piece exactly when**, of two contexts' messages, one
that interrupts and one that can be broken, both are under the lock. -/
theorem contiguous_forall_iff (h : Fresh s) :
    (∀ ks, Contiguous binds slips (Mealy.run step s ks).2) ↔ Excluded binds slips s := by
  constructor
  · intro hall k k' hk m hm m' hm' hinterrupts hbreakable
    by_contra hunlocked
    obtain ⟨ks, hbroken⟩ := exists_broken h hk hm hm' hinterrupts hbreakable hunlocked
    exact hbroken (hall ks)
  · intro hexcluded ks
    have hclear := Mealy.guarded_of_inv (H := Clear binds slips) (G := fun _ _ => True) (Excluded binds slips)
      (fun s k hs _ => (step_moved s k).excluded hs) (fun _ k hs _ => hs.clear k) hexcluded
      (Mealy.guarded_of_forall (fun _ _ => trivial) s ks)
    exact contiguous_of_clear h hclear

end Orders

end Sections
