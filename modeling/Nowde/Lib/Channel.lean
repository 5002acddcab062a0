import Nowde.Lib.Run
import Mathlib.Data.List.Nodup
import Mathlib.Data.List.Perm.Basic
import Mathlib.Data.List.Range
import Mathlib.Tactic.Common

/-!
# A channel that keeps order

Items are numbered as they are accepted and wait in order. The oldest one may be delivered or
lost, and all that wait may be discarded. Whatever happens, what was delivered is a
subsequence of what was accepted (`delivered_sublist`), and every accepted item has had exactly
one fate (`accounted`). An implementation is compared with the channel through `Mealy.shadow`.
-/

namespace Channel

/-- An accepted item and its number. -/
abbrev Entry (α : Type*) := ℕ × α

/-- What waits in the channel, oldest first, and the next number. -/
structure State (α : Type*) where
  pending : List (Entry α) := []
  next : ℕ := 0

inductive Act (α : Type*)
  | accept (a : α)
  | deliver
  | discard
  | lose

inductive Note (α : Type*)
  | accepted (e : Entry α)
  | delivered (e : Entry α)
  | discarded (es : List (Entry α))
  | lost (e : Entry α)

variable {α : Type*}

def step (s : State α) : Act α → State α × List (Note α)
  | .accept a =>
    ({ pending := s.pending ++ [(s.next, a)], next := s.next + 1 }, [.accepted (s.next, a)])
  | .deliver =>
    match s.pending with
    | [] => (s, [])
    | e :: es => ({ s with pending := es }, [.delivered e])
  | .discard => ({ s with pending := [] }, [.discarded s.pending])
  | .lose =>
    match s.pending with
    | [] => (s, [])
    | e :: es => ({ s with pending := es }, [.lost e])

/-! ## The record of a run -/

section Notes

def Note.accepts : Note α → List (Entry α)
  | .accepted e => [e]
  | _ => []

def Note.delivers : Note α → List (Entry α)
  | .delivered e => [e]
  | _ => []

def Note.discards : Note α → List (Entry α)
  | .discarded es => es
  | _ => []

def Note.loses : Note α → List (Entry α)
  | .lost e => [e]
  | _ => []

def accepted (notes : List (Note α)) : List (Entry α) := notes.flatMap Note.accepts

def delivered (notes : List (Note α)) : List (Entry α) := notes.flatMap Note.delivers

def discarded (notes : List (Note α)) : List (Entry α) := notes.flatMap Note.discards

def lost (notes : List (Note α)) : List (Entry α) := notes.flatMap Note.loses

variable (n : Note α) (notes : List (Note α))

theorem accepted_snoc : accepted (notes ++ [n]) = accepted notes ++ n.accepts := by
  simp [accepted]

theorem delivered_snoc : delivered (notes ++ [n]) = delivered notes ++ n.delivers := by
  simp [delivered]

theorem discarded_snoc : discarded (notes ++ [n]) = discarded notes ++ n.discards := by
  simp [discarded]

theorem lost_snoc : lost (notes ++ [n]) = lost notes ++ n.loses := by
  simp [lost]

end Notes

/-! ## What a run keeps -/

/-- The record agrees with what waits: numbers in order, deliveries ahead of what waits, and one
fate for each item. -/
structure Ledger (s : State α) (notes : List (Note α)) : Prop where
  numbered : (accepted notes).map Prod.fst = List.range s.next
  ordered : (delivered notes ++ s.pending).Sublist (accepted notes)
  accounted : (accepted notes).Perm (delivered notes ++ s.pending ++ (discarded notes ++ lost notes))

theorem ledger_start : Ledger ({} : State α) [] := ⟨rfl, List.Sublist.refl _, List.Perm.refl _⟩

/-- An item joins those that wait. -/
theorem Ledger.accept {s : State α} {notes : List (Note α)} (h : Ledger s notes) (a : α) :
    Ledger { pending := s.pending ++ [(s.next, a)], next := s.next + 1 }
      (notes ++ [.accepted (s.next, a)]) := by
  obtain ⟨hnum, hord, hacc⟩ := h
  refine ⟨?_, ?_, ?_⟩
  · simp only [accepted_snoc, Note.accepts, List.map_append, List.map_cons, List.map_nil, hnum,
      List.range_succ]
  · have hboth := hord.append (List.Sublist.refl [(s.next, a)])
    simpa only [accepted_snoc, delivered_snoc, Note.accepts, Note.delivers, List.append_nil,
      List.append_assoc] using hboth
  · simp only [accepted_snoc, delivered_snoc, discarded_snoc, lost_snoc, Note.accepts, Note.delivers,
      Note.discards, Note.loses, List.append_nil, ← List.append_assoc]
    have hnew := hacc.append_right [(s.next, a)]
    have hswap : (discarded notes ++ lost notes ++ [(s.next, a)]).Perm
        ([(s.next, a)] ++ (discarded notes ++ lost notes)) := List.perm_append_comm
    have hfront := hswap.append_left (delivered notes ++ s.pending)
    simpa only [← List.append_assoc] using hnew.trans (by simpa only [List.append_assoc] using hfront)

/-- The oldest item that waits leaves, delivered or lost. -/
theorem Ledger.leave {s : State α} {notes : List (Note α)} (h : Ledger s notes) {e : Entry α}
    {es : List (Entry α)} (hp : s.pending = e :: es) {n : Note α} (hn : n = .delivered e ∨ n = .lost e) :
    Ledger { s with pending := es } (notes ++ [n]) := by
  obtain ⟨hnum, hord, hacc⟩ := h
  rw [hp] at hord hacc
  rcases hn with rfl | rfl
  · have hmove : delivered notes ++ [e] ++ es = delivered notes ++ e :: es := by simp
    refine ⟨?_, ?_, ?_⟩ <;>
      simpa only [accepted_snoc, delivered_snoc, discarded_snoc, lost_snoc, Note.accepts, Note.delivers,
        Note.discards, Note.loses, List.append_nil, hmove]
  · refine ⟨?_, ?_, ?_⟩
    · simpa only [accepted_snoc, Note.accepts, List.append_nil] using hnum
    · have hsub : (delivered notes ++ es).Sublist (delivered notes ++ e :: es) :=
        List.Sublist.append_left (List.sublist_cons_self e es) _
      simpa only [accepted_snoc, delivered_snoc, Note.accepts, Note.delivers, List.append_nil]
        using hsub.trans hord
    · simp only [accepted_snoc, delivered_snoc, discarded_snoc, lost_snoc, Note.accepts, Note.delivers,
        Note.discards, Note.loses, List.append_nil, List.append_assoc] at hacc ⊢
      refine hacc.trans (List.Perm.append_left _ ?_)
      have hmove : ([e] ++ (es ++ (discarded notes ++ lost notes))).Perm
          (es ++ (discarded notes ++ lost notes) ++ [e]) := List.perm_append_comm
      simpa only [List.cons_append, List.nil_append, List.append_assoc] using hmove

/-- All that wait are discarded. -/
theorem Ledger.discard {s : State α} {notes : List (Note α)} (h : Ledger s notes) :
    Ledger { s with pending := [] } (notes ++ [.discarded s.pending]) := by
  obtain ⟨hnum, hord, hacc⟩ := h
  refine ⟨?_, ?_, ?_⟩
  · simpa only [accepted_snoc, Note.accepts, List.append_nil] using hnum
  · have hsub : (delivered notes).Sublist (delivered notes ++ s.pending) := List.sublist_append_left _ _
    simpa only [accepted_snoc, delivered_snoc, Note.accepts, Note.delivers, List.append_nil]
      using hsub.trans hord
  · simp only [accepted_snoc, delivered_snoc, discarded_snoc, lost_snoc, Note.accepts, Note.delivers,
      Note.discards, Note.loses, List.append_nil, List.append_assoc] at hacc ⊢
    refine hacc.trans (List.Perm.append_left _ ?_)
    have hswap : (s.pending ++ discarded notes).Perm (discarded notes ++ s.pending) := List.perm_append_comm
    have hback := hswap.append_right (lost notes)
    simpa only [List.append_assoc] using hback

/-- **Each step keeps the ledger.** -/
theorem ledger_step {s : State α} {notes : List (Note α)} (h : Ledger s notes) (a : Act α) :
    Ledger (step s a).1 (notes ++ (step s a).2) := by
  cases a with
  | accept a => exact h.accept a
  | deliver =>
    rcases hp : s.pending with _ | ⟨e, es⟩
    · simpa only [step, hp, List.append_nil] using h
    · simpa only [step, hp] using h.leave hp (Or.inl rfl)
  | discard => exact h.discard
  | lose =>
    rcases hp : s.pending with _ | ⟨e, es⟩
    · simpa only [step, hp, List.append_nil] using h
    · simpa only [step, hp] using h.leave hp (Or.inr rfl)

theorem ledger_run (acts : List (Act α)) :
    Ledger (Mealy.run step ({} : State α) acts).1 (Mealy.run step ({} : State α) acts).2 := by
  have hall : Mealy.Guarded step (fun _ _ => True) ({} : State α) acts :=
    Mealy.guarded_of_forall (fun _ _ => trivial) _ _
  have := Mealy.trace_inv (fun s notes => Ledger s notes) (fun s notes a h _ => ledger_step h a)
    ledger_start hall
  simpa using this

namespace Ledger

variable {s : State α} {notes : List (Note α)}

/-- No item is accepted twice. -/
theorem accepted_nodup (h : Ledger s notes) : (accepted notes).Nodup := by
  have hrange : ((accepted notes).map Prod.fst).Nodup := by
    rw [h.numbered]
    exact List.nodup_range
  exact List.Nodup.of_map _ hrange

/-- **In order and without repetition.** -/
theorem delivered_sublist (h : Ledger s notes) : (delivered notes).Sublist (accepted notes) :=
  (List.sublist_append_left _ _).trans h.ordered

/-- **Every accepted item is delivered, waiting or discarded exactly when nothing was lost.** -/
theorem conserved_iff (h : Ledger s notes) :
    (accepted notes).Perm (delivered notes ++ s.pending ++ discarded notes) ↔ lost notes = [] := by
  constructor
  · intro hperm
    have h1 := hperm.length_eq
    have h2 := h.accounted.length_eq
    simp only [List.length_append] at h1 h2
    exact List.length_eq_zero_iff.1 (by omega)
  · intro hlost
    have := h.accounted
    rwa [hlost, List.append_nil] at this

end Ledger

end Channel
