import Mathlib.Data.List.Induction
import Nowde.Lib.Run

/-!
# What happened in a run

Two operators of the past, for properties of an event in the state it came in and after the events before it: there
was such an event, and there was one and since then nothing of another kind.

* `happened_concat`, `since_concat`: each after one more event.
* `history_inv`: an invariant of the state and of the events so far.
-/

namespace Mealy

variable {σ ε ο : Type*} {step : σ → ε → σ × List ο} {J : List ε → σ → ε → Prop} {K : σ → ε → Prop} {s : σ}
  {es : List ε}

/-- `J` of an event of the run from `s`, and from then on `K` of none. -/
def Since (step : σ → ε → σ × List ο) (J : List ε → σ → ε → Prop) (K : σ → ε → Prop) (s : σ) (es : List ε) : Prop :=
  ∃ before e after, es = before ++ e :: after ∧ J before (run step s before).1 e ∧
    Guarded step (fun t f => ¬K t f) (run step s (before ++ [e])).1 after

/-- `J` of an event of the run from `s`. -/
def Happened (step : σ → ε → σ × List ο) (J : List ε → σ → ε → Prop) (s : σ) (es : List ε) : Prop :=
  Since step J (fun _ _ => False) s es

theorem run_concat (s : σ) (es : List ε) (e : ε) : (run step s (es ++ [e])).1 = (step (run step s es).1 e).1 := by
  rw [run_append]
  rfl

theorem run_split (s : σ) (before : List ε) (e : ε) (after : List ε) :
    (run step (run step s (before ++ [e])).1 after).1 = (run step s (before ++ e :: after)).1 := by
  rw [show before ++ e :: after = before ++ [e] ++ after by simp, run_append s (before ++ [e])]

/-- **One more event**: it is the one, or it does not end what was so since. -/
theorem since_concat {e : ε} :
    Since step J K s (es ++ [e]) ↔ J es (run step s es).1 e ∨ Since step J K s es ∧ ¬K (run step s es).1 e := by
  constructor
  · rintro ⟨before, e', after, h, hJ, hK⟩
    induction after using List.reverseRecOn with
    | nil =>
      obtain ⟨rfl, heq⟩ := List.append_inj' h rfl
      cases heq
      exact Or.inl hJ
    | append_singleton after f =>
      rw [← List.cons_append, ← List.append_assoc] at h
      obtain ⟨rfl, heq⟩ := List.append_inj' h rfl
      cases heq
      obtain ⟨hafter, hlast⟩ := (guarded_append _ _ _).1 hK
      refine Or.inr ⟨⟨before, e', after, rfl, hJ, hafter⟩, ?_⟩
      rw [← run_split]
      exact hlast.1
  · rintro (hJ | ⟨⟨before, e', after, rfl, hJ, hK⟩, hlast⟩)
    · exact ⟨es, e, [], rfl, hJ, trivial⟩
    · refine ⟨before, e', after ++ [e], by simp, hJ, (guarded_append _ _ _).2 ⟨hK, ?_, trivial⟩⟩
      rw [run_split]
      exact hlast

theorem happened_concat {e : ε} :
    Happened step J s (es ++ [e]) ↔ J es (run step s es).1 e ∨ Happened step J s es := by
  unfold Happened
  rw [since_concat, and_iff_left not_false]

/-- **An invariant of the events so far and the state they lead to.** -/
theorem history_inv {I : List ε → σ → Prop} (h : I [] s)
    (hstep : ∀ es e, I es (run step s es).1 → I (es ++ [e]) (step (run step s es).1 e).1) (es : List ε) :
    I es (run step s es).1 := by
  induction es using List.reverseRecOn with
  | nil => exact h
  | append_singleton es e ih =>
    rw [run_concat]
    exact hstep es e ih

end Mealy
