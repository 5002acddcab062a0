import Mathlib.Data.List.Basic
import Mathlib.Tactic.Common

/-!
# Runs of deterministic machines with output

A machine is a step function `σ → ε → σ × List ο`: a state and an event give the
next state and what was sent on the way. `run` folds it over a list of events.

* `inv_run`, `trace_inv`: an invariant of the state, or of the state and all the
  output so far, that every step meeting a guard keeps, holds after every guarded run.
* `always_iff_guarded`: when steps that miss the guard break a property, it holds along a run
  exactly when the run is guarded.
* `guarded_iff_of_kept`, `guarded_iff_of_inv`: guards that agree step by step agree on whole runs.
* `logged`: the machine with its own record, so that an invariant may speak of both.
* `run_shadow`, `run_shadow_of_inv`: a machine whose events are matched by another's refines it over whole runs.
* `guarded_shadow`: what the other machine asks of its events is then asked of these.
* `each_concat`: a property of each item of a log in the light of what came before it.
* `cost_run_le`: what a run spends comes out of what it had left.
* `unwinding`: inserting events that keep an equivalence of states and send nothing
  visible changes neither the state up to that equivalence nor the visible output.
-/

namespace Mealy

variable {σ τ ε ο π : Type*}

/-- The last state of a run and everything it sent, in order. -/
def run (step : σ → ε → σ × List ο) : σ → List ε → σ × List ο
  | s, [] => (s, [])
  | s, e :: es => ((run step (step s e).1 es).1, (step s e).2 ++ (run step (step s e).1 es).2)

/-- Every event of the run meets `G` in the state it arrives in. -/
def Guarded (step : σ → ε → σ × List ο) (G : σ → ε → Prop) : σ → List ε → Prop
  | _, [] => True
  | s, e :: es => G s e ∧ Guarded step G (step s e).1 es

instance (step : σ → ε → σ × List ο) (G : σ → ε → Prop) [∀ s e, Decidable (G s e)] :
    ∀ s es, Decidable (Guarded step G s es)
  | _, [] => inferInstanceAs (Decidable True)
  | s, e :: es =>
    have := instDecidableGuarded step G (step s e).1 es
    inferInstanceAs (Decidable (G s e ∧ Guarded step G (step s e).1 es))

section Run

variable {step : σ → ε → σ × List ο} {G H : σ → ε → Prop}

@[simp] theorem run_nil (s : σ) : run step s [] = (s, []) := rfl

@[simp] theorem run_cons (s : σ) (e : ε) (es : List ε) :
    run step s (e :: es) =
      ((run step (step s e).1 es).1, (step s e).2 ++ (run step (step s e).1 es).2) := rfl

theorem run_append (s : σ) (es fs : List ε) :
    run step s (es ++ fs) =
      ((run step (run step s es).1 fs).1, (run step s es).2 ++ (run step (run step s es).1 fs).2) := by
  induction es generalizing s with
  | nil => simp
  | cons e es ih => simp [ih]

@[simp] theorem guarded_nil (s : σ) : Guarded step G s [] := trivial

@[simp] theorem guarded_cons (s : σ) (e : ε) (es : List ε) :
    Guarded step G s (e :: es) ↔ G s e ∧ Guarded step G (step s e).1 es := Iff.rfl

theorem guarded_append (s : σ) (es fs : List ε) :
    Guarded step G s (es ++ fs) ↔ Guarded step G s es ∧ Guarded step G (run step s es).1 fs := by
  induction es generalizing s with
  | nil => simp
  | cons e es ih => simp [ih, and_assoc]

theorem Guarded.mono (hGH : ∀ s e, G s e → H s e) {s : σ} {es : List ε} (h : Guarded step G s es) :
    Guarded step H s es := by
  induction es generalizing s with
  | nil => trivial
  | cons e es ih => exact ⟨hGH _ _ h.1, ih h.2⟩

theorem guarded_and {s : σ} {es : List ε} :
    Guarded step (fun s e => G s e ∧ H s e) s es ↔ Guarded step G s es ∧ Guarded step H s es := by
  induction es generalizing s with
  | nil => simp
  | cons e es ih => simp only [guarded_cons, ih, and_and_and_comm]

theorem guarded_of_forall (hG : ∀ s e, G s e) (s : σ) (es : List ε) : Guarded step G s es := by
  induction es generalizing s with
  | nil => trivial
  | cons e es ih => exact ⟨hG s e, ih _⟩

/-- A guard on the events alone. -/
theorem guarded_of_mem {P : ε → Prop} {s : σ} {es : List ε} (h : ∀ e ∈ es, P e) : Guarded step (fun _ e => P e) s es := by
  induction es generalizing s with
  | nil => trivial
  | cons e es ih => exact ⟨h e List.mem_cons_self, ih fun f hf => h f (List.mem_cons_of_mem _ hf)⟩

/-- What holds of all the output of a run holds of the output of each event. -/
theorem forall_mem_run_iff {P : ο → Prop} {s : σ} {es : List ε} :
    (∀ o ∈ (run step s es).2, P o) ↔ Guarded step (fun s e => ∀ o ∈ (step s e).2, P o) s es := by
  induction es generalizing s with
  | nil => simp
  | cons e es ih => simp only [run_cons, List.mem_append, or_imp, forall_and, guarded_cons, ih]

/-- **An invariant of the state and of all output so far**, kept by every guarded step. -/
theorem trace_inv (I : σ → List ο → Prop)
    (hstep : ∀ s out e, I s out → G s e → I (step s e).1 (out ++ (step s e).2))
    {s : σ} {out : List ο} (h : I s out) {es : List ε} (hg : Guarded step G s es) :
    I (run step s es).1 (out ++ (run step s es).2) := by
  induction es generalizing s out with
  | nil => simpa using h
  | cons e es ih =>
    have := ih (hstep s out e h hg.1) hg.2
    simpa [List.append_assoc] using this

/-- **An invariant of the state**, kept by every guarded step. -/
theorem inv_run (I : σ → Prop) (hstep : ∀ s e, I s → G s e → I (step s e).1) {s : σ} (h : I s)
    {es : List ε} (hg : Guarded step G s es) : I (run step s es).1 := by
  induction es generalizing s with
  | nil => exact h
  | cons e es ih => exact ih (hstep s e h hg.1) hg.2

/-- In a guarded run, what an invariant and the guard imply of each event holds all along. -/
theorem guarded_of_inv (I : σ → Prop) (hstep : ∀ s e, I s → G s e → I (step s e).1)
    (himp : ∀ s e, I s → G s e → H s e) {s : σ} (h : I s) {es : List ε} (hg : Guarded step G s es) :
    Guarded step H s es := by
  induction es generalizing s with
  | nil => trivial
  | cons e es ih => exact ⟨himp s e h hg.1, ih (hstep s e h hg.1) hg.2⟩

/-- Two guards that agree as long as the second keeps an invariant are met by the same runs. -/
theorem guarded_iff_of_kept {D : σ → ε → Prop} (I : σ → Prop)
    (hstep : ∀ s e, I s → D s e → H s e → I (step s e).1)
    (hiff : ∀ s e, I s → D s e → (G s e ↔ H s e)) {s : σ} (h : I s) {es : List ε} (hD : Guarded step D s es) :
    Guarded step G s es ↔ Guarded step H s es := by
  induction es generalizing s with
  | nil => exact Iff.rfl
  | cons e es ih =>
    rw [guarded_cons, guarded_cons, hiff s e h hD.1]
    exact and_congr_right fun hH => ih (hstep s e h hD.1 hH) hD.2

/-- Two guards that agree under an invariant of the domain are met by the same runs. -/
theorem guarded_iff_of_inv {D : σ → ε → Prop} (I : σ → Prop) (hstep : ∀ s e, I s → D s e → I (step s e).1)
    (hiff : ∀ s e, I s → D s e → (G s e ↔ H s e)) {s : σ} (h : I s) {es : List ε} (hD : Guarded step D s es) :
    Guarded step G s es ↔ Guarded step H s es :=
  guarded_iff_of_kept I (fun s e hs he _ => hstep s e hs he) hiff h hD

/-- **What holds exactly while the guard does.** Let guarded steps keep an invariant `I` that
implies `Q`, and let a step that misses the guard break `Q`. Then, in a run within the domain
`D`, `Q` holds after each part of the run iff the run is guarded. -/
theorem always_iff_guarded {D : σ → ε → Prop} (I Q : σ → Prop) (hIQ : ∀ s, I s → Q s)
    (hkeep : ∀ s e, I s → D s e → G s e → I (step s e).1)
    (hbreak : ∀ s e, I s → D s e → ¬G s e → ¬Q (step s e).1) {s : σ} (h : I s) {es : List ε}
    (hD : Guarded step D s es) :
    (∀ pre post, es = pre ++ post → Q (run step s pre).1) ↔ Guarded step G s es := by
  constructor
  · intro hall
    -- the step that first missed the guard would end a part of the run in which `Q` fails
    induction es generalizing s with
    | nil => trivial
    | cons e es ih =>
      have hone : Q (step s e).1 := by simpa using hall [e] es rfl
      have hg : G s e := by
        by_contra hng
        exact hbreak s e h hD.1 hng hone
      refine ⟨hg, ih (hkeep s e h hD.1 hg) hD.2 ?_⟩
      intro pre post heq
      simpa using hall (e :: pre) post (by rw [heq]; rfl)
  · intro hg pre post heq
    rw [heq, guarded_append] at hg hD
    have hboth : Guarded step (fun s e => D s e ∧ G s e) s pre := guarded_and.2 ⟨hD.1, hg.1⟩
    exact hIQ _ (inv_run I (fun s e hs he => hkeep s e hs he.1 he.2) h hboth)

end Run

section Logged

/-- The machine that keeps all it has sent in its state. -/
def logged (step : σ → ε → σ × List ο) (s : σ × List ο) (e : ε) : (σ × List ο) × List ο :=
  (((step s.1 e).1, s.2 ++ (step s.1 e).2), (step s.1 e).2)

theorem run_logged (step : σ → ε → σ × List ο) (s : σ × List ο) (es : List ε) :
    (run (logged step) s es).1 = ((run step s.1 es).1, s.2 ++ (run step s.1 es).2) := by
  induction es generalizing s with
  | nil => simp
  | cons e es ih =>
    rw [run_cons, ih]
    simp [logged]

end Logged

section Log

/-- Every item of a log, in the light of what came before it. -/
def Each (J : List ο → ο → Prop) (log : List ο) : Prop := ∀ pre x post, log = pre ++ x :: post → J pre x

variable {J : List ο → ο → Prop}

theorem each_nil : Each J [] := by
  intro pre x post h
  exact absurd h (by simp)

/-- One more item is judged by the log so far. -/
theorem each_concat {log : List ο} {x : ο} : Each J (log ++ [x]) ↔ Each J log ∧ J log x := by
  constructor
  · intro h
    refine ⟨?_, h log x [] rfl⟩
    intro pre y post heq
    exact h pre y (post ++ [x]) (by rw [heq, List.append_assoc]; rfl)
  · rintro ⟨hlog, hx⟩ pre y post heq
    rcases List.eq_nil_or_concat post with rfl | ⟨post, z, rfl⟩
    · obtain ⟨rfl, hlast⟩ := List.append_inj' heq rfl
      rw [List.cons.inj hlast |>.1] at hx
      exact hx
    · rw [List.concat_eq_append, ← List.cons_append, ← List.append_assoc] at heq
      obtain ⟨hfront, -⟩ := List.append_inj' heq rfl
      exact hlog pre y post hfront

end Log

section Cost

variable {step : σ → ε → σ × List ο} {G : σ → ε → Prop}

/-- **A run spends no more than it had left**, if no guarded step does. -/
theorem cost_run_le (I : σ → Prop) (cost : List ο → ℕ) (left : σ → ℕ) (hnil : cost [] = 0)
    (happend : ∀ a b, cost (a ++ b) = cost a + cost b)
    (hstep : ∀ s e, I s → G s e → I (step s e).1 ∧ cost (step s e).2 + left (step s e).1 ≤ left s)
    {s : σ} (h : I s) {es : List ε} (hg : Guarded step G s es) :
    cost (run step s es).2 + left (run step s es).1 ≤ left s := by
  induction es generalizing s with
  | nil =>
    rw [run_nil, hnil]
    exact Nat.le_of_eq (Nat.zero_add _)
  | cons e es ih =>
    obtain ⟨hinv, hone⟩ := hstep s e h hg.1
    have hrest := ih hinv hg.2
    rw [run_cons, happend]
    dsimp only
    omega

end Cost

section Unwinding

variable {step : σ → ε → σ × List ο}

/-- `Inserted step K F s l k`: started in `s`, the events `l` are those of `k` with further events
inserted. Each common event meets `K`, each inserted one `F`, in the state it arrives in. -/
inductive Inserted (step : σ → ε → σ × List ο) (K F : σ → ε → Prop) : σ → List ε → List ε → Prop
  | nil (s : σ) : Inserted step K F s [] []
  | keep {s : σ} {e : ε} {l k : List ε} : K s e → Inserted step K F (step s e).1 l k →
      Inserted step K F s (e :: l) (e :: k)
  | insert {s : σ} {e : ε} {l k : List ε} : F s e → Inserted step K F (step s e).1 l k →
      Inserted step K F s (e :: l) k

/-- **Unwinding.** If a common event keeps `R` and sends the same visible output on both sides,
and an inserted event keeps `R` against a standing partner and sends nothing visible, then the
longer run ends `R`-related to the shorter one, with the same visible output. -/
theorem unwinding {K F : σ → ε → Prop} (R : σ → σ → Prop) (view : ο → Option π)
    (hkeep : ∀ s t e, R s t → K s e → R (step s e).1 (step t e).1 ∧
      (step s e).2.filterMap view = (step t e).2.filterMap view)
    (hins : ∀ s t e, R s t → F s e → R (step s e).1 t ∧ (step s e).2.filterMap view = [])
    {s t : σ} {l k : List ε} (hl : Inserted step K F s l k) (h : R s t) :
    R (run step s l).1 (run step t k).1 ∧
      (run step s l).2.filterMap view = (run step t k).2.filterMap view := by
  induction hl generalizing t with
  | nil s => exact ⟨h, rfl⟩
  | keep hK hl ih =>
    obtain ⟨hR, hout⟩ := hkeep _ _ _ h hK
    obtain ⟨h1, h2⟩ := ih hR
    refine ⟨h1, ?_⟩
    simp only [run_cons, List.filterMap_append, hout, h2]
  | insert hF hl ih =>
    obtain ⟨hR, hout⟩ := hins _ _ _ h hF
    obtain ⟨h1, h2⟩ := ih hR
    refine ⟨h1, ?_⟩
    simp only [run_cons, List.filterMap_append, hout, h2, List.nil_append]

end Unwinding

section Shadow

variable {φ : Type*} {step : σ → ε → σ × List ο} {shadowStep : τ → φ → τ × List π}

/-- The events of a shadow machine that stand for a run, given those that stand for each event. -/
def shadow (step : σ → ε → σ × List ο) (acts : σ → ε → List φ) : σ → List ε → List φ
  | _, [] => []
  | s, e :: es => acts s e ++ shadow step acts (step s e).1 es

/-- **Refinement.** If the shadow of each event leads to the image of the next state, and what both
send is related, then so it is for a whole run. -/
theorem run_shadow (image : σ → τ) (acts : σ → ε → List φ) (R : List ο → List π → Prop) (hnil : R [] [])
    (happend : ∀ o₁ o₂ p₁ p₂, R o₁ p₁ → R o₂ p₂ → R (o₁ ++ o₂) (p₁ ++ p₂))
    (hstep : ∀ s e, (run shadowStep (image s) (acts s e)).1 = image (step s e).1 ∧
      R (step s e).2 (run shadowStep (image s) (acts s e)).2) (s : σ) (es : List ε) :
    (run shadowStep (image s) (shadow step acts s es)).1 = image (run step s es).1 ∧
      R (run step s es).2 (run shadowStep (image s) (shadow step acts s es)).2 := by
  induction es generalizing s with
  | nil => exact ⟨rfl, hnil⟩
  | cons e es ih =>
    obtain ⟨hstate, hsent⟩ := hstep s e
    obtain ⟨ih1, ih2⟩ := ih (step s e).1
    simp only [shadow, run_append, run_cons, hstate]
    exact ⟨ih1, happend _ _ _ _ hsent ih2⟩

/-- A guarded run has a guarded shadow, if each guarded event has one. -/
theorem guarded_shadow (image : σ → τ) (acts : σ → ε → List φ) {G : σ → ε → Prop} {H : τ → φ → Prop}
    (hstep : ∀ s e, (run shadowStep (image s) (acts s e)).1 = image (step s e).1)
    (hguard : ∀ s e, G s e → Guarded shadowStep H (image s) (acts s e)) {s : σ} {es : List ε}
    (hes : Guarded step G s es) : Guarded shadowStep H (image s) (shadow step acts s es) := by
  induction es generalizing s with
  | nil => trivial
  | cons e es ih =>
    rw [shadow, guarded_append, hstep]
    exact ⟨hguard s e hes.1, ih hes.2⟩

/-- **Refinement under an invariant** of the shadow machine, which its guarded steps keep. -/
theorem run_shadow_of_inv {shadowStep : τ → φ → τ × List ο} {G : σ → ε → Prop} {H : τ → φ → Prop} (image : σ → τ)
    (acts : σ → ε → List φ) (J : τ → Prop) (hkeep : ∀ t f, J t → H t f → J (shadowStep t f).1)
    (hstep : ∀ s e, J (image s) → G s e → run shadowStep (image s) (acts s e) = (image (step s e).1, (step s e).2))
    (hguard : ∀ s e, J (image s) → G s e → Guarded shadowStep H (image s) (acts s e)) {s : σ} (h : J (image s))
    {es : List ε} (hes : Guarded step G s es) :
    run shadowStep (image s) (shadow step acts s es) = (image (run step s es).1, (run step s es).2) ∧
      Guarded shadowStep H (image s) (shadow step acts s es) := by
  induction es generalizing s with
  | nil => exact ⟨rfl, trivial⟩
  | cons e es ih =>
    have hone := hstep s e h hes.1
    have hmet := hguard s e h hes.1
    have hnext := inv_run J hkeep h hmet
    rw [hone] at hnext
    obtain ⟨hrun, hrest⟩ := ih hnext hes.2
    rw [shadow, guarded_append, run_append, hone, hrun, run_cons]
    exact ⟨rfl, hmet, hrest⟩

/-- What holds of all that the shadow sends is a guard of the run it stands for. -/
theorem forall_mem_shadow_iff (image : σ → τ) (acts : σ → ε → List φ)
    (hstep : ∀ s e, (run shadowStep (image s) (acts s e)).1 = image (step s e).1) {P : π → Prop} (s : σ)
    (es : List ε) :
    (∀ o ∈ (run shadowStep (image s) (shadow step acts s es)).2, P o) ↔
      Guarded step (fun s e => ∀ o ∈ (run shadowStep (image s) (acts s e)).2, P o) s es := by
  induction es generalizing s with
  | nil => simp [shadow]
  | cons e es ih =>
    simp only [shadow, run_append, hstep, List.mem_append, or_imp, forall_and, guarded_cons, ih]

end Shadow

end Mealy
