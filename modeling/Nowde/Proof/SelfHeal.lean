import Nowde.Proof.Outputs
import Nowde.Lib.Clock
import Mathlib.Data.List.DropRight

/-!
# The mesh self-heal

`meshResyncTick` soft-resets the mesh clock, and then reboots the node, while the sync quality stays
COARSE. Its statics go with every reboot; the count of its own reboots is in NVS. `Heal` is what it
keeps, ticked with any qualities at any times, and rebooted at will.

* `meshResyncTick_healTick`: what one tick can do.
* `heal_inv`: the statics against the stretch of COARSE ticks that the log ends with.
* `selfHeal_bounded`: reboots are bounded between locks and never early, and no other tick acts.
* `timedStep_heal`: an event of a node ticks the self-heal, reboots it or leaves it alone, so that
  the bound is one on the runs of nodes.
-/

namespace Nowde

/-! ## One tick -/

/-- What the node observes of its own sync. -/
def Node.quality (env : Env) (n : Node) : UInt8 := nodeSyncQuality env n.nodeRole n.receiver.mediaSyncState

/-- The statics in a COARSE tick: a stretch that has not started starts now. -/
def MeshResync.armed (now : UInt32) (s : MeshResync) : MeshResync :=
  if s.stuckSince = 0 then { s with stuckSince := now, lastAction := now, softResets := 0 } else s

@[simp] theorem MeshResync.armed_count (now : UInt32) (s : MeshResync) :
    (s.armed now).resyncRebootCount = s.resyncRebootCount := by
  unfold MeshResync.armed
  split <;> rfl

/-- **What a tick can do.** -/
inductive HealTick (env : Env) (n : Node) : Node × List Out → Prop
  | calm : n.quality env ≠ nowdeSyncCoarse → (n.quality env = nowdeSyncLocked → n.meshResync.resyncRebootCount = 0) →
      HealTick env n ({ n with meshResync := { n.meshResync with stuckSince := 0, softResets := 0 } }, [])
  | locked : n.quality env = nowdeSyncLocked →
      HealTick env n
        ({ n with
            meshResync := { n.meshResync with stuckSince := 0, softResets := 0, resyncRebootCount := 0 }
            nvs := { n.nvs with resyncrb := some 0 } }, [])
  | reset : n.quality env = nowdeSyncCoarse → (n.meshResync.armed env.millis).softResets < meshMaxSoftResets →
      env.millis - (n.meshResync.armed env.millis).lastAction ≥ meshResyncGraceMs →
      HealTick env n
        ({ n with meshResync :=
            { n.meshResync.armed env.millis with
              softResets := (n.meshResync.armed env.millis).softResets + 1, lastAction := env.millis } },
          [.meshClockReset])
  | restart : n.quality env = nowdeSyncCoarse → ¬(n.meshResync.armed env.millis).softResets < meshMaxSoftResets →
      env.millis - (n.meshResync.armed env.millis).stuckSince ≥ meshRebootGraceMs →
      n.meshResync.resyncRebootCount < meshMaxAutoReboots →
      HealTick env n
        ({ n with
            meshResync := n.meshResync.armed env.millis
            nvs := { n.nvs with resyncrb := some (n.meshResync.resyncRebootCount + 1) } }, [.restart])
  | wait : n.quality env = nowdeSyncCoarse →
      HealTick env n ({ n with meshResync := n.meshResync.armed env.millis }, [])

/-- A COARSE tick works on the armed statics. -/
theorem meshResyncTick_of_coarse {env : Env} {n : Node} (h : n.quality env = nowdeSyncCoarse) :
    meshResyncTick env n =
      let s := n.meshResync.armed env.millis
      if s.softResets < meshMaxSoftResets then
        if env.millis - s.lastAction ≥ meshResyncGraceMs then
          ({ n with meshResync := { s with softResets := s.softResets + 1, lastAction := env.millis } },
            [.meshClockReset])
        else ({ n with meshResync := s }, [])
      else if env.millis - s.stuckSince ≥ meshRebootGraceMs ∧ s.resyncRebootCount < meshMaxAutoReboots then
        ({ n with meshResync := s, nvs := { n.nvs with resyncrb := some (s.resyncRebootCount + 1) } }, [.restart])
      else ({ n with meshResync := s }, []) := by
  have hcoarse : ¬nodeSyncQuality env n.nodeRole n.receiver.mediaSyncState ≠ nowdeSyncCoarse := not_not.2 h
  unfold meshResyncTick
  dsimp only
  rw [if_neg hcoarse]
  rfl

theorem meshResyncTick_healTick (env : Env) (n : Node) : HealTick env n (meshResyncTick env n) := by
  by_cases hq : n.quality env = nowdeSyncCoarse
  · rw [meshResyncTick_of_coarse hq]
    dsimp only
    split_ifs with hfew hgrace hdue
    · exact .reset hq hfew hgrace
    · exact .wait hq
    · rw [MeshResync.armed_count] at hdue ⊢
      exact .restart hq hfew hdue.1 hdue.2
    · exact .wait hq
  · have hother : nodeSyncQuality env n.nodeRole n.receiver.mediaSyncState ≠ nowdeSyncCoarse := hq
    unfold meshResyncTick
    dsimp only
    rw [if_pos hother]
    split_ifs with hlocked
    · exact .locked hlocked.1
    · refine .calm hq fun h => ?_
      by_contra hcount
      exact hlocked ⟨h, hcount⟩

/-! ## The self-heal on its own -/

/-- What the self-heal keeps between ticks, and the time since boot. -/
structure Heal where
  resync : MeshResync
  resyncrb : Option UInt8
  clock : ℕ
deriving DecidableEq

/-- After a boot: the count comes from NVS, the clock starts over. -/
def Heal.booted (resyncrb : Option UInt8) : Heal where
  resync := { resyncRebootCount := resyncrb.getD 0 }
  resyncrb := resyncrb
  clock := 0

/-- What the self-heal goes through. -/
inductive HealEvent
  /-- A tick at a time since boot, on a node that is otherwise anything. -/
  | tick (time : ℕ) (env : Env) (around : Node)
  /-- A reboot for another reason. -/
  | reboot

/-- What is seen of it. -/
inductive Seen
  | tick (quality : UInt8) (time : ℕ) (out : List Out)
  | boot
deriving DecidableEq

/-- The node around the self-heal, with the self-heal in it. -/
def Heal.inside (s : Heal) (n : Node) : Node :=
  { n with meshResync := s.resync, nvs := { n.nvs with resyncrb := s.resyncrb } }

/-- One event. A restart boots. -/
def Heal.step (s : Heal) : HealEvent → Heal × List Seen
  | .tick time env around =>
    let n := s.inside around
    let r := meshResyncTick (env.at time) n
    let seen := Seen.tick (n.quality (env.at time)) time r.2
    if .restart ∈ r.2 then (Heal.booted r.1.nvs.resyncrb, [seen, .boot])
    else ({ resync := r.1.meshResync, resyncrb := r.1.nvs.resyncrb, clock := time }, [seen])
  | .reboot => (Heal.booted s.resyncrb, [.boot])

/-- Ticks come at increasing times, from each boot on. -/
def Increasing (s : Heal) : HealEvent → Prop
  | .tick time _ _ => s.clock ≤ time
  | .reboot => True

instance (s : Heal) : ∀ e, Decidable (Increasing s e)
  | .tick time _ _ => inferInstanceAs (Decidable (s.clock ≤ time))
  | .reboot => inferInstanceAs (Decidable True)

/-! ## The log -/

/-- A COARSE tick. -/
def Seen.isCoarse : Seen → Bool
  | .tick q _ _ => q = nowdeSyncCoarse
  | .boot => false

/-- A LOCKED tick. -/
def Seen.isLocked : Seen → Bool
  | .tick q _ _ => q = nowdeSyncLocked
  | .boot => false

/-- A tick that restarts the node. -/
def Seen.isRestart : Seen → Bool
  | .tick _ _ out => Out.restart ∈ out
  | .boot => false

/-- The time of a tick. -/
def Seen.time? : Seen → Option ℕ
  | .tick _ time _ => some time
  | .boot => none

/-- The time of a soft reset. -/
def Seen.reset? : Seen → Option ℕ
  | .tick _ time out => if Out.meshClockReset ∈ out then some time else none
  | .boot => none

/-- The stretch of COARSE ticks that a log ends with. -/
def stretch (log : List Seen) : List Seen := log.rtakeWhile Seen.isCoarse

/-- Its times. -/
def coarseTimes (log : List Seen) : List ℕ := (stretch log).filterMap Seen.time?

/-- The times of its soft resets. -/
def softResetTimes (log : List Seen) : List ℕ := (stretch log).filterMap Seen.reset?

section Stretch

variable (log : List Seen) {x : Seen} {q : UInt8} {time : ℕ} {out : List Out}

theorem stretch_concat_of_not (h : x.isCoarse = false) : stretch (log ++ [x]) = [] := by
  unfold stretch
  rw [List.rtakeWhile_concat_neg _ _ _ (by simp [h])]

theorem coarseTimes_concat_of_not (h : x.isCoarse = false) : coarseTimes (log ++ [x]) = [] := by
  unfold coarseTimes
  rw [stretch_concat_of_not log h, List.filterMap_nil]

theorem softResetTimes_concat_of_not (h : x.isCoarse = false) : softResetTimes (log ++ [x]) = [] := by
  unfold softResetTimes
  rw [stretch_concat_of_not log h, List.filterMap_nil]

theorem stretch_concat (h : x.isCoarse = true) : stretch (log ++ [x]) = stretch log ++ [x] := by
  unfold stretch
  rw [List.rtakeWhile_concat_pos _ _ _ h]

/-- A COARSE tick makes the stretch longer. -/
theorem coarseTimes_concat : coarseTimes (log ++ [.tick nowdeSyncCoarse time out]) = coarseTimes log ++ [time] := by
  unfold coarseTimes
  rw [stretch_concat log rfl, List.filterMap_append]
  rfl

theorem softResetTimes_concat_reset :
    softResetTimes (log ++ [.tick nowdeSyncCoarse time [.meshClockReset]]) = softResetTimes log ++ [time] := by
  unfold softResetTimes
  rw [stretch_concat log rfl, List.filterMap_append]
  rfl

theorem softResetTimes_concat_wait :
    softResetTimes (log ++ [.tick nowdeSyncCoarse time []]) = softResetTimes log := by
  unfold softResetTimes
  rw [stretch_concat log rfl, List.filterMap_append]
  exact List.append_nil _

end Stretch

/-! ## The statics against the stretch -/

/-- A restart of the self-heal is due: the stretch it ends has lasted a minute, and has seen two soft
resets, each fifteen seconds after the one before and after the start. -/
def Justified (log : List Seen) (time : ℕ) : Prop :=
  ∃ start, (coarseTimes log).head? = some start ∧ start + meshRebootGraceMs.toNat ≤ time ∧
    (softResetTimes log).length = meshMaxSoftResets.toNat ∧
    (start :: softResetTimes log).Pairwise fun a b => a + meshResyncGraceMs.toNat ≤ b

/-- What is asked of each tick, after what came before it. -/
def Seen.Fair (log : List Seen) : Seen → Prop
  | .tick q time out => (q ≠ nowdeSyncCoarse → out = []) ∧ (.restart ∈ out → Justified log time)
  | .boot => True

/-- The statics in a stretch that began at `start`, with the times they stand for. -/
structure Stuck (r : MeshResync) (times resets : List ℕ) (clock start since action : ℕ) : Prop where
  first : times.head? = some start
  stuckSince : r.stuckSince = UInt32.ofNat since
  lastAction : r.lastAction = UInt32.ofNat action
  start_le : start ≤ since
  since_le : since ≤ action
  action_le : action ≤ clock
  count : r.softResets.toNat = resets.length
  few : resets.length ≤ meshMaxSoftResets.toNat
  spaced : (start :: resets).Pairwise fun a b => a + meshResyncGraceMs.toNat ≤ b
  before : ∀ t ∈ start :: resets, t ≤ action

/-- The self-heal and its log. A `stuckSince` of 0 stands for no stretch, also when it is the time. -/
structure HealInv (s : Heal) (log : List Seen) : Prop where
  past : ∀ t ∈ coarseTimes log, t ≤ s.clock
  calm : s.resync.stuckSince = 0 → softResetTimes log = []
  stuck : s.resync.stuckSince ≠ 0 →
    ∃ start since action, Stuck s.resync (coarseTimes log) (softResetTimes log) s.clock start since action

/-- What two readings show to have passed has passed. -/
theorem elapsed_of_ge {c : UInt32} {past now : ℕ} (h : past ≤ now)
    (hge : UInt32.ofNat now - UInt32.ofNat past ≥ c) : past + c.toNat ≤ now := by
  have hmeasured : c.toNat ≤ WrapClock.wrapDiff (2 ^ 32) now past := by
    rw [← WrapClock.toNat_ofNat_sub_ofNat]
    exact UInt32.le_iff_toNat_le.1 hge
  have htrue := WrapClock.wrapDiff_le (by omega : 0 < 2 ^ 32) h
  omega

section Stuck

variable {s : Heal} {log : List Seen} {time : ℕ}

/-- **A COARSE tick is in a stretch**: the one under way, or one that it starts. -/
theorem HealInv.armed (h : HealInv s log) (hle : s.clock ≤ time) :
    ∃ start since action, Stuck (s.resync.armed (UInt32.ofNat time)) (coarseTimes log ++ [time])
      (softResetTimes log) time start since action := by
  unfold MeshResync.armed
  by_cases hcalm : s.resync.stuckSince = 0
  · have hnone := h.calm hcalm
    obtain ⟨start, hfirst, hstart⟩ : ∃ start, (coarseTimes log ++ [time]).head? = some start ∧ start ≤ time := by
      cases htimes : coarseTimes log with
      | nil => exact ⟨time, rfl, le_rfl⟩
      | cons t ts =>
        have hpast := h.past t (by rw [htimes]; exact List.mem_cons_self)
        exact ⟨t, rfl, by omega⟩
    -- a stretch that began while `millis()` was 0 looks like none, and starts anew
    rw [if_pos hcalm, hnone]
    refine ⟨start, time, time, hfirst, rfl, rfl, hstart, le_rfl, le_rfl, rfl, by simp, by simp, ?_⟩
    intro t ht
    rw [List.mem_singleton.1 ht]
    exact hstart
  · obtain ⟨start, since, action, hstuck⟩ := h.stuck hcalm
    rw [if_neg hcalm]
    refine ⟨start, since, action, { hstuck with first := ?_, action_le := hstuck.action_le.trans hle }⟩
    rw [List.head?_append, hstuck.first]
    rfl

/-- A stretch that has just been armed has seen no soft reset, and is too young for one. -/
theorem HealInv.armed_calm (h : HealInv s log)
    (hcalm : (s.resync.armed (UInt32.ofNat time)).stuckSince = 0) :
    softResetTimes log = [] ∧ (s.resync.armed (UInt32.ofNat time)).lastAction = UInt32.ofNat time := by
  unfold MeshResync.armed at hcalm ⊢
  by_cases hzero : s.resync.stuckSince = 0
  · rw [if_pos hzero]
    exact ⟨h.calm hzero, rfl⟩
  · rw [if_neg hzero] at hcalm
    exact absurd hcalm hzero

/-- A tick outside a stretch ends it. -/
theorem healInv_other {s : Heal} {log : List Seen} {x : Seen} (hx : x.isCoarse = false)
    (hcalm : s.resync.stuckSince = 0) : HealInv s (log ++ [x]) where
  past := by
    rw [coarseTimes_concat_of_not log hx]
    simp
  calm := fun _ => softResetTimes_concat_of_not log hx
  stuck := fun h => absurd hcalm h

theorem healInv_booted (log : List Seen) (resyncrb : Option UInt8) :
    HealInv (Heal.booted resyncrb) (log ++ [.boot]) := healInv_other rfl rfl

/-- A soft reset lengthens the list of them. -/
theorem Stuck.reset {r : MeshResync} {times resets : List ℕ} {start since action : ℕ}
    (h : Stuck r times resets time start since action) (hfew : r.softResets < meshMaxSoftResets)
    (hgrace : UInt32.ofNat time - r.lastAction ≥ meshResyncGraceMs) :
    Stuck { r with softResets := r.softResets + 1, lastAction := UInt32.ofNat time } times (resets ++ [time]) time
      start since time := by
  have hone : r.softResets.toNat < 2 := UInt8.lt_iff_toNat_lt.1 hfew
  have hcount := h.count
  rw [h.lastAction] at hgrace
  have hapart := elapsed_of_ge h.action_le hgrace
  refine { h with lastAction := rfl, since_le := h.since_le.trans h.action_le, action_le := le_rfl,
                  count := ?_, few := ?_, spaced := ?_, before := ?_ }
  · have hnext : (r.softResets + 1).toNat = (r.softResets.toNat + 1) % 256 := UInt8.toNat_add _ _
    show (r.softResets + 1).toNat = _
    rw [hnext, List.length_append, List.length_singleton]
    omega
  · have hmax : meshMaxSoftResets.toNat = 2 := rfl
    rw [List.length_append, List.length_singleton, hmax]
    omega
  · rw [← List.cons_append, List.pairwise_append]
    refine ⟨h.spaced, List.pairwise_singleton _ _, ?_⟩
    intro t ht t' ht'
    have hbefore := h.before t ht
    rw [List.mem_singleton.1 ht']
    omega
  · intro t ht
    rw [← List.cons_append, List.mem_append, List.mem_singleton] at ht
    rcases ht with ht | rfl
    · exact (h.before t ht).trans h.action_le
    · exact le_rfl

/-- A restart ends a stretch that justifies it. -/
theorem Stuck.justified {r : MeshResync} {start since action : ℕ}
    (h : Stuck r (coarseTimes log ++ [time]) (softResetTimes log) time start since action)
    (hmany : ¬r.softResets < meshMaxSoftResets) (hgrace : UInt32.ofNat time - r.stuckSince ≥ meshRebootGraceMs) :
    Justified log time := by
  have htwo : ¬r.softResets.toNat < 2 := fun hlt => hmany (UInt8.lt_iff_toNat_lt.2 hlt)
  have hcount := h.count
  have hfew : (softResetTimes log).length ≤ 2 := h.few
  rw [h.stuckSince] at hgrace
  have hlong := elapsed_of_ge (h.since_le.trans h.action_le) hgrace
  have hmin : meshRebootGraceMs.toNat = 60000 := rfl
  have hstart := h.start_le
  refine ⟨start, ?_, by omega, ?_, h.spaced⟩
  · -- the tick under way cannot be its own start
    have hfirst := h.first
    cases htimes : coarseTimes log with
    | nil =>
      rw [htimes] at hfirst
      have heq : time = start := by simpa using hfirst
      omega
    | cons t ts =>
      rw [htimes] at hfirst
      exact hfirst
  · show (softResetTimes log).length = 2
    omega

/-- What a COARSE tick that does not restart leaves. -/
theorem HealInv.coarse (h : HealInv s log) (hle : s.clock ≤ time) {r : MeshResync} {resyncrb : Option UInt8}
    {out : List Out} (hcalm : r.stuckSince = 0 → softResetTimes (log ++ [.tick nowdeSyncCoarse time out]) = [])
    (hstuck : ∃ start since action, Stuck r (coarseTimes log ++ [time])
      (softResetTimes (log ++ [.tick nowdeSyncCoarse time out])) time start since action) :
    HealInv { resync := r, resyncrb := resyncrb, clock := time } (log ++ [.tick nowdeSyncCoarse time out]) where
  past := by
    intro t ht
    rw [coarseTimes_concat, List.mem_append, List.mem_singleton] at ht
    rcases ht with ht | rfl
    · exact (h.past t ht).trans hle
    · exact le_rfl
  calm := hcalm
  stuck := by
    intro _
    rw [coarseTimes_concat]
    exact hstuck

/-- **One tick** keeps the statics in step with the log, and is fair. -/
theorem heal_tick (h : HealInv s log) (hle : s.clock ≤ time) (env : Env) (around : Node) :
    HealInv (s.step (.tick time env around)).1 (log ++ (s.step (.tick time env around)).2) ∧
      (Mealy.Each Seen.Fair log → Mealy.Each Seen.Fair (log ++ (s.step (.tick time env around)).2)) := by
  have htick := meshResyncTick_healTick (env.at time) (s.inside around)
  obtain ⟨start, since, action, hstuck⟩ := h.armed hle
  unfold Heal.step
  dsimp only
  generalize meshResyncTick (env.at time) (s.inside around) = r at htick
  cases htick with
  | calm hq hcount =>
    rw [if_neg (by simp)]
    refine ⟨healInv_other (decide_eq_false hq) rfl, fun heach => Mealy.each_concat.2 ⟨heach, fun _ => rfl, ?_⟩⟩
    exact fun hmem => absurd hmem (by simp)
  | locked hq =>
    have hother : (s.inside around).quality (env.at time) ≠ nowdeSyncCoarse := by
      rw [hq]
      decide
    rw [if_neg (by simp)]
    refine ⟨healInv_other (decide_eq_false hother) rfl, fun heach => Mealy.each_concat.2 ⟨heach, fun _ => rfl, ?_⟩⟩
    exact fun hmem => absurd hmem (by simp)
  | reset hq hfew hgrace =>
    have hreset := @softResetTimes_concat_reset log time
    rw [if_neg (by simp), hq]
    refine ⟨h.coarse hle ?_ ?_, fun heach => Mealy.each_concat.2 ⟨heach, ?_, ?_⟩⟩
    · intro hzero
      have hlast : ((s.inside around).meshResync.armed (env.at time).millis).lastAction = UInt32.ofNat time :=
        (h.armed_calm hzero).2
      rw [hlast] at hgrace
      -- a stretch armed in this tick is no 15 s old
      have hapart := elapsed_of_ge le_rfl hgrace
      have hmin : meshResyncGraceMs.toNat = 15000 := rfl
      omega
    · rw [hreset]
      exact ⟨start, since, time, hstuck.reset hfew hgrace⟩
    · exact fun hne => absurd rfl hne
    · exact fun hmem => absurd hmem (by simp)
  | restart hq hmany hgrace hcap =>
    rw [if_pos (by simp), hq]
    have happend : log ++ [Seen.tick nowdeSyncCoarse time [.restart], .boot] =
        log ++ [Seen.tick nowdeSyncCoarse time [.restart]] ++ [.boot] := by simp
    rw [happend]
    refine ⟨healInv_booted _ _, fun heach => Mealy.each_concat.2 ⟨Mealy.each_concat.2 ⟨heach, ?_, ?_⟩, trivial⟩⟩
    · exact fun hne => absurd rfl hne
    · exact fun _ => hstuck.justified hmany hgrace
  | wait hq =>
    have hwait := @softResetTimes_concat_wait log time
    rw [if_neg (by simp), hq]
    refine ⟨h.coarse hle ?_ ?_, fun heach => Mealy.each_concat.2 ⟨heach, ?_, ?_⟩⟩
    · intro hzero
      rw [hwait]
      exact (h.armed_calm hzero).1
    · rw [hwait]
      exact ⟨start, since, action, hstuck⟩
    · exact fun hne => absurd rfl hne
    · exact fun hmem => absurd hmem (by simp)

end Stuck

/-! ## Runs -/

/-- How many restarts a log shows. -/
def restarts (log : List Seen) : ℕ := log.countP Seen.isRestart

/-- The restarts the count in NVS still allows. -/
def Heal.left (s : Heal) : ℕ := meshMaxAutoReboots.toNat - s.resync.resyncRebootCount.toNat

/-- The count in use is the stored one. -/
def Heal.Counted (s : Heal) : Prop := s.resync.resyncRebootCount = s.resyncrb.getD 0

/-- **The reboots of the self-heal are bounded and justified** in a run. -/
structure HealBounded (resyncrb : Option UInt8) (es : List HealEvent) : Prop where
  /-- No part of the run without a LOCKED tick has more than two restarts. -/
  bounded : ∀ pre mid post, es = pre ++ mid ++ post →
    let log := (Mealy.run Heal.step (Mealy.run Heal.step (Heal.booted resyncrb) pre).1 mid).2
    (∀ x ∈ log, x.isLocked = false) → restarts log ≤ meshMaxAutoReboots.toNat
  /-- A restart ends a stretch that justifies it, and a tick that is not COARSE does nothing. -/
  fair : Mealy.Each Seen.Fair (Mealy.run Heal.step (Heal.booted resyncrb) es).2

section Runs

variable {s : Heal}

theorem counted_booted (resyncrb : Option UInt8) : (Heal.booted resyncrb).Counted := rfl

theorem left_of_count {s t : Heal} (h : t.resync.resyncRebootCount = s.resync.resyncRebootCount) :
    t.left = s.left := by
  unfold Heal.left
  rw [h]

/-- A step without a LOCKED tick spends what it restarts, and the counts stay equal. -/
theorem heal_spends (h : s.Counted) (e : HealEvent) : (s.step e).1.Counted ∧
    ((∀ x ∈ (s.step e).2, x.isLocked = false) → restarts (s.step e).2 + (s.step e).1.left ≤ s.left) := by
  cases e with
  | reboot =>
    refine ⟨rfl, fun _ => ?_⟩
    rw [left_of_count h.symm]
    exact Nat.le_of_eq (Nat.zero_add _)
  | tick time env around =>
    have htick := meshResyncTick_healTick (env.at time) (s.inside around)
    unfold Heal.step
    dsimp only
    generalize meshResyncTick (env.at time) (s.inside around) = r at htick
    cases htick with
    | calm hq hcount =>
      rw [if_neg (by simp)]
      exact ⟨h, fun _ => Nat.le_of_eq (Nat.zero_add _)⟩
    | locked hq =>
      rw [if_neg (by simp)]
      refine ⟨rfl, fun hnone => ?_⟩
      have hnot := hnone _ List.mem_cons_self
      have hlocked : decide ((s.inside around).quality (env.at time) = nowdeSyncLocked) = true := decide_eq_true hq
      exact absurd (hlocked.symm.trans hnot) (by simp)
    | reset hq hfew hgrace =>
      rw [if_neg (by simp)]
      refine ⟨(MeshResync.armed_count _ _).trans h, fun _ => ?_⟩
      rw [left_of_count (MeshResync.armed_count _ _)]
      exact Nat.le_of_eq (Nat.zero_add _)
    | restart hq hmany hgrace hcap =>
      rw [if_pos (by simp)]
      refine ⟨rfl, fun _ => ?_⟩
      have hlt : s.resync.resyncRebootCount.toNat < 2 := UInt8.lt_iff_toNat_lt.1 hcap
      have hnext : (s.resync.resyncRebootCount + 1).toNat = (s.resync.resyncRebootCount.toNat + 1) % 256 :=
        UInt8.toNat_add _ _
      show 1 + (2 - (s.resync.resyncRebootCount + 1).toNat) ≤ 2 - s.resync.resyncRebootCount.toNat
      rw [hnext]
      omega
    | wait hq =>
      rw [if_neg (by simp)]
      refine ⟨(MeshResync.armed_count _ _).trans h, fun _ => ?_⟩
      rw [left_of_count (MeshResync.armed_count _ _)]
      exact Nat.le_of_eq (Nat.zero_add _)

/-- One event keeps the statics in step with the log, and is fair. -/
theorem heal_step {log : List Seen} (h : HealInv s log ∧ Mealy.Each Seen.Fair log) {e : HealEvent}
    (hle : Increasing s e) :
    HealInv (s.step e).1 (log ++ (s.step e).2) ∧ Mealy.Each Seen.Fair (log ++ (s.step e).2) := by
  cases e with
  | tick time env around =>
    obtain ⟨hinv, hfair⟩ := heal_tick h.1 hle env around
    exact ⟨hinv, hfair h.2⟩
  | reboot => exact ⟨healInv_booted log _, Mealy.each_concat.2 ⟨h.2, trivial⟩⟩

/-- Every log is one of a self-heal in step with it, and fair. -/
theorem heal_inv (resyncrb : Option UInt8) {es : List HealEvent}
    (hes : Mealy.Guarded Heal.step Increasing (Heal.booted resyncrb) es) :
    HealInv (Mealy.run Heal.step (Heal.booted resyncrb) es).1 (Mealy.run Heal.step (Heal.booted resyncrb) es).2 ∧
      Mealy.Each Seen.Fair (Mealy.run Heal.step (Heal.booted resyncrb) es).2 := by
  have hstart : HealInv (Heal.booted resyncrb) [] ∧ Mealy.Each Seen.Fair [] := by
    refine ⟨⟨?_, fun _ => rfl, fun h => absurd rfl h⟩, Mealy.each_nil⟩
    intro t ht
    exact absurd ht (by simp [coarseTimes, stretch])
  have hrun := Mealy.trace_inv (fun s log => HealInv s log ∧ Mealy.Each Seen.Fair log)
    (fun s log e h hle => heal_step h hle) hstart hes
  rwa [List.nil_append] at hrun

/-- **No part of a run without a LOCKED tick has more than two restarts.** -/
theorem restarts_le (resyncrb : Option UInt8) (pre : List HealEvent) {mid : List HealEvent}
    (hnone : ∀ x ∈ (Mealy.run Heal.step (Mealy.run Heal.step (Heal.booted resyncrb) pre).1 mid).2, x.isLocked = false) :
    restarts (Mealy.run Heal.step (Mealy.run Heal.step (Heal.booted resyncrb) pre).1 mid).2 ≤
      meshMaxAutoReboots.toNat := by
  have hcounted : (Mealy.run Heal.step (Heal.booted resyncrb) pre).1.Counted :=
    Mealy.inv_run (G := fun _ _ => True) Heal.Counted (fun s e h _ => (heal_spends h e).1)
      (counted_booted resyncrb) (Mealy.guarded_of_forall (fun _ _ => trivial) _ pre)
  have hspent := Mealy.cost_run_le Heal.Counted restarts Heal.left rfl (fun a b => List.countP_append)
    (fun s e h hg => ⟨(heal_spends h e).1, (heal_spends h e).2 hg⟩) hcounted (Mealy.forall_mem_run_iff.1 hnone)
  have hleft : (Mealy.run Heal.step (Heal.booted resyncrb) pre).1.left ≤ meshMaxAutoReboots.toNat :=
    Nat.sub_le _ _
  omega

/-- **The self-heal reboots at most twice between locks, and only a stretch that is stuck for good.** -/
theorem selfHeal_bounded (resyncrb : Option UInt8) {es : List HealEvent}
    (hes : Mealy.Guarded Heal.step Increasing (Heal.booted resyncrb) es) : HealBounded resyncrb es where
  bounded := by
    intro pre mid post _ log hnone
    exact restarts_le resyncrb pre hnone
  fair := (heal_inv resyncrb hes).2

end Runs

/-! ## A slave that stays stuck -/

/-- A slave that plays, has just heard its master and has a mesh clock that disagrees. -/
def coarseSlave (time : ℕ) : Node :=
  { lockedSlave with
    receiver := { lockedSlave.receiver with
      mediaSyncState :=
        { stopOnLinkLost := false, currentState := 1, coarse := true, lastSyncTime := UInt32.ofNat time } } }

/-- Two soft resets and a restart, a reboot, and a tick of the stretch after it. -/
def stuckSlave : List HealEvent :=
  [1000, 16000, 31000, 61000].map (fun time => .tick time { millis := 0 } (coarseSlave time)) ++
    [.reboot, .tick 900 { millis := 0 } (coarseSlave 900)]

theorem stuckSlave_restarts : restarts (Mealy.run Heal.step (Heal.booted none) stuckSlave).2 = 1 ∧
    HealBounded none stuckSlave :=
  ⟨by decide +kernel, selfHeal_bounded none (by decide +kernel)⟩

/-! ## The self-heal of a node -/

/-- What of a node the self-heal works on. -/
def Node.healing (n : Node) : MeshResync × Option UInt8 := (n.meshResync, n.nvs.resyncrb)

section Healing

variable (lib : UpdateLib) (env : Env) (n : Node)

/-- No command touches the self-heal. -/
theorem execute_healing (c : Command) (data : List UInt8) (length : ℕ) :
    (execute lib env n c data length).1.healing = n.healing :=
  congrArg (·.2) (execute_aside lib env n data length c)

/-- The link-lost check leaves the quality as it is: a link that is lost now is not COARSE already. -/
theorem receiverTick_quality (role : UInt8) (r : Receiver) :
    nodeSyncQuality env role (receiverTick env.millis r).1.mediaSyncState = nodeSyncQuality env role r.mediaSyncState := by
  have hmtc : ∀ ms, nodeSyncQuality env role (generateMtc env.millis ms).1 = nodeSyncQuality env role ms := by
    intro ms
    unfold generateMtc
    split <;> rfl
  have hlink : nodeSyncQuality env role (checkLinkLost env.millis r.mediaSyncState).1 =
      nodeSyncQuality env role r.mediaSyncState := by
    unfold checkLinkLost
    split
    · next hlost =>
      obtain ⟨hplays, -, hsilent⟩ := hlost
      -- after 10 s of silence a slave that plays is at NONE already
      have hnone : nodeSyncQuality env role r.mediaSyncState =
          if role = nowdeRoleMaster then nowdeSyncLocked else nowdeSyncNone := by
        unfold nodeSyncQuality
        simp only [hplays, hsilent]
        split_ifs <;> simp_all
      rw [hnone]
      split <;> simp [nodeSyncQuality]
    · rfl
  exact (hmtc _).trans hlink

theorem collect_no_restart {k : ℕ} {α : Type} {t : Fin k → α} {c : α → Prop} [DecidablePred c] {f : α → Out}
    (h : ∀ a, f a ≠ .restart) : Out.restart ∉ Slots.collect t fun a => if c a then some (f a) else none := by
  rw [Slots.mem_collect]
  rintro ⟨i, hi⟩
  split at hi
  · exact h _ (Option.some.inj hi)
  · cases hi

theorem senderTick_healing : (senderTick env n).1.healing = n.healing ∧
    (senderTick env n).1.quality env = n.quality env ∧ Out.restart ∉ (senderTick env n).2 := by
  have hbeacon : Out.restart ∉ (senderBeacon env.millis n).2 := by
    unfold senderBeacon
    split <;> simp
  have hclean : ∀ t, Out.restart ∉ (cleanupReceiverTable env.millis t).2 := by
    intro t
    unfold cleanupReceiverTable
    dsimp only
    exact collect_no_restart (by simp)
  have hdelayed : ∀ m, Out.restart ∉ (delayedTick env.millis m).2 := by
    intro m
    unfold delayedTick sendDelayedPackets
    split
    · dsimp only
      exact collect_no_restart (by simp)
    · simp
  refine ⟨?_, ?_, ?_⟩
  · unfold senderTick senderBeacon delayedTick
    dsimp only
    split_ifs <;> rfl
  · unfold senderTick senderBeacon delayedTick
    dsimp only
    split_ifs <;> rfl
  · unfold senderTick
    dsimp only
    simp only [List.mem_append, not_or]
    exact ⟨⟨hbeacon, hclean _⟩, hdelayed _⟩

/-- The receiver's part of a round ends with a tick of the self-heal. -/
theorem receiverModeTick_healing : ∃ around : Node, around.healing = n.healing ∧ around.quality env = n.quality env ∧
    (receiverModeTick env n).1 = (meshResyncTick env around).1 ∧
    (Out.restart ∈ (receiverModeTick env n).2 ↔ Out.restart ∈ (meshResyncTick env around).2) := by
  set b := receiverBeacon env.millis env n with hb
  have hbeacon : b.1.healing = n.healing ∧ b.1.nodeRole = n.nodeRole ∧ b.1.receiver = n.receiver := by
    rw [hb]
    unfold receiverBeacon
    split <;> exact ⟨rfl, rfl, rfl⟩
  have hreport : Out.restart ∉ b.2 := by
    rw [hb]
    unfold receiverBeacon
    split
    · intro hrestart
      obtain ⟨i, -, heq⟩ := mem_sendReceiverInfo env _ hrestart
      cases heq
    · simp
  have hclean : Out.restart ∉ (cleanupSenderTable env.millis b.1.senderTable).2 := by
    unfold cleanupSenderTable
    dsimp only
    exact collect_no_restart (by simp)
  obtain ⟨hheal, hrole, hreceiver⟩ := hbeacon
  refine ⟨{ b.1 with
    senderTable := (cleanupSenderTable env.millis b.1.senderTable).1
    receiver := (receiverTick env.millis b.1.receiver).1 }, hheal, ?_, ?_, ?_⟩
  · show nodeSyncQuality env b.1.nodeRole (receiverTick env.millis b.1.receiver).1.mediaSyncState = _
    rw [hrole, hreceiver]
    exact receiverTick_quality env n.nodeRole n.receiver
  · unfold receiverModeTick
    rw [← hb]
  · unfold receiverModeTick
    dsimp only
    rw [← hb]
    simp only [List.mem_append, hreport, hclean, false_or, List.mem_map, reduceCtorEq, and_false, exists_false]

/-- The self-heal reads nothing else of the node. -/
theorem meshResyncTick_congr {env : Env} {n m : Node} (h : m.healing = n.healing)
    (hq : m.quality env = n.quality env) :
    (meshResyncTick env m).1.healing = (meshResyncTick env n).1.healing ∧
      (meshResyncTick env m).2 = (meshResyncTick env n).2 := by
  obtain ⟨hresync, hstored⟩ := Prod.mk.inj h
  have hquality : nodeSyncQuality env m.nodeRole m.receiver.mediaSyncState =
      nodeSyncQuality env n.nodeRole n.receiver.mediaSyncState := hq
  unfold meshResyncTick
  dsimp only
  rw [hquality, hresync]
  split_ifs <;> simp [Node.healing, hstored]

/-- **A round of the task loop** ticks the self-heal once, on a node that receives. -/
theorem espnowTask_healing :
    (n.receiverModeEnabled = false ∧ (espnowTask env n).1.healing = n.healing ∧ Out.restart ∉ (espnowTask env n).2) ∨
      (n.receiverModeEnabled = true ∧ (espnowTask env n).1.healing = (meshResyncTick env n).1.healing ∧
        (Out.restart ∈ (espnowTask env n).2 ↔ Out.restart ∈ (meshResyncTick env n).2)) := by
  obtain ⟨s, r, hs, hr, htask⟩ := espnowTask_parts env n
  have hsender : s.1.healing = n.healing ∧ s.1.quality env = n.quality env ∧ Out.restart ∉ s.2 ∧
      s.1.receiverModeEnabled = n.receiverModeEnabled := by
    rcases hs with ⟨-, rfl⟩ | ⟨-, rfl⟩
    · obtain ⟨hheal, hquality, hnone⟩ := senderTick_healing env n
      exact ⟨hheal, hquality, hnone, (senderTick_spec env n).2.1⟩
    · exact ⟨rfl, rfl, by simp, rfl⟩
  obtain ⟨hsheal, hsquality, hsnone, hsmode⟩ := hsender
  have hrelay : Out.restart ∉ (relayTick env r.1).2 := by
    unfold relayTick
    simp
  -- the relay's turn neither heals nor restarts
  have hround : (espnowTask env n).1.healing = r.1.healing ∧
      (Out.restart ∈ (espnowTask env n).2 ↔ Out.restart ∈ r.2) := by
    rcases htask with ⟨-, htask⟩ | ⟨-, htask⟩
    · rw [htask]
      refine ⟨rfl, ?_⟩
      simp only [List.mem_append, hsnone, false_or]
    · rw [htask]
      refine ⟨rfl, ?_⟩
      simp only [List.mem_append, hsnone, hrelay, false_or, or_false]
  rcases hr with ⟨hmode, rfl⟩ | ⟨hmode, rfl⟩
  · obtain ⟨around, hheal, hquality, hstate, hout⟩ := receiverModeTick_healing env s.1
    obtain ⟨hsame, houts⟩ := meshResyncTick_congr (hheal.trans hsheal) (hquality.trans hsquality)
    refine Or.inr ⟨hsmode.symm.trans hmode, ?_, ?_⟩
    · rw [hround.1, hstate, hsame]
    · rw [hround.2, hout, houts]
  · refine Or.inl ⟨hsmode.symm.trans hmode, hround.1.trans hsheal, ?_⟩
    rw [hround.2]
    simp

/-- Nothing else reboots a node in a round. -/
theorem espnowTask_reboots : reboots (espnowTask env n).2 = true ↔ Out.restart ∈ (espnowTask env n).2 := by
  unfold reboots
  rw [decide_eq_true_eq]
  refine or_iff_left fun hzero => ?_
  rcases espnowTask_out env n _ hzero with ⟨-, h, -, heq⟩ | hround
  · cases heq
  · cases hround

theorem boot_healing (build : Build) (nvs : Nvs) (boardId : UInt8) (mac : Mac) :
    (boot build nvs boardId mac).healing = ((Heal.booted nvs.resyncrb).resync, nvs.resyncrb) :=
  congrArg (·.1.2) (applyRole_apart _ _)

end Healing

/-! ## The runs of a node -/

/-- An event is a round of the task loop that ticks the self-heal. -/
def Node.ticks (n : Node) : Event → Bool
  | .task _ => n.receiverModeEnabled
  | _ => false

/-- A node with the time of its last tick since boot. It shows which outputs came with a tick. -/
def timedStep (lib : UpdateLib) (build : Build) (s : Node × ℕ) (e : ℕ × Event) :
    (Node × ℕ) × List (Bool × List Out) :=
  let r := s.1.step lib build (e.2.at e.1)
  ((r.1, if reboots r.2 then 0 else if s.1.ticks e.2 then e.1 else s.2), [(s.1.ticks e.2, r.2)])

/-- The self-heal of a node. -/
def heal (s : Node × ℕ) : Heal where
  resync := s.1.meshResync
  resyncrb := s.1.nvs.resyncrb
  clock := s.2

/-- What the self-heal goes through in an event. -/
def healEvents (lib : UpdateLib) (build : Build) (s : Node × ℕ) (e : ℕ × Event) : List HealEvent :=
  if s.1.ticks e.2 then [.tick e.1 e.2.env s.1]
  else if reboots (s.1.step lib build (e.2.at e.1)).2 then [.reboot]
  else []

/-- The restarts of a node that came with a tick. -/
def tickRestarts (out : List (Bool × List Out)) : ℕ := out.countP fun o => o.1 && decide (Out.restart ∈ o.2)

section NodeRuns

variable (lib : UpdateLib) (build : Build)

/-- An event without a tick leaves the self-heal alone. -/
theorem handle_healing (n : Node) {e : Event} (hno : n.ticks e = false) : (n.handle lib e).1.healing = n.healing := by
  cases hcmd : n.commandOf e with
  | some k =>
    obtain ⟨c, data, length⟩ := k
    rw [handle_of_command lib n hcmd, execute_healing]
    cases e <;> rfl
  | none =>
    cases e with
    | task env =>
      rcases espnowTask_healing env n with ⟨-, hsame, -⟩ | ⟨hmode, -⟩
      · exact hsame
      · exact absurd (hmode.symm.trans hno) (by simp)
    | _ =>
      obtain ⟨_, _, _, _, -, hnode⟩ := handle_of_none lib n hcmd (by simp)
      rw [hnode]
      rfl

/-- A step is the handler's, up to the reboot it may bring. -/
theorem step_healing (n : Node) (e : Event) :
    (reboots (n.handle lib e).2 = true ∧ (n.step lib build e).1.healing =
        ((Heal.booted (n.handle lib e).1.nvs.resyncrb).resync, (n.handle lib e).1.nvs.resyncrb)) ∨
      (reboots (n.handle lib e).2 = false ∧ (n.step lib build e).1 = (n.handle lib e).1) := by
  cases hre : reboots (n.handle lib e).2 with
  | true =>
    rw [step_of_reboots build hre]
    exact Or.inl ⟨rfl, boot_healing build _ _ _⟩
  | false =>
    rw [step_of_not_reboots build hre]
    exact Or.inr ⟨rfl, rfl⟩

theorem heal_of_healing {s : Node × ℕ} {r : MeshResync} {resyncrb : Option UInt8} (h : s.1.healing = (r, resyncrb)) :
    heal s = { resync := r, resyncrb := resyncrb, clock := s.2 } := by
  obtain ⟨hresync, hstored⟩ := Prod.mk.inj h
  unfold heal
  rw [hresync, hstored]

theorem ticks_at (n : Node) (time : ℕ) (e : Event) : n.ticks (e.at time) = n.ticks e := by cases e <;> rfl

/-- A round that ticks. -/
theorem timedStep_heal_tick {n : Node} (env : Env) (clock time : ℕ) (hmode : n.receiverModeEnabled = true) :
    let s := n.step lib build (.task (env.at time))
    let r := Heal.step (heal (n, clock)) (.tick time env n)
    r.1 = heal (s.1, if reboots (n.handle lib (.task (env.at time))).2 then 0 else time) ∧
      tickRestarts [(true, (n.handle lib (.task (env.at time))).2)] = restarts r.2 := by
  intro s r
  rcases espnowTask_healing (env.at time) n with ⟨hoff, -⟩ | ⟨-, hround, hrestart⟩
  · exact absurd (hmode.symm.trans hoff) (by simp)
  have hre := (espnowTask_reboots (env.at time) n).trans hrestart
  obtain ⟨hresync, hstored⟩ := Prod.mk.inj hround
  rcases step_healing lib build n (.task (env.at time)) with ⟨hboots, hboot⟩ | ⟨hstays, hstep⟩
  · -- the boot reads the count that this tick has stored
    have hmem := hre.1 hboots
    have hheal : r = (Heal.booted (meshResyncTick (env.at time) n).1.nvs.resyncrb,
        [.tick (n.quality (env.at time)) time (meshResyncTick (env.at time) n).2, .boot]) := if_pos hmem
    have himage : heal (s.1, 0) = Heal.booted (espnowTask (env.at time) n).1.nvs.resyncrb := heal_of_healing hboot
    rw [hheal, hboots, if_pos rfl, himage, hstored]
    refine ⟨rfl, ?_⟩
    have hout : Out.restart ∈ (n.handle lib (.task (env.at time))).2 := hrestart.2 hmem
    simp [tickRestarts, restarts, Seen.isRestart, hout, hmem]
  · have hno : Out.restart ∉ (meshResyncTick (env.at time) n).2 := fun hmem =>
      absurd (hstays.symm.trans (hre.2 hmem)) (by simp)
    have hheal : r = ({ resync := (meshResyncTick (env.at time) n).1.meshResync
                        resyncrb := (meshResyncTick (env.at time) n).1.nvs.resyncrb
                        clock := time },
        [.tick (n.quality (env.at time)) time (meshResyncTick (env.at time) n).2]) := if_neg hno
    have hsame : s.1.healing = ((meshResyncTick (env.at time) n).1.meshResync,
        (meshResyncTick (env.at time) n).1.nvs.resyncrb) := by
      rw [show s.1 = _ from hstep]
      exact hround
    rw [hheal, hstays, if_neg (by simp), heal_of_healing (s := (s.1, time)) hsame]
    refine ⟨rfl, ?_⟩
    have hout : Out.restart ∉ (n.handle lib (.task (env.at time))).2 := fun hmem => hno (hrestart.1 hmem)
    simp [tickRestarts, restarts, Seen.isRestart, hout, hno]

/-- **One event of a node** is what the self-heal goes through in it. -/
theorem timedStep_heal (s : Node × ℕ) (e : ℕ × Event) :
    (Mealy.run Heal.step (heal s) (healEvents lib build s e)).1 = heal (timedStep lib build s e).1 ∧
      tickRestarts (timedStep lib build s e).2 =
        restarts (Mealy.run Heal.step (heal s) (healEvents lib build s e)).2 := by
  obtain ⟨n, clock⟩ := s
  obtain ⟨time, e⟩ := e
  unfold timedStep healEvents
  dsimp only
  rw [step_outputs]
  cases htick : n.ticks e with
  | false =>
    have hsame := handle_healing lib n ((ticks_at n time e).trans htick)
    rcases step_healing lib build n (e.at time) with ⟨hre, hboot⟩ | ⟨hre, hstep⟩
    · obtain ⟨-, hstored⟩ := Prod.mk.inj hsame
      rw [hstored] at hboot
      have himage : heal ((n.step lib build (e.at time)).1, 0) = Heal.booted n.nvs.resyncrb := heal_of_healing hboot
      simp only [hre, Bool.false_eq_true, if_false, if_true]
      exact ⟨himage.symm, rfl⟩
    · rw [← hstep] at hsame
      have himage : heal ((n.step lib build (e.at time)).1, clock) = heal (n, clock) := heal_of_healing hsame
      simp only [hre, Bool.false_eq_true, if_false]
      exact ⟨himage.symm, rfl⟩
  | true =>
    cases e with
    | radio env src data => cases htick
    | usb env packet => cases htick
    | task env =>
      simp only [if_true, Mealy.run_cons, Mealy.run_nil, List.append_nil]
      exact timedStep_heal_tick lib build env clock time htick

/-- The shadow of a tick shows its quality. -/
theorem healEvents_notLocked (s : Node × ℕ) (e : ℕ × Event)
    (h : s.1.ticks e.2 = true → s.1.quality (e.2.env.at e.1) ≠ nowdeSyncLocked) :
    ∀ x ∈ (Mealy.run Heal.step (heal s) (healEvents lib build s e)).2, x.isLocked = false := by
  intro x hx
  unfold healEvents at hx
  split at hx
  · next htick =>
    have hquality := h htick
    simp only [Mealy.run_cons, Mealy.run_nil, List.append_nil, Heal.step] at hx
    have hcases : x = .boot ∨ ∃ out, x = .tick (s.1.quality (e.2.env.at e.1)) e.1 out := by
      split at hx
      · rcases List.mem_cons.1 hx with rfl | hx
        · exact Or.inr ⟨_, rfl⟩
        · exact Or.inl (List.mem_singleton.1 hx)
      · exact Or.inr ⟨_, List.mem_singleton.1 hx⟩
    rcases hcases with rfl | ⟨out, rfl⟩
    · rfl
    · exact decide_eq_false hquality
  · split at hx
    · rw [List.mem_singleton.1 hx]
      rfl
    · cases hx

variable (nvs : Nvs) (boardId : UInt8) (mac : Mac)

theorem heal_boot : heal (boot build nvs boardId mac, 0) = Heal.booted nvs.resyncrb :=
  heal_of_healing (boot_healing build nvs boardId mac)

/-- **The self-heal restarts a node at most twice** in a part of its run without a LOCKED tick. -/
theorem tickRestarts_le (pre : List (ℕ × Event)) {mid : List (ℕ × Event)}
    (hmid : Mealy.Guarded (timedStep lib build)
      (fun s e => s.1.ticks e.2 = true → s.1.quality (e.2.env.at e.1) ≠ nowdeSyncLocked)
      (Mealy.run (timedStep lib build) (boot build nvs boardId mac, 0) pre).1 mid) :
    tickRestarts (Mealy.run (timedStep lib build)
        (Mealy.run (timedStep lib build) (boot build nvs boardId mac, 0) pre).1 mid).2 ≤
      meshMaxAutoReboots.toNat := by
  have hshadow := fun s es => Mealy.run_shadow heal (healEvents lib build)
    (fun out log => tickRestarts out = restarts log) rfl
    (fun _ _ _ _ h₁ h₂ => by unfold tickRestarts restarts at *; rw [List.countP_append, List.countP_append, h₁, h₂])
    (timedStep_heal lib build) s es
  obtain ⟨hstate, -⟩ := hshadow (boot build nvs boardId mac, 0) pre
  rw [heal_boot] at hstate
  rw [(hshadow _ mid).2, ← hstate]
  apply restarts_le
  rw [hstate]
  refine (Mealy.forall_mem_shadow_iff heal (healEvents lib build) (fun s e => (timedStep_heal lib build s e).1) _ _).2 ?_
  exact hmid.mono (healEvents_notLocked lib build)

/-- **And only after a stretch that is stuck for good**, when its rounds come at increasing times. -/
theorem node_fair {es : List (ℕ × Event)}
    (hes : Mealy.Guarded (timedStep lib build) (fun s e => s.1.ticks e.2 = true → s.2 ≤ e.1)
      (boot build nvs boardId mac, 0) es) :
    Mealy.Each Seen.Fair (Mealy.run Heal.step (Heal.booted nvs.resyncrb)
      (Mealy.shadow (timedStep lib build) (healEvents lib build) (boot build nvs boardId mac, 0) es)).2 := by
  have hguard : ∀ (s : Node × ℕ) (e : ℕ × Event), (s.1.ticks e.2 = true → s.2 ≤ e.1) →
      Mealy.Guarded Heal.step Increasing (heal s) (healEvents lib build s e) := by
    intro s e hle
    unfold healEvents
    split
    · next htick => exact ⟨hle htick, trivial⟩
    · split
      · exact ⟨trivial, trivial⟩
      · trivial
  have hshadow := Mealy.guarded_shadow heal (healEvents lib build) (fun s e => (timedStep_heal lib build s e).1)
    hguard hes
  rw [heal_boot] at hshadow
  exact (heal_inv nvs.resyncrb hshadow).2

end NodeRuns

end Nowde
