import Nowde.Proof.SelfHeal
import Nowde.Proof.OtaSession
import Nowde.Spec.Tools

/-!
# An update and the self-heal

The update session lives in the MIDI task, the self-heal in the other task, and a radio frame reaches
the dispatcher of either. None of them asks whether an update is under way: `otaInProgress` gates no
restart. What follows takes a session from the `OTA_BEGIN` that opens it, in whatever state the node
is then, to the event that ends it.

* `step_reboots_iff`: in an open session a node reboots by `SET_LR` or by the self-heal alone.
* `update_uninterrupted_iff`: only the host's commands restart the node **exactly** in the runs that
  spare the update: no round finds the self-heal due, and no radio frame carries a `SET_LR`.
* `selfHeal_interruptsUpdate`: a slave that was stuck before its update began restarts in it.
-/

namespace Nowde

/-! ## What restarts a node -/

/-- The self-heal restarts the node at this instant. -/
def Node.healDue (env : Env) (n : Node) : Prop :=
  n.quality env = nowdeSyncCoarse ∧ n.meshResync.stuckSince ≠ 0 ∧ ¬n.meshResync.softResets < meshMaxSoftResets ∧
    env.millis - n.meshResync.stuckSince ≥ meshRebootGraceMs ∧ n.meshResync.resyncRebootCount < meshMaxAutoReboots

/-- A round of the task loop that finds the self-heal due. -/
def Node.healRound (n : Node) : Event → Prop
  | .task env => n.receiverModeEnabled = true ∧ n.healDue env
  | _ => False

/-- A `SET_LR` of 0 or 1. -/
def SetsLr (data : List UInt8) (length : ℕ) : Prop := length ≥ 5 ∧ (byteAt data 3 = 0 ∨ byteAt data 3 = 1)

/-- An event that carries one. -/
def Node.setsLr (n : Node) (e : Event) : Prop := ∃ k ∈ n.commandOf e, k.1 = .setLr ∧ SetsLr k.2.1 k.2.2

/-- An event that comes from the host. -/
def Event.fromHost : Event → Bool
  | .usb _ _ => true
  | _ => false

/-! ## A session -/

/-- An `OTA_BEGIN` that the library grants. -/
def OpensUpdate (lib : UpdateLib) (n : Node) (e : Event) : Prop :=
  ∃ k ∈ n.commandOf e, k.1 = .otaBegin ∧ k.2.2 ≥ 9 ∧
    lib.begin (abortRunning lib n.ota.calls) (otaAnnouncedSize k.2.1) = true

/-- An event of an open session that neither ends it by `OTA_END` nor begins another. -/
def DuringUpdate (n : Node) (e : Event) : Prop :=
  n.ota.otaInProgress = true ∧ ∀ k ∈ n.commandOf e, k.1 ≠ .otaEnd ∧ (k.1 = .otaBegin → k.2.2 < 9)

/-- No step of a run but a command of the host reboots the node. -/
def Uninterrupted (lib : UpdateLib) (build : Build) : Node → List Event → Prop :=
  Mealy.Guarded (Node.step lib build) fun n e =>
    ¬(e.fromHost = true ∧ n.commandOf e ≠ none) → reboots (n.step lib build e).2 = false

/-- An event that spares an update. -/
def Node.Spares (n : Node) (e : Event) : Prop := ¬n.healRound e ∧ (n.setsLr e → e.fromHost = true)

section Decidable

variable (lib : UpdateLib) (n : Node) (env : Env) (data : List UInt8) (length : ℕ) (e : Event)

instance : Decidable (n.healDue env) := inferInstanceAs (Decidable (_ = _ ∧ _ ≠ _ ∧ ¬_ < _ ∧ _ ≥ _ ∧ _ < _))

instance : ∀ e, Decidable (n.healRound e)
  | .task env => inferInstanceAs (Decidable (n.receiverModeEnabled = true ∧ n.healDue env))
  | .radio _ _ _ | .usb _ _ => inferInstanceAs (Decidable False)

instance : Decidable (SetsLr data length) := inferInstanceAs (Decidable (_ ≥ _ ∧ (_ = _ ∨ _ = _)))

instance : Decidable (n.setsLr e) :=
  inferInstanceAs (Decidable (∃ k ∈ n.commandOf e, k.1 = .setLr ∧ SetsLr k.2.1 k.2.2))

instance : Decidable (OpensUpdate lib n e) :=
  inferInstanceAs (Decidable (∃ k ∈ n.commandOf e, k.1 = .otaBegin ∧ k.2.2 ≥ 9 ∧
    lib.begin (abortRunning lib n.ota.calls) (otaAnnouncedSize k.2.1) = true))

instance : Decidable (DuringUpdate n e) :=
  inferInstanceAs (Decidable (_ ∧ ∀ k ∈ n.commandOf e, k.1 ≠ .otaEnd ∧ (k.1 = .otaBegin → k.2.2 < 9)))

instance : Decidable (n.Spares e) := inferInstanceAs (Decidable (¬n.healRound e ∧ (n.setsLr e → _)))

instance (build : Build) (es : List Event) : Decidable (Uninterrupted lib build n es) :=
  inferInstanceAs (Decidable (Mealy.Guarded (Node.step lib build) (fun n e =>
    ¬(e.fromHost = true ∧ n.commandOf e ≠ none) → reboots (n.step lib build e).2 = false) n es))

end Decidable

/-! ## One event -/

section Restarts

variable (lib : UpdateLib) (env : Env) (n : Node)

/-- **The self-heal restarts the node exactly when it is due.** -/
theorem meshResyncTick_restart_iff : Out.restart ∈ (meshResyncTick env n).2 ↔ n.healDue env := by
  unfold Node.healDue
  by_cases hq : n.quality env = nowdeSyncCoarse
  · rw [meshResyncTick_of_coarse hq]
    unfold MeshResync.armed
    by_cases hzero : n.meshResync.stuckSince = 0
    · -- a stretch that starts in this very round has no soft reset behind it
      rw [if_pos hzero]
      dsimp only
      rw [if_pos (by decide)]
      refine iff_of_false ?_ fun h => h.2.1 hzero
      split <;> simp
    · rw [if_neg hzero]
      dsimp only
      split_ifs with hfew hgrace hdue
      · exact iff_of_false (by simp) fun h => h.2.2.1 hfew
      · exact iff_of_false (by simp) fun h => h.2.2.1 hfew
      · exact iff_of_true (by simp) ⟨hq, hzero, hfew, hdue⟩
      · exact iff_of_false (by simp) fun h => hdue h.2.2.2
  · have htick := meshResyncTick_healTick env n
    generalize meshResyncTick env n = r at htick
    refine iff_of_false ?_ fun h => hq h.1
    cases htick with
    | calm _ _ => simp
    | locked _ => simp
    | reset h => exact absurd h hq
    | restart h => exact absurd h hq
    | wait h => exact absurd h hq

/-- A round reboots the node exactly when the self-heal is due. -/
theorem espnowTask_reboots_iff :
    reboots (espnowTask env n).2 = true ↔ n.receiverModeEnabled = true ∧ n.healDue env := by
  rw [espnowTask_reboots]
  rcases espnowTask_healing env n with ⟨hmode, -, hnone⟩ | ⟨hmode, -, hrestart⟩
  · refine iff_of_false hnone fun h => ?_
    exact absurd (h.1.symm.trans hmode) (by simp)
  · rw [hrestart, meshResyncTick_restart_iff]
    exact (and_iff_right hmode).symm

theorem setLr_restart_iff (data : List UInt8) (length : ℕ) :
    Out.restart ∈ (setLr env n data length).2 ↔ SetsLr data length := by
  unfold setLr SetsLr
  split
  · next h => exact iff_of_true (by simp) h
  · next h => exact iff_of_false (by simp [sendConfigInvalid, sendErrorReport]) h

/-- A round leaves the session alone. -/
theorem espnowTask_ota : (espnowTask env n).1.ota = n.ota := by
  show (espnowTask env n).1.still.ota = n.still.ota
  rw [espnowTask_still]

/-- What is put out without a command does not reboot, but in a round. -/
theorem eventOut_stays {e : Event} {o : Out} (hcmd : n.commandOf e = none) (htask : ∀ env, e ≠ .task env)
    (h : EventOut n e o) : o ≠ .restart ∧ o ≠ .divideByZero := by
  cases h with
  | command hsome => exact absurd (hsome.symm.trans hcmd) (by simp)
  | rejection => exact ⟨by simp, by simp⟩
  | table _ ht => cases ht <;> exact ⟨by simp, by simp⟩
  | received => exact ⟨by simp, by simp⟩
  | ticked => exact absurd rfl (htask _)
  | round => exact absurd rfl (htask _)

theorem reboots_of_no_command {e : Event} (hcmd : n.commandOf e = none) (htask : ∀ env, e ≠ .task env) :
    ¬reboots (n.handle lib e).2 = true := by
  unfold reboots
  rw [decide_eq_true_eq]
  rintro (hrestart | hzero)
  · exact (eventOut_stays n hcmd htask (handle_out lib n e _ hrestart)).1 rfl
  · exact (eventOut_stays n hcmd htask (handle_out lib n e _ hzero)).2 rfl

/-- An event without a command leaves the session alone, and reboots the node in a round only. -/
theorem handle_of_no_command {e : Event} (h : n.commandOf e = none) : (n.handle lib e).1.ota = n.ota ∧
    (reboots (n.handle lib e).2 = true ↔ n.healRound e) := by
  cases e with
  | task env => exact ⟨espnowTask_ota env n, espnowTask_reboots_iff env n⟩
  | _ =>
    refine ⟨?_, iff_of_false (reboots_of_no_command lib n h (by simp)) id⟩
    obtain ⟨_, _, _, _, -, hnode⟩ := handle_of_none lib n h (by simp)
    rw [hnode]
    rfl

end Restarts

/-! ## An open session -/

section Session

variable {lib : UpdateLib} (hlib : lib.Documented) (build : Build) {n : Node} {e : Event}

theorem noted_ota (n : Node) (e : Event) : (n.noted e).ota = n.ota := by cases e <;> rfl

theorem OtaInv.noted (h : OtaInv lib n.ota) (e : Event) : OtaInv lib (n.noted e).ota := by
  rw [noted_ota]
  exact h

include hlib

/-- In a session whose copies agree, only `SET_LR` and `OTA_END` reboot a node among commands. -/
theorem execute_reboots_iff (env : Env) (h : OtaInv lib n.ota) {c : Command} {data : List UInt8} {length : ℕ}
    (hend : c ≠ .otaEnd) (hbegin : c = .otaBegin → length < 9) :
    reboots (execute lib env n c data length).2 = true ↔ c = .setLr ∧ SetsLr data length := by
  -- equal copies of the session rule out the division by zero
  have hstays := execute_otaInv hlib env h c data length fun hc hlen => absurd (hbegin hc) (by omega)
  unfold reboots
  rw [decide_eq_true_eq, or_iff_left hstays.2]
  constructor
  · intro hrestart
    cases execute_out lib env n data length c _ hrestart with
    | restart hc =>
      have hlr := hc.resolve_right hend
      subst hlr
      exact ⟨rfl, (setLr_restart_iff env n data length).1 hrestart⟩
  · rintro ⟨rfl, hlr⟩
    exact (setLr_restart_iff env n data length).2 hlr

/-- **In an open session** a node reboots by `SET_LR` or by the self-heal alone. -/
theorem step_reboots_iff (h : OtaInv lib n.ota) (hd : DuringUpdate n e) :
    reboots (n.step lib build e).2 = true ↔ n.setsLr e ∨ n.healRound e := by
  rw [step_outputs]
  unfold Node.setsLr
  cases hcmd : n.commandOf e with
  | none =>
    rw [(handle_of_no_command lib n hcmd).2]
    simp
  | some k =>
    obtain ⟨c, data, length⟩ := k
    obtain ⟨hend, hbegin⟩ := hd.2 _ hcmd
    -- a round of the task loop brings no command
    have hround : ¬n.healRound e := by
      cases e with
      | task env => cases hcmd
      | radio env src data => exact id
      | usb env packet => exact id
    rw [handle_of_command lib n hcmd, execute_reboots_iff hlib e.env (h.noted e) hend hbegin, or_iff_left hround]
    simp

/-- **One event of an open session** reboots the node without its host exactly when it does not
spare the update. -/
theorem step_spared_iff (h : OtaInv lib n.ota) (hd : DuringUpdate n e) :
    (¬(e.fromHost = true ∧ n.commandOf e ≠ none) → reboots (n.step lib build e).2 = false) ↔ n.Spares e := by
  have hreboots := step_reboots_iff hlib build h hd
  constructor
  · intro hall
    refine ⟨fun hround => ?_, fun hlr => ?_⟩
    · have hno : ¬(e.fromHost = true ∧ n.commandOf e ≠ none) := by
        cases e with
        | task env => simp [Event.fromHost]
        | radio env src data => exact hround.elim
        | usb env packet => exact hround.elim
      exact absurd ((hreboots.2 (Or.inr hround)).symm.trans (hall hno)) (by simp)
    · by_contra hradio
      have hstays := hall fun hhost => hradio hhost.1
      exact absurd ((hreboots.2 (Or.inl hlr)).symm.trans hstays) (by simp)
  · rintro ⟨hround, hlr⟩ hno
    by_contra hre
    rcases hreboots.1 (by simpa using hre) with hset | hdue
    · obtain ⟨k, hk, -⟩ := id hset
      exact hno ⟨hlr hset, by rw [Option.mem_def.1 hk]; simp⟩
    · exact hround hdue

/-- The copies of the session stay equal: a node that reboots starts without one. -/
theorem step_keeps (h : OtaInv lib n.ota) (hd : DuringUpdate n e) : OtaInv lib (n.step lib build e).1.ota := by
  have hhandle : OtaInv lib (n.handle lib e).1.ota ∨ reboots (n.handle lib e).2 = true := by
    cases hcmd : n.commandOf e with
    | none =>
      rw [(handle_of_no_command lib n hcmd).1]
      exact Or.inl h
    | some k =>
      obtain ⟨c, data, length⟩ := k
      obtain ⟨-, hbegin⟩ := hd.2 _ hcmd
      rw [handle_of_command lib n hcmd]
      refine (execute_otaInv hlib e.env (h.noted e) c data length fun hc hlen => ?_).1.imp_right fun hrestart => ?_
      · have hshort : length < 9 := hbegin hc
        omega
      · simp [reboots, hrestart]
  cases hre : reboots (n.handle lib e).2 with
  | true =>
    rw [step_of_reboots build hre]
    exact otaInv_boot hlib build _ _ _
  | false =>
    rw [step_of_not_reboots build hre]
    exact hhandle.resolve_right (by simp [hre])

/-- The event that opens a session leaves equal copies of it. -/
theorem OpensUpdate.otaInv (h : OpensUpdate lib n e) : OtaInv lib (n.step lib build e).1.ota := by
  obtain ⟨⟨c, data, length⟩, hcmd, hc, hlen, hgranted⟩ := h
  dsimp only at hc hlen hgranted
  subst hc
  have hstays := reboots_of_command lib n hcmd (by decide) (by decide) (by decide)
  -- whatever the copies were, `OTA_BEGIN` closes the library's session and resets the firmware's
  have hidle := isRunning_abortRunning hlib n.ota.calls
  rw [step_of_not_reboots build hstays, handle_of_command lib n hcmd]
  rw [← noted_ota n e] at hgranted hidle
  simp only [execute, withOta, otaBegin_of_granted lib e.env data hlen hgranted]
  exact otaInv_begin hlib hidle hgranted _

/-! ## Runs -/

/-- **An update is uninterrupted exactly when its run spares it.** The session is opened by an
`OTA_BEGIN` in any state of the node; its events are all that happens until it ends. -/
theorem update_uninterrupted_iff (hopen : OpensUpdate lib n e) {es : List Event}
    (hes : Mealy.Guarded (Node.step lib build) DuringUpdate (n.step lib build e).1 es) :
    Uninterrupted lib build (n.step lib build e).1 es ↔
      Mealy.Guarded (Node.step lib build) Node.Spares (n.step lib build e).1 es :=
  Mealy.guarded_iff_of_inv (fun n : Node => OtaInv lib n.ota) (fun _ _ h hd => step_keeps hlib build h hd)
    (fun _ _ h hd => step_spared_iff hlib build h hd) (hopen.otaInv hlib build) hes

end Session

/-! ## A slave that was stuck before its update -/

/-- A slave on layer `a`. -/
def slaveOnA : Nvs := { layer := some [0x61], role := some nowdeRoleSlave }

/-- A frame of the master and a round of the task loop at each time, by a mesh clock in the given state. -/
def rounds (syncState : SyncState) (times : List ℕ) : List Event :=
  times.flatMap fun time =>
    [.radio { millis := UInt32.ofNat time } masterA (clip 5 1 (UInt16.ofNat time)).toFrame,
      .task { millis := UInt32.ofNat time, syncState := syncState }]

/-- A frame from the host at `time`. -/
def fromUsb (time : ℕ) (frame : List UInt8) : List Event :=
  (Host.sysexPackets frame).map fun packet => .usb { millis := UInt32.ofNat time } packet

/-- Two soft resets, and the packets of `begin4` but for the last. -/
def untilBegin (syncState : SyncState) : List Event :=
  rounds syncState [1000, 6000, 11000, 16000, 21000, 26000, 31000, 36000] ++
    (fromUsb 40000 begin4).dropLast

/-- The last packet of `begin4`. -/
def lastOfBegin : Event := .usb { millis := 40000 } ⟨7, 0, 4, 0xF7⟩

/-- The slave as the update finds it. -/
def beforeUpdate (syncState : SyncState) : Node :=
  (Mealy.run (Node.step (flashLib 64) plainBuild) (boot plainBuild slaveOnA 0 slaveMac) (untilBegin syncState)).1

/-- Data, and rounds until a minute after the first. -/
def duringUpdate (syncState : SyncState) : List Event :=
  rounds syncState [41000, 46000, 51000] ++ fromUsb 52000 data12 ++ rounds syncState [56000, 61000]

/-- With a mesh clock that agrees, the update is left alone. -/
theorem syncedUpdate_uninterrupted : Uninterrupted (flashLib 64) plainBuild
    ((beforeUpdate .synced).step (flashLib 64) plainBuild lastOfBegin).1 (duringUpdate .synced) :=
  (update_uninterrupted_iff (flashLib_documented 64) plainBuild (by decide +kernel) (by decide +kernel)).2
    (by decide +kernel)

/-- **The self-heal restarts a node in the middle of its update.** -/
theorem selfHeal_interruptsUpdate :
    ¬∀ (lib : UpdateLib), lib.Documented → ∀ (build : Build) (nvs : Nvs) (boardId : UInt8) (mac : Mac)
      (pre : List Event) (e : Event) (es : List Event),
      let n := (Mealy.run (Node.step lib build) (boot build nvs boardId mac) pre).1
      OpensUpdate lib n e → Mealy.Guarded (Node.step lib build) DuringUpdate (n.step lib build e).1 es →
        Uninterrupted lib build (n.step lib build e).1 es := by
  intro hall
  have hrun := hall (flashLib 64) (flashLib_documented 64) plainBuild slaveOnA 0 slaveMac (untilBegin .alone) lastOfBegin
    (duringUpdate .alone) (by decide +kernel) (by decide +kernel)
  exact absurd hrun (by decide +kernel)

end Nowde
