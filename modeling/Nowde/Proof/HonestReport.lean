import Nowde.Proof.StopPolicy
import Nowde.Proof.Position
import Nowde.Proof.Deadlines
import Nowde.Proof.Uninterrupted

/-!
# What a slave reports

`sendReceiverInfo` reports the clip the slave plays ("0 = stopped") and how well it is locked to its
master. Both are read from fields that other functions write for their own ends: the followed index, the
state, the flags of the last packet's age and of the link. A `ReportState` has the last packet accepted,
and its true time, beside the node.

* `quality_locked_iff`: when a slave reports LOCKED.
* `honest_iff`: along a run of a slave the report is honest at every moment **exactly** when no packet
  that does not play is accepted with an index, none that plays is accepted with an age of `-2 ^ 31` ms,
  no round stops the clock on link loss while an index is followed, and no packet is left behind for a
  whole turn of `millis()` with no round to notice.
* `sent_honest`: the reports that a round sends are these.
* `stoppedClip_reported`: a slave loses its master, stops the clip, and still reports it.
-/

namespace Nowde

/-! ## The report -/

section Report

variable (env : Env) (n : Node)

/-- What a receiver of the report reads. -/
theorem receiverInfoFrame_reads :
    (ReceiverInfo.ofFrame (receiverInfoFrame env n)).mediaIndex = n.receiver.mediaSyncState.currentIndex ∧
      (ReceiverInfo.ofFrame (receiverInfoFrame env n)).syncQuality = n.quality env := by
  unfold receiverInfoFrame
  rw [ReceiverInfo.ofFrame_toFrame]
  exact ⟨rfl, rfl⟩

variable {env n}

/-- **A slave is LOCKED** while it plays with a fresh stamp, a trusted age and a synced mesh clock. -/
theorem quality_locked_iff (hrole : n.nodeRole ≠ nowdeRoleMaster) : n.quality env = nowdeSyncLocked ↔
    n.receiver.mediaSyncState.currentState = 1 ∧ n.receiver.mediaSyncState.linkLost = false ∧
      env.millis - n.receiver.mediaSyncState.lastSyncTime ≤ linkLostTimeoutMs ∧
      n.receiver.mediaSyncState.coarse = false ∧ env.syncState = .synced := by
  unfold Node.quality nodeSyncQuality
  rw [if_neg hrole]
  split_ifs with hplays hlost hsilent hcoarse
  · exact iff_of_false (by decide) fun h => hplays h.1
  · exact iff_of_false (by decide) fun h => by simp [hlost] at h
  · exact iff_of_false (by decide) fun h => UInt32.not_lt.2 h.2.2.1 hsilent
  · refine iff_of_false (by decide) fun h => ?_
    rcases hcoarse with hc | hs
    · simp [hc] at h
    · exact hs h.2.2.2.2
  · obtain ⟨hc, hs⟩ := not_or.1 hcoarse
    refine iff_of_true rfl ⟨not_not.1 hplays, ?_, UInt32.not_lt.1 hsilent, ?_, not_not.1 hs⟩
    · simpa using hlost
    · simpa using hc

/-- A round that stops the clock finds a quality that does not call for healing. -/
theorem LinkStops.quality_ne (hstops : LinkStops env.millis n.receiver.mediaSyncState) :
    n.quality env ≠ nowdeSyncCoarse := by
  obtain ⟨hplays, hlost, hsilent, -⟩ := hstops
  have hfound : ¬n.receiver.mediaSyncState.linkLost = true := by simp [hlost]
  -- NONE, or LOCKED on a master
  unfold Node.quality nodeSyncQuality
  rw [if_neg (not_not.2 hplays), if_neg hfound, if_pos hsilent]
  split <;> decide

end Report

/-! ## One event -/

section Event

variable (lib : UpdateLib) (n : Node) {e : Event}

/-- The link-lost check stops the clock in this event. -/
def StopsClock : Event → Prop
  | .task env => LinkStops env.millis n.receiver.mediaSyncState
  | _ => False

instance : ∀ e, Decidable (StopsClock n e)
  | .task env => inferInstanceAs (Decidable (LinkStops env.millis n.receiver.mediaSyncState))
  | .radio .. | .usb .. => isFalse id

/-- A round keeps the followed index and the age's flag, and finds no link again. -/
theorem receiverTick_kept (now : UInt32) (r : Receiver) :
    (receiverTick now r).1.mediaSyncState.currentIndex = r.mediaSyncState.currentIndex ∧
      (receiverTick now r).1.mediaSyncState.coarse = r.mediaSyncState.coarse ∧
      ((receiverTick now r).1.mediaSyncState.linkLost = false → r.mediaSyncState.linkLost = false) := by
  unfold receiverTick checkLinkLost generateMtc
  dsimp only
  split_ifs <;> simp

/-- What an event that is not accepted leaves of the fields a report is read from. -/
structure KeepsReport (ms ms' : MediaSyncState) : Prop where
  index : ms'.currentIndex = ms.currentIndex
  stamp : ms'.lastSyncTime = ms.lastSyncTime
  coarse : ms'.coarse = ms.coarse
  linkLost : ms'.linkLost = false → ms.linkLost = false

theorem KeepsReport.of_eq {ms ms' : MediaSyncState} (h : ms' = ms) : KeepsReport ms ms' := by
  subst h
  exact ⟨rfl, rfl, rfl, id⟩

/-- **An event that is not accepted** changes the state in a round that stops the clock, and keeps the
rest of what the report is read from. -/
theorem handle_keepsReport (hmode : n.receiverModeEnabled = true) (hacc : acceptedPacket n e = none) :
    KeepsReport n.core (n.handle lib e).1.core ∧
      (n.handle lib e).1.core.currentState = if StopsClock n e then 0 else n.core.currentState := by
  cases e with
  | radio env src data =>
    have hcore : (n.handle lib (.radio env src data)).1.core = n.core := (radio_of_not_accepted lib n hacc).1
    exact ⟨.of_eq hcore, by rw [hcore]; exact (if_neg id).symm⟩
  | usb env packet =>
    have hcore : (n.handle lib (.usb env packet)).1.core = n.core := (midiPacket_spec lib env n packet).core
    exact ⟨.of_eq hcore, by rw [hcore]; exact (if_neg id).symm⟩
  | task env =>
    have hreceiver := (espnowTask_spec env n).1
    rw [if_pos hmode] at hreceiver
    obtain ⟨hindex, hcoarse, hlost⟩ := receiverTick_kept env.millis n.receiver
    have hstamp := receiverTick_lastSyncTime env.millis n.receiver
    have hstate := (receiverTick_stops env.millis n.receiver).1
    have hcore : (n.handle lib (.task env)).1.core = (receiverTick env.millis n.receiver).1.mediaSyncState.core :=
      congrArg MediaSyncState.core (congrArg Receiver.mediaSyncState hreceiver)
    rw [hcore]
    exact ⟨⟨hindex, hstamp, hcoarse, hlost⟩, hstate⟩

/-- A round that stops the clock brings no reboot. -/
theorem stopsClock_stays (hstops : StopsClock n e) : reboots (n.handle lib e).2 = false := by
  cases e with
  | task env =>
    rw [Bool.eq_false_iff]
    intro hre
    exact LinkStops.quality_ne hstops ((espnowTask_reboots_iff env n).1 hre).2.1
  | _ => exact hstops.elim

end Event

/-! ## Moments of a run -/

/-- An accepted packet, the true time since boot at which it was, and its age on the mesh clock then. -/
structure Acceptance where
  packet : MediaSyncPacket
  time : ℕ
  age : ℤ

/-- A node, the true time since boot, and the last packet it accepted since. -/
structure ReportState where
  node : Node
  time : ℕ := 0
  accepted : Option Acceptance := none

namespace ReportState

/-- The packet that an event brings now. -/
def accepts (s : ReportState) (e : Event) : Option Acceptance :=
  (acceptedPacket s.node (e.at s.time)).map fun p => ⟨p, s.time, (timeDelta (e.at s.time).env p).toInt⟩

/-- Time passes, or the node handles an event; a reboot starts over. -/
def step (lib : UpdateLib) (build : Build) (s : ReportState) : ClockEvent → ReportState × List Out
  | .pass ms => ({ s with time := s.time + ms }, [])
  | .event e =>
    let r := s.node.step lib build (e.at s.time)
    if reboots r.2 then ({ node := r.1 }, r.2)
    else ({ s with node := r.1, accepted := (s.accepts e).or s.accepted }, r.2)

/-- What the node reports at this moment. -/
def report (env : Env) (s : ReportState) : ReceiverInfo :=
  ReceiverInfo.ofFrame (receiverInfoFrame (env.at s.time) s.node)

end ReportState

/-- **The report is honest** at a moment, whatever the mesh clock is at: it names no clip unless the node
plays, and the last packet's then, and LOCKED means that this packet played, came within the timeout, and
was of a trusted age, and that the mesh clock is synced. -/
structure Honest (s : ReportState) : Prop where
  stopped : ∀ env, s.node.receiver.mediaSyncState.currentState ≠ 1 → (s.report env).mediaIndex = 0
  playing : ∀ env, s.node.receiver.mediaSyncState.currentState = 1 →
    ∃ a ∈ s.accepted, (s.report env).mediaIndex = a.packet.mediaIndex
  locked : s.node.nodeRole ≠ nowdeRoleMaster → ∀ env, (s.report env).syncQuality = nowdeSyncLocked →
    ∃ a ∈ s.accepted, a.packet.state = 1 ∧ s.time ≤ a.time + linkLostTimeoutMs.toNat ∧
      |a.age| ≤ clockDesyncThresholdMs.toInt ∧ env.syncState = .synced

/-- The packet can be reported as it is: it plays, with an age that `abs` can measure, or it has no index. -/
def Acceptance.Reportable (a : Acceptance) : Prop :=
  (a.packet.state = 1 → a.age ≠ -2 ^ 31) ∧ (a.packet.state ≠ 1 → a.packet.mediaIndex = 0)

instance (a : Acceptance) : Decidable a.Reportable := inferInstanceAs (Decidable ((_ → _) ∧ (_ → _)))

/-- At `time` the last packet is as recent as `millis()` shows it, unless the link or the age is known to
be bad. -/
def ReportState.FreshAt (s : ReportState) (time : ℕ) : Prop :=
  s.node.receiver.mediaSyncState.currentState = 1 → s.node.receiver.mediaSyncState.linkLost = false →
    s.node.receiver.mediaSyncState.coarse = false → ∀ a ∈ s.accepted,
      (time - a.time) % 2 ^ 32 ≤ linkLostTimeoutMs.toNat → time ≤ a.time + linkLostTimeoutMs.toNat

instance (s : ReportState) (time : ℕ) : Decidable (s.FreshAt time) :=
  inferInstanceAs (Decidable (_ → _ → _ → ∀ a ∈ s.accepted, _ → _))

/-- A step after which the report is honest: time does not pass to where an old packet looks recent, a
packet accepted can be reported, and no round stops the clock while an index is followed. -/
def LeavesHonest (s : ReportState) : ClockEvent → Prop
  | .pass ms => s.FreshAt (s.time + ms)
  | .event e => (∀ a ∈ s.accepts e, a.Reportable) ∧
      (StopsClock s.node (e.at s.time) → s.node.receiver.mediaSyncState.currentIndex = 0)

instance (s : ReportState) : ∀ e, Decidable (LeavesHonest s e)
  | .pass ms => inferInstanceAs (Decidable (s.FreshAt (s.time + ms)))
  | .event e => inferInstanceAs (Decidable ((∀ a ∈ s.accepts e, _) ∧ (_ → _)))

/-- The node is no master after the step. -/
def StaysSlave (lib : UpdateLib) (build : Build) (s : ReportState) (e : ClockEvent) : Prop :=
  (s.step lib build e).1.node.nodeRole ≠ nowdeRoleMaster

instance (lib : UpdateLib) (build : Build) (s : ReportState) (e : ClockEvent) : Decidable (StaysSlave lib build s e) :=
  inferInstanceAs (Decidable (_ ≠ _))

/-! ## What a step can do -/

/-- What holds of every node: it receives, and the packets it delays are media packets. -/
structure Receiving (n : Node) : Prop where
  receiver : n.receiverModeEnabled = true
  delays : DelaysMedia n.delayedPackets

theorem boot_receiving (build : Build) (nvs : Nvs) (boardId : UInt8) (mac : Mac) :
    Receiving (boot build nvs boardId mac) where
  receiver := (boot_modes build nvs boardId mac).1
  delays i hi := by
    rw [boot_delayedPackets] at hi
    cases hi

theorem Receiving.handle (lib : UpdateLib) {n : Node} (h : Receiving n) (e : Event) : Receiving (n.handle lib e).1 where
  receiver := (handle_modes lib n e).receiver h.receiver
  delays := handle_delaysMedia lib n e h.delays

/-- The followed state right after the packet `a` was accepted. -/
structure Heeds (ms : MediaSyncState) (a : Acceptance) : Prop where
  index : ms.currentIndex = a.packet.mediaIndex
  state : ms.currentState = a.packet.state
  stamp : ms.lastSyncTime = millisAt a.time
  linkLost : ms.linkLost = false
  trusted : ms.coarse = false ↔ |a.age| ≤ clockDesyncThresholdMs.toInt ∨ a.age = -2 ^ 31

/-- **What a step can do.** -/
inductive ReportStep (build : Build) (s : ReportState) : ClockEvent → ReportState → Prop
  | pass (ms : ℕ) : ReportStep build s (.pass ms) { s with time := s.time + ms }
  | reboot {e : Event} (nvs : Nvs) (boardId : UInt8) (mac : Mac) : s.accepts e = none →
      ¬StopsClock s.node (e.at s.time) → ReportStep build s (.event e) { node := boot build nvs boardId mac }
  | accept {e : Event} {n : Node} {a : Acceptance} : s.accepts e = some a → a.time = s.time →
      Receiving n → Heeds n.core a →
      ReportStep build s (.event e) { s with node := n, accepted := some a }
  | other {e : Event} {n : Node} : s.accepts e = none → Receiving n →
      KeepsReport s.node.core n.core →
      n.core.currentState = (if StopsClock s.node (e.at s.time) then 0 else s.node.core.currentState) →
      ReportStep build s (.event e) { s with node := n }

section Inversion

variable (lib : UpdateLib) (build : Build) {s : ReportState} {e : Event} {p : MediaSyncPacket}

theorem accepts_of_some (hacc : acceptedPacket s.node (e.at s.time) = some p) :
    s.accepts e = some ⟨p, s.time, (timeDelta (e.at s.time).env p).toInt⟩ := by
  unfold ReportState.accepts
  rw [hacc]
  rfl

theorem accepts_of_none (hacc : acceptedPacket s.node (e.at s.time) = none) : s.accepts e = none := by
  unfold ReportState.accepts
  rw [hacc]
  rfl

/-- A round that stops the clock accepts nothing. -/
theorem StopsClock.accepts_none {n : Node} (hstops : StopsClock n (e.at s.time)) : s.accepts e = none := by
  cases e with
  | task env => rfl
  | _ => exact hstops.elim

/-- An accepted packet is followed, and brings no reboot. -/
theorem handle_heeds (hacc : acceptedPacket s.node (e.at s.time) = some p) :
    Heeds (s.node.handle lib (e.at s.time)).1.core ⟨p, s.time, (timeDelta (e.at s.time).env p).toInt⟩ ∧
      reboots (s.node.handle lib (e.at s.time)).2 = false := by
  obtain ⟨hasVolume, base, hf⟩ := handle_accepted lib s.node hacc
  obtain ⟨i, t, v, w, u, heq⟩ := followPacket_eq (e.at s.time).env hasVolume p base
  have hstamp : (s.node.handle lib (e.at s.time)).1.core.lastSyncTime = millisAt s.time :=
    hf.lastSyncTime.trans (e.env_at_millis s.time)
  have hcore := congrArg MediaSyncState.core hf.after
  rw [heq] at hcore
  have hindex := congrArg MediaSyncState.currentIndex hcore
  have hlink := congrArg MediaSyncState.linkLost hcore
  have hcoarse := congrArg MediaSyncState.coarse hcore
  refine ⟨⟨hindex, hf.currentState, hstamp, hlink, ?_⟩, hf.reboots⟩
  rw [show (s.node.handle lib (e.at s.time)).1.core.coarse = !clockTrustworthy (e.at s.time).env p from hcoarse,
    Bool.not_eq_false', clockTrustworthy_iff]
  rfl

/-- **Every step is one of these.** -/
theorem step_reportStep (hnode : Receiving s.node) : ∀ e, ReportStep build s e (s.step lib build e).1
  | .pass ms => .pass ms
  | .event e => by
    have hnext := hnode.handle lib (e.at s.time)
    cases hacc : acceptedPacket s.node (e.at s.time) with
    | some p =>
      obtain ⟨hheeds, hre⟩ := handle_heeds lib hacc
      have hstep : ReportStep build s (.event e) _ := .accept (accepts_of_some hacc) rfl hnext hheeds
      simpa only [ReportState.step, step_of_not_reboots build hre, hre, accepts_of_some hacc, Bool.false_eq_true,
        if_false, Option.some_or] using hstep
    | none =>
      obtain ⟨hkeeps, hstate⟩ := handle_keepsReport lib s.node hnode.receiver hacc
      cases hre : reboots (s.node.handle lib (e.at s.time)).2 with
      | true =>
        have hruns : ¬StopsClock s.node (e.at s.time) := by
          intro hstops
          rw [stopsClock_stays lib s.node hstops] at hre
          cases hre
        simp only [ReportState.step, step_of_reboots build hre, hre, if_true]
        exact .reboot _ _ _ (accepts_of_none hacc) hruns
      | false =>
        have hstep : ReportStep build s (.event e) _ := .other (accepts_of_none hacc) hnext hkeeps hstate
        simpa only [ReportState.step, step_of_not_reboots build hre, hre, accepts_of_none hacc, Bool.false_eq_true,
          if_false, Option.none_or] using hstep

end Inversion

/-! ## The invariants -/

/-- The followed state is that of the packet `a`, which plays. -/
structure Plays (ms : MediaSyncState) (now : ℕ) (a : Acceptance) : Prop where
  state : a.packet.state = 1
  index : ms.currentIndex = a.packet.mediaIndex
  stamp : ms.lastSyncTime = millisAt a.time
  past : a.time ≤ now
  trusted : ms.coarse = false → |a.age| ≤ clockDesyncThresholdMs.toInt ∨ a.age = -2 ^ 31

/-- A node that plays follows the last packet it accepted: so it is in every run. -/
structure FollowsLast (s : ReportState) : Prop where
  node : Receiving s.node
  playing : s.node.core.currentState = 1 → ∃ a, s.accepted = some a ∧ Plays s.node.core s.time a

/-- The report hides nothing: a node that does not play follows no index, and one that plays knows how old
its packet was and is. -/
structure Candid (s : ReportState) : Prop where
  shown : s.node.core.currentState ≠ 1 → s.node.core.currentIndex = 0
  measured : s.node.core.currentState = 1 → s.node.core.coarse = false → ∀ a ∈ s.accepted, a.age ≠ -2 ^ 31
  fresh : s.FreshAt s.time

section Invariants

variable {lib : UpdateLib} {build : Build} {s : ReportState}

theorem boot_stopped (nvs : Nvs) (boardId : UInt8) (mac : Mac) :
    (boot build nvs boardId mac).core.currentState ≠ 1 ∧ (boot build nvs boardId mac).core.currentIndex = 0 := by
  rw [boot_core]
  exact ⟨by decide, rfl⟩

theorem boot_followsLast (nvs : Nvs) (boardId : UInt8) (mac : Mac) :
    FollowsLast { node := boot build nvs boardId mac } where
  node := boot_receiving build nvs boardId mac
  playing hplays := absurd hplays (boot_stopped nvs boardId mac).1

theorem boot_candid (nvs : Nvs) (boardId : UInt8) (mac : Mac) : Candid { node := boot build nvs boardId mac } where
  shown _ := (boot_stopped nvs boardId mac).2
  measured hplays := absurd hplays (boot_stopped nvs boardId mac).1
  fresh hplays := absurd hplays (boot_stopped nvs boardId mac).1

theorem KeepsReport.plays {ms ms' : MediaSyncState} {now : ℕ} {a : Acceptance} (hkeeps : KeepsReport ms ms')
    (h : Plays ms now a) : Plays ms' now a where
  state := h.state
  index := hkeeps.index.trans h.index
  stamp := hkeeps.stamp.trans h.stamp
  past := h.past
  trusted hcoarse := h.trusted (hkeeps.coarse.symm.trans hcoarse)

/-- Without a packet a node plays only if it did, and no round has stopped it. -/
theorem plays_of_other {n n' : Node} {e : Event} (hstate : n'.core.currentState =
    if StopsClock n e then 0 else n.core.currentState) (hplays : n'.core.currentState = 1) :
    ¬StopsClock n e ∧ n.core.currentState = 1 := by
  rw [hstate] at hplays
  by_cases hstops : StopsClock n e
  · rw [if_pos hstops] at hplays
    exact absurd hplays (by decide)
  · rw [if_neg hstops] at hplays
    exact ⟨hstops, hplays⟩

/-- **Every step** of a node keeps track. -/
theorem FollowsLast.step (h : FollowsLast s) (e : ClockEvent) : FollowsLast (s.step lib build e).1 := by
  have hstep := step_reportStep lib build h.node e
  generalize (s.step lib build e).1 = s' at hstep
  cases hstep with
  | pass ms =>
    refine ⟨h.node, fun hplays => ?_⟩
    obtain ⟨a, ha, hfollows⟩ := h.playing hplays
    exact ⟨a, ha, { hfollows with past := hfollows.past.trans (Nat.le_add_right _ _) }⟩
  | reboot nvs boardId mac => exact boot_followsLast nvs boardId mac
  | @accept e n a hacc hnow hnode hheeds =>
    refine ⟨hnode, fun hplays => ⟨a, rfl, ?_⟩⟩
    exact ⟨hheeds.state.symm.trans hplays, hheeds.index, hheeds.stamp, hnow.le, hheeds.trusted.1⟩
  | other hnone hnode hkeeps hstate =>
    refine ⟨hnode, fun hplays => ?_⟩
    obtain ⟨a, ha, hfollows⟩ := h.playing (plays_of_other hstate hplays).2
    exact ⟨a, ha, hkeeps.plays hfollows⟩

/-- **A step that leaves the report honest** hides nothing. -/
theorem Candid.step (h : Candid s) (hlast : FollowsLast s) {e : ClockEvent} (hleaves : LeavesHonest s e) :
    Candid (s.step lib build e).1 := by
  have hstep := step_reportStep lib build hlast.node e
  generalize (s.step lib build e).1 = s' at hstep
  cases hstep with
  | pass ms => exact ⟨h.shown, h.measured, hleaves⟩
  | reboot nvs boardId mac => exact boot_candid nvs boardId mac
  | @accept e n a hacc hnow hnode hheeds =>
    have hrep := hleaves.1 a hacc
    refine ⟨fun hstopped => ?_, fun hplays _ b hb => ?_, fun _ _ _ b hb _ => ?_⟩
    · exact hheeds.index.trans (hrep.2 fun h1 => hstopped (hheeds.state.trans h1))
    · cases hb
      exact hrep.1 (hheeds.state.symm.trans hplays)
    · cases hb
      exact hnow.symm.le.trans (Nat.le_add_right _ _)
  | @other e n hnone hnode hkeeps hstate =>
    refine ⟨fun hstopped => hkeeps.index.trans ?_, fun hplays hcoarse => ?_, fun hplays hlink hcoarse => ?_⟩
    · -- it did not play before, or stops now
      by_cases hstops : StopsClock s.node (e.at s.time)
      · exact hleaves.2 hstops
      · exact h.shown fun h1 => hstopped (by rw [hstate, if_neg hstops, h1])
    · exact h.measured (plays_of_other hstate hplays).2 (hkeeps.coarse.symm.trans hcoarse)
    · exact h.fresh (plays_of_other hstate hplays).2 (hkeeps.linkLost hlink) (hkeeps.coarse.symm.trans hcoarse)

end Invariants

/-! ## Honesty -/

section Honesty

variable {lib : UpdateLib} {build : Build} {s : ReportState}

theorem report_mediaIndex (env : Env) : (s.report env).mediaIndex = s.node.core.currentIndex :=
  (receiverInfoFrame_reads (env.at s.time) s.node).1

/-- **A LOCKED slave** plays, and its packet looks recent and was of a trusted age. -/
theorem FollowsLast.locked_iff (h : FollowsLast s) (hrole : s.node.nodeRole ≠ nowdeRoleMaster) (env : Env) :
    (s.report env).syncQuality = nowdeSyncLocked ↔
      s.node.core.currentState = 1 ∧ s.node.core.linkLost = false ∧
        (∀ a ∈ s.accepted, (s.time - a.time) % 2 ^ 32 ≤ linkLostTimeoutMs.toNat) ∧
          s.node.core.coarse = false ∧ env.syncState = .synced := by
  have hreads := (receiverInfoFrame_reads (env.at s.time) s.node).2
  unfold ReportState.report
  rw [hreads, quality_locked_iff hrole]
  refine and_congr_right fun hplays => and_congr_right fun _ => and_congr_left fun _ => ?_
  obtain ⟨a, ha, hfollows⟩ := h.playing hplays
  have hstamp : s.node.receiver.mediaSyncState.lastSyncTime = UInt32.ofNat a.time := hfollows.stamp
  have hage := WrapClock.toNat_ofNat_sub_ofNat_of_le hfollows.past
  show UInt32.ofNat s.time - s.node.receiver.mediaSyncState.lastSyncTime ≤ linkLostTimeoutMs ↔ _
  rw [hstamp, UInt32.le_iff_toNat_le, hage, ha]
  simp

/-- **A report that hides nothing is honest.** -/
theorem Candid.honest (h : Candid s) (hlast : FollowsLast s) : Honest s where
  stopped env hstopped := (report_mediaIndex env).trans (h.shown hstopped)
  playing env hplays := by
    obtain ⟨a, ha, hfollows⟩ := hlast.playing hplays
    exact ⟨a, ha, (report_mediaIndex env).trans hfollows.index⟩
  locked hrole env hlocked := by
    obtain ⟨hplays, hlink, hrecent, hcoarse, hsynced⟩ := (hlast.locked_iff hrole env).1 hlocked
    obtain ⟨a, ha, hfollows⟩ := hlast.playing hplays
    have htrusted := (hfollows.trusted hcoarse).resolve_right (h.measured hplays hcoarse a ha)
    exact ⟨a, ha, hfollows.state, h.fresh hplays hlink hcoarse a ha (hrecent a ha), htrusted, hsynced⟩

/-- A node that does not play follows no index, if its report is honest. -/
theorem Honest.index_eq_zero (h : Honest s) (hstopped : s.node.core.currentState ≠ 1) :
    s.node.core.currentIndex = 0 :=
  (report_mediaIndex { millis := 0 }).symm.trans (h.stopped _ hstopped)

/-- A slave that looks LOCKED is, if its report is honest. -/
theorem Honest.of_locked (h : Honest s) (hlast : FollowsLast s) (hrole : s.node.nodeRole ≠ nowdeRoleMaster)
    (hplays : s.node.core.currentState = 1) (hlink : s.node.core.linkLost = false)
    (hcoarse : s.node.core.coarse = false) {a : Acceptance} (ha : s.accepted = some a)
    (hrecent : (s.time - a.time) % 2 ^ 32 ≤ linkLostTimeoutMs.toNat) :
    s.time ≤ a.time + linkLostTimeoutMs.toNat ∧ |a.age| ≤ clockDesyncThresholdMs.toInt := by
  -- with a synced mesh clock it reports LOCKED
  have hlocked := (hlast.locked_iff hrole { millis := 0, syncState := .synced }).2
    ⟨hplays, hlink, by rw [ha]; simpa using hrecent, hcoarse, rfl⟩
  obtain ⟨b, hb, -, hnow, hage, -⟩ := h.locked hrole _ hlocked
  rw [ha] at hb
  cases hb
  exact ⟨hnow, hage⟩

/-- **A step after which a slave's report is honest** left it so. -/
theorem leavesHonest_of_honest (hlast : FollowsLast s) {e : ClockEvent} (hslave : StaysSlave lib build s e)
    (hhonest : Honest (s.step lib build e).1) : LeavesHonest s e := by
  have hstep := step_reportStep lib build hlast.node e
  have hnext : FollowsLast (s.step lib build e).1 := hlast.step e
  unfold StaysSlave at hslave
  generalize (s.step lib build e).1 = s' at hstep hnext hslave hhonest
  cases hstep with
  | pass ms =>
    intro hplays hlink hcoarse a ha hrecent
    exact (hhonest.of_locked hnext hslave hplays hlink hcoarse ha hrecent).1
  | reboot nvs boardId mac hnone hruns =>
    refine ⟨fun a ha => ?_, fun hstops => absurd hstops hruns⟩
    rw [hnone] at ha
    cases ha
  | @accept e n a hacc hnow hnode hheeds =>
    refine ⟨fun b hb => ?_, fun hstops => absurd (hacc.symm.trans hstops.accepts_none) (by simp)⟩
    cases hacc.symm.trans hb
    refine ⟨fun h1 hmin => ?_, fun hne => ?_⟩
    · -- the least age counts as trusted
      have hage := (hhonest.of_locked hnext hslave (hheeds.state.trans h1) hheeds.linkLost
        (hheeds.trusted.2 (Or.inr hmin)) rfl (by rw [hnow, Nat.sub_self]; exact Nat.zero_le _)).2
      rw [hmin] at hage
      exact absurd hage (by decide)
    · have hstopped : n.core.currentState ≠ 1 := fun h1 => hne (hheeds.state.symm.trans h1)
      exact hheeds.index.symm.trans (hhonest.index_eq_zero hstopped)
  | @other e n hnone hnode hkeeps hstate =>
    refine ⟨fun a ha => ?_, fun hstops => ?_⟩
    · rw [hnone] at ha
      cases ha
    · have hstopped : n.core.currentState ≠ 1 := by
        rw [hstate, if_pos hstops]
        decide
      exact hkeeps.index.symm.trans (hhonest.index_eq_zero hstopped)

/-- **What a round sends** its masters is the report of that moment. -/
theorem FollowsLast.sent (h : FollowsLast s) (env : Env) {mac : Mac} {frame : List UInt8}
    (hsent : .espNowSend mac frame ∈ (espnowTask (env.at s.time) s.node).2)
    (htype : byteAt frame 0 = espnowMsgReceiverInfo) : ReceiverInfo.ofFrame frame = s.report env := by
  have hreport : Out.isReport (.espNowSend mac frame) = true := by simpa [Out.isReport] using htype
  obtain ⟨i, -, heq⟩ := mem_sendReceiverInfo _ _ (espnowTask_report _ _ h.node.delays _ hsent hreport)
  cases heq
  rfl

end Honesty

/-! ## All runs -/

section Runs

variable (lib : UpdateLib) (build : Build) (nvs : Nvs) (boardId : UInt8) (mac : Mac) (es : List ClockEvent)

variable {lib build es} in
theorem run_candid {nvs : Nvs} {boardId : UInt8} {mac : Mac} {s : ReportState}
    (hguard : Mealy.Guarded (ReportState.step lib build) LeavesHonest { node := boot build nvs boardId mac } es)
    (hrun : (Mealy.run (ReportState.step lib build) { node := boot build nvs boardId mac } es).1 = s) :
    FollowsLast s ∧ Candid s := by
  have hboot : FollowsLast { node := boot build nvs boardId mac } ∧ Candid { node := boot build nvs boardId mac } :=
    ⟨boot_followsLast nvs boardId mac, boot_candid nvs boardId mac⟩
  rw [← hrun]
  exact Mealy.inv_run (fun s => FollowsLast s ∧ Candid s) (fun s e h hleaves => ⟨h.1.step e, h.2.step h.1 hleaves⟩)
    hboot hguard

/-- **A slave reports honestly** at every moment of a run in which every step leaves the report honest, and,
if it is no master at any time, in no other. -/
theorem honest_iff :
    (Mealy.Guarded (ReportState.step lib build) LeavesHonest { node := boot build nvs boardId mac } es →
      ∀ pre post, es = pre ++ post →
        Honest (Mealy.run (ReportState.step lib build) { node := boot build nvs boardId mac } pre).1) ∧
    (Mealy.Guarded (ReportState.step lib build) (StaysSlave lib build) { node := boot build nvs boardId mac } es →
      (∀ pre post, es = pre ++ post →
        Honest (Mealy.run (ReportState.step lib build) { node := boot build nvs boardId mac } pre).1) →
      Mealy.Guarded (ReportState.step lib build) LeavesHonest { node := boot build nvs boardId mac } es) := by
  refine ⟨fun hguard pre post heq => ?_, fun hslave => ?_⟩
  · rw [heq, Mealy.guarded_append] at hguard
    obtain ⟨hlast, hcandid⟩ := run_candid hguard.1 rfl
    exact hcandid.honest hlast
  · refine (Mealy.always_iff_guarded (fun s => FollowsLast s ∧ Candid s) Honest (fun s h => h.2.honest h.1) ?_ ?_
      ⟨boot_followsLast nvs boardId mac, boot_candid nvs boardId mac⟩ hslave).1
    · exact fun s e h _ hleaves => ⟨h.1.step e, h.2.step h.1 hleaves⟩
    · exact fun s e h hslave hmiss hhonest => hmiss (leavesHonest_of_honest h.1 hslave hhonest)

variable {lib build nvs boardId mac es} in
/-- **What goes on the air is honest**: after such a run, a report that a round sends its masters is the one
of that moment. -/
theorem sent_honest {s : ReportState}
    (hguard : Mealy.Guarded (ReportState.step lib build) LeavesHonest { node := boot build nvs boardId mac } es)
    (hrun : (Mealy.run (ReportState.step lib build) { node := boot build nvs boardId mac } es).1 = s) (env : Env)
    {dest : Mac} {frame : List UInt8} (hsent : .espNowSend dest frame ∈ (espnowTask (env.at s.time) s.node).2)
    (htype : byteAt frame 0 = espnowMsgReceiverInfo) : ReceiverInfo.ofFrame frame = s.report env ∧ Honest s := by
  obtain ⟨hlast, hcandid⟩ := run_candid hguard hrun
  exact ⟨hlast.sent env hsent htype, hcandid.honest hlast⟩

end Runs

/-! ## A stopped clip -/

/-- Accepted packets have an index of 7 bits and are stopped or playing. -/
def OrdinaryPackets (s : ReportState) : ClockEvent → Prop
  | .pass _ => True
  | .event e => ∀ a ∈ s.accepts e, a.packet.mediaIndex ≤ 127 ∧ (a.packet.state = 0 ∨ a.packet.state = 1)

instance (s : ReportState) : ∀ e, Decidable (OrdinaryPackets s e)
  | .pass _ => isTrue trivial
  | .event e => inferInstanceAs (Decidable (∀ a ∈ s.accepts e, _))

/-- A master starts clip 5 and falls silent; the task loop goes round twelve seconds later. -/
def silentMaster : List ClockEvent :=
  [.event (.radio { millis := 0 } masterA (clip 5 1 1).toFrame), .pass 12000, .event (.task { millis := 0 })]

/-- A slave that freewheels plays on, and says that it is not locked. -/
theorem freewheeling_honest :
    Mealy.Guarded (ReportState.step noUpdate freewheelBuild) LeavesHonest
        { node := boot freewheelBuild {} nowdeBoardidAtoms3Lite slaveMac } silentMaster ∧
      Honest (Mealy.run (ReportState.step noUpdate freewheelBuild)
        { node := boot freewheelBuild {} nowdeBoardidAtoms3Lite slaveMac } silentMaster).1 := by
  have hboth := honest_iff noUpdate freewheelBuild {} nowdeBoardidAtoms3Lite slaveMac silentMaster
  have hhonest := hboth.1 (by decide +kernel)
  exact ⟨hboth.2 (by decide +kernel) hhonest, hhonest silentMaster [] (List.append_nil _).symm⟩

/-- **A slave that stops on link loss still reports the clip.** -/
theorem stoppedClip_reported :
    ¬∀ (lib : UpdateLib) (build : Build) (nvs : Nvs) (boardId : UInt8) (mac : Mac) (es : List ClockEvent),
      Mealy.Guarded (ReportState.step lib build) OrdinaryPackets { node := boot build nvs boardId mac } es →
        Mealy.Guarded (ReportState.step lib build) (StaysSlave lib build) { node := boot build nvs boardId mac } es →
          ∀ pre post, es = pre ++ post →
            Honest (Mealy.run (ReportState.step lib build) { node := boot build nvs boardId mac } pre).1 := by
  intro hall
  have hhonest := hall noUpdate wildcardBuild {} nowdeBoardidAtoms3Lite slaveMac silentMaster (by decide +kernel)
    (by decide +kernel) silentMaster [] (List.append_nil _).symm
  have hindex := hhonest.stopped { millis := 0 } (by decide +kernel)
  revert hindex
  decide +kernel

end Nowde
