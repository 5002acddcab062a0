import Nowde.Proof.Beacons
import Nowde.Proof.HonestReport
import Nowde.Spec.ClockedNode

/-!
# What a LOCKED report says of the mesh clock

A node with its clock runs at a true time, with frames, commands and rounds in any order. A `ClockedRun` also
notes when a clock packet was last heard since the clock was last reset, by a round or by a reboot.

* `Records.getSyncState_iff`: the clock reads `SYNCED` exactly when that was at most five seconds ago, modulo `2 ^ 32` ms.
* `locked_heard`: the reports that a slave sends say LOCKED exactly when it plays, fresh and of a trusted age, and
  has heard such a packet.
-/

namespace Nowde

/-- A node with its clock, the true time in milliseconds and the timer's count since boot. The last field is not
the node's: when a clock packet was last heard since the clock was reset. -/
structure ClockedRun where
  node : ClockedNode
  time : ℕ := 0
  micros : ℕ := 0
  heard : Option ℕ := none

/-- What can happen: time passes, or the node handles an event. -/
inductive ClockedRunEvent
  | pass (ms ticks : ℕ)
  | event (e : ClockedEvent)

namespace ClockedRun

/-- What the timers show. -/
def timers (s : ClockedRun) : Timers := ⟨UInt32.ofNat s.time, UInt64.ofNat s.micros⟩

/-- The record after an event in which the node sent `out`. -/
def heardAfter (s : ClockedRun) (out : List Out) : ClockedEvent → Option ℕ
  | .radio _ _ data => if isMeshClockPacket data then some s.time else s.heard
  | .usb .. => s.heard
  | .task .. => if Out.meshClockReset ∈ out then none else s.heard

/-- One event; a reboot starts over. -/
def step (lib : UpdateLib) (build : Build) (s : ClockedRun) : ClockedRunEvent → ClockedRun × List Out
  | .pass ms ticks => ({ s with time := s.time + ms, micros := s.micros + ticks }, [])
  | .event e =>
    let r := s.node.step lib build s.timers e
    if reboots r.2.1 then ({ node := r.1 }, r.2.1)
    else ({ s with node := r.1, heard := s.heardAfter r.2.1 e }, r.2.1)

/-- The clock notes what was heard. -/
structure Records (s : ClockedRun) : Prop where
  node : Receiving s.node.node
  synced : s.node.clock.synced = s.heard.isSome
  heard : ∀ t ∈ s.heard, s.node.clock.lastSync = UInt32.ofNat t ∧ t ≤ s.time

variable {lib : UpdateLib} {build : Build} {s : ClockedRun}

theorem boot_records (build : Build) (nvs : Nvs) (boardId : UInt8) (mac : Mac) :
    Records { node := { node := boot build nvs boardId mac } } where
  node := boot_receiving build nvs boardId mac
  synced := rfl
  heard t ht := by cases ht

/-- What the clock's part of an event does to the record. -/
theorem Records.clockAfter (h : s.Records) (out : List Out) (e : ClockedEvent) :
    (s.node.clockAfter s.timers out e).1.synced = (s.heardAfter out e).isSome ∧
      ∀ t ∈ s.heardAfter out e, (s.node.clockAfter s.timers out e).1.lastSync = UInt32.ofNat t ∧ t ≤ s.time := by
  cases e with
  | radio env src data =>
    unfold ClockedNode.clockAfter heardAfter
    dsimp only
    by_cases hpacket : isMeshClockPacket data = true
    · have hlength : ¬data.length < 1 := by
        unfold isMeshClockPacket at hpacket
        simp only [decide_eq_true_eq] at hpacket
        omega
      rw [if_neg hlength, if_pos hpacket, MeshClock.handleReceive_of_packet hpacket]
      refine ⟨MeshClock.adjust_synced, ?_⟩
      rintro t ⟨⟩
      exact ⟨MeshClock.adjust_lastSync, le_rfl⟩
    · have hkept : (if data.length < 1 then s.node.clock
          else (s.node.clock.handleReceive s.timers.micros s.timers.millis data).1) = s.node.clock := by
        unfold MeshClock.handleReceive
        rw [if_neg hpacket, ite_self]
      rw [if_neg hpacket, hkept]
      exact ⟨h.synced, h.heard⟩
  | usb env packet => exact ⟨h.synced, h.heard⟩
  | task env draw =>
    unfold ClockedNode.clockAfter heardAfter
    dsimp only
    split_ifs with hreset
    · have hspec := MeshClock.loop_spec s.node.clock.reset s.timers.millis draw
        fun _ => s.node.clock.reset.meshMicros s.timers.micros
      exact ⟨hspec.2.1, fun t ht => by cases ht⟩
    · have hspec := MeshClock.loop_spec s.node.clock s.timers.millis draw
        fun _ => s.node.clock.meshMicros s.timers.micros
      exact ⟨hspec.2.1.trans h.synced, fun t ht => ⟨hspec.2.2.1.trans (h.heard t ht).1, (h.heard t ht).2⟩⟩

/-- **One step** keeps the record. -/
theorem Records.step (h : s.Records) (e : ClockedRunEvent) : (s.step lib build e).1.Records := by
  cases e with
  | pass ms ticks =>
    exact ⟨h.node, h.synced, fun t ht => ⟨(h.heard t ht).1, (h.heard t ht).2.trans (Nat.le_add_right _ _)⟩⟩
  | event e =>
    unfold ClockedRun.step ClockedNode.step
    dsimp only
    by_cases hre : reboots (s.node.node.handle lib (s.node.event s.timers e)).2 = true
    · rw [step_of_reboots build hre]
      simp only [hre, if_true]
      exact boot_records build _ _ _
    · have hstays := Bool.eq_false_of_not_eq_true hre
      rw [step_of_not_reboots build hstays]
      simp only [hstays, Bool.false_eq_true, if_false]
      obtain ⟨hsynced, hheard⟩ := h.clockAfter (s.node.node.handle lib (s.node.event s.timers e)).2 e
      exact ⟨h.node.handle lib _, hsynced, hheard⟩

/-- **The sync state** says when a clock packet was last heard. -/
theorem Records.getSyncState_iff (h : s.Records) :
    s.node.clock.getSyncState s.timers.millis = .synced ↔
      ∃ t ∈ s.heard, (s.time - t) % 2 ^ 32 ≤ meshClockSyncTimeoutMs.toNat := by
  unfold MeshClock.getSyncState
  rw [h.synced]
  cases hheard : s.heard with
  | none => simp
  | some t =>
    obtain ⟨hlast, hle⟩ := h.heard t hheard
    have hage : (s.timers.millis - s.node.clock.lastSync).toNat = (s.time - t) % 2 ^ 32 := by
      rw [hlast]
      exact WrapClock.toNat_ofNat_sub_ofNat_of_le hle
    have hold : s.timers.millis - s.node.clock.lastSync > meshClockSyncTimeoutMs ↔
        ¬(s.time - t) % 2 ^ 32 ≤ meshClockSyncTimeoutMs.toNat := by
      rw [gt_iff_lt, UInt32.lt_iff_toNat_lt, hage, Nat.not_le]
    rw [if_neg (by simp)]
    simp only [hold, Option.mem_some_iff, exists_eq_left']
    split_ifs with hrecent
    · exact iff_of_true rfl hrecent
    · exact iff_of_false (by decide) hrecent

/-- **A LOCKED report** means that the slave plays a packet that looks recent and was of a trusted age, and that it
heard a clock packet in the last five seconds, since it last reset its clock or booted. After any run, that is what
each report says that a round sends its masters. -/
theorem locked_heard {nvs : Nvs} {boardId : UInt8} {mac : Mac} {es : List ClockedRunEvent}
    (hrun : (Mealy.run (step lib build) { node := { node := boot build nvs boardId mac } } es).1 = s)
    (hrole : s.node.node.nodeRole ≠ nowdeRoleMaster) (env : Env) (draw : ℕ) {dest : Mac} {frame : List UInt8}
    (hsent : .espNowSend dest frame ∈ (s.step lib build (.event (.task env draw))).2)
    (htype : byteAt frame 0 = espnowMsgReceiverInfo) :
    (ReceiverInfo.ofFrame frame).syncQuality = nowdeSyncLocked ↔
      s.node.node.core.currentState = 1 ∧ s.node.node.core.linkLost = false ∧
        UInt32.ofNat s.time - s.node.node.core.lastSyncTime ≤ linkLostTimeoutMs ∧
        s.node.node.core.coarse = false ∧
        ∃ t ∈ s.heard, (s.time - t) % 2 ^ 32 ≤ meshClockSyncTimeoutMs.toNat := by
  have hrecords : s.Records := by
    rw [← hrun]
    exact Mealy.inv_run Records (G := fun _ _ => True) (fun s e h _ => h.step e) (boot_records build nvs boardId mac)
      (Mealy.guarded_of_forall (fun _ _ => trivial) _ es)
  -- the frame is the report of this moment
  have hout : (s.step lib build (.event (.task env draw))).2 = (espnowTask (s.node.env s.timers env) s.node.node).2 := by
    have houtputs : (s.node.node.step lib build (s.node.event s.timers (.task env draw))).2 = _ :=
      step_outputs build lib s.node.node (s.node.event s.timers (.task env draw))
    unfold ClockedRun.step ClockedNode.step
    dsimp only
    split_ifs <;> exact houtputs
  rw [hout] at hsent
  have hreport : Out.isReport (.espNowSend dest frame) = true := by simpa [Out.isReport] using htype
  obtain ⟨i, -, heq⟩ := mem_sendReceiverInfo _ _ (espnowTask_report _ _ hrecords.node.delays _ hsent hreport)
  cases heq
  rw [(receiverInfoFrame_reads _ _).2, quality_locked_iff hrole, ← hrecords.getSyncState_iff]
  rfl

/-- A slave hears its master's beacon, a clip and a clock packet, and a second later the task goes round. -/
def lockedRun : ClockedRun :=
  (Mealy.run (step noUpdate wildcardBuild)
    { node := { node := boot wildcardBuild {} nowdeBoardidAtoms3Lite slaveMac } }
    [.event (.radio { millis := 0 } masterA [espnowMsgSenderBeacon]),
      .event (.radio { millis := 0 } masterA (clip 5 1 1).toFrame),
      .event (.radio { millis := 0 } masterA (meshClockPacket 1000)), .pass 1000 1000000]).1

theorem locked_heard_lockedRun :
    let s := lockedRun
    (ReceiverInfo.ofFrame (receiverInfoFrame (s.node.env s.timers { millis := 0 }) s.node.node)).syncQuality =
        nowdeSyncLocked ↔
      s.node.node.core.currentState = 1 ∧ s.node.node.core.linkLost = false ∧
        UInt32.ofNat s.time - s.node.node.core.lastSyncTime ≤ linkLostTimeoutMs ∧
        s.node.node.core.coarse = false ∧
        ∃ t ∈ s.heard, (s.time - t) % 2 ^ 32 ≤ meshClockSyncTimeoutMs.toNat :=
  have hsent : .espNowSend masterA (receiverInfoFrame (lockedRun.node.env lockedRun.timers { millis := 0 })
      lockedRun.node.node) ∈ (lockedRun.step noUpdate wildcardBuild (.event (.task { millis := 0 } 0))).2 := by
    decide +kernel
  locked_heard rfl (by decide +kernel) { millis := 0 } 0 hsent (by decide +kernel)

end ClockedRun

end Nowde
