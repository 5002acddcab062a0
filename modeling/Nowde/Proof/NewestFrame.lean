import Nowde.Proof.ReceivePath
import Nowde.Spec.Task

/-!
# Which frame a slave follows

A slave locked to one master hears copies of its frames, direct or relayed, with losses and
duplicates, between iterations of its own task.

* `hear_copy`: each handled copy makes index, state and position anchor its own, whatever the
  slave followed before.
* `newestFrameWins_of_inOrder`: so the newest frame wins as long as no copy comes after a copy
  of a newer frame.
* `lateCopies_restart`: and a late relayed copy of a playing frame restarts a stopped slave.
-/

namespace Nowde

/-- A copy of frame number `frame` of the master's stream, handled at the instant `env`. -/
structure Copy where
  env : Env
  frame : ℕ
  via : Option (Mac × UInt8)

/-- What happens to a slave: a copy reaches `onDataRecv`, or its task loop goes round. -/
inductive SlaveEvent
  | copy (c : Copy)
  | task (env : Env)

/-- The copies among some events. -/
def SlaveEvent.copy? : SlaveEvent → Option Copy
  | .copy c => some c
  | .task _ => none

section Hear

variable (lib : UpdateLib) (master : Mac) (mint : ℕ → MediaSyncPacket)

/-- One event on the slave. -/
def hear (n : Node) : SlaveEvent → Node × List Out
  | .copy c => onDataRecv lib c.env n (wire master (mint c.frame) c.via).1 (wire master (mint c.frame) c.via).2
  | .task env => espnowTask env n

/-- The slave holds its lock on `master`, whose frames have consecutive `seq` and all carry a
layer the slave follows. -/
structure FollowsMaster (n : Node) : Prop where
  follows : n.follows
  valid : n.receiver.originLock.valid = true
  mac : n.receiver.originLock.mac = master
  layer : ∀ k, layerMatches n.receiver.subscribedLayer.bytes (mint k).layer.bytes = true
  seq : ∀ k, (mint (k + 1)).seq = (mint k).seq + 1

/-- Index, state and position anchor are those of packet `p` as handled at the instant `env`. -/
structure Shows (p : MediaSyncPacket) (env : Env) (ms : MediaSyncState) : Prop where
  index : ms.currentIndex = p.mediaIndex
  state : ms.currentState = p.state
  position : ms.currentPositionMs = compensatedPositionMs env p
  anchor : p.state = 1 → ms.localClockStartTime = env.millis

/-- **Newest frame wins**: after each handled copy the slave shows a copy of the newest frame
it has handled so far. -/
def NewestFrameWins (n : Node) (es : List SlaveEvent) : Prop :=
  ∀ pre c post, es = pre ++ .copy c :: post →
    ∃ d, .copy d ∈ pre ++ [.copy c] ∧ (∀ x, .copy x ∈ pre ++ [.copy c] → x.frame ≤ d.frame) ∧
      Shows (mint d.frame) d.env
        (Mealy.run (hear lib master mint) n (pre ++ [.copy c])).1.receiver.mediaSyncState

variable {lib master mint}

/-- **A handled copy of the master's frame is shown**, old or new. -/
theorem hear_copy {n : Node} (h : FollowsMaster master mint n) (c : Copy) :
    Shows (mint c.frame) c.env (hear lib master mint n (.copy c)).1.receiver.mediaSyncState := by
  have hof := (mint c.frame).ofFrame_self
  have hacc : Accepts c.env n.receiver master (mint c.frame).toFrame := by
    refine ⟨?_, ?_, Or.inr (Or.inl h.mac)⟩
    · rw [MediaSyncPacket.length_toFrame]; decide
    · rw [hof]; exact h.layer c.frame
  unfold hear
  rw [onDataRecv_wire_receiver _ _ _ _ _ _ h.follows, processMediaSyncPacket_of_accepts hacc, hof]
  obtain ⟨i, t, v, w, u, hf⟩ := followPacket_eq c.env
    ((mint c.frame).toFrame.length ≥ mediaSyncVolumeLen) (mint c.frame)
    (countGap (mint c.frame).toFrame.length (mint c.frame)
      (originAccepts c.env.millis n.receiver master).1.mediaSyncState)
  simp only [hf]
  exact ⟨rfl, rfl, rfl, fun hp => by simp [updateSyncState, hp]⟩

theorem hear_copy_followsMaster {n : Node} (h : FollowsMaster master mint n) (c : Copy) :
    FollowsMaster master mint (hear lib master mint n (.copy c)).1 := by
  have hfol := onDataRecv_wire_follows lib c.env n master (mint c.frame) c.via h.follows
  have hrec := onDataRecv_wire_receiver lib c.env n master (mint c.frame) c.via h.follows
  by_cases hacc : Accepts c.env n.receiver master (mint c.frame).toFrame
  · rw [processMediaSyncPacket_of_accepts hacc, originAccepts_self h.valid h.mac] at hrec
    refine ⟨hfol, ?_, ?_, ?_, h.seq⟩
    · simp only [hear, hrec, h.valid]
    · simp only [hear, hrec, h.mac]
    · simpa only [hear, hrec] using h.layer
  · rw [processMediaSyncPacket_of_not_accepts hacc] at hrec
    refine ⟨hfol, ?_, ?_, ?_, h.seq⟩
    · simp only [hear, hrec, h.valid]
    · simp only [hear, hrec, h.mac]
    · simpa only [hear, hrec] using h.layer

end Hear

/-! ## The task loop leaves the lock alone -/

section Task

variable (env : Env) (n : Node)

/-- What decides which packets are followed: the modes, the layer and the lock. -/
def Node.gate (n : Node) : Bool × Bool × CharBuf 16 × OriginLock :=
  (n.receiverModeEnabled, n.senderModeEnabled, n.receiver.subscribedLayer, n.receiver.originLock)

theorem espnowTask_gate : (espnowTask env n).1.gate = n.gate := by
  show (espnowTask env n).1.still.gate = n.still.gate
  rw [espnowTask_still]

end Task

section Newest

variable {lib : UpdateLib} {master : Mac} {mint : ℕ → MediaSyncPacket}

theorem FollowsMaster.of_gate {n m : Node} (h : FollowsMaster master mint n) (hg : m.gate = n.gate) :
    FollowsMaster master mint m := by
  obtain ⟨⟨hr, hs⟩, hv, hm, hl, hq⟩ := h
  simp only [Node.gate, Prod.mk.injEq] at hg
  obtain ⟨h1, h2, h3, h4⟩ := hg
  exact ⟨⟨by rw [h1, hr], by rw [h2, hs]⟩, by rw [h4, hv], by rw [h4, hm], by rw [h3]; exact hl, hq⟩

theorem hear_followsMaster {n : Node} (h : FollowsMaster master mint n) (e : SlaveEvent) :
    FollowsMaster master mint (hear lib master mint n e).1 := by
  cases e with
  | copy c => exact hear_copy_followsMaster h c
  | task env => exact h.of_gate (espnowTask_gate env n)

/-- **Newest frame wins in order.** If no copy is handled after a copy of a newer frame, then
after each handled copy the slave shows the newest frame handled so far. -/
theorem newestFrameWins_of_inOrder {n : Node} (h : FollowsMaster master mint n) {es : List SlaveEvent}
    (hord : (es.filterMap SlaveEvent.copy?).Pairwise fun a b => a.frame ≤ b.frame) :
    NewestFrameWins lib master mint n es := by
  intro pre c post heq
  refine ⟨c, by simp, ?_, ?_⟩
  · intro x hx
    rcases List.mem_append.1 hx with hpre | hlast
    · rw [heq, List.filterMap_append, List.pairwise_append] at hord
      have hxm : x ∈ pre.filterMap SlaveEvent.copy? := List.mem_filterMap.2 ⟨_, hpre, rfl⟩
      exact hord.2.2 x hxm c (by simp [SlaveEvent.copy?])
    · have : x = c := by simpa using hlast
      rw [this]
  · have hpre : FollowsMaster master mint (Mealy.run (hear lib master mint) n pre).1 :=
      Mealy.inv_run (G := fun _ _ => True) (FollowsMaster master mint)
        (fun s e hs _ => hear_followsMaster hs e) h
        (Mealy.guarded_of_forall (fun _ _ => trivial) _ _)
    rw [Mealy.run_append]
    exact hear_copy hpre c

end Newest

/-! ## A late copy -/

/-- The master plays index 5 in frame 0 and stops from frame 1 on. -/
def playThenStop (k : ℕ) : MediaSyncPacket :=
  if k = 0 then clip 5 1 0 else clip 0 0 (UInt16.ofNat k)

theorem lockedSlave_follows : FollowsMaster masterA playThenStop lockedSlave where
  follows := ⟨rfl, rfl⟩
  valid := rfl
  mac := rfl
  layer := fun k => by cases k <;> rfl
  seq := fun k => by cases k <;> simp [playThenStop, clip]

/-- Frames 0 and 1 arrive from the master. -/
def inOrderCopies : List SlaveEvent :=
  [.copy ⟨{ millis := 1000 }, 0, none⟩, .copy ⟨{ millis := 1100 }, 1, none⟩]

/-- Then a relayed copy of frame 0 arrives. -/
def lateCopies : List SlaveEvent :=
  inOrderCopies ++ [.copy ⟨{ millis := 1110 }, 0, some (relayerMac, 1)⟩]

theorem inOrderCopies_newest : NewestFrameWins noUpdate masterA playThenStop lockedSlave inOrderCopies :=
  newestFrameWins_of_inOrder lockedSlave_follows (by simp [inOrderCopies, SlaveEvent.copy?])

/-- **A late relayed copy wins.** After play and stop arrived in order, a relayed copy of the
playing frame puts the slave back to playing and sends Start again. -/
theorem lateCopies_restart :
    (.host .start : Out) ∈ (hear noUpdate masterA playThenStop
        (Mealy.run (hear noUpdate masterA playThenStop) lockedSlave inOrderCopies).1
        (.copy ⟨{ millis := 1110 }, 0, some (relayerMac, 1)⟩)).2 ∧
      ¬∀ (lib : UpdateLib) (master : Mac) (mint : ℕ → MediaSyncPacket) (n : Node) (es : List SlaveEvent),
        FollowsMaster master mint n → (∀ c, .copy c ∈ es → c.frame < 2 ^ 15) →
          NewestFrameWins lib master mint n es := by
  refine ⟨by decide +kernel, fun hall => ?_⟩
  have hbound : ∀ c, .copy c ∈ lateCopies → c.frame < 2 ^ 15 := by
    simp [lateCopies, inOrderCopies]
  obtain ⟨d, hd, hmax, hshow⟩ := hall noUpdate masterA playThenStop lockedSlave lateCopies
    lockedSlave_follows hbound inOrderCopies _ [] rfl
  -- the newest frame heard is frame 1, which is stopped
  have hnew : 1 ≤ d.frame := hmax ⟨{ millis := 1100 }, 1, none⟩ (by simp [inOrderCopies])
  have hstopped : (playThenStop d.frame).state = 0 := by
    simp [playThenStop, clip, Nat.one_le_iff_ne_zero.1 hnew]
  have hplaying : (Mealy.run (hear noUpdate masterA playThenStop) lockedSlave lateCopies).1.receiver.mediaSyncState.currentState
      = 1 := by decide +kernel
  have : (1 : UInt8) = 0 := hplaying.symm.trans (hshow.state.trans hstopped)
  exact absurd this (by decide)

end Nowde
