import Nowde.Proof.HostIndex
import Nowde.Proof.Outputs

/-!
# What the node plays to its host

The MIDI a node makes of what it follows: CC, time code, full frames, Start and Stop. It leaves the
node from two places, the receive path and the receiver part of the task loop; what the commands
and the tables send is answers and radio frames.

* `espnowTask_host`: a round of the task loop sends the host what `receiverTick` does, no more.
* `handle_notPlayed`: without an accepted packet, and with nothing to play in a round, nothing is played.
* `handle_unaccepted`: only an accepted packet starts the clock.
-/

namespace Nowde

/-- The messages that follow the master, as against answers to the host. -/
def HostMsg.isPlayback : HostMsg → Bool
  | .cc .. | .timeCode _ | .fullFrame _ | .start | .stop => true
  | .hello _ | .sysExBytes _ | .runningState _ | .errorReport _ => false

/-- A playback message among the outputs. -/
def Out.isPlayback : Out → Bool
  | .host m => m.isPlayback
  | _ => false

/-- Outputs that play nothing. -/
def NotPlayed (out : List Out) : Prop := ∀ o ∈ out, o.isPlayback = false

section NotPlayed

variable {out out' : List Out} {o : Out}

@[simp] theorem notPlayed_nil : NotPlayed [] := fun _ h => absurd h (by simp)

@[simp] theorem notPlayed_cons : NotPlayed (o :: out) ↔ o.isPlayback = false ∧ NotPlayed out := by
  simp [NotPlayed]

@[simp] theorem notPlayed_append : NotPlayed (out ++ out') ↔ NotPlayed out ∧ NotPlayed out' := by
  simp only [NotPlayed, List.mem_append, or_imp, forall_and]

end NotPlayed

/-! ## The task loop -/

section Task

variable (env : Env) (n : Node)

/-- The messages to the host among some outputs. -/
def hostMsgs (out : List Out) : List HostMsg := out.filterMap Out.host?

@[simp] theorem hostMsgs_append (out out' : List Out) : hostMsgs (out ++ out') = hostMsgs out ++ hostMsgs out' :=
  List.filterMap_append

@[simp] theorem hostMsgs_map (msgs : List HostMsg) : hostMsgs (msgs.map .host) = msgs := by
  unfold hostMsgs
  rw [List.filterMap_map]
  exact List.filterMap_some

theorem hostMsgs_collect {k : ℕ} {α : Type*} {t : Fin k → α} {f : α → Option Out}
    (h : ∀ a o, f a = some o → o.host? = none) : hostMsgs (Slots.collect t f) = [] := by
  refine List.filterMap_eq_nil_iff.2 fun o ho => ?_
  obtain ⟨i, hi⟩ := Slots.mem_collect.1 ho
  exact h _ _ hi

theorem senderTick_host : hostMsgs (senderTick env n).2 = [] := by
  have hbeacon : hostMsgs (senderBeacon env.millis n).2 = [] := by
    unfold senderBeacon
    split <;> rfl
  have hclean : ∀ t, hostMsgs (cleanupReceiverTable env.millis t).2 = [] := by
    intro t
    unfold cleanupReceiverTable
    dsimp only
    refine hostMsgs_collect fun a o h => ?_
    split at h <;> cases h
    rfl
  have hdelayed : ∀ m, hostMsgs (delayedTick env.millis m).2 = [] := by
    intro m
    unfold delayedTick sendDelayedPackets
    split
    · dsimp only
      refine hostMsgs_collect fun a o h => ?_
      split at h <;> cases h
      rfl
    · rfl
  unfold senderTick
  simp only [hostMsgs_append, hbeacon, hclean, hdelayed, List.append_nil]

theorem sendReceiverInfo_host : hostMsgs (sendReceiverInfo env n) = [] := by
  unfold sendReceiverInfo
  split
  · rfl
  · refine hostMsgs_collect fun a o h => ?_
    split at h <;> cases h
    rfl

theorem meshResyncTick_host : hostMsgs (meshResyncTick env n).2 = [] := by
  unfold meshResyncTick
  dsimp only
  split_ifs <;> rfl

theorem receiverModeTick_host : hostMsgs (receiverModeTick env n).2 = (receiverTick env.millis n.receiver).2 := by
  have hbeacon : hostMsgs (receiverBeacon env.millis env n).2 = [] := by
    unfold receiverBeacon
    split
    · exact sendReceiverInfo_host env n
    · rfl
  have hclean : ∀ t, hostMsgs (cleanupSenderTable env.millis t).2 = [] := by
    intro t
    unfold cleanupSenderTable
    dsimp only
    refine hostMsgs_collect fun a o h => ?_
    split at h <;> cases h
    rfl
  unfold receiverModeTick
  simp only [hostMsgs_append, hbeacon, hclean, hostMsgs_map, meshResyncTick_host, List.nil_append, List.append_nil,
    (receiverBeacon_spec env n).1]

theorem relayTick_host : hostMsgs (relayTick env n).2 = [] := by
  refine List.filterMap_eq_nil_iff.2 fun o ho => ?_
  obtain ⟨frame, -, rfl⟩ := List.mem_map.1 ho
  rfl

/-- **A round of the task loop** sends the host what its receiver part does. -/
theorem espnowTask_host : hostMsgs (espnowTask env n).2 =
    if n.receiverModeEnabled then (receiverTick env.millis n.receiver).2 else [] := by
  obtain ⟨s, r, hs, hr, htask⟩ := espnowTask_parts env n
  have hsender : s.1.receiver = n.receiver ∧ s.1.receiverModeEnabled = n.receiverModeEnabled ∧ hostMsgs s.2 = [] := by
    rcases hs with ⟨-, rfl⟩ | ⟨-, rfl⟩
    · exact ⟨(senderTick_spec env n).1, (senderTick_spec env n).2.1, senderTick_host env n⟩
    · exact ⟨rfl, rfl, rfl⟩
  obtain ⟨hsr, hsm, hsh⟩ := hsender
  have hreceiver : hostMsgs r.2 = if n.receiverModeEnabled then (receiverTick env.millis n.receiver).2 else [] := by
    rcases hr with ⟨hmode, rfl⟩ | ⟨hmode, rfl⟩
    · rw [if_pos (hsm.symm.trans hmode), receiverModeTick_host, hsr]
    · rw [if_neg (by rw [← hsm, hmode]; exact Bool.false_ne_true)]
      rfl
  rcases htask with ⟨-, htask⟩ | ⟨-, htask⟩
  · rw [htask, hostMsgs_append, hsh, hreceiver, List.nil_append]
  · rw [htask, hostMsgs_append, hostMsgs_append, hsh, hreceiver, relayTick_host, List.nil_append, List.append_nil]

end Task

/-! ## Events that are not accepted, and those that are -/

section Accepted

variable (lib : UpdateLib) (n : Node) {e : Event}

/-- **An event plays nothing** unless it brings an accepted packet, or a round with something to play. -/
theorem handle_notPlayed (hacc : acceptedPacket n e = none)
    (htick : ∀ env, e = .task env → (receiverTick env.millis n.receiver).2 = []) : NotPlayed (n.handle lib e).2 := by
  intro o ho
  cases handle_out lib n e o ho with
  | command hcmd hout => cases hout <;> rfl
  | rejection | table _ htable => first | rfl | (cases htable <;> rfl)
  | received h hframe => exact absurd (Option.map_eq_none_iff.1 hacc) hframe
  | ticked hh =>
    rw [htick _ rfl] at hh
    cases hh
  | round hround => cases hround <;> rfl

theorem receiverTick_lastSyncTime (now : UInt32) (r : Receiver) :
    (receiverTick now r).1.mediaSyncState.lastSyncTime = r.mediaSyncState.lastSyncTime := by
  unfold receiverTick checkLinkLost generateMtc
  dsimp only
  split_ifs <;> rfl

/-- **An event that is not accepted** does not start the clock, and leaves the time of the last packet. -/
theorem handle_unaccepted (hacc : acceptedPacket n e = none) :
    ((n.handle lib e).1.core.currentState = 1 → n.core.currentState = 1) ∧
      (n.handle lib e).1.core.lastSyncTime = n.core.lastSyncTime := by
  cases e with
  | radio env src data =>
    rw [show (n.handle lib (.radio env src data)).1.core = n.core from (radio_of_not_accepted lib n hacc).1]
    exact ⟨fun h => h, rfl⟩
  | usb env packet =>
    rw [show (n.handle lib (.usb env packet)).1.core = n.core from (midiPacket_spec lib env n packet).core]
    exact ⟨fun h => h, rfl⟩
  | task env =>
    have hreceiver := (espnowTask_spec env n).1
    show ((espnowTask env n).1.receiver.mediaSyncState.currentState = 1 → _) ∧
      (espnowTask env n).1.receiver.mediaSyncState.lastSyncTime = _
    rw [hreceiver]
    split
    · refine ⟨fun h1 => ?_, receiverTick_lastSyncTime _ _⟩
      rcases receiverTick_cases env.millis n.receiver with ⟨hstate, -⟩ | ⟨hplays, -⟩
      · exact hstate.symm.trans h1
      · exact hplays
    · exact ⟨fun h => h, rfl⟩

/-- **An event that is accepted** brings a packet that is followed. -/
theorem handle_accepted {p : MediaSyncPacket} (hacc : acceptedPacket n e = some p) :
    ∃ hasVolume base, Followed n (n.handle lib e).1 (n.handle lib e).2 p e.env hasVolume base := by
  cases e with
  | radio env src data => exact followed_of_accepted lib n hacc
  | usb env packet => cases hacc
  | task env => cases hacc

end Accepted

end Nowde
