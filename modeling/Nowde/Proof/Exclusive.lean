import Nowde.Proof.Modes

/-!
# Driving and following are exclusive

A node that drives the mesh plays nothing to its own host, and a slave sends neither a beacon nor a
media packet. The receive path asks whether the node drives before it follows; the task loop does
not ask before it plays, so what counts is whether the clock runs when sender mode comes on.

* `exclusive_iff`: a node stays exclusive along a run **exactly** when no command switches sender mode
  on while the clock runs.
* `handshakeWhilePlaying_plays`: a legacy node follows a master, its host handshakes, and the node goes
  on sending time code.
-/

namespace Nowde

/-- A sender beacon, or a media packet that is not relayed. -/
def Out.drives : Out → Bool
  | .espNowSend _ frame => byteAt frame 0 = espnowMsgSenderBeacon ∨ byteAt frame 0 = espnowMsgMediaSync
  | _ => false

/-- **Driving and following exclude each other** in an event: a driver plays nothing, and a slave does
not drive. -/
structure Exclusive (lib : UpdateLib) (n : Node) (e : Event) : Prop where
  driver : n.senderModeEnabled = true → NotPlayed (n.handle lib e).2
  slave : n.nodeRole = nowdeRoleSlave → ∀ o ∈ (n.handle lib e).2, o.drives = false

/-- Sender mode does not come on while the clock runs. -/
def SwitchesIdle (n : Node) (e : Event) : Prop :=
  n.EnablesSender e → n.senderModeEnabled = false → n.receiver.mediaSyncState.currentState ≠ 1

/-- A driver's clock stands still, and a slave does not drive. -/
structure ExclusiveInv (n : Node) : Prop where
  receiver : n.receiverModeEnabled = true
  slave : n.SlaveFollows
  idle : n.senderModeEnabled = true → n.receiver.mediaSyncState.currentState ≠ 1

section Steps

variable {lib : UpdateLib} {build : Build} {n : Node} {e : Event}

theorem boot_exclusiveInv (nvs : Nvs) (boardId : UInt8) (mac : Mac) :
    ExclusiveInv (boot build nvs boardId mac) where
  receiver := (boot_modes build nvs boardId mac).1
  slave := (boot_modes build nvs boardId mac).2
  idle _ h := by
    have hstate : (boot build nvs boardId mac).core.currentState = 0 := by rw [boot_core]
    exact absurd (hstate.symm.trans h) (by decide)

/-- A node that does not drive sends no frame that drives. -/
theorem handle_not_drives (hsender : n.senderModeEnabled = false) :
    ∀ o ∈ (n.handle lib e).2, o.drives = false := by
  have hno : ¬n.senderModeEnabled = true := by simp [hsender]
  intro o ho
  cases handle_out lib n e o ho with
  | command hcmd hout =>
    cases hout with
    | minted hmode => exact absurd hmode hno
    | layer mac name hmode => exact absurd hmode hno
    | _ => rfl
  | rejection => rfl
  | table _ htable => cases htable <;> rfl
  | received h hframe => rfl
  | ticked hh => rfl
  | round hround =>
    cases hround with
    | beacon hmode => exact absurd hmode hno
    | delayed i hmode => exact absurd hmode hno
    | _ => rfl

/-- A driver accepts no packet. -/
theorem acceptedPacket_of_driver (h : n.senderModeEnabled = true) : acceptedPacket n e = none := by
  cases e with
  | usb env packet => rfl
  | task env => rfl
  | radio env src data =>
    refine Option.map_eq_none_iff.2 ?_
    by_contra hsome
    obtain ⟨f, hf⟩ := Option.ne_none_iff_exists'.1 hsome
    have hfollows := (acceptedFrame_eq_some.1 hf).2.1.2
    rw [h] at hfollows
    cases hfollows

/-- Nor is an event accepted that carries a command. -/
theorem acceptedPacket_of_command {k : Command × List UInt8 × ℕ} (h : n.commandOf e = some k) :
    acceptedPacket n e = none := by
  cases e with
  | usb env packet => rfl
  | task env => cases h
  | radio env src data =>
    simp only [Node.commandOf, Option.map_eq_some_iff] at h
    obtain ⟨c, hc, -⟩ := h
    unfold radioCommand at hc
    split at hc
    · next hsysex =>
      refine Option.map_eq_none_iff.2 (acceptedFrame_of_not_media ?_)
      have hstart := hsysex.1
      unfold mediaFrame
      rw [if_neg (fun h => absurd (hstart.symm.trans h.1) (by decide)),
        if_neg (fun h => absurd (hstart.symm.trans h.1) (by decide))]
    · cases hc

/-- A round has nothing to play while the clock stands still. -/
theorem receiverTick_idle {now : UInt32} {r : Receiver} (h : r.mediaSyncState.currentState ≠ 1) :
    (receiverTick now r).2 = [] := by
  have hlost : checkLinkLost now r.mediaSyncState = (r.mediaSyncState, []) := by
    unfold checkLinkLost
    rw [if_neg (fun hc => h hc.1)]
  unfold receiverTick generateMtc
  simp only [hlost]
  rw [if_neg (fun hc => h hc.1)]
  rfl

theorem ExclusiveInv.exclusive (h : ExclusiveInv n) (e : Event) : Exclusive lib n e where
  driver hdriver := handle_notPlayed lib n (acceptedPacket_of_driver hdriver)
    fun _ _ => receiverTick_idle (h.idle hdriver)
  slave hslave := handle_not_drives (h.slave hslave)

/-- **One event** that does not switch to driving while the clock runs. -/
theorem ExclusiveInv.step (h : ExclusiveInv n) (hidle : SwitchesIdle n e) :
    ExclusiveInv (n.step lib build e).1 := by
  have hmodes := handle_modes lib n e
  cases hre : reboots (n.handle lib e).2 with
  | true =>
    rw [step_of_reboots build hre]
    exact boot_exclusiveInv _ _ _
  | false =>
    rw [step_of_not_reboots build hre]
    refine ⟨hmodes.receiver h.receiver, hmodes.slave h.slave, fun hsender hplays => ?_⟩
    cases hbefore : n.senderModeEnabled with
    | true =>
      -- a driver's clock does not start
      exact h.idle hbefore ((handle_unaccepted lib n (acceptedPacket_of_driver hbefore)).1 hplays)
    | false =>
      have henables : n.EnablesSender e := (hmodes.sender hsender).resolve_left (by simp [hbefore])
      -- a command starts no clock either
      have hacc : acceptedPacket n e = none := by
        obtain ⟨c, data, length, hcmd, -⟩ := henables
        exact acceptedPacket_of_command hcmd
      exact hidle henables hbefore ((handle_unaccepted lib n hacc).1 hplays)

/-- A round that finds the clock running and time code due plays: time code, or the stop for a lost
link. -/
theorem receiverTick_plays {now : UInt32} {r : Receiver} (hplays : r.mediaSyncState.currentState = 1)
    (hdue : now - r.mediaSyncState.lastMTCUpdateTime ≥ 1000 / mtcFramerate) :
    ∃ m ∈ (receiverTick now r).2, m.isPlayback = true := by
  unfold receiverTick checkLinkLost
  dsimp only
  by_cases hlost : r.mediaSyncState.currentState = 1 ∧ ¬r.mediaSyncState.linkLost = true ∧
      now - r.mediaSyncState.lastSyncTime > linkLostTimeoutMs
  · rw [if_pos hlost]
    cases hstop : r.mediaSyncState.stopOnLinkLost with
    | true => exact ⟨.stop, by simp, rfl⟩
    | false =>
      unfold generateMtc
      simp only [Bool.false_eq_true, if_false]
      rw [if_pos ⟨hplays, hdue⟩]
      exact ⟨_, List.mem_append_right _ List.mem_cons_self, rfl⟩
  · rw [if_neg hlost]
    unfold generateMtc
    dsimp only
    rw [if_pos ⟨hplays, hdue⟩]
    exact ⟨_, List.mem_append_right _ List.mem_cons_self, rfl⟩

/-- A driver whose clock runs plays in a round to come. -/
theorem not_exclusive_of_plays (hreceiver : n.receiverModeEnabled = true) (hsender : n.senderModeEnabled = true)
    (hplays : n.receiver.mediaSyncState.currentState = 1) : ∃ e, ¬Exclusive lib n e := by
  let now := n.receiver.mediaSyncState.lastMTCUpdateTime + 1000 / mtcFramerate
  have hdue : now - n.receiver.mediaSyncState.lastMTCUpdateTime ≥ 1000 / mtcFramerate := by
    show n.receiver.mediaSyncState.lastMTCUpdateTime + 1000 / mtcFramerate -
      n.receiver.mediaSyncState.lastMTCUpdateTime ≥ 1000 / mtcFramerate
    rw [UInt32.add_comm, UInt32.add_sub_cancel]
    exact UInt32.le_refl _
  refine ⟨.task { millis := now }, fun h => ?_⟩
  obtain ⟨m, hm, hplayback⟩ := receiverTick_plays hplays hdue
  have hhost := espnowTask_host { millis := now } n
  rw [if_pos hreceiver] at hhost
  rw [← hhost] at hm
  obtain ⟨o, ho, hm⟩ := List.mem_filterMap.1 hm
  have hno : o.isPlayback = false := h.driver hsender o ho
  cases o with
  | host m' =>
    cases hm
    exact Bool.noConfusion (hplayback.symm.trans hno)
  | _ => cases hm

/-- A switch to driving brings no reboot. -/
theorem reboots_of_enablesSender (h : n.EnablesSender e) : reboots (n.handle lib e).2 = false := by
  obtain ⟨c, data, length, hcmd, henables⟩ := h
  refine reboots_of_command lib n hcmd ?_ ?_ ?_ <;>
  · rintro rfl
    exact henables

variable (lib build) in
/-- **A switch to driving** while the clock runs leaves a node that is not exclusive. -/
theorem not_exclusive_step (h : ExclusiveInv n) (hidle : ¬SwitchesIdle n e) :
    ∃ e', ¬Exclusive lib (n.step lib build e).1 e' := by
  unfold SwitchesIdle at hidle
  push Not at hidle
  obtain ⟨henables, -, hplays⟩ := hidle
  have hmodes := handle_modes lib n e
  have hcore : (n.handle lib e).1.core = n.core := by
    obtain ⟨c, data, length, hcmd, -⟩ := henables
    have hacc := acceptedPacket_of_command hcmd
    cases e with
    | radio env src data => exact (radio_of_not_accepted lib n hacc).1
    | usb env packet => exact (midiPacket_spec lib env n packet).core
    | task env => cases hcmd
  have hstate : (n.handle lib e).1.core.currentState = 1 := by
    rw [hcore]
    exact hplays
  rw [step_of_not_reboots build (reboots_of_enablesSender henables)]
  exact not_exclusive_of_plays (hmodes.receiver h.receiver) (hmodes.enabled henables) hstate

end Steps

/-! ## Runs -/

/-- **Driving and following are exclusive** at every point of a run from boot, whatever happens next,
exactly when the run never switches sender mode on while the clock runs. -/
theorem exclusive_iff (lib : UpdateLib) (build : Build) (nvs : Nvs) (boardId : UInt8) (mac : Mac) (es : List Event) :
    (∀ pre post, es = pre ++ post →
        ∀ e, Exclusive lib (Mealy.run (Node.step lib build) (boot build nvs boardId mac) pre).1 e) ↔
      Mealy.Guarded (Node.step lib build) SwitchesIdle (boot build nvs boardId mac) es := by
  refine Mealy.always_iff_guarded ExclusiveInv (fun n => ∀ e, Exclusive lib n e) (fun n h e => h.exclusive e) ?_ ?_
    (boot_exclusiveInv nvs boardId mac) (Mealy.guarded_of_forall (fun _ _ => trivial) _ es)
  · exact fun n e h _ hidle => h.step hidle
  · intro n e h _ hidle hall
    obtain ⟨e', hno⟩ := not_exclusive_step lib build h hidle
    exact hno (hall e')

/-! ## A handshake in the middle of a clip -/

/-- A legacy node plays clip 5, and its host sends `QUERY_CONFIG`. -/
def handshakeWhilePlaying : List Event :=
  [.radio { millis := 1000 } masterA (clip 5 1 1).toFrame,
    .usb { millis := 1050 } ⟨0x04, 0xF0, 0x7D, 0x01⟩,
    .usb { millis := 1050 } ⟨0x05, 0xF7, 0x00, 0x00⟩]

/-- **The clock goes on.** After the handshake the node drives the mesh, and its next round still sends
time code to the host. -/
theorem handshakeWhilePlaying_plays :
    ¬∀ (lib : UpdateLib) (build : Build) (nvs : Nvs) (boardId : UInt8) (mac : Mac) (es : List Event),
      Mealy.Guarded (Node.step lib build) (Exclusive lib) (boot build nvs boardId mac) es := by
  intro hall
  have hrun := hall noUpdate wildcardBuild {} 0 slaveMac (handshakeWhilePlaying ++ [.task { millis := 1100 }])
  rw [Mealy.guarded_append] at hrun
  have hquiet := hrun.2.1.driver (by decide +kernel)
  have hplays : ∃ o ∈ ((Mealy.run (Node.step noUpdate wildcardBuild) (boot wildcardBuild {} 0 slaveMac)
      handshakeWhilePlaying).1.handle noUpdate (.task { millis := 1100 })).2, o.isPlayback = true := by
    decide +kernel
  obtain ⟨o, ho, hplayback⟩ := hplays
  exact Bool.noConfusion (hplayback.symm.trans (hquiet o ho))

end Nowde
