import Nowde.Lib.Clock
import Nowde.Proof.MeshNode
import Nowde.Proof.Modes
import Nowde.Proof.HostIndex

/-!
# Deadlines

Three things wait for a time: the pending forwards, the delayed packets and the receiver beacon. Each
keeps `millis()` plus a delay, wrapped to 32 bits, and a round of the task loop compares that with
`millis()` as it is, not by a difference. A `ClockState` has the true times beside the node.

* `espnowTask_timer`: a round serves a timer, or leaves it, by the plain comparison with its stamp.
* `handle_timer`: a stamp written is `millis()` plus the delay drawn.
* `deadlines_iff`: along a run every timer is served in the first round at or after its deadline and in
  no earlier one **exactly** when no round lies in another turn of `millis()` than a deadline it finds.
* `wrapped_forward_early`: a forward due after the wrap goes out before it.
-/

namespace Nowde

/-! ## Timers -/

/-- What waits for a time. -/
inductive Timer
  | relay (i : Fin maxPendingRelays)
  | delayed (i : Fin maxDelayedPackets)
  | beacon
deriving DecidableEq

/-- The packets delayed go out: sender mode and RF simulation are on. -/
def Node.Draining (n : Node) : Prop := n.senderModeEnabled = true ∧ n.rfSimulationEnabled = true

instance (n : Node) : Decidable n.Draining := inferInstanceAs (Decidable (_ ∧ _))

/-- The timer runs. -/
def Node.Armed (n : Node) : Timer → Prop
  | .relay i => (n.relay.pendingRelays i).active = true
  | .delayed i => (n.delayedPackets i).active = true ∧ n.Draining
  | .beacon => n.receiverModeEnabled = true

instance (n : Node) : ∀ k, Decidable (n.Armed k)
  | .relay i => inferInstanceAs (Decidable ((n.relay.pendingRelays i).active = true))
  | .delayed i => inferInstanceAs (Decidable ((n.delayedPackets i).active = true ∧ n.Draining))
  | .beacon => inferInstanceAs (Decidable (n.receiverModeEnabled = true))

/-- The `millis()` it waits for. -/
def Node.stamp (n : Node) : Timer → UInt32
  | .relay i => (n.relay.pendingRelays i).sendTime
  | .delayed i => (n.delayedPackets i).sendTime
  | .beacon => n.nextReceiverBeacon

/-- The delay drawn for it by a call that sets it. -/
def Node.delay (n : Node) (env : Env) : Timer → ℕ
  | .relay _ => env.random meshRelayDelayMinMs (meshRelayDelayMaxMs + 1)
  | .delayed _ => env.random 0 (n.rfSimMaxDelayMs.toNat + 1)
  | .beacon => receiverBeaconIntervalMs.toNat + env.random 0 200

/-- The timer was not set again. -/
def Node.Keeps (n m : Node) : Timer → Prop
  | .relay i => m.relay.pendingRelays i = n.relay.pendingRelays i
  | .delayed i => m.delayedPackets i = n.delayedPackets i
  | .beacon => m.nextReceiverBeacon = n.nextReceiverBeacon

instance (n m : Node) : ∀ k, Decidable (n.Keeps m k)
  | .relay i => inferInstanceAs (Decidable (m.relay.pendingRelays i = n.relay.pendingRelays i))
  | .delayed i => inferInstanceAs (Decidable (m.delayedPackets i = n.delayedPackets i))
  | .beacon => inferInstanceAs (Decidable (m.nextReceiverBeacon = n.nextReceiverBeacon))

/-- A `0x02` frame. -/
def Out.isReport : Out → Bool
  | .espNowSend _ frame => byteAt frame 0 = espnowMsgReceiverInfo
  | _ => false

/-- A round of the task loop serves a timer: what waited is sent and waits no more, the beacon until the
next one. -/
def Served (env : Env) (n : Node) (r : Node × List Out) : Timer → Prop
  | .relay i => (r.1.relay.pendingRelays i).active = false ∧
      .espNowSend Mac.broadcast (n.relay.pendingRelays i).frame ∈ r.2
  | .delayed i => (r.1.delayedPackets i).active = false ∧
      .espNowSend (n.delayedPackets i).receiverMac (n.delayedPackets i).packet ∈ r.2
  | .beacon => r.1.nextReceiverBeacon = env.millis + UInt32.ofNat (n.delay env .beacon) ∧
      ∀ o ∈ sendReceiverInfo env n, o ∈ r.2

/-- The round leaves it as it is. -/
def Left (n : Node) (r : Node × List Out) : Timer → Prop
  | .relay i => n.Keeps r.1 (.relay i)
  | .delayed i => n.Keeps r.1 (.delayed i)
  | .beacon => n.Keeps r.1 .beacon ∧ ∀ o ∈ r.2, o.isReport = false

/-! ## One round -/

section Round

variable (env : Env) (n : Node)

theorem senderBeacon_timers (now : UInt32) : (senderBeacon now n).1.nextReceiverBeacon = n.nextReceiverBeacon ∧
    (senderBeacon now n).1.rfSimulationEnabled = n.rfSimulationEnabled ∧
    (senderBeacon now n).1.rfSimMaxDelayMs = n.rfSimMaxDelayMs ∧
    (senderBeacon now n).1.senderModeEnabled = n.senderModeEnabled := by
  unfold senderBeacon
  split <;> exact ⟨rfl, rfl, rfl, rfl⟩

/-- The sender's part sends the delayed packets that are due, if the link is simulated. -/
theorem senderTick_delayed : (senderTick env n).1.delayedPackets =
      (if n.rfSimulationEnabled then (sendDelayedPackets env.millis n.delayedPackets).1 else n.delayedPackets) ∧
    (n.rfSimulationEnabled = true →
      ∀ o ∈ (sendDelayedPackets env.millis n.delayedPackets).2, o ∈ (senderTick env n).2) := by
  obtain ⟨-, hdelayed, -⟩ := senderBeacon_sends n env.millis
  obtain ⟨-, hsim, -⟩ := senderBeacon_timers n env.millis
  unfold senderTick delayedTick
  dsimp only
  rw [hsim, hdelayed]
  split
  · exact ⟨rfl, fun _ o ho => List.mem_append_right _ ho⟩
  · next hoff => exact ⟨rfl, fun hon => absurd hon hoff⟩

theorem senderTick_beacon : (senderTick env n).1.nextReceiverBeacon = n.nextReceiverBeacon ∧
    sendReceiverInfo env (senderTick env n).1 = sendReceiverInfo env n := by
  unfold senderTick delayedTick senderBeacon
  dsimp only
  split_ifs <;> exact ⟨rfl, rfl⟩

theorem meshResyncTick_timers : (meshResyncTick env n).1.nextReceiverBeacon = n.nextReceiverBeacon := by
  unfold meshResyncTick
  dsimp only
  split_ifs <;> rfl

theorem receiverModeTick_delayed : (receiverModeTick env n).1.delayedPackets = n.delayedPackets := by
  unfold receiverModeTick receiverBeacon meshResyncTick
  dsimp only
  split_ifs <;> rfl

/-- The receiver's part reports by its beacon alone. -/
theorem receiverModeTick_report : ∀ o ∈ (receiverModeTick env n).2, o.isReport = true →
    o ∈ (receiverBeacon env.millis env n).2 := by
  intro o ho hreport
  rcases mem_receiverModeTick ho with hbeacon | ⟨mac, rfl⟩ | ⟨m, -, rfl⟩ | rfl | rfl
  · exact hbeacon
  all_goals cases hreport

/-- The receiver's part sends the beacon when it is due. -/
theorem receiverModeTick_beacon :
    (n.nextReceiverBeacon ≤ env.millis → Served env n (receiverModeTick env n) .beacon) ∧
      (¬n.nextReceiverBeacon ≤ env.millis → Left n (receiverModeTick env n) .beacon) := by
  have hnext : (receiverModeTick env n).1.nextReceiverBeacon = (receiverBeacon env.millis env n).1.nextReceiverBeacon :=
    meshResyncTick_timers env _
  refine ⟨fun hdue => ?_, fun hwait => ?_⟩
  · have hbeacon : receiverBeacon env.millis env n =
        ({ n with nextReceiverBeacon := env.millis + receiverBeaconIntervalMs + UInt32.ofNat (env.random 0 200) },
          sendReceiverInfo env n) := if_pos hdue
    refine ⟨?_, fun o ho => ?_⟩
    · rw [hnext, hbeacon]
      simp only [Node.delay, UInt32.ofNat_add, UInt32.ofNat_toNat, UInt32.add_assoc]
    · unfold receiverModeTick
      dsimp only
      rw [hbeacon]
      simp only [List.mem_append]
      exact Or.inl (Or.inl (Or.inl ho))
  · have hbeacon : receiverBeacon env.millis env n = (n, []) := if_neg hwait
    refine ⟨?_, fun o ho => ?_⟩
    · show (receiverModeTick env n).1.nextReceiverBeacon = n.nextReceiverBeacon
      rw [hnext, hbeacon]
    · rw [Bool.eq_false_iff]
      intro hreport
      have hsent := receiverModeTick_report env n o ho hreport
      rw [hbeacon] at hsent
      cases hsent

/-- The other two parts report to nobody. -/
theorem senderTick_noReport (h : DelaysMedia n.delayedPackets) :
    ∀ o ∈ (senderTick env n).2, o.isReport = false := by
  intro o ho
  rcases mem_senderTick ho with rfl | ⟨mac, rfl⟩ | ⟨i, hactive, rfl⟩
  · rfl
  · rfl
  · have hmedia := h i hactive
    simp only [Out.isReport, hmedia]
    rfl

theorem relayTick_noReport : ∀ o ∈ (relayTick env n).2, o.isReport = false := by
  intro o ho
  obtain ⟨i, -, rfl⟩ := mem_relayTick env n ho
  rfl

/-- **A round reports what the node is at**: each report in it is one that the node would send itself. -/
theorem espnowTask_report (hmedia : DelaysMedia n.delayedPackets) : ∀ o ∈ (espnowTask env n).2,
    o.isReport = true → o ∈ sendReceiverInfo env n := by
  intro o ho hreport
  have hno : ¬o.isReport = false := by simp [hreport]
  obtain ⟨s, r, hs, hr, htask⟩ := espnowTask_parts env n
  have hsender : (∀ o ∈ s.2, o.isReport = false) ∧ sendReceiverInfo env s.1 = sendReceiverInfo env n := by
    rcases hs with ⟨-, rfl⟩ | ⟨-, rfl⟩
    · exact ⟨senderTick_noReport env n hmedia, (senderTick_beacon env n).2⟩
    · exact ⟨fun o ho => absurd ho (by simp), rfl⟩
  have hreceiver : o ∈ r.2 → o ∈ sendReceiverInfo env n := by
    intro hor
    rcases hr with ⟨-, rfl⟩ | ⟨-, rfl⟩
    · have hbeacon := receiverModeTick_report env s.1 o hor hreport
      unfold receiverBeacon at hbeacon
      split at hbeacon
      · exact hsender.2 ▸ hbeacon
      · cases hbeacon
    · cases hor
  rcases htask with ⟨-, htask⟩ | ⟨-, htask⟩
  · rw [htask, List.mem_append] at ho
    exact ho.elim (fun hos => absurd (hsender.1 o hos) hno) hreceiver
  · rw [htask, List.mem_append, List.mem_append] at ho
    rcases ho with (hos | hor) | hrelay
    · exact absurd (hsender.1 o hos) hno
    · exact hreceiver hor
    · exact absurd (relayTick_noReport env r.1 o hrelay) hno

/-- What goes before the relay's turn leaves the relay alone. -/
theorem parts_relay {env : Env} {n : Node} {s r : Node × List Out}
    (hs : n.senderModeEnabled = true ∧ s = senderTick env n ∨ n.senderModeEnabled = false ∧ s = (n, []))
    (hr : s.1.receiverModeEnabled = true ∧ r = receiverModeTick env s.1 ∨
      s.1.receiverModeEnabled = false ∧ r = (s.1, [])) : r.1.relay = n.relay := by
  have hsender : s.1.relay = n.relay := by
    rcases hs with ⟨-, rfl⟩ | ⟨-, rfl⟩
    · exact senderTick_relay env n
    · rfl
  rcases hr with ⟨-, rfl⟩ | ⟨-, rfl⟩
  · exact (receiverModeTick_relay env s.1).trans hsender
  · exact hsender

/-- A round leaves the relay to its turn, which a restart may forestall. -/
theorem espnowTask_relays : (espnowTask env n).1.relay = n.relay ∨
    (espnowTask env n).1.relay = (processPendingRelays env.millis n.relay).1 := by
  obtain ⟨s, r, hs, hr, htask⟩ := espnowTask_parts env n
  have hrelay := parts_relay hs hr
  rcases htask with ⟨-, htask⟩ | ⟨-, htask⟩
  · rw [htask]
    exact Or.inl hrelay
  · rw [htask, ← hrelay]
    exact Or.inr rfl

/-- The delayed packets after a round. -/
theorem espnowTask_delayedPackets : (espnowTask env n).1.delayedPackets =
    if n.Draining then (sendDelayedPackets env.millis n.delayedPackets).1 else n.delayedPackets := by
  obtain ⟨s, r, hs, hr, htask⟩ := espnowTask_parts env n
  have hsender : s.1.delayedPackets =
      if n.Draining then (sendDelayedPackets env.millis n.delayedPackets).1 else n.delayedPackets := by
    rcases hs with ⟨hon, rfl⟩ | ⟨hoff, rfl⟩
    · rw [(senderTick_delayed env n).1]
      by_cases hsim : n.rfSimulationEnabled = true
      · rw [if_pos hsim, if_pos ⟨hon, hsim⟩]
      · rw [if_neg hsim, if_neg fun h => hsim h.2]
    · have hidle : ¬n.Draining := fun h => by simp [hoff, Node.Draining] at h
      rw [if_neg hidle]
  have hreceiver : r.1.delayedPackets = s.1.delayedPackets := by
    rcases hr with ⟨-, rfl⟩ | ⟨-, rfl⟩
    · exact receiverModeTick_delayed env s.1
    · rfl
  rcases htask with ⟨-, htask⟩ | ⟨-, htask⟩
  · rw [htask]
    exact hreceiver.trans hsender
  · rw [htask]
    exact hreceiver.trans hsender

/-- A packet that is still delayed after a round was left alone. -/
theorem espnowTask_still_delayed {i : Fin maxDelayedPackets}
    (hi : ((espnowTask env n).1.delayedPackets i).active = true) :
    (espnowTask env n).1.delayedPackets i = n.delayedPackets i := by
  rw [espnowTask_delayedPackets] at hi ⊢
  split
  · next hdrain =>
    rw [if_pos hdrain] at hi
    unfold sendDelayedPackets at hi ⊢
    dsimp only at hi ⊢
    split at hi
    · cases hi
    · next hwait => exact if_neg hwait
  · rfl

/-- The beacon after a round. -/
theorem espnowTask_nextReceiverBeacon : (espnowTask env n).1.nextReceiverBeacon = n.nextReceiverBeacon ∨
    (espnowTask env n).1.nextReceiverBeacon = env.millis + UInt32.ofNat (n.delay env .beacon) := by
  obtain ⟨s, r, hs, hr, htask⟩ := espnowTask_parts env n
  have hsender : s.1.nextReceiverBeacon = n.nextReceiverBeacon := by
    rcases hs with ⟨-, rfl⟩ | ⟨-, rfl⟩
    · exact (senderTick_beacon env n).1
    · rfl
  have hreceiver : r.1.nextReceiverBeacon = n.nextReceiverBeacon ∨
      r.1.nextReceiverBeacon = env.millis + UInt32.ofNat (n.delay env .beacon) := by
    rcases hr with ⟨-, rfl⟩ | ⟨-, rfl⟩
    · obtain ⟨hserve, hleave⟩ := receiverModeTick_beacon env s.1
      by_cases hdue : s.1.nextReceiverBeacon ≤ env.millis
      · exact Or.inr (hserve hdue).1
      · exact Or.inl ((hleave hdue).1.trans hsender)
    · exact Or.inl hsender
  rcases htask with ⟨-, htask⟩ | ⟨-, htask⟩
  · rw [htask]
    exact hreceiver
  · rw [htask]
    exact hreceiver

variable {env n}

/-- The parts of a round that does not restart the node. -/
theorem espnowTask_whole (hno : Out.restart ∉ (espnowTask env n).2) : ∃ s r : Node × List Out,
    (n.senderModeEnabled = true ∧ s = senderTick env n ∨ n.senderModeEnabled = false ∧ s = (n, [])) ∧
      (s.1.receiverModeEnabled = true ∧ r = receiverModeTick env s.1 ∨
        s.1.receiverModeEnabled = false ∧ r = (s.1, [])) ∧
      espnowTask env n = ((relayTick env r.1).1, s.2 ++ r.2 ++ (relayTick env r.1).2) := by
  obtain ⟨s, r, hs, hr, htask⟩ := espnowTask_parts env n
  rcases htask with ⟨hre, htask⟩ | ⟨-, htask⟩
  · rw [htask] at hno
    exact absurd (List.mem_append_right _ hre) hno
  · exact ⟨s, r, hs, hr, htask⟩

theorem espnowTask_relay (hno : Out.restart ∉ (espnowTask env n).2) {i : Fin maxPendingRelays}
    (hactive : (n.relay.pendingRelays i).active = true) :
    (n.stamp (.relay i) ≤ env.millis → Served env n (espnowTask env n) (.relay i)) ∧
      (¬n.stamp (.relay i) ≤ env.millis → Left n (espnowTask env n) (.relay i)) := by
  obtain ⟨s, r, hs, hr, htask⟩ := espnowTask_whole hno
  have hrelay := parts_relay hs hr
  have hdue : (n.relay.pendingRelays i).due env.millis = true ↔ n.stamp (.relay i) ≤ env.millis := by
    simp [PendingRelay.due, hactive, Node.stamp]
  rw [htask]
  refine ⟨fun h => ⟨?_, ?_⟩, fun h => ?_⟩
  · simp only [relayTick, processPendingRelays, hrelay, if_pos (hdue.2 h)]
  · refine List.mem_append_right _ (List.mem_map_of_mem ?_)
    rw [hrelay]
    unfold processPendingRelays
    dsimp only
    apply Slots.mem_collect.2
    exact ⟨i, if_pos (hdue.2 h)⟩
  · show (relayTick env r.1).1.relay.pendingRelays i = n.relay.pendingRelays i
    simp only [relayTick, processPendingRelays, hrelay]
    exact if_neg fun hd => h (hdue.1 hd)

theorem espnowTask_delayed (hno : Out.restart ∉ (espnowTask env n).2) {i : Fin maxDelayedPackets}
    (hk : n.Armed (.delayed i)) :
    (n.stamp (.delayed i) ≤ env.millis → Served env n (espnowTask env n) (.delayed i)) ∧
      (¬n.stamp (.delayed i) ≤ env.millis → Left n (espnowTask env n) (.delayed i)) := by
  obtain ⟨hactive, hsender, hsim⟩ := hk
  obtain ⟨-, hsent⟩ := senderTick_delayed env n
  obtain ⟨s, r, hs, -, htask⟩ := espnowTask_whole hno
  have hs : s = senderTick env n := by
    rcases hs with ⟨-, rfl⟩ | ⟨hoff, -⟩
    · rfl
    · rw [hsender] at hoff
      cases hoff
  have hafter := espnowTask_delayedPackets env n
  rw [if_pos ⟨hsender, hsim⟩] at hafter
  refine ⟨fun h => ⟨?_, ?_⟩, fun h => ?_⟩
  · rw [hafter]
    simp only [sendDelayedPackets]
    rw [if_pos ⟨hactive, h⟩]
  · rw [htask, hs]
    refine List.mem_append_left _ (List.mem_append_left _ (hsent hsim _ ?_))
    unfold sendDelayedPackets
    dsimp only
    apply Slots.mem_collect.2
    exact ⟨i, if_pos ⟨hactive, h⟩⟩
  · show (espnowTask env n).1.delayedPackets i = n.delayedPackets i
    rw [hafter]
    exact if_neg fun hd => h hd.2

theorem espnowTask_beacon (hmedia : DelaysMedia n.delayedPackets) (hno : Out.restart ∉ (espnowTask env n).2)
    (hmode : n.receiverModeEnabled = true) :
    (n.stamp .beacon ≤ env.millis → Served env n (espnowTask env n) .beacon) ∧
      (¬n.stamp .beacon ≤ env.millis → Left n (espnowTask env n) .beacon) := by
  obtain ⟨s, r, hs, hr, htask⟩ := espnowTask_whole hno
  have hsender : s.1.receiverModeEnabled = n.receiverModeEnabled ∧
      s.1.nextReceiverBeacon = n.nextReceiverBeacon ∧ sendReceiverInfo env s.1 = sendReceiverInfo env n ∧
      ∀ o ∈ s.2, o.isReport = false := by
    rcases hs with ⟨-, rfl⟩ | ⟨-, rfl⟩
    · obtain ⟨hnext, hinfo⟩ := senderTick_beacon env n
      exact ⟨(senderTick_spec env n).2.1, hnext, hinfo, senderTick_noReport env n hmedia⟩
    · exact ⟨rfl, rfl, rfl, fun o ho => absurd ho (by simp)⟩
  obtain ⟨hsame, hnext, hinfo, hquiet⟩ := hsender
  have hr : r = receiverModeTick env s.1 := by
    rcases hr with ⟨-, rfl⟩ | ⟨hoff, -⟩
    · rfl
    · rw [hsame, hmode] at hoff
      cases hoff
  obtain ⟨hserve, hleave⟩ := receiverModeTick_beacon env s.1
  rw [hnext, ← hr] at hserve hleave
  rw [htask]
  refine ⟨fun h => ?_, fun h => ?_⟩
  · obtain ⟨hset, hsent⟩ := hserve h
    rw [hinfo] at hsent
    exact ⟨hset, fun o ho => List.mem_append_left _ (List.mem_append_right _ (hsent o ho))⟩
  · obtain ⟨hset, hsent⟩ := hleave h
    refine ⟨hset.trans hnext, fun o ho => ?_⟩
    simp only [List.mem_append] at ho
    rcases ho with (ho | ho) | ho
    · exact hquiet o ho
    · exact hsent o ho
    · exact relayTick_noReport env r.1 o ho

/-- **A round and a timer**: it is served if the clock shows its stamp or more, and left otherwise, unless
the node restarts. -/
theorem espnowTask_timer (hmedia : DelaysMedia n.delayedPackets) (hno : Out.restart ∉ (espnowTask env n).2)
    {k : Timer} (hk : n.Armed k) :
    (n.stamp k ≤ env.millis → Served env n (espnowTask env n) k) ∧
      (¬n.stamp k ≤ env.millis → Left n (espnowTask env n) k) := by
  cases k with
  | relay i => exact espnowTask_relay hno hk
  | delayed i => exact espnowTask_delayed hno hk
  | beacon => exact espnowTask_beacon hmedia hno hk

end Round

/-! ## One event -/

section Events

variable (lib : UpdateLib) (n : Node)

/-- The stamp a forward gets. -/
theorem FloodCandidate.handle_stamp (c : FloodCandidate) (env : Env) (r : Relay) {i : Fin maxPendingRelays}
    (hi : ((c.handle env r).pendingRelays i).active = true) :
    (c.handle env r).pendingRelays i = r.pendingRelays i ∨ ((c.handle env r).pendingRelays i).sendTime =
      env.millis + UInt32.ofNat (env.random meshRelayDelayMinMs (meshRelayDelayMaxMs + 1)) := by
  rcases c.handle_cases env r with hnone | ⟨-, -, j, old, hj, hothers⟩
  · exact Or.inl (hnone i hi)
  · by_cases hij : i = j
    · subst hij
      right
      rw [hj]
      rfl
    · exact Or.inl (hothers i hij hi)

/-- A packet that is delayed goes into one slot. -/
theorem delayPacket_slot (env : Env) (rfSimMaxDelayMs : UInt32) (t : Fin maxDelayedPackets → DelayedMediaSyncPacket)
    (packet : List UInt8) (i : Fin maxDelayedPackets) :
    delayPacket env rfSimMaxDelayMs t packet i = t i ∨ (delayPacket env rfSimMaxDelayMs t packet i).sendTime =
      env.millis + UInt32.ofNat (env.random 0 (rfSimMaxDelayMs.toNat + 1)) := by
  unfold delayPacket
  cases Slots.find t fun d => !d.active with
  | none => exact Or.inl rfl
  | some j =>
    dsimp only
    by_cases hij : i = j
    · subst hij
      rw [Function.update_self]
      exact Or.inr rfl
    · exact Or.inl (Function.update_of_ne hij _ _)

/-- The packets delayed after an event of the radio or of USB. -/
theorem handle_delayed {e : Event} (htask : ∀ env, e ≠ .task env) :
    (n.handle lib e).1.delayedPackets = n.delayedPackets ∨
      n.Draining ∧ (n.handle lib e).1.Draining ∧ ∃ frame,
        (n.handle lib e).1.delayedPackets = delayPacket e.env n.rfSimMaxDelayMs n.delayedPackets frame := by
  cases hcmd : n.commandOf e with
  | none =>
    obtain ⟨_, _, _, _, -, hnode⟩ := handle_of_none lib n hcmd htask
    left
    rw [hnode]
    cases e <;> rfl
  | some k =>
    obtain ⟨c, data, length⟩ := k
    have hsame : (n.noted e).senderModeEnabled = n.senderModeEnabled ∧
        (n.noted e).rfSimulationEnabled = n.rfSimulationEnabled ∧
        (n.noted e).rfSimMaxDelayMs = n.rfSimMaxDelayMs ∧ (n.noted e).delayedPackets = n.delayedPackets := by
      cases e <;> exact ⟨rfl, rfl, rfl, rfl⟩
    obtain ⟨hsender, hsim, hmax, hdelayed⟩ := hsame
    rw [handle_of_command lib n hcmd]
    by_cases hc : c = .mediaSync
    · subst hc
      have hexecute : execute lib e.env (n.noted e) .mediaSync data length =
          mediaSync e.env (n.noted e) data length := rfl
      rw [hexecute]
      by_cases hmint : (n.noted e).senderModeEnabled = true ∧ length ≥ 27
      · unfold mediaSync
        rw [if_pos hmint]
        dsimp only
        by_cases hon : (n.noted e).rfSimulationEnabled = true
        · rw [if_neg (not_not.2 hon)]
          refine Or.inr ⟨⟨hsender.symm.trans hmint.1, hsim.symm.trans hon⟩, ⟨hmint.1, hon⟩,
            (mintPacket e.env (n.noted e).mediaSyncSeq data length).toFrame, ?_⟩
          rw [← hmax, ← hdelayed]
        · rw [if_pos hon]
          exact Or.inl hdelayed
      · unfold mediaSync
        rw [if_neg hmint]
        exact Or.inl hdelayed
    · have hapart := congrArg (·.2.1) (execute_apart lib e.env (n.noted e) data length hc)
      exact Or.inl (hapart.trans hdelayed)

/-- No command moves the beacon. -/
theorem execute_beacon (env : Env) (data : List UInt8) (length : ℕ) (c : Command) :
    (execute lib env n c data length).1.nextReceiverBeacon = n.nextReceiverBeacon := by
  by_cases hc : c = .mediaSync
  · subst hc
    simp only [execute, mediaSync]
    split_ifs <;> rfl
  · exact congrArg (·.2.2) (execute_apart lib env n data length hc)

/-- Only the task loop moves the beacon. -/
theorem handle_beacon {e : Event} (htask : ∀ env, e ≠ .task env) :
    (n.handle lib e).1.nextReceiverBeacon = n.nextReceiverBeacon := by
  cases hcmd : n.commandOf e with
  | some k =>
    obtain ⟨c, data, length⟩ := k
    rw [handle_of_command lib n hcmd, execute_beacon]
    cases e <;> rfl
  | none =>
    obtain ⟨_, _, _, _, -, hnode⟩ := handle_of_none lib n hcmd htask
    rw [hnode]
    cases e <;> rfl

/-- The forwards pending after an event of the radio or of USB. -/
theorem handle_pending {e : Event} (htask : ∀ env, e ≠ .task env) :
    (n.handle lib e).1.relay = n.relay ∨
      ∃ c : FloodCandidate, (n.handle lib e).1.relay = c.handle e.env n.relay := by
  cases e with
  | task env => exact absurd rfl (htask env)
  | usb env packet => exact Or.inl (midiPacket_spec lib env n packet).relay
  | radio env src data =>
    have hrelay := onDataRecv_relay lib env n src data
    cases hc : floodCandidate src data with
    | none =>
      rw [hc] at hrelay
      exact Or.inl hrelay
    | some c =>
      rw [hc] at hrelay
      exact Or.inr ⟨c, hrelay⟩

/-- The delayed packets stay media packets. -/
theorem handle_delaysMedia (e : Event) (h : DelaysMedia n.delayedPackets) :
    DelaysMedia (n.handle lib e).1.delayedPackets := by
  cases e with
  | radio env src data => exact (onDataRecv_sendsNone lib env n src data).delays h
  | usb env packet => exact (midiPacket_spec lib env n packet).delays h
  | task env => exact (espnowTask_forwards env n h).1

/-- A round sets no timer but the beacon. -/
theorem espnowTask_stamp (env : Env) {k : Timer} (hk : (espnowTask env n).1.Armed k) :
    n.Keeps (espnowTask env n).1 k ∨
      (espnowTask env n).1.stamp k = env.millis + UInt32.ofNat (n.delay env k) := by
  cases k with
  | relay i =>
    left
    show (espnowTask env n).1.relay.pendingRelays i = n.relay.pendingRelays i
    have hi : ((espnowTask env n).1.relay.pendingRelays i).active = true := hk
    rcases espnowTask_relays env n with hsame | hturn
    · rw [hsame]
    · rw [hturn] at hi ⊢
      unfold processPendingRelays at hi ⊢
      dsimp only at hi ⊢
      split at hi
      · cases hi
      · next hwait => exact if_neg hwait
  | delayed i => exact Or.inl (espnowTask_still_delayed env n hk.1)
  | beacon => exact espnowTask_nextReceiverBeacon env n

/-- **A stamp written** is the clock's plus the delay drawn. -/
theorem handle_timer (e : Event) {k : Timer} (hk : (n.handle lib e).1.Armed k) :
    n.Keeps (n.handle lib e).1 k ∨
      (n.handle lib e).1.stamp k = e.env.millis + UInt32.ofNat (n.delay e.env k) := by
  by_cases htask : ∀ env, e ≠ .task env
  · cases k with
    | relay i =>
      rcases handle_pending lib n htask with hsame | ⟨c, hcopy⟩
      · exact Or.inl (congrArg (fun r : Relay => r.pendingRelays i) hsame)
      · have hi : ((c.handle e.env n.relay).pendingRelays i).active = true := by
          rw [← hcopy]
          exact hk
        show (n.handle lib e).1.relay.pendingRelays i = _ ∨ ((n.handle lib e).1.relay.pendingRelays i).sendTime = _
        rw [hcopy]
        exact c.handle_stamp e.env n.relay hi
    | delayed i =>
      show (n.handle lib e).1.delayedPackets i = _ ∨ ((n.handle lib e).1.delayedPackets i).sendTime = _
      rcases handle_delayed lib n htask with hsame | ⟨-, -, frame, hdelay⟩
      · exact Or.inl (congrFun hsame i)
      · rw [hdelay]
        exact delayPacket_slot e.env n.rfSimMaxDelayMs n.delayedPackets frame i
    | beacon => exact Or.inl (handle_beacon lib n htask)
  · push Not at htask
    obtain ⟨env, rfl⟩ := htask
    exact espnowTask_stamp n env hk

end Events

/-! ## Runs -/

/-- A node, the true time since boot, the true time of the last round of the task loop, and the true
deadline of each timer that runs. A packet delayed has none any more once it was not to be sent, with
sender mode or RF simulation off. -/
structure ClockState where
  node : Node
  time : ℕ := 0
  lastRound : ℕ := 0
  due : Timer → Option ℕ := fun _ => none

/-- What can happen: time passes, or the node handles an event. -/
inductive ClockEvent
  | pass (ms : ℕ)
  | event (e : Event)

namespace ClockState

/-- The deadlines after an event that left the node as `n`: a timer set in it is due after its delay. -/
def nextDue (s : ClockState) (e : Event) (n : Node) (k : Timer) : Option ℕ :=
  if ¬n.Armed k then none
  else if s.node.Keeps n k then s.due k
  else some (s.time + s.node.delay e.env k)

/-- When the task loop last went round, after an event. -/
def roundTime (s : ClockState) : Event → ℕ
  | .task _ => s.time
  | _ => s.lastRound

/-- One event, up to the handler's return. -/
def handle (lib : UpdateLib) (s : ClockState) : ClockEvent → ClockState × List Out
  | .pass ms => ({ s with time := s.time + ms }, [])
  | .event e =>
    let r := s.node.handle lib (e.at s.time)
    ({ s with node := r.1, lastRound := s.roundTime e, due := s.nextDue (e.at s.time) r.1 }, r.2)

/-- A node that boots: the beacon is due at once. -/
def boot (build : Build) (nvs : Nvs) (boardId : UInt8) (mac : Mac) : ClockState where
  node := Nowde.boot build nvs boardId mac
  due k := if k = .beacon then some 0 else none

/-- One event, with the reboot it may bring. -/
def step (lib : UpdateLib) (build : Build) (s : ClockState) (e : ClockEvent) : ClockState × List Out :=
  let r := s.handle lib e
  if reboots r.2 then (boot build r.1.node.nvs r.1.node.boardId r.1.node.relay.myMacAddress, r.2) else r

end ClockState

/-- Rounds of the task loop are less than a second apart. -/
def RoundsClose (s : ClockState) : ClockEvent → Prop
  | .event (.task _) => s.time < s.lastRound + 1000
  | _ => True

instance (s : ClockState) : ∀ e, Decidable (RoundsClose s e)
  | .pass _ | .event (.radio ..) | .event (.usb ..) => isTrue trivial
  | .event (.task _) => inferInstanceAs (Decidable (s.time < s.lastRound + 1000))

/-- The round takes a timer for due exactly when its deadline has come, and serves it, or leaves it. -/
def OnTime (s : ClockState) : ClockEvent → Prop
  | .event (.task env) =>
    let r := espnowTask (env.at s.time) s.node
    Out.restart ∉ r.2 → ∀ k, ∀ d ∈ s.due k,
      (s.node.stamp k ≤ millisAt s.time ↔ d ≤ s.time) ∧
        (d ≤ s.time → Served (env.at s.time) s.node r k) ∧ (s.time < d → Left s.node r k)
  | _ => True

/-- The round lies in the same turn of `millis()` as every deadline it finds waiting. -/
def SameTurn (s : ClockState) : ClockEvent → Prop
  | .event (.task env) => Out.restart ∉ (espnowTask (env.at s.time) s.node).2 →
      ∀ k, ∀ d ∈ s.due k, s.time / 2 ^ 32 = d / 2 ^ 32
  | _ => True

/-- The stamps of the timers that run show their deadlines, none of which had come at the last round. -/
structure ClockInv (s : ClockState) : Prop where
  armed : ∀ k, ∀ d ∈ s.due k, s.node.Armed k
  stamps : ∀ k, ∀ d ∈ s.due k, s.node.stamp k = millisAt d
  soon : ∀ k, ∀ d ∈ s.due k, d < s.time + 2 ^ 32
  waits : ∀ k, ∀ d ∈ s.due k, s.lastRound ≤ d
  past : s.lastRound ≤ s.time
  media : DelaysMedia s.node.delayedPackets

section Run

variable {lib : UpdateLib} {build : Build} {s : ClockState}

theorem random_lt (env : Env) {lo hi : ℕ} (h : lo < hi) : env.random lo hi < hi := by
  have hmod := Nat.mod_lt env.entropy (Nat.sub_pos_of_lt h)
  unfold Env.random
  rw [if_neg (Nat.not_le.2 h)]
  omega

theorem delay_lt (n : Node) (env : Env) : ∀ k, n.delay env k < 2 ^ 32
  | .relay _ => (random_lt env (by decide)).trans (by decide)
  | .delayed _ => (random_lt env (Nat.succ_pos _)).trans_le n.rfSimMaxDelayMs.toNat_lt
  | .beacon => by
    have h200 : env.random 0 200 < 200 := random_lt env (by decide)
    have hinterval : receiverBeaconIntervalMs.toNat = 1000 := rfl
    simp only [Node.delay, hinterval]
    omega

theorem millisAt_le_iff {a b : ℕ} : millisAt a ≤ millisAt b ↔ a % 2 ^ 32 ≤ b % 2 ^ 32 := by
  unfold millisAt
  rw [UInt32.le_iff_toNat_le, UInt32.toNat_ofNat', UInt32.toNat_ofNat']

theorem millisAt_add (a b : ℕ) : millisAt a + UInt32.ofNat b = millisAt (a + b) := (UInt32.ofNat_add a b).symm

theorem millisAt_ne {a b : ℕ} (hlt : a < b) (hgap : b < a + 2 ^ 32) : millisAt a ≠ millisAt b := by
  intro heq
  have hmod : a % 2 ^ 32 = b % 2 ^ 32 := by
    have hnat := congrArg UInt32.toNat heq
    unfold millisAt at hnat
    rw [UInt32.toNat_ofNat', UInt32.toNat_ofNat'] at hnat
    exact hnat
  omega

theorem boot_clockInv (build : Build) (nvs : Nvs) (boardId : UInt8) (mac : Mac) :
    ClockInv (ClockState.boot build nvs boardId mac) := by
  have hdue : ∀ k, ∀ d ∈ (ClockState.boot build nvs boardId mac).due k, k = .beacon ∧ d = 0 := by
    intro k d hd
    simp only [ClockState.boot, Option.mem_def, Option.ite_none_right_eq_some, Option.some.injEq] at hd
    exact ⟨hd.1, hd.2.symm⟩
  have hbeacon : (boot build nvs boardId mac).nextReceiverBeacon = 0 := by
    unfold boot
    exact congrArg (·.2.2) (applyRole_apart _ _)
  refine ⟨?_, ?_, ?_, fun _ _ _ => Nat.zero_le _, Nat.le_refl _, ?_⟩
  · intro k d hd
    obtain ⟨rfl, -⟩ := hdue k d hd
    exact (boot_modes build nvs boardId mac).1
  · intro k d hd
    obtain ⟨rfl, rfl⟩ := hdue k d hd
    exact hbeacon
  · intro k d hd
    obtain ⟨-, rfl⟩ := hdue k d hd
    exact Nat.succ_pos _
  · intro i hi
    rw [show (ClockState.boot build nvs boardId mac).node = boot build nvs boardId mac from rfl,
      boot_delayedPackets] at hi
    cases hi

/-- **In a round**, timers are on time exactly when no deadline lies in another turn. -/
theorem onTime_iff (h : ClockInv s) {e : ClockEvent} (hclose : RoundsClose s e) : OnTime s e ↔ SameTurn s e := by
  cases e with
  | pass ms => exact Iff.rfl
  | event e =>
    cases e with
    | radio env src data => exact Iff.rfl
    | usb env packet => exact Iff.rfl
    | task env =>
      have hfires : ∀ k, ∀ d ∈ s.due k,
          ((s.node.stamp k ≤ millisAt s.time ↔ d ≤ s.time) ↔ s.time / 2 ^ 32 = d / 2 ^ 32) := by
        intro k d hd
        -- the deadline is less than a turn away on either side, so only a turn between them can mislead
        have hwait := h.waits k d hd
        have hsecond : s.time < s.lastRound + 1000 := hclose
        rw [h.stamps k d hd, millisAt_le_iff, eq_comm (a := s.time / 2 ^ 32)]
        exact WrapClock.mod_le_mod_iff_iff (h.soon k d hd) (by omega)
      refine ⟨fun hon hno k d hd => (hfires k d hd).1 (hon hno k d hd).1, fun hturn hno k d hd => ?_⟩
      obtain ⟨hserve, hleave⟩ := espnowTask_timer h.media hno (h.armed k d hd)
      have hiff := (hfires k d hd).2 (hturn hno k d hd)
      exact ⟨hiff, fun hdue => hserve (hiff.2 hdue), fun hearly => hleave fun hle => by
        have := hiff.1 hle
        omega⟩

/-- The deadline of a timer after an event. -/
theorem mem_nextDue {e : Event} {n : Node} {k : Timer} {d : ℕ} (hd : d ∈ s.nextDue e n k) :
    n.Armed k ∧ (s.node.Keeps n k ∧ d ∈ s.due k ∨ ¬s.node.Keeps n k ∧ d = s.time + s.node.delay e.env k) := by
  unfold ClockState.nextDue at hd
  split at hd
  · cases hd
  · next harmed =>
    refine ⟨not_not.1 harmed, ?_⟩
    split at hd
    · next hkeeps => exact Or.inl ⟨hkeeps, hd⟩
    · next hkeeps => exact Or.inr ⟨hkeeps, (Option.some.inj hd).symm⟩

theorem stamp_of_keeps {n m : Node} {k : Timer} (h : n.Keeps m k) : m.stamp k = n.stamp k := by
  cases k with
  | relay i => exact congrArg PendingRelay.sendTime h
  | delayed i => exact congrArg DelayedMediaSyncPacket.sendTime h
  | beacon => exact h

/-- A timer that was served in a round was set again, or runs no more. -/
theorem not_keeps_of_served {env : Env} {d : ℕ} {k : Timer} {r : Node × List Out}
    (hstamp : s.node.stamp k = millisAt d) (hd : d ≤ s.time) (hsoon : s.time < d + 1000)
    (hserved : Served (env.at s.time) s.node r k) (harmed : r.1.Armed k) : ¬s.node.Keeps r.1 k := by
  intro hkeeps
  cases k with
  | relay i =>
    have hoff : (r.1.relay.pendingRelays i).active = false := hserved.1
    have hon : (r.1.relay.pendingRelays i).active = true := harmed
    rw [hoff] at hon
    cases hon
  | delayed i =>
    have hoff : (r.1.delayedPackets i).active = false := hserved.1
    have hon : (r.1.delayedPackets i).active = true := harmed.1
    rw [hoff] at hon
    cases hon
  | beacon =>
    have hnext : r.1.nextReceiverBeacon = millisAt s.time + UInt32.ofNat (s.node.delay (env.at s.time) .beacon) :=
      hserved.1
    have hsame : r.1.nextReceiverBeacon = s.node.nextReceiverBeacon := hkeeps
    have hold : s.node.nextReceiverBeacon = millisAt d := hstamp
    -- the next beacon is over a second on and within a turn, so its stamp is another
    rw [hsame, hold, millisAt_add] at hnext
    have hinterval : receiverBeaconIntervalMs.toNat = 1000 := rfl
    have h200 : (env.at s.time).random 0 200 < 200 := random_lt _ (by decide)
    have hdelay : s.node.delay (env.at s.time) .beacon = 1000 + (env.at s.time).random 0 200 := by
      simp only [Node.delay, hinterval]
    exact millisAt_ne (by omega) (by omega) hnext

theorem event_clockInv (h : ClockInv s) {e : Event} (hclose : RoundsClose s (.event e))
    (hturn : SameTurn s (.event e)) (hre : reboots (s.handle lib (.event e)).2 = false) :
    ClockInv (s.handle lib (.event e)).1 := by
  have hlast : s.roundTime e ≤ s.time := by
    cases e with
    | task env => exact Nat.le_refl _
    | _ => exact h.past
  refine ⟨fun k d hd => (mem_nextDue hd).1, fun k d hd => ?_, fun k d hd => ?_, fun k d hd => ?_, hlast,
    handle_delaysMedia lib s.node _ h.media⟩
  · obtain ⟨harmed, ⟨hkeeps, hold⟩ | ⟨hset, rfl⟩⟩ := mem_nextDue hd
    · exact (stamp_of_keeps hkeeps).trans (h.stamps k d hold)
    · -- set in this event, from the clock of this event
      rcases handle_timer lib s.node (e.at s.time) harmed with hkeeps | hstamp
      · exact absurd hkeeps hset
      · have hnow : (e.at s.time).env.millis = millisAt s.time := e.env_at_millis s.time
        rw [hnow, millisAt_add] at hstamp
        exact hstamp
  · obtain ⟨-, ⟨-, hold⟩ | ⟨-, rfl⟩⟩ := mem_nextDue hd
    · exact h.soon k d hold
    · have := delay_lt s.node (e.at s.time).env k
      show s.time + _ < s.time + 2 ^ 32
      omega
  · obtain ⟨harmed, ⟨hkeeps, hold⟩ | ⟨-, rfl⟩⟩ := mem_nextDue hd
    · cases e with
      | radio env src data => exact h.waits k d hold
      | usb env packet => exact h.waits k d hold
      | task env =>
        -- what the round found due was served, and runs no more or was set again
        by_contra hcome
        have hcome : d ≤ s.time := Nat.le_of_not_le hcome
        have hno : Out.restart ∉ (espnowTask (env.at s.time) s.node).2 := by
          intro hrestart
          exact absurd hre (by simp [reboots, ClockState.handle, Node.handle, Event.at, hrestart])
        have hserved := ((onTime_iff h hclose).2 hturn hno k d hold).2.1 hcome
        have hwait := h.waits k d hold
        have hsecond : s.time < s.lastRound + 1000 := hclose
        exact not_keeps_of_served (h.stamps k d hold) hcome (by omega) hserved harmed hkeeps
    · exact hlast.trans (Nat.le_add_right _ _)

theorem step_clockInv (h : ClockInv s) {e : ClockEvent} (hclose : RoundsClose s e) (hturn : SameTurn s e) :
    ClockInv (s.step lib build e).1 := by
  cases hre : reboots (s.handle lib e).2 with
  | true =>
    have hstep : (s.step lib build e).1 = ClockState.boot build (s.handle lib e).1.node.nvs
        (s.handle lib e).1.node.boardId (s.handle lib e).1.node.relay.myMacAddress := by
      unfold ClockState.step
      dsimp only
      rw [if_pos hre]
    rw [hstep]
    exact boot_clockInv ..
  | false =>
    have hstep : s.step lib build e = s.handle lib e := by
      unfold ClockState.step
      dsimp only
      rw [if_neg (by simp [hre])]
    rw [hstep]
    cases e with
    | pass ms =>
      refine ⟨h.armed, h.stamps, fun k d hd => ?_, h.waits, h.past.trans (Nat.le_add_right _ _), h.media⟩
      have := h.soon k d hd
      show d < s.time + ms + 2 ^ 32
      omega
    | event e => exact event_clockInv h hclose hturn hre

end Run

/-- **Every timer is served on time exactly when no round lies in another turn of `millis()` than a deadline
it finds waiting**, for every run with rounds less than a second apart. -/
theorem deadlines_iff (lib : UpdateLib) (build : Build) {s : ClockState} (h : ClockInv s) {events : List ClockEvent}
    (hclose : Mealy.Guarded (ClockState.step lib build) RoundsClose s events) :
    Mealy.Guarded (ClockState.step lib build) OnTime s events ↔
      Mealy.Guarded (ClockState.step lib build) SameTurn s events :=
  Mealy.guarded_iff_of_kept ClockInv (fun _ _ h hclose hturn => step_clockInv h hclose hturn)
    (fun _ _ h hclose => onTime_iff h hclose) h hclose

/-- A slave hears a packet to forward, and its task loop goes round twice. -/
def heardOnce : List ClockEvent :=
  [.event (.radio { millis := 0 } masterA (clip 5 1 1).toFrame), .event (.task { millis := 0 }), .pass 30,
    .event (.task { millis := 0 })]

/-- Long before the wrap. -/
theorem heardOnce_onTime :
    Mealy.Guarded (ClockState.step noUpdate wildcardBuild) OnTime
        (ClockState.boot wildcardBuild {} nowdeBoardidAtoms3Lite slaveMac) heardOnce ↔
      Mealy.Guarded (ClockState.step noUpdate wildcardBuild) SameTurn
        (ClockState.boot wildcardBuild {} nowdeBoardidAtoms3Lite slaveMac) heardOnce :=
  deadlines_iff noUpdate wildcardBuild (boot_clockInv ..) (by decide +kernel)

/-- A slave ten milliseconds before `millis()` wraps, its beacon due nine milliseconds on. -/
def beforeWrap : ClockState where
  node := { freshSlave with nextReceiverBeacon := 4294967295 }
  time := 2 ^ 32 - 10
  lastRound := 2 ^ 32 - 10
  due k := if k = .beacon then some (2 ^ 32 - 1) else none

/-- It hears a packet and draws a delay of 15 ms; the task loop goes round 3 ms later. -/
def heardAtWrap : List ClockEvent :=
  [.event (.radio { millis := 0, entropy := 10 } masterA (clip 5 1 1).toFrame), .pass 3, .event (.task { millis := 0 })]

theorem beforeWrap_clockInv : ClockInv beforeWrap := by
  have hdue : ∀ k, ∀ d ∈ beforeWrap.due k, k = .beacon ∧ d = 2 ^ 32 - 1 := by
    intro k d hd
    simp only [beforeWrap, Option.mem_def, Option.ite_none_right_eq_some, Option.some.injEq] at hd
    exact ⟨hd.1, hd.2.symm⟩
  refine ⟨?_, ?_, ?_, ?_, Nat.le_refl _, ?_⟩
  · intro k d hd
    obtain ⟨rfl, -⟩ := hdue k d hd
    exact (boot_modes ..).1
  · intro k d hd
    obtain ⟨rfl, rfl⟩ := hdue k d hd
    decide
  · intro k d hd
    obtain ⟨-, rfl⟩ := hdue k d hd
    decide
  · intro k d hd
    obtain ⟨-, rfl⟩ := hdue k d hd
    decide
  · intro i hi
    have hnone : beforeWrap.node.delayedPackets = fun _ => {} := boot_delayedPackets ..
    rw [hnone] at hi
    cases hi

/-- **A forward due after the wrap** goes out at once. -/
theorem wrapped_forward_early : ClockInv beforeWrap ∧
    Mealy.Guarded (ClockState.step noUpdate wildcardBuild) RoundsClose beforeWrap heardAtWrap ∧
    ¬Mealy.Guarded (ClockState.step noUpdate wildcardBuild) OnTime beforeWrap heardAtWrap := by
  refine ⟨beforeWrap_clockInv, by decide +kernel, fun hguarded => ?_⟩
  let s := (Mealy.run (ClockState.step noUpdate wildcardBuild) beforeWrap (heardAtWrap.take 2)).1
  have hround : OnTime s (.event (.task { millis := 0 })) := hguarded.2.2.1
  have hno : Out.restart ∉ (espnowTask (Env.at { millis := 0 } s.time) s.node).2 := by decide +kernel
  have hdue : 2 ^ 32 + 5 ∈ s.due (.relay ⟨0, by decide⟩) := by decide +kernel
  have hfires : s.node.stamp (.relay ⟨0, by decide⟩) ≤ millisAt s.time := by decide +kernel
  have hlate : ¬2 ^ 32 + 5 ≤ s.time := by decide +kernel
  exact hlate ((hround hno _ _ hdue).1.1 hfires)

end Nowde
